import Assessment.Proofs.Attempt.Finality
import Assessment.Proofs.Gradebook.Review
import Assessment.Proofs.Histories
import Assessment.Proofs.Quiz.Freezing

/-!
# Signals agree with the store

What signals tell of is an event that the rows of the store testify to. Every operation tells of the events
that it adds and of no others, so along a history that starts without assessments each event is told as
often as the store testifies to it. What is told of a submission stays true, since neither the row of the
attempt nor what its quiz asks changes any more.
-/

namespace Assessment

open Access Attempting Number Quiz Table

/-- What signals tell of. -/
inductive Event where
  | published (quiz : Int)
  | submitted (attempt : Int)
  | requested (book : Int)
  | approved (book : Int)
  | rejected (book : Int)
  deriving DecidableEq, Repr

def Signal.event : Signal → Event
  | quizPublished quiz .. => .published quiz
  | attemptSubmitted attempt .. => .submitted attempt
  | reviewRequested book .. => .requested book
  | bookApproved book .. => .approved book
  | bookRejected book .. => .rejected book

def Gradebook.Verdict.event (book : Int) : Verdict → Event
  | approve => .approved book
  | reject => .rejected book

/-- How often signals tell of an event. -/
def Event.count (e : Event) (log : List Signal) : Nat := log.countP (·.event == e)

/-- A quiz that is no draft was published. -/
def Quiz.testifies (e : Event) (q : Quiz) : Bool := q.status != .draft && e == .published q.id

/-- An attempt that is not in progress was submitted. -/
def Attempt.testifies (e : Event) (a : Attempt) : Bool := a.status == .submitted && e == .submitted a.id

/-- A row of approvals was requested, and it was decided if it has an outcome. -/
def Approval.testifies (e : Event) (r : Approval) : Bool :=
  e == .requested r.book || r.outcome == .approved && e == .approved r.book ||
    r.outcome == .rejected && e == .rejected r.book

/-- How many rows testify to an event. -/
def Store.occurrences (s : Store) (e : Event) : Nat :=
  s.quizzes.countP (Quiz.testifies e) + s.attempts.countP (Attempt.testifies e) +
    s.approvals.countP (Approval.testifies e)

/-- Signals tell of what has happened between two stores, as often as it has happened. -/
def Tells (told : List Signal) (s s' : Store) : Prop :=
  ∀ e : Event, s'.occurrences e = s.occurrences e + e.count told

/-- All tables hang together. -/
structure Whole (s : Store) : Prop where
  quizzes : Quiz.Integrity s
  attempts : Attempting.Integrity s
  gradebooks : Gradebook.Integrity s

section Stores

variable {ctx : Context} {op : Service} {s s' t : Store} {told told' : List Signal}

lemma Event.count_singleton (e : Event) (signal : Signal) :
    e.count [signal] = if e = signal.event then 1 else 0 := by
  by_cases h : e = signal.event
  · simp [Event.count, h]
  · simp [Event.count, h, Ne.symm h]

lemma Whole.step (h : Whole s) (w : Step ctx s op s') : Whole s' :=
  ⟨h.quizzes.step w, h.attempts.step h.quizzes w, h.gradebooks.step w⟩

lemma Whole.after (h : Whole s) (ctx : Context) (op : Service) : Whole (op.after ctx s) :=
  Service.after_invariant h fun _ _ ht w => ht.step w

lemma whole_ofSchool (users : List User) (classSections : List ClassSection)
    (enrollments : List Enrollment) : Whole (.ofSchool users classSections enrollments) :=
  ⟨Quiz.integrity_ofSchool users classSections enrollments,
    Attempting.integrity_ofSchool users classSections enrollments,
    Gradebook.integrity_ofSchool users classSections enrollments⟩

lemma Tells.trans (h : Tells told s t) (h' : Tells told' t s') : Tells (told ++ told') s s' := by
  intro e
  rw [h' e, h e, Event.count, Event.count, Event.count, List.countP_append, Nat.add_assoc]

lemma tells_of_eq (quizzes : s'.quizzes = s.quizzes) (attempts : s'.attempts = s.attempts)
    (approvals : s'.approvals = s.approvals) : Tells [] s s' := by
  intro e
  rw [Store.occurrences, quizzes, attempts, approvals]
  rfl

lemma countP_modify_told {α : Type} [Row α] {rows : List α} (hn : Numbered rows) {r : α} (hr : r ∈ rows)
    {f : α → α} {p : Event → α → Bool}
    (h : ∀ e, (if p e (f r) then 1 else 0) = e.count told + if p e r then 1 else 0) (e : Event) :
    (modify (Row.id r) f rows).countP (p e) = rows.countP (p e) + e.count told := by
  have hcount := hn.countP_modify hr (f := f) (p e)
  have htold := h e
  omega

lemma tells_changeQuiz (hn : Numbered s.quizzes) {q : Quiz} (hq : q ∈ s.quizzes) {f : Quiz → Quiz}
    (h : ∀ e, (if (f q).testifies e then 1 else 0) = e.count told + if q.testifies e then 1 else 0) :
    Tells told s { s with quizzes := modify q.id f s.quizzes } := by
  intro e
  have hcount : (modify q.id f s.quizzes).countP (Quiz.testifies e) = _ := countP_modify_told hn hq h e
  simp only [Store.occurrences, hcount]
  omega

end Stores

section Operations

variable {ctx : Context} {op : Service} {caller : Caller} {s s' : Store}

lemma tells_of_quiet (quiet : op.announces = false) (hs : Whole s) (w : Step ctx s op s') :
    Tells [] s s' := by
  cases w with
  | quiz w =>
    cases w with
    | publish => cases quiet
    | ask | rephrase | strike => exact tells_of_eq rfl rfl rfl
    | draft =>
      intro e
      simp [Store.occurrences, Event.count, Quiz.testifies, NewQuiz.row]
    | discard found editable =>
      intro e
      have hcount := hs.quizzes.quizzes.countP_remove (owned_eq_ok found).1 (p := Quiz.testifies e)
        (by simp [Quiz.testifies, editable])
      exact congrArg (· + _ + _) hcount
    | close found open' =>
      refine tells_changeQuiz hs.quizzes.quizzes (owned_eq_ok found).1 fun e => ?_
      simp [Event.count, Quiz.testifies, closed, open']
  | attempt w =>
    cases w with
    | submit => cases quiet
    | start =>
      intro e
      simp [Store.occurrences, Event.count, Attempt.testifies, begun, Attempt.begin]
  | book w =>
    cases w with
    | request | decide => cases quiet
    | item => exact tells_of_eq rfl rfl rfl
    | batch _ _ _ _ _ _ _ _ entered =>
      rw [Gradebook.applyBatch_frame entered]
      exact tells_of_eq rfl rfl rfl
  | opening _ w | posting _ w | queueing _ w =>
    rw [w.frame]
    exact tells_of_eq rfl rfl rfl

lemma tells_publish {quiz startAt endAt : Value} {q : Quiz} (hs : Whole s)
    (h : (publishDraft ctx caller quiz startAt endAt).run s = .ok (q, s')) {signal : Signal}
    (event : signal.event = .published q.id) : Tells [signal] s s' := by
  obtain ⟨q, opens, closes, found, draft, -, -, -, -, -, rfl, rfl⟩ := publishDraft_eq_ok h
  refine tells_changeQuiz hs.quizzes.quizzes (owned_eq_ok found).1 fun e => ?_
  simp [Event.count_singleton, event, Quiz.testifies, published, draft]

lemma tells_record {attempt answers now timeout : Value} {a : Attempt} {r : SubmissionResult} (hs : Whole s)
    (h : (record ctx caller attempt answers now timeout).run s = .ok ((a, r), s')) {signal : Signal}
    (event : signal.event = .submitted a.id) : Tells [signal] s s' := by
  obtain ⟨_, _, t, ends, b, found, running, -, -, -, -, -, -, -, rfl⟩ := record_eq_ok h
  intro e
  have hcount : (modify a.id (submitted b (ends.any (· < t)) t) s.attempts).countP
      (Attempt.testifies e) = s.attempts.countP (Attempt.testifies e) + e.count [signal] := by
    refine countP_modify_told hs.attempts.attempts (own_eq_ok found).1 (fun e => ?_) e
    simp [Event.count_singleton, event, Attempt.testifies, submitted, running]
  simp only [Store.occurrences, hcount]
  omega

lemma tells_request {classSection message expected : Value} {r : Gradebook.Review}
    (h : (Gradebook.openRequest ctx caller classSection message expected).run s = .ok (r, s'))
    {signal : Signal} (event : signal.event = .requested r.book.id) : Tells [signal] s s' := by
  obtain ⟨_, teacher, book, text, _, -, -, -, -, -, -, -, rfl, rfl⟩ := Gradebook.openRequest_eq_ok h
  intro e
  have hrow : (if (Gradebook.request book.id teacher text ctx.now s).testifies e then 1 else 0) =
      e.count [signal] := by
    simp [Event.count_singleton, event, Approval.testifies, Gradebook.request, Gradebook.requested,
      Gradebook.touched]
  simp only [Store.occurrences, List.countP_append, List.countP_singleton, hrow]
  omega

lemma tells_decide {verdict : Gradebook.Verdict} {classSection message expected : Value}
    {r : Gradebook.Review} (hs : Whole s)
    (h : (Gradebook.decideRequest verdict ctx caller classSection message expected).run s = .ok (r, s'))
    {signal : Signal} (event : signal.event = verdict.event r.book.id) : Tells [signal] s s' := by
  obtain ⟨_, book, a, text, _, admin, -, -, -, -, latest, pending, -, -, -, rfl, rfl⟩ :=
    Gradebook.decideRequest_eq_ok h
  rw [Gradebook.lastApproval?_eq hs.gradebooks] at latest
  obtain ⟨ha, hbook⟩ := List.mem_filter.mp (List.mem_of_getLast? latest)
  rw [beq_iff_eq] at hbook
  have hid : (Gradebook.judged verdict ctx.now book).id = book.id := (Gradebook.keepsPlace_judged _ _).id _
  intro e
  have hcount : (modify a.id (Gradebook.answered verdict admin text ctx.now) s.approvals).countP
      (Approval.testifies e) = s.approvals.countP (Approval.testifies e) + e.count [signal] := by
    refine countP_modify_told hs.gradebooks.approvals ha (fun e => ?_) e
    rw [Event.count_singleton, event, hid]
    by_cases he : e = verdict.event book.id
    · cases verdict <;> simp [Approval.testifies, Gradebook.answered, Gradebook.Verdict.outcome,
        Gradebook.Verdict.event, pending, hbook, he]
    · cases verdict <;> simp_all [Approval.testifies, Gradebook.answered, Gradebook.Verdict.outcome,
        Gradebook.Verdict.event]
  simp only [Store.occurrences, hcount]
  omega

end Operations

lemma tells_of_announced {ctx : Context} {s : Store} {α : Type} {c : Call} {t : Transaction α}
    {signal : α → Signal} {report : Store → α → Value}
    (run : c.run ctx = Call.reported (do
      let r ← Action.commit t
      Action.send (signal r)
      return r) report)
    (tells : ∀ r s', t.run s = .ok (r, s') → Tells [signal r] s s') :
    Tells ((Service.call c).sends ctx s) s ((Service.call c).after ctx s) := by
  rcases announced_sends run s with ⟨hsends, hafter⟩ | ⟨r, s', h, hsends, hafter⟩
  · rw [hsends, hafter]
    exact tells_of_eq rfl rfl rfl
  · rw [hsends, hafter]
    exact tells r s' h

lemma tells_submission {ctx : Context} {s : Store} (hs : Whole s) (caller : Caller)
    (attempt answers now timeout : Value) :
    let op := Service.call (.submitAttempt caller attempt answers now timeout)
    Tells (op.sends ctx s) s (op.after ctx s) := by
  intro op
  rcases submission_sends ctx caller attempt answers now timeout s with
    ⟨hsends, hafter⟩ | ⟨a, r, s', h, hsends, hworks⟩
  · rw [hsends, hafter]
    exact tells_of_eq rfl rfl rfl
  · have hrest : Tells [] s' (op.after ctx s) := by
      rw [Sync.frame_of_workings hworks]
      exact tells_of_eq rfl rfl rfl
    rw [hsends]
    exact (tells_record hs h rfl).trans hrest

/-- Every operation tells of what has happened in it. -/
lemma Service.tells (hs : Whole s) (ctx : Context) (op : Service) :
    Tells (op.sends ctx s) s (op.after ctx s) := by
  by_cases quiet : op.announces = false
  · rw [op.sends_eq_nil quiet]
    refine (Service.after_invariant (I := fun t => Whole t ∧ Tells [] s t) ⟨hs, tells_of_eq rfl rfl rfl⟩
      fun t u ht w => ⟨ht.1.step w, ht.2.trans (tells_of_quiet quiet ht.1 w)⟩).2
  cases op with
  | enqueue | runJob | syncNow | processPending => exact absurd rfl quiet
  | call c =>
    cases c with
    | publish => exact tells_of_announced rfl fun _ _ h => tells_publish hs h rfl
    | requestApproval => exact tells_of_announced rfl fun _ _ h => tells_request h rfl
    | decide verdict =>
      exact tells_of_announced rfl fun _ _ h => tells_decide hs h (by cases verdict <;> rfl)
    | submitAttempt => exact tells_submission hs _ _ _ _ _
    | _ => exact absurd rfl quiet

section Submissions

variable {ctx : Context} {op : Service} {caller : Caller} {signal : Signal} {s t : Store}

/-- What is told of a submission is in the row of its attempt, and its scores are a grade by the key that the
quiz still has. -/
inductive Backed (s : Store) : Signal → Prop
  | submission {a : Attempt} {student : Value} {selections : Selections} {b : Breakdown}
      (found : a ∈ s.attempts) (done : a.status = .submitted)
      (self : student.equals (.int a.student) = .ok true) (distinct : (selections.map Prod.fst).Nodup)
      (graded : grade (answerKey s a.quiz) selections = .ok b)
      (score : a.score = Amount.ofDecimal? b.score) (maxScore : a.maxScore = Amount.ofDecimal? b.maxScore) :
      Backed s (.attemptSubmitted a.id a.quiz student a.classSection b.score b.maxScore a.late)

/-- All that was told of submissions is backed. -/
def AllBacked (s : Store) (log : List Signal) : Prop :=
  ∀ signal ∈ log, ∀ attempt, signal.event = .submitted attempt → Backed s signal

lemma Backed.congr (h : Backed s signal) (same : t.withoutGradebooks = s.withoutGradebooks) :
    Backed t signal := by
  have hattempts : t.withoutGradebooks.attempts = s.withoutGradebooks.attempts := by rw [same]
  have hkey (quiz : Int) : answerKey t.withoutGradebooks quiz = answerKey s.withoutGradebooks quiz := by
    rw [same]
  cases h with
  | submission found done self distinct graded score maxScore =>
    refine .submission ?_ done self distinct ((hkey _).symm ▸ graded) score maxScore
    change _ ∈ t.withoutGradebooks.attempts
    rw [hattempts]
    exact found

lemma Backed.step (h : Backed s signal) (hs : Whole s) (w : Step ctx s op t) : Backed t signal := by
  cases h with
  | submission found done self distinct graded score maxScore =>
    obtain ⟨q, hq, hid, taken⟩ := hs.attempts.quizzes _ found
    have hsame := (frozen_step hs.quizzes hq taken w).content
    rw [hid] at hsame
    exact .submission (untouched_of_step hs.attempts found done w).row done self distinct
      (by rwa [answerKey_congr hsame]) score maxScore

lemma AllBacked.after {log : List Signal} (h : AllBacked s log) (hs : Whole s) (ctx : Context)
    (op : Service) : AllBacked (op.after ctx s) log :=
  (Service.after_invariant (I := fun t => Whole t ∧ AllBacked t log) ⟨hs, h⟩ fun _ _ ht w =>
    ⟨ht.1.step w, fun signal hmem attempt event => (ht.2 signal hmem attempt event).step ht.1 w⟩).2

lemma backed_of_record {attempt answers now timeout : Value} {a : Attempt} {r : SubmissionResult}
    (hs : Whole s) (h : (record ctx caller attempt answers now timeout).run s = .ok ((a, r), t)) :
    Backed t (submissionSignal caller a r) := by
  obtain ⟨q, selections, submittedAt, ends, b, found, -, given, -, hquiz, -, graded, -, rfl, rfl⟩ :=
    record_eq_ok h
  obtain ⟨ha, -, self, -⟩ := own_eq_ok found
  obtain ⟨-, hid⟩ := quizOf_eq_ok hquiz
  rw [submissionSignal, hid]
  rw [hid] at graded
  exact .submission (a := submitted b (ends.any (· < submittedAt)) submittedAt a)
    ((mem_modify hs.attempts.attempts ha).mpr (.inl rfl)) rfl self (readSelections_nodup given) graded rfl rfl

lemma backed_of_announced {α : Type} {c : Call} {t : Transaction α} {signal : α → Signal}
    {report : Store → α → Value}
    (run : c.run ctx = Call.reported (do
      let r ← Action.commit t
      Action.send (signal r)
      return r) report)
    (other : ∀ r attempt, (signal r).event ≠ .submitted attempt) :
    AllBacked ((Service.call c).after ctx s) ((Service.call c).sends ctx s) := by
  intro told hmem attempt event
  rcases announced_sends run s with ⟨hsends, -⟩ | ⟨r, -, -, hsends, -⟩
  · rw [hsends] at hmem
    cases hmem
  · rw [hsends, List.mem_singleton] at hmem
    rw [hmem] at event
    exact absurd event (other r attempt)

lemma backed_of_submission (hs : Whole s) (caller : Caller) (attempt answers now timeout : Value) :
    let op := Service.call (.submitAttempt caller attempt answers now timeout)
    AllBacked (op.after ctx s) (op.sends ctx s) := by
  intro op told hmem _ _
  rcases submission_sends ctx caller attempt answers now timeout s with
    ⟨hsends, -⟩ | ⟨a, r, s', h, hsends, hworks⟩
  · rw [hsends] at hmem
    cases hmem
  · rw [hsends, List.mem_singleton] at hmem
    rw [hmem]
    exact (backed_of_record hs h).congr (Sync.withoutGradebooks_of_workings hworks)

/-- What an operation tells of a submission is backed by the store that it leaves. -/
lemma Service.backed (hs : Whole s) (ctx : Context) (op : Service) :
    AllBacked (op.after ctx s) (op.sends ctx s) := by
  by_cases quiet : op.announces = false
  · rw [op.sends_eq_nil quiet]
    exact fun _ hmem => absurd hmem List.not_mem_nil
  cases op with
  | enqueue | runJob | syncNow | processPending => exact absurd rfl quiet
  | call c =>
    cases c with
    | publish | requestApproval => exact backed_of_announced rfl fun _ _ => by simp [Signal.event]
    | decide verdict =>
      exact backed_of_announced rfl fun _ _ => by
        cases verdict <;> simp [Gradebook.verdictSignal, Signal.event]
    | submitAttempt => exact backed_of_submission hs _ _ _ _ _
    | _ => exact absurd rfl quiet

end Submissions

section Counts

variable {P : Context → Service → Prop} {users : List User} {classSections : List ClassSection}
  {enrollments : List Enrollment} {log : List Signal} {s t : Store}

/-- Along a history all that happens is told of, and what was told of submissions stays backed. -/
lemma History.tells (h : History P s log t) (hs : Whole s) :
    Whole t ∧ Tells log s t ∧ AllBacked t log := by
  induction h with
  | done => exact ⟨hs, tells_of_eq rfl rfl rfl, fun _ hmem => absurd hmem List.not_mem_nil⟩
  | next _ ctx op _ ih =>
    obtain ⟨ht, htells, hbacked⟩ := ih
    refine ⟨ht.after ctx op, htells.trans (op.tells ht ctx), fun signal hmem => ?_⟩
    rcases List.mem_append.mp hmem with hmem | hmem
    · exact hbacked.after ht ctx op signal hmem
    · exact op.backed ht ctx signal hmem

lemma count_eq_occurrences (h : History P (.ofSchool users classSections enrollments) log s) (e : Event) :
    e.count log = s.occurrences e := by
  have htells := (h.tells (whole_ofSchool _ _ _)).2.1 e
  rw [htells]
  exact (Nat.zero_add _).symm

lemma Attempt.testifies_submitted {id : Int} {a : Attempt} :
    a.testifies (.submitted id) = true ↔ a.status = .submitted ∧ a.id = id := by
  simp [Attempt.testifies, eq_comm (a := id)]

lemma Quiz.testifies_published {id : Int} {q : Quiz} :
    q.testifies (.published id) = true ↔ q.status ≠ .draft ∧ q.id = id := by
  simp [Quiz.testifies, eq_comm (a := id)]

lemma occurrences_submitted (s : Store) (id : Int) :
    s.occurrences (.submitted id) = s.attempts.countP (Attempt.testifies (.submitted id)) := by
  have hquizzes : s.quizzes.countP (Quiz.testifies (.submitted id)) = 0 :=
    List.countP_eq_zero.mpr fun _ _ => by simp [Quiz.testifies]
  have happrovals : s.approvals.countP (Approval.testifies (.submitted id)) = 0 :=
    List.countP_eq_zero.mpr fun _ _ => by simp [Approval.testifies]
  rw [Store.occurrences, hquizzes, happrovals, Nat.zero_add, Nat.add_zero]

lemma occurrences_published (s : Store) (id : Int) :
    s.occurrences (.published id) = s.quizzes.countP (Quiz.testifies (.published id)) := by
  have hattempts : s.attempts.countP (Attempt.testifies (.published id)) = 0 :=
    List.countP_eq_zero.mpr fun _ _ => by simp [Attempt.testifies]
  have happrovals : s.approvals.countP (Approval.testifies (.published id)) = 0 :=
    List.countP_eq_zero.mpr fun _ _ => by simp [Approval.testifies]
  rw [Store.occurrences, hattempts, happrovals, Nat.add_zero]

lemma occurrences_approvals {e : Event} (quizzes : ∀ quiz, e ≠ .published quiz)
    (attempts : ∀ attempt, e ≠ .submitted attempt) :
    s.occurrences e = s.approvals.countP (Approval.testifies e) := by
  have hquizzes : s.quizzes.countP (Quiz.testifies e) = 0 :=
    List.countP_eq_zero.mpr fun _ _ => by simp [Quiz.testifies, quizzes]
  have hattempts : s.attempts.countP (Attempt.testifies e) = 0 :=
    List.countP_eq_zero.mpr fun _ _ => by simp [Attempt.testifies, attempts]
  rw [Store.occurrences, hquizzes, hattempts, Nat.zero_add]

lemma occurrences_requested (s : Store) (book : Int) :
    s.occurrences (.requested book) = (s.requestsOf book).length := by
  rw [occurrences_approvals (by simp) (by simp), Store.requestsOf, ← List.countP_eq_length_filter]
  exact List.countP_congr fun r _ => by simp [Approval.testifies, eq_comm (a := book)]

lemma occurrences_decided (s : Store) (verdict : Gradebook.Verdict) (book : Int) :
    s.occurrences (verdict.event book) =
      (s.requestsOf book).countP (·.outcome == verdict.outcome) := by
  cases verdict with
  | approve | reject =>
    rw [occurrences_approvals (by simp [Gradebook.Verdict.event]) (by simp [Gradebook.Verdict.event]),
      Store.requestsOf, List.countP_filter]
    refine List.countP_congr fun r _ => ?_
    simp [Approval.testifies, Gradebook.Verdict.event, Gradebook.Verdict.outcome, eq_comm (a := book)]

end Counts

section Agreement

variable {P : Context → Service → Prop} {users : List User} {classSections : List ClassSection}
  {enrollments : List Enrollment} {log : List Signal} {s : Store}

/-- What is told of a submission agrees with the row of its attempt; the scores do in value, if no question of
the quiz has more than 999.99 points and there are no more than `10 ^ 10` of them, so that a double holds every
sum of their hundredths. -/
structure Agrees (s : Store) (a : Attempt) (quiz : Int) (student : Value) (classSection : Int)
    (score maxScore : Decimal) (late : Bool) : Prop where
  found : a ∈ s.attempts
  done : a.status = .submitted
  sameQuiz : a.quiz = quiz
  self : student.equals (.int a.student) = .ok true
  sameSection : a.classSection = classSection
  sameLateness : a.late = late
  scores : (∀ k ∈ s.questionsOf quiz, k.points.toDecimal.value ≤ 999.99) →
    (s.questionsOf quiz).length ≤ 10 ^ 10 →
    ∃ x y, a.score = some x ∧ a.maxScore = some y ∧ score.sameValue x.toDecimal = true ∧
      maxScore.sameValue y.toDecimal = true

lemma Backed.agrees {attempt quiz classSection : Int} {student : Value} {score maxScore : Decimal}
    {late : Bool} (sound : AllSound s)
    (h : Backed s (.attemptSubmitted attempt quiz student classSection score maxScore late)) :
    ∃ a, a.id = attempt ∧ Agrees s a quiz student classSection score maxScore late := by
  cases h with
  | @submission a _ selections b found done self distinct graded score maxScore =>
    refine ⟨a, rfl, found, done, rfl, self, rfl, rfl, fun points few => ?_⟩
    have hfits := grade_fits distinct graded
    have hfitting := answerKey_fitting (fun k hk => (sound k (mem_questionsOf.mp hk).1).hundredths) points
    obtain ⟨x, y, hx, hy, hscore, hmax, -⟩ := hfits.stored hfitting ((List.length_map _).trans_le few)
    exact ⟨x, y, score.trans hx, maxScore.trans hy, hscore, hmax⟩

/-- Along every history that starts without assessments, what was sent agrees with the store: an attempt that
was submitted was told of once, and with what its row says, and no other attempt was told of; a quiz that was
published was told of once, and no draft was, nor a quiz that is no longer there; and of every book as many
requests, approvals and rejections were told as it has. A call that answers with a failure sends nothing, nor
does work on the queue. -/
theorem signals_agree_with_store
    (h : History P (.ofSchool users classSections enrollments) log s) :
    (∀ a ∈ s.attempts, a.status = .submitted → (Event.submitted a.id).count log = 1) ∧
    (∀ id, (∀ a ∈ s.attempts, a.id = id → a.status ≠ .submitted) → (Event.submitted id).count log = 0) ∧
    (∀ attempt quiz student classSection score maxScore late,
      .attemptSubmitted attempt quiz student classSection score maxScore late ∈ log →
        ∃ a, a.id = attempt ∧ Agrees s a quiz student classSection score maxScore late) ∧
    (∀ q ∈ s.quizzes, q.status ≠ .draft → (Event.published q.id).count log = 1) ∧
    (∀ id, (∀ q ∈ s.quizzes, q.id = id → q.status = .draft) → (Event.published id).count log = 0) ∧
    (∀ book, (Event.requested book).count log = (s.requestsOf book).length ∧
      (Event.approved book).count log = (s.requestsOf book).countP (·.outcome == .approved) ∧
      (Event.rejected book).count log = (s.requestsOf book).countP (·.outcome == .rejected)) ∧
    (∀ (ctx : Context) (c : Call) (σ : Session) (f : Failure),
      (c.answer ctx σ).1 = some (.failure f) → (c.answer ctx σ).2.sent = σ.sent) ∧
    ∀ (ctx : Context) (op : Service) (t : Store), (∀ c, op ≠ .call c) → op.sends ctx t = [] := by
  have hcount := count_eq_occurrences h
  obtain ⟨hs, -, hbacked⟩ := h.tells (whole_ofSchool _ _ _)
  have hsound : AllSound s := Quiz.allSound_of_reachable ⟨_, _, _, h.run⟩
  refine ⟨fun a ha done => ?_, fun id none => ?_, fun _ _ _ _ _ _ _ hmem => ?_, fun q hq taken => ?_,
    fun id none => ?_, fun book => ⟨?_, ?_, ?_⟩, fun _ _ _ _ => sent_of_failure, fun _ op t nocall => ?_⟩
  · rw [hcount, occurrences_submitted]
    exact hs.attempts.attempts.countP_eq_one ha (Attempt.testifies_submitted.mpr ⟨done, rfl⟩) fun x _ hx =>
      (Attempt.testifies_submitted.mp hx).2
  · rw [hcount, occurrences_submitted, List.countP_eq_zero]
    intro a ha htestifies
    obtain ⟨done, hid⟩ := Attempt.testifies_submitted.mp htestifies
    exact none a ha hid done
  · exact (hbacked _ hmem _ rfl).agrees hsound
  · rw [hcount, occurrences_published]
    exact hs.quizzes.quizzes.countP_eq_one hq (Quiz.testifies_published.mpr ⟨taken, rfl⟩) fun x _ hx =>
      (Quiz.testifies_published.mp hx).2
  · rw [hcount, occurrences_published, List.countP_eq_zero]
    intro q hq htestifies
    obtain ⟨taken, hid⟩ := Quiz.testifies_published.mp htestifies
    exact taken (none q hq hid)
  · rw [hcount, occurrences_requested]
  · exact (hcount _).trans (occurrences_decided s .approve book)
  · exact (hcount _).trans (occurrences_decided s .reject book)
  · refine op.sends_eq_nil ?_ t
    cases op with
    | call c => exact absurd rfl (nocall c)
    | enqueue | runJob | syncNow | processPending => rfl

end Agreement

/-- A quiz is published, one of two students submits it, twice, and a second quiz is given up as a draft; the
book is rejected and then approved. -/
def reviewedTerm : List Service :=
  let teacher : Caller := ⟨.int 1, "TEACHER"⟩
  let admin : Caller := ⟨.int 3, "ADMIN"⟩
  let student : Caller := ⟨.int 4, "STUDENT"⟩
  let option (text : String) (correct : Bool) : Value :=
    .object [("answer_text", .text text), ("is_correct", .bool correct)]
  let question : QuestionRequest :=
    ⟨.text "1 + 1 = 2", .text "TRUE_FALSE", .int 1, .list [option "True" true, option "False" false]⟩
  let draft : Service := .call (.createDraft teacher
    ⟨.int 1, .text "Sums", .int 10, .null, .null, .null, .null, .null, .null⟩)
  let submission : Service := .call (.submitAttempt student (.int 1)
    (.list [.object [("question_id", .int 1), ("selected_answer_id", .int 1)]]) .null .null)
  [draft] ++ List.replicate 10 (.call (.addQuestion teacher (.int 1) question)) ++
    [.call (.publish teacher (.int 1) .null .null), .call (.startAttempt student (.int 1) .null),
      .call (.startAttempt ⟨.int 5, "STUDENT"⟩ (.int 1) .null), submission, submission, draft,
      .call (.deleteQuiz teacher (.int 2)), .call (.openBook (.int 1)),
      .call (.requestApproval teacher (.int 1) .null .null),
      .call (.decide .reject admin (.int 1) (.text "Too early") .null),
      .call (.requestApproval teacher (.int 1) .null .null),
      .call (.decide .approve admin (.int 1) .null .null)]

/-- Six signals are sent in such a term: the submission is told of once, with a score that is stored. -/
theorem signals_agree_with_store_of_reviewed :
    let start := Scenario.State.start .standard
    let s := start.context.serve reviewedTerm start.store
    let log := start.context.log reviewedTerm start.store
    log.length = 6 ∧ (Event.submitted 1).count log = 1 ∧ (Event.submitted 2).count log = 0 ∧
      (Event.published 1).count log = 1 ∧ (Event.published 2).count log = 0 ∧
      (Event.requested 1).count log = 2 ∧ (Event.approved 1).count log = 1 ∧
      (Event.rejected 1).count log = 1 ∧
      ∃ a ∈ s.attempts, ∃ x, a.score = some x ∧
        (Decimal.finite false 100 (-2)).sameValue x.toDecimal = true := by
  intro start s log
  have h : History (fun _ _ => True) start.store log s := .serve fun _ _ => trivial
  obtain ⟨hsubmitted, hothers, hagree, hpublished, hdrafts, hbooks, -⟩ := signals_agree_with_store h
  have hfirst : ∃ a ∈ s.attempts, a.id = 1 ∧ a.status = .submitted := by decide +kernel
  have hsecond : ∀ a ∈ s.attempts, a.id = 2 → a.status ≠ .submitted := by decide +kernel
  have htaken : ∃ q ∈ s.quizzes, q.id = 1 ∧ q.status ≠ .draft := by decide +kernel
  have hgone : ∀ q ∈ s.quizzes, q.id = 2 → q.status = .draft := by decide +kernel
  have hrequests : (s.requestsOf 1).length = 2 ∧ (s.requestsOf 1).countP (·.outcome == .approved) = 1 ∧
      (s.requestsOf 1).countP (·.outcome == .rejected) = 1 := by decide +kernel
  have hlength : log.length = 6 := by decide +kernel
  have hsent : Signal.attemptSubmitted 1 1 (.int 4) 1 (.finite false 100 (-2)) (.finite false 1000 (-2)) false ∈
      log := by decide +kernel
  have hpoints : ∀ k ∈ s.questionsOf 1, k.points.toDecimal = .finite false 100 (-2) := by decide +kernel
  have hsmall : ∀ k ∈ s.questionsOf 1, k.points.toDecimal.value ≤ 999.99 := by
    intro k hk
    rw [hpoints k hk, Decimal.value_finite, Decimal.magnitude]
    norm_num
  have hten : (s.questionsOf 1).length = 10 := by decide +kernel
  obtain ⟨a, ha, hid, done⟩ := hfirst
  obtain ⟨q, hq, hquiz, taken⟩ := htaken
  have hone := hsubmitted a ha done
  have hopened := hpublished q hq taken
  rw [hid] at hone
  rw [hquiz] at hopened
  obtain ⟨b, -, agrees⟩ := hagree _ _ _ _ _ _ _ hsent
  obtain ⟨x, -, hx, -, hsame, -⟩ := agrees.scores hsmall (by rw [hten]; decide)
  obtain ⟨hrequested, happroved, hrejected⟩ := hbooks 1
  exact ⟨hlength, hone, hothers 2 hsecond, hopened, hdrafts 2 hgone, hrequested.trans hrequests.1,
    happroved.trans hrequests.2.1, hrejected.trans hrequests.2.2, b, agrees.found, x, hx, hsame⟩

end Assessment
