import Assessment.Proofs.Quiz.Scope
import Assessment.Proofs.Sync.Scope

/-!
# Calls change what they are authorized to

A call that changes anything was made by someone whom it is open to, and shows in what it is about alone: a
quiz, the gradebook of a section, a new attempt of the caller, or the caller's attempt that is submitted.
-/

namespace Assessment

open Access Assessment.Action Request

/-- A call was authorized to change a store as it did. -/
inductive Authorized (ctx : Context) (s s' : Store) : Call → Prop
  | quiz {c : Call} {caller : Caller} {target : QuizTarget} {q : Quiz}
      (call : c.quizTarget? = some (caller, target)) (named : Quiz.IsNamed s s' q target)
      (role : caller.actsAs .teacher = true) (teaches : Teaches ctx s caller q.classSection)
      (rest : Quiz.withoutQuiz q.id s' = Quiz.withoutQuiz q.id s) : Authorized ctx s s' c
  | gradebook {c : Call} {id : Int} (permitted : Gradebook.Permitted ctx s id c)
      (rest : s'.withoutBookOf id = s.withoutBookOf id) : Authorized ctx s s' c
  | starting {caller : Caller} {quiz now : Value} {q : Quiz} {a : Attempt}
      (found : q ∈ s.quizzes) (named : readPositive "Quiz id" quiz = .ok q.id)
      (role : caller.actsAs .student = true) (attends : Attends ctx s caller q.classSection a.enrollment)
      (self : columnOf caller.id = .ok (some (.whole a.student)))
      (place : a.quiz = q.id ∧ a.classSection = q.classSection)
      (appended : s' = { s with attempts := s.attempts ++ [a] }) :
      Authorized ctx s s' (.startAttempt caller quiz now)
  | submitting {caller : Caller} {attempt answers now timeout : Value} {a : Attempt}
      (found : a ∈ s.attempts) (named : readPositive "Attempt id" attempt = .ok a.id)
      (role : caller.actsAs .student = true) (own : caller.id.equals (.int a.student) = .ok true)
      (shown : Sync.Shows ctx a s s') :
      Authorized ctx s s' (.submitAttempt caller attempt answers now timeout)

section Writes

variable {ctx : Context} {s s' : Store}

lemma authorized_of_quiz (hi : Quiz.Integrity s) {c : Call} (w : Quiz.Write ctx s c s') :
    Authorized ctx s s' c := by
  obtain ⟨caller, target, q, call, named, role, teaches, rest⟩ := w.scope hi
  exact .quiz call named role teaches rest

lemma authorized_of_begun {caller : Caller} {quiz now : Value} {r : Quiz × Attempt}
    (h : (Attempting.beginAttempt ctx caller quiz now).run s = .ok (r, s')) :
    Authorized ctx s s' (.startAttempt caller quiz now) := by
  obtain ⟨q, a⟩ := r
  obtain ⟨enrolled, startedAt, student, enrollment, named, found, member, -, -, self, place, -, -, rfl, rfl⟩ :=
    Attempting.beginAttempt_eq_ok h
  obtain ⟨role, attends⟩ := attends_of_enrolled member place
  exact .starting found named role attends self ⟨rfl, rfl⟩ rfl

/-- A submission commits more than once, so it is treated as a whole. -/
lemma submit_authorized (hs : Sync.Coherent s) (caller : Caller) (attempt answers now timeout : Value) :
    let c := Call.submitAttempt caller attempt answers now timeout
    let s' := (c.answer ctx (.ofStore s)).2.store
    s' = s ∨ Authorized ctx s s' c := by
  intro c s'
  rcases hrecord : (Attempting.record ctx caller attempt answers now timeout).run s with
    fault | ⟨⟨a, r⟩, t⟩
  · exact .inl (congrArg (·.2.store) (Attempting.submit_of_error hrecord))
  · obtain ⟨_, _, _, _, _, found, -⟩ := Attempting.record_eq_ok hrecord
    obtain ⟨ha, role, own, named, -⟩ := Attempting.own_eq_ok found
    exact .inr (.submitting ha named role own (Sync.submit_shows hs hrecord))

end Writes

/-- Whatever an action of a call changes, the call was authorized to change. -/
def Action.Sanctioned {α : Type} (ctx : Context) (c : Call) (a : Action α) : Prop :=
  a.Ensures fun s _ s' => Quiz.Integrity s → Sync.Coherent s → s' = s ∨ Authorized ctx s s' c

namespace Action.Sanctioned

variable {ctx : Context} {c : Call} {α β : Type} {a : Action α} {f : α → Action β} {t : Transaction α}

lemma quiz (writes : ∀ s x s', t.run s = .ok (x, s') → Quiz.Write ctx s c s') :
    (Action.commit t).Sanctioned ctx c :=
  .commit (fun s x s' h hi _ => .inr (authorized_of_quiz hi (writes s x s' h))) fun _ _ _ _ _ => .inl rfl

lemma of_scoped (h : a.Ensures fun s _ s' => Gradebook.Integrity s → Gradebook.Scoped ctx c s s') :
    a.Sanctioned ctx c :=
  h.mono fun _ _ _ h _ hs => (h hs.gradebooks).imp_right fun ⟨_, permitted, rest⟩ => .gradebook permitted rest

lemma book (writes : ∀ s x s', t.run s = .ok (x, s') → s' = s ∨ Gradebook.Write ctx s c s') :
    (Action.commit t).Sanctioned ctx c :=
  of_scoped (.commit (fun s x s' h hi => .of_write hi (writes s x s' h)) fun _ _ _ _ => .inl rfl)

lemma read (r : Store → Except Fault α) : (Action.read r).Sanctioned ctx c :=
  Ensures.read fun _ _ _ => .inl rfl

lemma followed (h : a.Sanctioned ctx c) (hf : ∀ x, (f x).Takes fun _ _ => False) :
    (a >>= f).Sanctioned ctx c := Ensures.followed h hf

lemma reported (h : a.Sanctioned ctx c) (report : Store → α → Value) :
    (Call.reported a report).Sanctioned ctx c := h.followed fun _ => .read _

lemma announced (h : (Action.commit t).Sanctioned ctx c) (signal : α → Signal) :
    (do
      let r ← Action.commit t
      Action.send (signal r)
      return r : Action α).Sanctioned ctx c :=
  h.followed fun _ => .bind (.send _) fun _ => .pure _

end Action.Sanctioned

section Calls

variable {ctx : Context}

lemma start_sanctioned (caller : Caller) (quiz now : Value) :
    (Attempting.start ctx caller quiz now).Sanctioned ctx (.startAttempt caller quiz now) := by
  have hbegins : (Action.commit (Attempting.beginAttempt ctx caller quiz now)).Sanctioned ctx
      (.startAttempt caller quiz now) :=
    .commit (fun _ _ _ h _ _ => .inr (authorized_of_begun h)) fun _ _ _ _ _ => .inl rfl
  exact hbegins.followed fun _ => .read _

lemma call_sanctioned {c : Call}
    (other : ∀ caller attempt answers now timeout,
      c ≠ .submitAttempt caller attempt answers now timeout) :
    (c.run ctx).Sanctioned ctx c := by
  cases c with
  | submitAttempt => exact absurd rfl (other _ _ _ _ _)
  | createDraft => exact .reported (.quiz fun _ _ _ => Quiz.createDraft_writes) _
  | addQuestion => exact .reported (.quiz fun _ _ _ => Quiz.addQuestion_writes) _
  | updateQuestion => exact .reported (.quiz fun _ _ _ => Quiz.updateQuestion_writes) _
  | deleteQuestion => exact .reported (.quiz fun _ _ _ => Quiz.deleteQuestion_writes) _
  | deleteQuiz => exact .reported (.quiz fun _ _ _ => Quiz.deleteQuiz_writes) _
  | publish => exact .reported (.announced (.quiz fun _ _ _ => Quiz.publishDraft_writes) _) _
  | close => exact .reported (.quiz fun _ _ _ => Quiz.close_writes) _
  | getQuestions | listForTeacher | listPublished | viewAttempt => exact .reported (.read _) _
  | startAttempt => exact .reported (start_sanctioned _ _ _) _
  | openBook => exact .reported (.of_scoped (Gradebook.getOrCreate_scoped _)) _
  | viewBook => exact .reported (.of_scoped (Gradebook.detail_scoped _ _)) _
  | addItem => exact .reported (.of_scoped (Gradebook.addItem_scoped _ _)) _
  | upsertScores => exact .reported (.book fun _ _ _ => Gradebook.upsertScores_writes) _
  | requestApproval =>
    exact .reported (.announced (.book fun _ _ _ h => .inr (Gradebook.openRequest_writes h)) _) _
  | decide =>
    exact .reported (.announced (.book fun _ _ _ h => .inr (Gradebook.decideRequest_writes h)) _) _
  | postScore r => exact .followed (.of_scoped (Sync.post_scoped r)) fun _ => .pure _

end Calls

section Services

variable {P : Context → Service → Prop} {s : Store}

lemma coherent_of_reachable (h : Reachable P s) : Sync.Coherent s where
  attempts := (Attempting.integrity_of_reachable h).2.attempts
  gradebooks := Gradebook.integrity_of_reachable h
  queue := Sync.queueIntegrity_of_reachable h

/-- In every store that can be reached, a call that changes anything was authorized to: it was made in the
role that it takes, by someone whom the section admits to it, and nothing has changed but what it is about. -/
theorem changes_are_authorized (h : Reachable P s) (ctx : Context) (c : Call) :
    let s' := (Service.call c).after ctx s
    s' = s ∨ Authorized ctx s s' c := by
  intro s'
  have hquiz := (Attempting.integrity_of_reachable h).1
  have hs := coherent_of_reachable h
  by_cases hsubmits : ∃ caller attempt answers now timeout,
      c = .submitAttempt caller attempt answers now timeout
  · obtain ⟨caller, attempt, answers, now, timeout, rfl⟩ := hsubmits
    exact submit_authorized hs caller attempt answers now timeout
  · have hcall : (c.run ctx).Sanctioned ctx c := by
      refine call_sanctioned fun caller attempt answers now timeout hc => hsubmits ?_
      exact ⟨caller, attempt, answers, now, timeout, hc⟩
    have hafter : s' = (c.run ctx (.ofStore s)).2.store := congrArg Session.store (answer_session c _)
    rw [hafter]
    exact (hcall (.ofStore s) rfl).2 hquiz hs

/-- A student submits an attempt, and its score is posted at once. -/
theorem changes_are_authorized_of_posted :
    let ctx := (Scenario.State.start .standard).context
    let s := Gradebook.enteredAndPosted
    let c := Call.submitAttempt ⟨.int 5, "STUDENT"⟩ (.int 2) (.list []) .null .null
    let s' := (Service.call c).after ctx s
    Reachable (fun _ _ => True) s ∧ s'.entries.length = s.entries.length + 1 ∧
      Authorized ctx s s' c := by
  intro ctx s c s'
  have hbegun : Reachable (fun _ _ => True) Attempting.begunAndSubmitted :=
    .serve (fun _ _ => trivial) _ _ _
  have h : Reachable (fun _ _ => True) s := hbegun.run (.serve fun _ _ => trivial)
  have hentries : s'.entries.length = s.entries.length + 1 := by decide +kernel
  refine ⟨h, hentries, (changes_are_authorized h ctx c).resolve_left fun hsame => ?_⟩
  have hkept : s'.entries.length = s.entries.length := congrArg (·.entries.length) hsame
  omega

/-- The teacher of a section is not always a user whom the caller is: a section without a teacher takes items
from a caller without a number. -/
theorem items_in_untaught_section :
    ¬∀ (s : Store) (ctx : Context) (caller : Caller) (r : Gradebook.ItemRequest),
      Reachable (fun _ _ => True) s → ctx.directory? = none →
      (Service.call (.addItem caller r)).after ctx s ≠ s →
      ∃ x ∈ s.classSections, readPositive "Class section id" r.classSection = .ok x.id ∧
        ∃ user, x.teacher = some user ∧ caller.Is user := by
  intro h
  let start := Scenario.State.start .standard
  let r : Gradebook.ItemRequest := ⟨.int 4, .text "Midterm", .int 10, .null, .bool true, .null, .null⟩
  have hchanges : (Service.call (.addItem ⟨.null, "TEACHER"⟩ r)).after start.context start.store ≠
      start.store := by decide +kernel
  obtain ⟨x, hx, named, user, hteacher, -⟩ := h start.store start.context ⟨.null, "TEACHER"⟩ r
    ⟨_, _, _, .done⟩ rfl hchanges
  have hnone : ∀ x ∈ start.store.classSections, x.id = 4 → x.teacher = none := by decide
  rw [hnone x hx (readPositive_int named)] at hteacher
  cases hteacher

end Services

end Assessment
