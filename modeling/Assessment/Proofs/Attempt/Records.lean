import Assessment.Proofs.LooseValues
import Assessment.Proofs.Quiz.Contents
import Assessment.Proofs.Quiz.Grades

/-!
# The records of attempts

An attempt is begun by an enrolled student while a quiz is open, and from then on the quiz asks what it
asks. Until it is submitted nothing is recorded of an attempt; afterwards its record is the result of
grading what was submitted against the key that the quiz still has.
-/

namespace Assessment

/-- The selections of an attempt in the order of their numbers. -/
def Store.selectionsOf (s : Store) (attempt : Int) : List Selection :=
  s.selections.filter (·.attempt == attempt)

/-- What was graded in a selection. -/
def Selection.graded (r : Selection) : Quiz.GradedSelection := ⟨r.question, r.selected, r.correct⟩

namespace Attempting

open Quiz Table

/-- An attempt is at a quiz that was published, within its window, by a student of its section. -/
structure Admitted (enrollments : List Enrollment) (q : Quiz) (a : Attempt) : Prop where
  quiz : a.quiz = q.id
  taken : q.status ≠ .draft
  classSection : a.classSection = q.classSection
  enrolled : ∃ e ∈ enrollments, e.id = a.enrollment ∧ e.student = a.student ∧
    e.classSection = q.classSection ∧ e.status = .enrolled
  opened : ∀ t, q.startAt = some t → t ≤ a.startedAt
  inTime : ∀ t, q.endAt = some t → a.startedAt ≤ t

/-- What is recorded of an attempt and its selections. -/
inductive Recorded (q : Quiz) (key : List QuestionKey) : Attempt → List Selection → Prop
  | running {a : Attempt} (status : a.status = .inProgress) (score : a.score = none) :
      Recorded q key a []
  | submitted {a : Attempt} {rows : List Selection} {selections : Selections} {b : Breakdown}
      {ends : Option Time.Instant} {t : Time.Instant}
      (distinct : (selections.map Prod.fst).Nodup) (graded : grade key selections = .ok b)
      (ending : q.endTimeFrom a.startedAt = .ok ends) (contents : rows.map Selection.graded = b.graded) :
      Recorded q key (submitted b (ends.any (· < t)) t a) rows

/-- What holds of an attempt with the quiz that it is at. -/
def Stands (s : Store) (a : Attempt) : Prop :=
  ∃ q ∈ s.quizzes, Admitted s.enrollments q a ∧
    Recorded q (answerKey s q.id) a (s.selectionsOf a.id)

/-- Everything that is kept of the tables of attempts. -/
structure Kept (s : Store) : Prop where
  attempts : Numbered s.attempts
  selections : Refers Selection.attempt s.selections s.attempts
  once : (s.attempts.map fun a => (a.quiz, a.student)).Nodup
  stands : ∀ a ∈ s.attempts, Stands s a

section Rows

variable {attempt : Int} {graded : List GradedSelection} {s s' : Store}

lemma selectionRows_id : ∀ make ∈ selectionRows attempt graded, ∀ n, Row.id (make n) = n := by
  intro make hmake n
  obtain ⟨g, -, rfl⟩ := List.mem_map.mp hmake
  rfl

lemma selectionRows_attempt : ∀ make ∈ selectionRows attempt graded, ∀ n, (make n).attempt = attempt := by
  intro make hmake n
  obtain ⟨g, -, rfl⟩ := List.mem_map.mp hmake
  rfl

lemma append_selectionRows (rows : List Selection) (attempt : Int) (graded : List GradedSelection) :
    ∃ new : List Selection, append rows (selectionRows attempt graded) = rows ++ new ∧
      (∀ r ∈ new, r.attempt = attempt) ∧ new.map Selection.graded = graded := by
  refine ⟨_, append_eq selectionRows_id, fun r hr => ?_, ?_⟩
  · obtain ⟨i, hi, rfl⟩ := List.mem_mapIdx.mp hr
    exact selectionRows_attempt _ (List.getElem_mem hi) _
  · exact List.ext_getElem (by simp [selectionRows]) fun i _ _ => by
      simp [selectionRows, Selection.graded]

lemma answerKey_congr {quiz : Int} (h : SameContent quiz s s') : answerKey s' quiz = answerKey s quiz := by
  unfold answerKey
  rw [h.questionsOf]
  refine List.map_congr_left fun k hk => ?_
  unfold keyOf
  rw [h.optionsOf hk]

end Rows

section Transfer

variable {s s' : Store} {q q' : Quiz} {a : Attempt} {key : List QuestionKey} {rows : List Selection}

lemma Admitted.later {enrollments : List Enrollment} (h : Admitted enrollments q a) (hl : Later q q') :
    Admitted enrollments q' a := by
  rcases hl with rfl | ⟨-, now, rfl⟩
  · exact h
  · exact { h with taken := nofun }

lemma Recorded.later (h : Recorded q key a rows) (hl : Later q q') : Recorded q' key a rows := by
  rcases hl with rfl | ⟨-, now, rfl⟩
  · exact h
  · cases h with
    | running status score => exact .running status score
    | submitted distinct graded ending contents => exact .submitted distinct graded ending contents

lemma Recorded.running_eq (h : Recorded q key a rows) (running : a.status = .inProgress) :
    rows = [] ∧ a.score = none := by
  cases h with
  | running _ score => exact ⟨rfl, score⟩
  | submitted => cases running

/-- An attempt stands in another store that has its enrollments, its selections and the content of its
quiz. -/
lemma Stands.transfer (h : Stands s a) (enrollments : s'.enrollments = s.enrollments)
    (selections : s'.selectionsOf a.id = s.selectionsOf a.id)
    (quiz : ∀ q ∈ s.quizzes, q.status ≠ .draft → (∃ q' ∈ s'.quizzes, Later q q') ∧ SameContent q.id s s') :
    Stands s' a := by
  obtain ⟨q, hq, hadmitted, hrecorded⟩ := h
  obtain ⟨⟨q', hq', hlater⟩, hsame⟩ := quiz q hq hadmitted.taken
  have hid : q'.id = q.id := by
    rcases hlater with rfl | ⟨-, now, rfl⟩ <;> rfl
  refine ⟨q', hq', enrollments ▸ hadmitted.later hlater, ?_⟩
  rw [hid, answerKey_congr hsame, selections]
  exact hrecorded.later hlater

end Transfer

section Steps

variable {ctx : Context} {s s' : Store} {op : Service}

lemma Kept.transfer (h : Kept s) (attempts : s'.attempts = s.attempts)
    (selections : s'.selections = s.selections) (enrollments : s'.enrollments = s.enrollments)
    (quiz : ∀ q ∈ s.quizzes, q.status ≠ .draft → (∃ q' ∈ s'.quizzes, Later q q') ∧ SameContent q.id s s') :
    Kept s' where
  attempts := attempts ▸ h.attempts
  selections := by
    rw [attempts, selections]
    exact h.selections
  once := attempts ▸ h.once
  stands a ha := by
    rw [attempts] at ha
    refine (h.stands a ha).transfer enrollments ?_ quiz
    rw [Store.selectionsOf, selections]
    rfl

lemma later_of_eq (quizzes : s'.quizzes = s.quizzes) (questions : s'.questions = s.questions)
    (options : s'.options = s.options) :
    ∀ q ∈ s.quizzes, q.status ≠ .draft → (∃ q' ∈ s'.quizzes, Later q q') ∧ SameContent q.id s s' :=
  fun q hq _ => ⟨⟨q, quizzes ▸ hq, .inl rfl⟩, .of_eq questions options⟩

lemma not_lt_iff {t u : Time.Instant} : ¬t < u ↔ u ≤ t := Int.not_lt

lemma requireOpen_eq_ok {q : Quiz} {now : Time.Instant} (h : requireOpen q now = .ok ()) :
    q.status = .published ∧ (∀ t, q.startAt = some t → t ≤ now) ∧ ∀ t, q.endAt = some t → now ≤ t := by
  simp only [requireOpen, guard_eq_ok, ne_eq, not_not] at h
  obtain ⟨hstatus, hopened, hended⟩ := h
  split_ifs at hended with hlate
  refine ⟨hstatus, fun t ht => not_lt_iff.mp ?_, fun t ht => not_lt_iff.mp ?_⟩
  · simpa [ht] using hopened
  · simpa [ht] using hlate

lemma Kept.begin (h : Kept s) {q : Quiz} (hq : q ∈ s.quizzes) {student enrollment : Int}
    {now : Time.Instant} (opened : requireOpen q now = .ok ())
    (enrolled : ∃ e ∈ s.enrollments, e.id = enrollment ∧ e.student = student ∧
      e.classSection = q.classSection ∧ e.status = .enrolled)
    (first : ∀ a ∈ s.attempts, a.quiz = q.id → a.student ≠ student) :
    Kept { s with attempts := s.attempts ++ [begun q student enrollment now s] } where
  attempts := h.attempts.concat rfl
  selections := h.selections.concat_target _
  once := by
    rw [List.map_append, List.map_singleton, ← List.concat_eq_append]
    refine h.once.concat fun hmem => ?_
    obtain ⟨a, ha, heq⟩ := List.mem_map.mp hmem
    obtain ⟨hquiz, hstudent⟩ := Prod.mk.inj heq
    exact first a ha hquiz hstudent
  stands a ha := by
    rcases List.mem_append.mp ha with ha | ha
    · exact (h.stands a ha).transfer rfl rfl (later_of_eq rfl rfl rfl)
    · rw [List.mem_singleton.mp ha]
      obtain ⟨hstatus, hopened, hended⟩ := requireOpen_eq_ok opened
      have hnone : s.selectionsOf (nextId s.attempts) = [] :=
        List.filter_eq_nil_iff.mpr fun r hr => by simpa using h.selections.ne_nextId hr
      refine ⟨q, hq, ⟨rfl, by simp [hstatus], rfl, enrolled, hopened, hended⟩, ?_⟩
      exact hnone ▸ .running rfl rfl

lemma Kept.submit (h : Kept s) {a : Attempt} (ha : a ∈ s.attempts) (running : a.status = .inProgress)
    {q : Quiz} (hq : q ∈ s.quizzes) (hqa : q.id = a.quiz) {selections : Selections}
    (distinct : (selections.map Prod.fst).Nodup) {b : Breakdown}
    (graded : grade (answerKey s q.id) selections = .ok b) {ends : Option Time.Instant}
    (ending : q.endTimeFrom a.startedAt = .ok ends) (hn : Numbered s.quizzes) (t : Time.Instant) :
    Kept { s with
      attempts := modify a.id (submitted b (ends.any (· < t)) t) s.attempts
      selections := append s.selections (selectionRows a.id b.graded) } := by
  obtain ⟨new, hnew, hof, hcontents⟩ := append_selectionRows s.selections a.id b.graded
  rw [hnew]
  refine ⟨h.attempts.modify _ fun _ => rfl, ?_, ?_, fun x hx => ?_⟩
  · refine Refers.modify_target (fun r hr => ?_) a.id fun _ => rfl
    rcases List.mem_append.mp hr with hr | hr
    · exact h.selections r hr
    · exact ⟨a, ha, (hof r hr).symm⟩
  · have hsame : (modify a.id (submitted b (ends.any (· < t)) t) s.attempts).map
        (fun a => (a.quiz, a.student)) = s.attempts.map fun a => (a.quiz, a.student) :=
      map_modify fun _ => rfl
    exact hsame ▸ h.once
  · rcases (mem_modify h.attempts ha).mp hx with rfl | ⟨hx, hne⟩
    · obtain ⟨q', hq', hadmitted, hrecorded⟩ := h.stands a ha
      obtain rfl : q' = q := hn.eq_of_id_eq hq' hq (hadmitted.quiz.symm.trans hqa.symm)
      refine ⟨q', hq', { hadmitted with }, ?_⟩
      -- A running attempt has no selections, so the new ones are all that it has.
      have hnone : s.selections.filter (·.attempt == a.id) = [] := (hrecorded.running_eq running).1
      change Recorded q' (answerKey s q'.id) _ ((s.selections ++ new).filter (·.attempt == a.id))
      rw [List.filter_append, hnone, List.nil_append,
        List.filter_eq_self.mpr fun r hr => beq_iff_eq.mpr (hof r hr)]
      exact .submitted distinct graded ending hcontents
    · have hother : a.id ≠ x.id := Ne.symm hne
      have hnone : new.filter (·.attempt == x.id) = [] :=
        List.filter_eq_nil_iff.mpr fun r hr => by simpa [hof r hr] using hother
      have hrows : (s.selections ++ new).filter (·.attempt == x.id) = s.selectionsOf x.id := by
        rw [List.filter_append, hnone, List.append_nil]
        rfl
      exact (h.stands x hx).transfer rfl hrows (later_of_eq rfl rfl rfl)

lemma Kept.write (h : Kept s) (hn : Numbered s.quizzes) (registered : ctx.directory? = none) {c : Call}
    (w : Write ctx s c s') : Kept s' := by
  cases w with
  | start found member time opened self place first =>
    have hdirectory : ctx.directory s = s.directory := by simp [Context.directory, registered]
    rw [hdirectory] at member
    exact h.begin found opened (requireEnrolledStudent_registered member self place) first
  | submit found running given time quiz ending graded =>
    obtain ⟨hq, hqa⟩ := quizOf_eq_ok quiz
    exact h.submit (own_eq_ok found).1 running hq hqa (readSelections_nodup given) graded ending hn _

lemma Kept.step (h : Kept s) (hi : Quiz.Integrity s) (registered : ctx.directory? = none)
    (w : Step ctx s op s') : Kept s' := by
  cases w with
  | quiz w =>
    refine h.transfer ?_ ?_ ?_ fun q hq taken => ⟨w.later hi hq taken, w.sameContent hi hq taken⟩
    all_goals rw [w.frame]
  | attempt w => exact h.write hi.quizzes registered w
  | book w | opening _ w | posting _ w | queueing _ w =>
    rw [w.frame]
    exact h.transfer rfl rfl rfl (later_of_eq rfl rfl rfl)

end Steps

end Attempting

end Assessment
