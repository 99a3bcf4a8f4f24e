import Assessment.Call
import Assessment.Proofs.Sessions

/-!
# What starting and submitting attempts write

An attempt is written twice: when it begins, and when it is submitted with its graded selections.
-/

namespace Assessment

namespace Attempting

open Access Quiz Request

/-- The row of an attempt that a student begins. -/
def begun (quiz : Quiz) (student enrollment : Int) (now : Time.Instant) (s : Store) : Attempt :=
  .begin quiz.id student enrollment quiz.classSection now (fun id => some (attemptSeed (.int id)))
    (Table.nextId s.attempts)

/-- What a call on an attempt writes. -/
inductive Write (ctx : Context) (s : Store) : Call → Store → Prop
  | start {caller : Caller} {quiz now enrolled : Value} {q : Quiz} {startedAt : Time.Instant}
      {student enrollment : Int}
      (found : q ∈ s.quizzes)
      (member : requireEnrolledStudent (ctx.directory s) caller (.int q.classSection) = .ok enrolled)
      (time : timeOr ctx now = .ok startedAt) (opened : requireOpen q startedAt = .ok ())
      (self : columnOf caller.id = .ok (some (.whole student)))
      (place : columnOf enrolled = .ok (some (.whole enrollment)))
      (first : ∀ a ∈ s.attempts, a.quiz = q.id → a.student ≠ student)
      (known : ∃ e ∈ s.enrollments, e.id = enrollment) :
      Write ctx s (.startAttempt caller quiz now)
        { s with attempts := s.attempts ++ [begun q student enrollment startedAt s] }
  | submit {caller : Caller} {attempt answers now timeout : Value} {a : Attempt} {q : Quiz}
      {selections : Selections} {submittedAt : Time.Instant} {ends : Option Time.Instant}
      {b : Breakdown}
      (found : own caller attempt s = .ok a) (running : a.status = .inProgress)
      (given : readSelections answers = .ok selections) (time : timeOr ctx now = .ok submittedAt)
      (quiz : quizOf s a = .ok q) (ending : q.endTimeFrom a.startedAt = .ok ends)
      (graded : grade (answerKey s q.id) selections = .ok b) :
      Write ctx s (.submitAttempt caller attempt answers now timeout)
        { s with
          attempts := Table.modify a.id (submitted b (ends.any (· < submittedAt)) submittedAt) s.attempts
          selections := Table.append s.selections (selectionRows a.id b.graded) }

lemma Write.frame {ctx : Context} {s s' : Store} {c : Call} (w : Write ctx s c s') :
    s' = { s with attempts := s'.attempts, selections := s'.selections } := by
  cases w <;> rfl

section Operations

variable {ctx : Context} {caller : Caller} {s s' : Store}

lemma own_eq_ok {attempt : Value} {a : Attempt} (h : own caller attempt s = .ok a) :
    a ∈ s.attempts ∧ caller.actsAs .student = true ∧ caller.id.equals (.int a.student) = .ok true ∧
      readPositive "Attempt id" attempt = .ok a.id ∧ isStorable a.id = true := by
  simp only [own, bind_eq_ok, readRow?, when_eq_ok, Except.ok.injEq] at h
  obtain ⟨id, hid, row, ⟨hstorable, rfl⟩, h⟩ := h
  cases hf : Table.find? id s.attempts with
  | none => simp [hf] at h
  | some x =>
    simp only [hf, bind_eq_ok, guard_eq_ok, lift_eq_ok, pure_eq_ok, Bool.not_eq_true',
      Bool.not_eq_false] at h
    obtain ⟨hrole, same, hsame, rfl, rfl⟩ := h
    obtain ⟨hmem, rfl⟩ := Table.mem_of_find? hf
    exact ⟨hmem, hrole, hsame, hid, hstorable⟩

lemma own_named {attempt : Value} {a : Attempt} (h : own caller attempt s = .ok a) :
    readPositive "Attempt id" attempt = .ok a.id ∧ isStorable a.id = true :=
  (own_eq_ok h).2.2.2

lemma quizOf_eq_ok {a : Attempt} {q : Quiz} (h : quizOf s a = .ok q) :
    q ∈ s.quizzes ∧ q.id = a.quiz := by
  unfold quizOf at h
  cases hf : Table.find? a.quiz s.quizzes with
  | none => simp [hf] at h
  | some x =>
    simp only [hf, Except.ok.injEq] at h
    rw [← h]
    exact Table.mem_of_find? hf

lemma beginAttempt_eq_ok {quiz now : Value} {q : Quiz} {a : Attempt}
    (h : (beginAttempt ctx caller quiz now).run s = .ok ((q, a), s')) :
    ∃ enrolled startedAt student enrollment, readPositive "Quiz id" quiz = .ok q.id ∧ q ∈ s.quizzes ∧
      requireEnrolledStudent (ctx.directory s) caller (.int q.classSection) = .ok enrolled ∧
      timeOr ctx now = .ok startedAt ∧ requireOpen q startedAt = .ok () ∧
      columnOf caller.id = .ok (some (.whole student)) ∧
      columnOf enrolled = .ok (some (.whole enrollment)) ∧
      (∀ x ∈ s.attempts, x.quiz = q.id → x.student ≠ student) ∧
      (∃ e ∈ s.enrollments, e.id = enrollment) ∧
      a = begun q student enrollment startedAt s ∧ s' = { s with attempts := s.attempts ++ [a] } := by
  simp only [beginAttempt, Transaction.run_eq_ok, bind_eq_ok, readRow?, when_eq_ok,
    Except.ok.injEq] at h
  obtain ⟨_, ⟨id, hid, row, ⟨-, rfl⟩, h⟩, hw⟩ := h
  cases hf : Table.find? id s.quizzes with
  | none => simp [hf] at h
  | some q' =>
    simp only [hf, bind_eq_ok, guard_eq_ok, lift_eq_ok, pure_eq_ok, exists_unit] at h
    obtain ⟨enrolled, hmember, startedAt, htime, hopen, _, -, -, rfl⟩ := h
    simp only [Decision.apply_change, insertAttempt, bind_eq_ok, exists_unit, guard_eq_ok,
      pure_eq_ok, Prod.mk.injEq] at hw
    obtain ⟨_, ⟨column, hself, column', hplace, -, student, hstudent, enrollment, henrollment, -,
      hfirst, rfl⟩, ⟨rfl, rfl⟩, rfl⟩ := hw
    rw [(requiredReference_eq_ok hstudent).1] at hself
    rw [(requiredReference_eq_ok henrollment).1] at hplace
    obtain ⟨hmem, rfl⟩ := Table.mem_of_find? hf
    exact ⟨enrolled, startedAt, student, enrollment, hid, hmem, hmember, htime, hopen, hself, hplace,
      by simpa using hfirst, (requiredReference_eq_ok henrollment).2, rfl, rfl⟩

lemma beginAttempt_writes {quiz now : Value} {r : Quiz × Attempt}
    (h : (beginAttempt ctx caller quiz now).run s = .ok (r, s')) :
    Write ctx s (.startAttempt caller quiz now) s' := by
  obtain ⟨_, _, _, _, -, hfound, hmember, htime, hopen, hself, hplace, hfirst, hknown, ha, rfl⟩ :=
    beginAttempt_eq_ok h
  rw [ha]
  exact .start hfound hmember htime hopen hself hplace hfirst hknown

lemma record_eq_ok {attempt answers now timeout : Value} {a : Attempt} {r : SubmissionResult}
    (h : (record ctx caller attempt answers now timeout).run s = .ok ((a, r), s')) :
    ∃ q selections submittedAt ends b, own caller attempt s = .ok a ∧ a.status = .inProgress ∧
      readSelections answers = .ok selections ∧ timeOr ctx now = .ok submittedAt ∧
      quizOf s a = .ok q ∧ q.endTimeFrom a.startedAt = .ok ends ∧
      grade (answerKey s q.id) selections = .ok b ∧ (∀ g ∈ b.graded, isStorable g.question = true) ∧
      r = ⟨a.id, q.id, b.score, b.maxScore, b.correctCount, b.totalCount, ends.any (· < submittedAt),
        submittedAt⟩ ∧
      s' = { s with
        attempts := Table.modify a.id (submitted b (ends.any (· < submittedAt)) submittedAt) s.attempts
        selections := Table.append s.selections (selectionRows a.id b.graded) } := by
  simp only [record, Transaction.run_eq_ok, bind_eq_ok, guard_eq_ok, lift_eq_ok, pure_eq_ok,
    ne_eq, not_not] at h
  obtain ⟨_, ⟨deadline, -, a, hown, hrunning, selections, hgiven, submittedAt, htime, q, hquiz, ends,
    hends, b, hgraded, rfl⟩, hw⟩ := h
  simp only [Decision.apply_write, claim, bind_eq_ok, when_eq_ok, guard_eq_ok, mapError_eq_ok,
    insertSelections, requireStorable, exists_unit, pure_eq_ok, Except.ok.injEq, Prod.mk.injEq] at hw
  obtain ⟨_, ⟨-, rfl⟩, -, _, ⟨hstorable, -, -, -, rfl⟩, ⟨rfl, rfl⟩, rfl⟩ := hw
  refine ⟨q, selections, submittedAt, ends, b, hown, hrunning, hgiven, htime, hquiz, hends, hgraded, ?_,
    rfl, rfl⟩
  intro g hg
  exact List.all_eq_true.mp hstorable.1 _ (List.mem_append_left _ (List.mem_map_of_mem hg))

lemma record_writes {attempt answers now timeout : Value} {r : Attempt × SubmissionResult}
    (h : (record ctx caller attempt answers now timeout).run s = .ok (r, s')) :
    Write ctx s (.submitAttempt caller attempt answers now timeout) s' := by
  obtain ⟨_, _, _, _, _, hown, hrunning, hgiven, htime, hquiz, hends, hgraded, -, -, rfl⟩ :=
    record_eq_ok h
  exact .submit hown hrunning hgiven htime hquiz hends hgraded

end Operations

end Attempting

end Assessment
