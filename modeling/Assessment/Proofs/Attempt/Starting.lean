import Assessment.Proofs.Failures
import Assessment.Proofs.Quiz.Soundness

/-!
# Starts that fail

An attempt is recorded before it is shown. The questions of a quiz can always be put in order, so the one
thing that a recorded attempt may fail at is its end: a time limit has no bound, and the time that it
leads to may lie beyond all times. Such an attempt stays, though its start has failed.
-/

namespace Assessment.Attempting

open Access Assessment.Action

variable {P : Context → Service → Prop} {ctx : Context} {s : Store}

lemma requireOrder_of_inPlace (h : Quiz.AllInPlace s) (quiz : Int) :
    requireOrder (s.questionsOf quiz) = .ok () := by
  have hplaces := h quiz
  rw [← Quiz.questionsOf_eq h] at hplaces
  have hwhole : ∀ k ∈ s.questionsOf quiz, k.order.isText = false := by
    intro k hk
    have horder : k.order ∈ (s.questionsOf quiz).map (·.order) := List.mem_map_of_mem hk
    rw [hplaces] at horder
    obtain ⟨i, -, hi⟩ := List.mem_map.mp horder
    rw [← hi]
    rfl
  unfold requireOrder
  rw [if_pos]
  simpa using .inr hwhole

lemma viewOf_isOk {q : Quiz} {a : Attempt} {ends : Option Time.Instant}
    (order : requireOrder (s.questionsOf q.id) = .ok ())
    (ending : q.endTimeFrom a.startedAt = .ok ends) : ∃ v, viewOf s q a = .ok v := by
  simp [viewOf, order, ending]

lemma inPlace_of_reachable (h : Reachable P s) : Quiz.AllInPlace s := by
  have hboth : Quiz.Integrity s ∧ Quiz.AllInPlace s := by
    refine h.invariant (I := fun s => Quiz.Integrity s ∧ Quiz.AllInPlace s) ?_ ?_
    · exact fun _ _ _ => ⟨Quiz.integrity_ofSchool _ _ _, fun _ => .nil⟩
    · rintro ctx op t t' - ⟨hi, hp⟩ w
      refine ⟨hi.step w, ?_⟩
      cases w with
      | quiz w => exact hp.write hi w
      | attempt w | book w | opening _ w | posting _ w | queueing _ w =>
        rw [w.frame]
        exact hp
  exact hboth.2

/-- What a start may leave behind that fails: an attempt of the caller that has no end. -/
structure Endless (s : Store) (caller : Caller) (q : Quiz) (a : Attempt) : Prop where
  known : q ∈ s.quizzes
  quiz : a.quiz = q.id
  student : columnOf caller.id = .ok (some (.whole a.student))
  running : a.status = .inProgress
  noEnd : ∃ d, q.endTimeFrom a.startedAt = .error d

/-- A store is new by such an attempt only. -/
def LeavesEndless (caller : Caller) (s s' : Store) : Prop :=
  ∃ q a, Endless s caller q a ∧ s' = { s with attempts := s.attempts ++ [a] }

lemma start_ensures (caller : Caller) (quiz now : Value) :
    (start ctx caller quiz now).Ensures fun s r s' => Quiz.AllInPlace s → ∀ fault, r = .error fault →
      s' = s ∨ LeavesEndless caller s s' ∧ fault.failure = Failure.unexpected := by
  refine .bind (Q := fun s r t => (∀ q a, r = .ok (q, a) →
    (beginAttempt ctx caller quiz now).run s = .ok ((q, a), t)) ∧ ∀ fault, r = .error fault → t = s)
    (.commit (fun s p t h => ?_) fun s fault _ => ?_) (fun ⟨q, a⟩ => .read fun t s hbegun => ?_) ?_
  · refine ⟨fun q a hp => ?_, by simp⟩
    cases hp
    exact h
  · exact ⟨by simp, fun _ _ => rfl⟩
  · intro hplace fault hfault
    obtain ⟨_, startedAt, student, enrollment, -, hq, -, -, -, hself, -, -, -, ha, ht⟩ :=
      beginAttempt_eq_ok (hbegun.1 q a rfl)
    have hquiz : a.quiz = q.id := congrArg Attempt.quiz ha
    have hstudent : a.student = student := congrArg Attempt.student ha
    have hrunning : a.status = .inProgress := congrArg Attempt.status ha
    have horder : requireOrder (t.questionsOf q.id) = .ok () := by
      rw [ht]
      exact requireOrder_of_inPlace hplace q.id
    cases hend : q.endTimeFrom a.startedAt with
    | ok ends =>
      obtain ⟨v, hv⟩ := viewOf_isOk horder hend
      rw [hv] at hfault
      cases hfault
    | error d =>
      refine .inr ⟨⟨q, a, ⟨hq, hquiz, hstudent ▸ hself, hrunning, d, hend⟩, ht⟩, ?_⟩
      cases hv : viewOf t q a with
      | ok v =>
        rw [hv] at hfault
        cases hfault
      | error d' =>
        rw [hv] at hfault
        cases hfault
        rfl
  · rintro s fault t ⟨-, hkept⟩ - fault' -
    exact .inl (hkept fault rfl)

/-- In every store that can be reached, a start that does not succeed leaves all tables as they were,
unless its attempt has no end: then that attempt stays, and the answer is that of a defect. -/
theorem failed_start_leaves_endless_attempt (h : Reachable P s) (ctx : Context) (caller : Caller)
    (quiz now : Value)
    (fails : ∀ data, ((Call.startAttempt caller quiz now).answer ctx (.ofStore s)).1 ≠
      some (.success data)) :
    let s' := (Service.call (.startAttempt caller quiz now)).after ctx s
    s' = s ∨ LeavesEndless caller s s' ∧ ((Call.startAttempt caller quiz now).answer ctx (.ofStore s)).1 =
      some (.failure Failure.unexpected) := by
  intro s'
  have hplace := inPlace_of_reachable h
  have hreported : ((Call.startAttempt caller quiz now).run ctx).Ensures fun s r s' =>
      Quiz.AllInPlace s → ¬Yields r → s' = s ∨ LeavesEndless caller s s' ∧
        ∃ fault, r = .error fault ∧ fault.failure = Failure.unexpected := by
    refine .bind (start_ensures caller quiz now) (fun x => .read fun t s _ _ hfails => ?_) ?_
    · exact absurd ⟨_, rfl⟩ hfails
    · rintro s fault t hstart hplace -
      exact (hstart hplace fault rfl).imp_right fun hleft => ⟨hleft.1, fault, rfl, hleft.2⟩
  have hs' : s' = ((Call.startAttempt caller quiz now).run ctx (.ofStore s)).2.store :=
    congrArg Session.store (answer_session _ _)
  rw [hs']
  refine ((hreported (.ofStore s) rfl).2 hplace (not_yields fails)).imp_right ?_
  rintro ⟨hleft, fault, hfault, hunexpected⟩
  exact ⟨hleft, hunexpected ▸ answer_of_error hfault⟩

/-- A school where a quiz is published whose time limit leads beyond all times. -/
def endlessQuiz : Scenario.State :=
  let start := Scenario.State.start { Settings.standard with totals := .list [.int 1] }
  let teacher : Caller := ⟨.int 1, "TEACHER"⟩
  let option (text : String) (correct : Bool) : Value :=
    .object [("answer_text", .text text), ("is_correct", .bool correct)]
  { start with
    store := start.context.serve
      [.call (.createDraft teacher ⟨.int 1, .text "Sums", .int 1, .null, .int (10 ^ 12), .null, .null,
          .null, .null⟩),
        .call (.addQuestion teacher (.int 1) ⟨.text "1 + 1 = 2", .text "TRUE_FALSE", .int 1,
          .list [option "True" true, option "False" false]⟩),
        .call (.publish teacher (.int 1) .null .null)] start.store }

lemma endlessQuiz_reachable : Reachable (fun _ _ => True) endlessQuiz.store :=
  .serve (fun _ _ => trivial) _ _ _

lemma endlessQuiz_start :
    let start := Call.startAttempt ⟨.int 4, "STUDENT"⟩ (.int 1) .null
    (start.answer endlessQuiz.context (.ofStore endlessQuiz.store)).1 =
        some (.failure Failure.unexpected) ∧
      (Service.call start).after endlessQuiz.context endlessQuiz.store ≠ endlessQuiz.store := by
  decide +kernel

theorem failed_start_leaves_endless_attempt_of_limit :
    LeavesEndless ⟨.int 4, "STUDENT"⟩ endlessQuiz.store
      ((Service.call (.startAttempt ⟨.int 4, "STUDENT"⟩ (.int 1) .null)).after endlessQuiz.context
        endlessQuiz.store) := by
  obtain ⟨hfails, hchanged⟩ := endlessQuiz_start
  rcases failed_start_leaves_endless_attempt endlessQuiz_reachable endlessQuiz.context
    ⟨.int 4, "STUDENT"⟩ (.int 1) .null (by simp [hfails]) with hsame | ⟨hleft, -⟩
  · exact absurd hsame hchanged
  · exact hleft

/-- A failed start may use up the student's one attempt. -/
theorem failed_start_uses_attempt :
    ¬∀ s : Store, Reachable (fun _ _ => True) s → ∀ (ctx : Context) (caller : Caller) (quiz now : Value),
      (∀ data, ((Call.startAttempt caller quiz now).answer ctx (.ofStore s)).1 ≠ some (.success data)) →
        (Service.call (.startAttempt caller quiz now)).after ctx s = s := by
  intro hkeeps
  obtain ⟨hfails, hchanged⟩ := endlessQuiz_start
  exact hchanged (hkeeps endlessQuiz.store endlessQuiz_reachable endlessQuiz.context
    ⟨.int 4, "STUDENT"⟩ (.int 1) .null (by simp [hfails]))

end Assessment.Attempting
