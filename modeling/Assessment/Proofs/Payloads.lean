import Assessment.Api.Answer
import Assessment.Proofs.Gradebook.Answering
import Assessment.Proofs.Quiz.Answering
import Assessment.Proofs.Schema.Loading

/-!
# Payloads that are accepted

What a request body is loaded as has parts of the right kinds, but its numbers may have any number of
digits. A call that is made with it is answered by what was done or by what stands against it, as long as
its numbers and texts, and those in the store, are within limits; beyond them it may fail like a defect.
-/

namespace Assessment

open Access Schema Quiz Gradebook

section Bodies

variable {v payload : Value}

lemma textual_of_yields {low high : Option Nat} (h : (Kind.text low high).Yields v) :
    ∃ s, v = .text s := by
  cases h with
  | text _ _ s => exact ⟨s, rfl⟩

lemma integral_of_yields (h : Kind.integer.Yields v) : ∃ n, v = .int n := by
  cases h with
  | integer n => exact ⟨n, rfl⟩

lemma text_of_option (loaded : Body.load ⟨optionFields, none⟩ v = .ok payload) :
    payload.member? "answer_text" = none ∧ ∃ s, payload.memberOrNull "text" = .text s := by
  refine ⟨Body.load_other loaded (by decide), ?_⟩
  have htext : (someText maxOptionLength).Yields (payload.memberOrNull "text") :=
    Body.load_required loaded (by decide) (by simp [optionFields])
  exact textual_of_yields htext

lemma wellFormed_question (loaded : questionBody.load v = .ok payload) :
    (Operation.questionRequest fun name => payload.memberOrNull name).WellFormed := by
  have distinct : questionBody.names.Nodup := by decide
  constructor
  · have htext : anyText.Yields (payload.memberOrNull "text") :=
      Body.load_required loaded distinct (by simp [questionBody])
    exact .inr (textual_of_yields htext)
  · have hkind : (Field.withDefault "question_type" anyText (.text "MCQ")).Holds
        (payload.memberOrNull "question_type") := Body.load_field loaded distinct (by simp [questionBody])
    rcases Field.holds_withDefault hkind with hstandard | hgiven
    · exact .inr ⟨_, hstandard⟩
    · exact .inr (textual_of_yields hgiven)
  · obtain ⟨options, hoptions, hall⟩ := Body.load_items loaded distinct rfl rfl
    refine ⟨options, hoptions, fun o ho => ?_⟩
    obtain ⟨w, hw⟩ := hall o ho
    exact text_of_option hw

lemma wellFormed_item (loaded : itemBody.load v = .ok payload) (n : Int) :
    (Operation.itemRequest (Api.parameters [("class_section_id", .int n)] payload)).WellFormed := by
  have distinct : itemBody.names.Nodup := by decide
  constructor
  · have hname : (someText maxNameLength).Yields (payload.memberOrNull "name") :=
      Body.load_required loaded distinct (by simp [itemBody])
    exact .inr (textual_of_yields hname)
  · have horder : payload.memberOrNull "sort_order" = .null ∨
        Kind.integer.Yields (payload.memberOrNull "sort_order") :=
      Body.load_optional loaded distinct (by simp [itemBody])
    exact horder.imp_right integral_of_yields
  · have hversion : payload.memberOrNull "expected_version" = .null ∨
        Kind.integer.Yields (payload.memberOrNull "expected_version") :=
      Body.load_optional loaded distinct (by simp [itemBody])
    exact hversion.imp_right integral_of_yields

lemma wellFormed_cell (loaded : Body.load ⟨cellFields, none⟩ v = .ok payload) : WellFormedCell payload := by
  have distinct : (Body.names ⟨cellFields, none⟩).Nodup := by decide
  constructor
  · have hitem : Kind.integer.Yields (payload.memberOrNull "grade_item_id") :=
      Body.load_required loaded distinct (by simp [cellFields])
    exact integral_of_yields hitem
  · have henrollment : Kind.integer.Yields (payload.memberOrNull "enrollment_id") :=
      Body.load_required loaded distinct (by simp [cellFields])
    exact integral_of_yields henrollment
  · have hreason : payload.memberOrNull "reason" = .null ∨
        (shortText Request.maxMessageLength).Yields (payload.memberOrNull "reason") :=
      Body.load_optional loaded distinct (by simp [cellFields])
    exact hreason.imp_right textual_of_yields

lemma wellFormed_batch (loaded : scoresBody.load v = .ok payload) (classSection : Value) :
    (BatchRequest.mk classSection (payload.memberOrNull "scores")
      (payload.memberOrNull "expected_version")).WellFormed := by
  have distinct : scoresBody.names.Nodup := by decide
  constructor
  · obtain ⟨cells, hcells, hall⟩ := Body.load_items loaded distinct rfl rfl
    refine ⟨cells, hcells, fun c hc => ?_⟩
    obtain ⟨w, hw⟩ := hall c hc
    exact wellFormed_cell hw
  · have hversion : payload.memberOrNull "expected_version" = .null ∨
        Kind.integer.Yields (payload.memberOrNull "expected_version") :=
      Body.load_optional loaded distinct (by simp [scoresBody])
    exact hversion.imp_right integral_of_yields

end Bodies

/-- The numbers of a call have few digits before the point or fit the columns that hold them, and its texts
have an encoding. -/
def Call.WithinLimits : Call → Prop
  | .addQuestion _ _ r | .updateQuestion _ _ r => r.WithinLimits
  | .addItem _ r => r.WithinLimits
  | .upsertScores _ r => r.WithinLimits
  | _ => True

/-- A call that is made with the payload that a body is loaded as, on a quiz, a question or a section of
the caller. -/
inductive Accepted (ctx : Context) (s : Store) (caller : Caller) : Call → Prop
  | addQuestion {n : Int} {v payload : Value} {q : Quiz} (loaded : questionBody.load v = .ok payload)
      (owns : owned ctx caller (.int n) s = .ok q) :
      Accepted ctx s caller (Operation.addQuestion.call caller (Api.parameters [("quiz_id", .int n)] payload))
  | updateQuestion {n : Int} {v payload : Value} {p : Question × Quiz}
      (loaded : questionBody.load v = .ok payload) (owns : ownedQuestion ctx caller (.int n) s = .ok p) :
      Accepted ctx s caller
        (Operation.updateQuestion.call caller (Api.parameters [("question_id", .int n)] payload))
  | addItem {n : Int} {v payload : Value} (loaded : itemBody.load v = .ok payload)
      (teaches : requireSectionTeacher (ctx.directory s) caller (.int n) = .ok ()) :
      Accepted ctx s caller
        (Operation.addItem.call caller (Api.parameters [("class_section_id", .int n)] payload))
  | upsertScores {n : Int} {v payload : Value} (loaded : scoresBody.load v = .ok payload)
      (teaches : requireSectionTeacher (ctx.directory s) caller (.int n) = .ok ()) :
      Accepted ctx s caller
        (Operation.upsertScores.call caller (Api.parameters [("class_section_id", .int n)] payload))

variable {P : Context → Service → Prop} {ctx : Context} {s : Store}

/-- In every store that can be reached, a call by a teacher with a payload that is accepted ends in success
or in a failure that says what stands against it, as long as the call and the store are within limits. -/
theorem accepted_payloads_are_answered (h : Reachable P s) (registered : ctx.directory? = none)
    (hs : s.WithinLimits) {u : User} (hu : u ∈ s.users) {c : Call}
    (accepted : Accepted ctx s ⟨.int u.id, u.role⟩ c) (limits : c.WithinLimits) :
    Outcome.IsForeseen (c.answer ctx (.ofStore s)).1 := by
  cases accepted with
  | addQuestion loaded owns =>
    exact answer_isForeseen rfl (foreseenFrom_commit
      (foreseen_addQuestion owns (wellFormed_question loaded) limits))
  | updateQuestion loaded owns =>
    exact answer_isForeseen rfl (foreseenFrom_commit
      (foreseen_updateQuestion owns (wellFormed_question loaded) limits))
  | addItem loaded teaches =>
    exact answer_isForeseen rfl (foreseenFrom_addItem registered rfl teaches (wellFormed_item loaded _) limits)
  | upsertScores loaded teaches =>
    exact answer_isForeseen rfl (foreseenFrom_commit (foreseen_upsertScores (kept_of_reachable h) hs hu
      registered rfl teaches (wellFormed_batch loaded _) limits))

/-- A section whose book has an item with a maximum of ten. -/
def midterm : Store :=
  (Scenario.State.start .standard).context.serve
    [.call (.addItem ⟨.int 1, "TEACHER"⟩ ⟨.int 1, .text "Midterm", .int 10, .null, .bool true, .null, .null⟩)]
    (Scenario.State.start .standard).store

lemma midterm_reachable : Reachable (fun _ _ => True) midterm := .serve (fun _ _ => trivial) _ _ _

/-- A body with a score for the item. -/
def scoreBody (score : String) : Value :=
  .object [("scores", .list [.object [("grade_item_id", .int 1), ("enrollment_id", .int 1),
    ("score", .text score)]])]

/-- The cell that it is loaded with. -/
def scoreCell (score : Number.Decimal) : Value :=
  .object [("grade_item_id", .int 1), ("enrollment_id", .int 1), ("score", .decimal score), ("reason", .null)]

/-- The call that is made with it. -/
def scoreCall (score : Number.Decimal) : Call :=
  Operation.upsertScores.call ⟨.int 1, "TEACHER"⟩ (Api.parameters [("class_section_id", .int 1)]
    (.object [("expected_version", .null), ("scores", .list [scoreCell score])]))

lemma accepted_scoreCall (text : String) (score : Number.Decimal) (loaded : scoresBody.load (scoreBody text) =
      .ok (.object [("expected_version", .null), ("scores", .list [scoreCell score])])) :
    Accepted (Scenario.State.start .standard).context midterm ⟨.int 1, "TEACHER"⟩ (scoreCall score) :=
  .upsertScores loaded (by decide +kernel)

theorem accepted_payloads_are_answered_of_high_score :
    let ctx := (Scenario.State.start .standard).context
    let answer := ((scoreCall (.finite false 12 0)).answer ctx (.ofStore midterm)).1
    Outcome.IsForeseen answer ∧ answer.map Outcome.status = some 400 := by
  intro ctx answer
  have hs : midterm.WithinLimits := {
    items := by decide +kernel
    enrollments := by decide +kernel
    scores := by
      have hnone : midterm.entries = [] := by decide +kernel
      simp [hnone] }
  have hu : (⟨1, "TEACHER", true⟩ : User) ∈ midterm.users := by decide +kernel
  have limits : (scoreCall (.finite false 12 0)).WithinLimits := by
    intro rows hrows row hrow
    obtain rfl : [scoreCell (.finite false 12 0)] = rows := Value.list.inj hrows
    obtain rfl := List.mem_singleton.mp hrow
    have hread : Number.Decimal.read? (Value.decimal (.finite false 12 0)).display =
        some (.finite false 12 0) := by decide
    refine ⟨fun d hd => ?_, nofun⟩
    obtain rfl := Option.some.inj (hread.symm.trans hd)
    norm_num [Number.Decimal.FewDigits, Number.Decimal.value, Number.Decimal.magnitude]
  refine ⟨?_, by decide +kernel⟩
  exact accepted_payloads_are_answered midterm_reachable rfl hs hu
    (accepted_scoreCall "12" (.finite false 12 0) rfl) limits

/-- A score with more digits before the point than are carried is not refused as too high. -/
theorem accepted_score_fails_as_defect :
    ¬∀ s : Store, Reachable (fun _ _ => True) s → ∀ ctx : Context, ctx.directory? = none → ∀ u ∈ s.users,
      ∀ c, Accepted ctx s ⟨.int u.id, u.role⟩ c → Outcome.IsForeseen (c.answer ctx (.ofStore s)).1 := by
  intro hanswers
  have hu : (⟨1, "TEACHER", true⟩ : User) ∈ midterm.users := by decide +kernel
  have hforeseen := hanswers midterm midterm_reachable (Scenario.State.start .standard).context rfl _ hu _
    (accepted_scoreCall "1E+30" (.finite false 1 30) rfl)
  have hfails : ((scoreCall (.finite false 1 30)).answer (Scenario.State.start .standard).context
      (.ofStore midterm)).1 = some (.failure Failure.unexpected) := by decide +kernel
  rw [hfails] at hforeseen
  cases hforeseen

end Assessment
