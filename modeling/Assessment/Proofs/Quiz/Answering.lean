import Assessment.Proofs.Foreseen
import Assessment.Proofs.Quiz.Questions

/-!
# Questions that are taken in or refused

A question whose parts are of the right kinds, whose points have few digits and whose texts have an
encoding is either taken in or refused with a reason.
-/

namespace Assessment.Quiz

open Number Request

/-- A question as a request body holds it. -/
structure QuestionRequest.WellFormed (r : QuestionRequest) : Prop where
  text : r.text.IsTextual
  kind : r.kind.IsTextual
  options : ∃ vs, r.options = .list vs ∧
    ∀ v ∈ vs, v.member? "answer_text" = none ∧ ∃ s, v.memberOrNull "text" = .text s

/-- The points of a question have few digits, and its texts have an encoding. -/
structure QuestionRequest.WithinLimits (r : QuestionRequest) : Prop where
  text : r.text.IsEncodable
  points : r.points.HasFewDigits
  options : ∀ vs, r.options = .list vs → ∀ v ∈ vs, (v.memberOrNull "text").IsEncodable

section Checks

variable {r : QuestionRequest} {kinds : List Kind}

lemma foreseen_checkPoints {v : Value} (h : v.HasFewDigits) : Foreseen (checkPoints v) := by
  refine .bind foreseen_readDecimal fun d hd => ?_
  obtain ⟨s, c, hrounded⟩ := toHundredths_readDecimal h hd .halfEven
  refine .bind (.lift hrounded) fun x hx => ?_
  obtain rfl := Except.ok.inj ((lift_eq_ok.mp hx).symm.trans hrounded)
  exact .bind (.lift (Decimal.atMost_finite ..)) fun _ _ => .guard rfl fun _ => .pure _

lemma foreseen_checkOptionTexts (options : List (String × Bool)) : Foreseen (checkOptionTexts options) := by
  induction options with
  | nil => exact .of_ok rfl
  | cons o options ih => exact .ite (fun _ => .error rfl) fun _ => .ite (fun _ => .error rfl) fun _ => ih

lemma foreseen_checkQuestion (formed : r.WellFormed) (limits : r.WithinLimits) :
    Foreseen (checkQuestion kinds r) := by
  obtain ⟨text, htext, -⟩ := readTrimmed_textual formed.text
  obtain ⟨name, hname, -⟩ := readTrimmed_textual formed.kind
  obtain ⟨vs, hvs, -⟩ := formed.options
  refine .bind (.of_ok htext) fun _ _ => .guard rfl fun _ => .bind (.of_ok hname) fun _ _ => ?_
  refine .guard rfl fun _ => .bind (foreseen_checkPoints limits.points) fun _ _ => ?_
  refine .bind (.of_ok (hvs ▸ readItems_list vs)) fun _ _ => ?_
  refine .bind (foreseen_checkOptionTexts _) fun _ _ => ?_
  split
  · exact .throw rfl
  · exact .pure _

lemma readOption_text {v : Value} (other : v.member? "answer_text" = none) {s : String}
    (text : v.memberOrNull "text" = .text s) : (readOption v).1 = Text.trim s := by
  have hgiven : ((v.member? "answer_text").orElse fun _ => v.member? "text").getD .null = .text s := by
    rw [other]
    exact text
  unfold readOption
  rw [hgiven]
  rfl

lemma texts_encodable {q : CheckedQuestion} (formed : r.WellFormed) (limits : r.WithinLimits)
    (h : checkQuestion Kind.all r = .ok q) : ∀ s ∈ textsOf q, Text.hasEncoding s = true := by
  obtain ⟨text, htext, hencoding⟩ := readTrimmed_textual formed.text
  obtain ⟨vs, hvs, hoptions⟩ := formed.options
  simp only [checkQuestion, bind_eq_ok, guard_eq_ok, exists_unit, Bool.not_eq_true', Bool.not_eq_false,
    htext, hvs, readItems_list, Except.ok.injEq] at h
  obtain ⟨_, rfl, -, name, -, hkind, points, -, _, rfl, -, h⟩ := h
  have hq : q = ⟨text, ⟨Text.upper name⟩, points, vs.map readOption⟩ := by
    split at h
    · cases h
    · exact (pure_eq_ok.mp h).symm
  subst hq
  refine List.forall_mem_cons.mpr ⟨hencoding limits.text, List.forall_mem_cons.mpr ⟨?_, fun s hs => ?_⟩⟩
  · have hnames : ∀ k ∈ Kind.all, Text.hasEncoding k.name = true := by decide
    exact hnames _ (List.contains_iff_mem.mp hkind)
  · obtain ⟨o, ho, rfl⟩ := List.mem_map.mp hs
    obtain ⟨v, hv, rfl⟩ := List.mem_map.mp ho
    obtain ⟨other, given, hgiven⟩ := hoptions v hv
    rw [readOption_text other hgiven]
    exact Text.hasEncoding_trim (limits.options vs hvs v hv given hgiven)

end Checks

section Operations

variable {ctx : Context} {caller : Access.Caller} {s : Store} {r : QuestionRequest}

lemma foreseen_requireDraft (q : Quiz) : Foreseen (requireDraft q) :=
  .ite (fun _ => .of_ok rfl) fun _ => .error rfl

lemma foreseen_addQuestion {quiz : Value} {q : Quiz} (owns : owned ctx caller quiz s = .ok q)
    (formed : r.WellFormed) (limits : r.WithinLimits) : Foreseen ((addQuestion ctx caller quiz r).run s) := by
  refine foreseen_run ?_ fun d hd => ?_
  · refine .bind (.of_ok owns) fun q _ => .bind (foreseen_requireDraft q) fun _ _ => ?_
    refine .bind (foreseen_checkQuestion formed limits) fun _ _ => ?_
    exact .guard rfl fun _ => .pure _
  · simp only [addQuestion, bind_eq_ok, guard_eq_ok, exists_unit, pure_eq_ok] at hd
    obtain ⟨q, -, -, checked, hchecked, -, rfl⟩ := hd
    refine foreseen_change rfl (.bind ?_ fun _ _ => .pure _)
    refine .bind (fitting_requireEncoding (texts_encodable formed limits hchecked)) fun _ _ => ?_
    exact .bind (fitting_requireRow _ _) fun _ _ => .pure _

lemma foreseen_updateQuestion {question : Value} {p : Question × Quiz}
    (owns : ownedQuestion ctx caller question s = .ok p) (formed : r.WellFormed) (limits : r.WithinLimits) :
    Foreseen ((updateQuestion ctx caller question r).run s) := by
  refine foreseen_run ?_ fun d hd => ?_
  · refine .bind (.of_ok owns) fun p _ => .bind (foreseen_requireDraft p.2) fun _ _ => ?_
    exact .bind (foreseen_checkQuestion formed limits) fun _ _ => .pure _
  · simp only [updateQuestion, bind_eq_ok, exists_unit, pure_eq_ok] at hd
    obtain ⟨p, -, -, checked, hchecked, rfl⟩ := hd
    refine foreseen_change rfl (.bind ?_ fun _ _ => .pure _)
    refine .bind (fitting_requireEncoding (texts_encodable formed limits hchecked)) fun _ _ => ?_
    exact .guard trivial fun _ => .pure _

end Operations

end Assessment.Quiz
