import Assessment.Proofs.Number.Amounts
import Assessment.Proofs.Quiz.Positions
import Assessment.Proofs.Readers

/-!
# Questions that are sound

A question that passed its check has a known kind, positive points, and options with texts of which one
is correct. Stored with its options it keeps all of that until it is given new content or removed.
-/

namespace Assessment.Quiz

open Number Table

/-- What holds of a question that has passed all checks. -/
structure CheckedQuestion.Passed (c : CheckedQuestion) : Prop where
  kind : c.kind ∈ Kind.all
  points : ∃ n, 0 < n ∧ n < 10 ^ 28 ∧ c.points = .finite false n (-2)
  enough : 2 ≤ c.options.length
  texts : ∀ o ∈ c.options, o.1 ≠ ""
  one : c.options.countP (·.2) = 1
  two : c.kind = .trueFalse → c.options.length = 2

section Checks

lemma checkPoints_eq_ok {v : Value} {d : Decimal} (h : checkPoints v = .ok d) :
    ∃ n, 0 < n ∧ n < 10 ^ 28 ∧ d = .finite false n (-2) := by
  simp only [checkPoints, bind_eq_ok, lift_eq_ok, guard_eq_ok, pure_eq_ok] at h
  obtain ⟨given, hgiven, points, hpoints, nothing, hnothing, hpositive, rfl⟩ := h
  have hundredths := Decimal.toHundredths_finite (readDecimal_eq_ok hgiven).2 hpoints
  exact Decimal.hundredths_pos hundredths hnothing hpositive

lemma checkOptionTexts_iff {options : List (String × Bool)} :
    checkOptionTexts options = .ok () ↔ ∀ o ∈ options, o.1 ≠ "" ∧ o.1.length ≤ maxOptionLength := by
  induction options with
  | nil => simp [checkOptionTexts]
  | cons o options ih =>
    obtain ⟨text, correct⟩ := o
    simp [checkOptionTexts, ih, and_assoc]

lemma optionProblem?_iff {kind : Kind} {correct : List Bool} : optionProblem? kind correct = none ↔
    2 ≤ correct.length ∧ (kind = .trueFalse → correct.length = 2) ∧ correct.count true = 1 := by
  unfold optionProblem?
  split_ifs with hfew hpair hone
  · simpa using fun henough => absurd hfew (not_lt.mpr henough)
  · simpa using fun _ htwo => absurd (htwo hpair.1) hpair.2
  · simpa using fun _ _ => hone
  · exact iff_of_true rfl ⟨not_lt.mp hfew, fun hkind => not_not.mp fun hne => hpair ⟨hkind, hne⟩, not_not.mp hone⟩

/-- What a request says of the question that it is checked to. -/
structure QuestionRequest.ChecksTo (kinds : List Kind) (r : QuestionRequest) (c : CheckedQuestion) : Prop where
  text : Request.readTrimmed r.text = .ok c.text
  some_text : c.text ≠ ""
  kind : ∃ name, Request.readTrimmed r.kind = .ok name ∧ c.kind = ⟨Text.upper name⟩
  known : c.kind ∈ kinds
  points : checkPoints r.points = .ok c.points
  options : ∃ given, Request.readItems r.options = .ok given ∧ c.options = given.map readOption
  texts : checkOptionTexts c.options = .ok ()
  sound : optionProblem? c.kind c.correct = none

lemma checkQuestion_iff {kinds : List Kind} {r : QuestionRequest} {c : CheckedQuestion} :
    checkQuestion kinds r = .ok c ↔ r.ChecksTo kinds c := by
  simp only [checkQuestion, bind_eq_ok, guard_eq_ok, exists_unit, Bool.not_eq_true', Bool.not_eq_false]
  constructor
  · rintro ⟨text, htext, hsome, name, hname, hkind, points, hpoints, given, hgiven, htexts, h⟩
    cases hproblem : optionProblem? ⟨Text.upper name⟩ ((given.map readOption).map (·.2)) with
    | some problem => rw [hproblem] at h; cases h
    | none =>
      rw [hproblem, pure_eq_ok] at h
      subst h
      exact ⟨htext, by simpa using hsome, ⟨name, hname, rfl⟩, List.contains_iff_mem.mp hkind, hpoints,
        ⟨given, hgiven, rfl⟩, htexts, hproblem⟩
  · rintro ⟨htext, hsome, ⟨name, hname, hkind⟩, hknown, hpoints, ⟨given, hgiven, hoptions⟩, htexts, hsound⟩
    obtain ⟨text, kind, points, options⟩ := c
    dsimp only at *
    subst hkind hoptions
    refine ⟨text, htext, by simpa using hsome, name, hname, List.contains_iff_mem.mpr hknown, points, hpoints,
      given, hgiven, htexts, ?_⟩
    have hnone : optionProblem? ⟨Text.upper name⟩ ((given.map readOption).map (·.2)) = none := hsound
    rw [hnone]
    rfl

lemma checkQuestion_eq_ok {r : QuestionRequest} {c : CheckedQuestion}
    (h : checkQuestion Kind.all r = .ok c) : c.Passed := by
  have hc := checkQuestion_iff.mp h
  obtain ⟨henough, htwo, hone⟩ := optionProblem?_iff.mp hc.sound
  rw [CheckedQuestion.correct, List.length_map] at henough htwo
  refine ⟨hc.known, checkPoints_eq_ok hc.points, henough, fun o ho => (checkOptionTexts_iff.mp hc.texts o ho).1,
    ?_, htwo⟩
  rw [CheckedQuestion.correct, List.count_eq_countP, List.countP_map] at hone
  simpa [Function.comp_def] using hone

lemma checkQuestion_given {kinds : List Kind} {r : QuestionRequest} {c : CheckedQuestion}
    (h : checkQuestion kinds r = .ok c) : checkPoints r.points = .ok c.points ∧
    ∃ given, Request.readItems r.options = .ok given ∧ c.options = given.map readOption :=
  ⟨(checkQuestion_iff.mp h).points, (checkQuestion_iff.mp h).options⟩

end Checks

/-- What holds of a question and its options in the store. -/
structure SoundQuestion (k : Question) (options : List AnswerOption) : Prop where
  kind : k.kind ∈ Kind.all
  points : 0 < k.points.toDecimal.value
  hundredths : ∃ n, k.points.toDecimal = .finite false n (-2)
  enough : 2 ≤ options.length
  texts : ∀ o ∈ options, o.text ≠ ""
  one : options.countP (·.correct) = 1
  two : k.kind = .trueFalse → options.length = 2

lemma CheckedQuestion.Passed.storedPoints {c : CheckedQuestion} (h : c.Passed) :
    ∃ n, 0 < n ∧ (Quiz.storedPoints c).toDecimal = .finite false n (-2) := by
  obtain ⟨n, hpos, hlt, hpoints⟩ := h.points
  obtain ⟨a, ha⟩ := Option.isSome_iff_exists.mp (Amount.ofDecimal?_isSome false n (-2))
  rw [Quiz.storedPoints, hpoints, ha]
  exact Amount.toDecimal_pos hpos hlt ha

/-- A question that passed its checks is sound with options that have its contents. -/
lemma CheckedQuestion.Passed.sound {c : CheckedQuestion} (h : c.Passed) {k : Question}
    {options : List AnswerOption} (kind : k.kind = c.kind) (points : k.points = Quiz.storedPoints c)
    (contents : options.map (fun o => (o.text, o.correct)) = c.options) : SoundQuestion k options where
  kind := kind ▸ h.kind
  points := by
    obtain ⟨n, hpos, hstored⟩ := h.storedPoints
    rw [points, hstored, Decimal.value_finite]
    exact Decimal.magnitude_pos hpos (-2)
  hundredths := by
    obtain ⟨n, -, hstored⟩ := h.storedPoints
    exact ⟨n, points ▸ hstored⟩
  enough := by simpa [← contents] using h.enough
  texts o ho := h.texts (o.text, o.correct) (contents ▸ List.mem_map_of_mem ho)
  one := by
    have := h.one
    rw [← contents, List.countP_map] at this
    exact this
  two hkind := by simpa [← contents] using h.two (kind ▸ hkind)

lemma optionsOf_eq {s : Store} (hn : Numbered s.options) (question : Int) :
    s.optionsOf question = s.options.filter (·.question == question) := by
  refine sortBy_of_pairwise ((hn.ascending.filter _).imp fun {a b} h => ?_)
  have hlt : a.id < b.id := h
  exact decide_eq_true hlt.le

/-- Every question is sound with its options. -/
def AllSound (s : Store) : Prop :=
  ∀ k ∈ s.questions, SoundQuestion k (s.options.filter (·.question == k.id))

section Stores

variable {ctx : Context} {s s' : Store}

lemma SoundQuestion.congr {k k' : Question} {options options' : List AnswerOption}
    (h : SoundQuestion k options) (kind : k'.kind = k.kind) (points : k'.points = k.points)
    (same : options' = options) : SoundQuestion k' options' where
  kind := kind ▸ h.kind
  points := points ▸ h.points
  hundredths := points ▸ h.hundredths
  enough := same ▸ h.enough
  texts := same ▸ h.texts
  one := same ▸ h.one
  two hkind := same ▸ h.two (kind ▸ hkind)

lemma AllSound.ask (h : AllSound s) (hi : Integrity s) (q : Quiz) {c : CheckedQuestion} (hc : c.Passed) :
    AllSound (withQuestion q c s) := by
  intro k hk
  rcases List.mem_append.mp hk with hk | hk
  · exact (h k hk).congr rfl rfl (options_ask q c hk)
  · rw [List.mem_singleton.mp hk]
    have hnone : s.options.filter (·.question == nextId s.questions) = [] :=
      List.filter_eq_nil_iff.mpr fun o ho => by simpa using hi.optionQuestion.ne_nextId ho
    refine hc.sound rfl rfl ?_
    rw [withQuestion, append_optionRows, List.filter_append, hnone, List.nil_append, filter_newOptions,
      newOptions_contents]

lemma AllSound.rephrase (h : AllSound s) (hi : Integrity s) {k : Question} (hk : k ∈ s.questions)
    {c : CheckedQuestion} (hc : c.Passed) :
    AllSound { s with
      questions := modify k.id (withContent c) s.questions
      options := replacedOptions k.id c s.options } := by
  intro x hx
  rcases (mem_modify hi.questions hk).mp hx with rfl | ⟨hx, hne⟩
  · have hnone : s.options.filter (fun o => o.question == k.id && o.question != k.id) = [] :=
      List.filter_eq_nil_iff.mpr fun o _ => by simp
    refine hc.sound rfl rfl ?_
    rw [show (withContent c k).id = k.id from rfl, replacedOptions_eq hi.options, List.filter_append,
      List.filter_filter, hnone, List.nil_append, filter_newOptions, newOptions_contents]
  · exact (h x hx).congr rfl rfl (options_rephrase hi.options c hne)

lemma AllSound.strike (h : AllSound s) (k : Question) : AllSound (withoutQuestion k s) := by
  intro x hx
  obtain ⟨y, hy, rfl⟩ := List.mem_map.mp hx
  obtain ⟨hy, hne⟩ := List.mem_filter.mp hy
  have hother : y.id ≠ k.id := bne_iff_ne.mp hne
  rw [placed_id, options_strike k hother]
  exact (h y hy).congr (placed_kind _ y) (placed_points _ y) rfl

lemma AllSound.discard (h : AllSound s) (hi : Integrity s) (quiz : Int) :
    AllSound (withoutQuiz quiz s) := by
  intro k hk
  obtain ⟨hk, hne⟩ := List.mem_filter.mp hk
  exact (h k hk).congr rfl rfl (options_discard hi hk (bne_iff_ne.mp hne))

lemma AllSound.write (h : AllSound s) (hi : Integrity s) {c : Call} (w : Write ctx s c s') :
    AllSound s' := by
  cases w with
  | draft | publish | close => exact h
  | ask _ _ checked => exact h.ask hi _ (checkQuestion_eq_ok checked)
  | rephrase found _ checked =>
    exact h.rephrase hi (ownedQuestion_eq_ok found).1 (checkQuestion_eq_ok checked)
  | strike => exact h.strike _
  | discard => exact h.discard hi _

end Stores

end Assessment.Quiz
