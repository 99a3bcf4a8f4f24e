import Assessment.Proofs.Quiz.Contents

/-!
# The positions of questions

The questions of a quiz stand at the positions one, two, three, …, in the order of their numbers.
-/

namespace Assessment.Quiz

open Table

/-- Some questions stand at the positions one, two, three, …. -/
def InPlace (rows : List Question) : Prop :=
  rows.map (·.order) = (List.range' 1 rows.length).map fun (i : Nat) => Cell.whole i

variable {rows : List Question}

lemma InPlace.nil : InPlace [] := rfl

lemma InPlace.concat (h : InPlace rows) {k : Question} (hk : k.order = .whole (rows.length + 1 : Nat)) :
    InPlace (rows ++ [k]) := by
  unfold InPlace at h ⊢
  rw [List.map_append, h, List.length_append, List.length_singleton, List.range'_1_concat,
    List.map_append, List.map_singleton, List.map_singleton, hk, Nat.add_comm 1]

lemma inPlace_iff : InPlace rows ↔
    ∀ (i : Nat) (h : i < rows.length), rows[i].order = .whole (i + 1 : Nat) := by
  unfold InPlace
  constructor
  · intro h i hi
    have hget := congrArg (·[i]?) h
    simp only [List.getElem?_map, List.getElem?_eq_getElem hi, List.getElem?_range' hi] at hget
    simpa [Nat.add_comm] using hget
  · intro h
    refine List.ext_getElem (by simp) fun i hi _ => ?_
    rw [List.length_map] at hi
    simp [h i hi, Nat.add_comm]

lemma InPlace.modify (h : InPlace rows) (id : Int) {f : Question → Question}
    (hf : ∀ k, (f k).order = k.order) : InPlace (modify id f rows) := by
  have hmap : (Table.modify id f rows).map (·.order) = rows.map (·.order) := by
    rw [Table.modify, List.map_map]
    refine List.map_congr_left fun k _ => ?_
    by_cases hk : Row.id k = id <;> simp [hk, hf]
  unfold InPlace at h ⊢
  rw [hmap, h]
  simp [Table.modify]

lemma findIdx?_of_numbered (hn : Numbered rows) {i : Nat} (hi : i < rows.length) :
    rows.findIdx? (·.id == rows[i].id) = some i := by
  rw [List.findIdx?_eq_some_iff_getElem]
  refine ⟨hi, by simp, fun j hj => ?_⟩
  have := List.pairwise_iff_getElem.mp hn.ascending j i (by omega) hi hj
  simp only [beq_iff_eq]
  exact ne_of_lt this

lemma map_placed (hn : Numbered rows) :
    rows.map (placed rows) = rows.mapIdx fun i k => { k with order := .whole (i + 1 : Nat) } := by
  refine List.ext_getElem (by simp) fun i hi _ => ?_
  rw [List.length_map] at hi
  simp [placed, findIdx?_of_numbered hn hi]

lemma inPlace_placed (hn : Numbered rows) : InPlace (rows.map (placed rows)) := by
  rw [map_placed hn, inPlace_iff]
  intro i hi
  simp

lemma InPlace.placed_eq (h : InPlace rows) (hn : Numbered rows) {k : Question} (hk : k ∈ rows) :
    placed rows k = k := by
  obtain ⟨i, hi, rfl⟩ := List.getElem_of_mem hk
  simp only [placed, findIdx?_of_numbered hn hi]
  rw [← inPlace_iff.mp h i hi]

/-- The questions of every quiz are in place. -/
def AllInPlace (s : Store) : Prop := ∀ quiz : Int, InPlace (s.questions.filter (·.quiz == quiz))

section Stores

variable {ctx : Context} {s s' : Store} {op : Service}

lemma questionsOf_eq (h : AllInPlace s) (quiz : Int) :
    s.questionsOf quiz = s.questions.filter (·.quiz == quiz) := by
  refine sortBy_of_pairwise (List.pairwise_iff_getElem.mpr fun i j hi hj hij => ?_)
  have hrow := inPlace_iff.mp (h quiz)
  simp only [hrow i hi, hrow j hj, Cell.le, Bool.and_eq_true, Bool.or_eq_true, Bool.not_eq_true',
    decide_eq_true_eq, decide_eq_false_iff_not]
  omega

lemma AllInPlace.ask (h : AllInPlace s) (q : Quiz) (c : CheckedQuestion) :
    AllInPlace (withQuestion q c s) := by
  intro quiz
  by_cases hq : q.id = quiz
  · unfold withQuestion
    rw [← hq, List.filter_append, List.filter_cons_of_pos (by simp), List.filter_nil]
    refine (h q.id).concat ?_
    rw [questionsOf_eq h]
  · rw [questions_ask_of_ne hq]
    exact h quiz

lemma AllInPlace.rephrase (h : AllInPlace s) (question : Int) (c : CheckedQuestion)
    (options : List AnswerOption) :
    AllInPlace { s with questions := modify question (withContent c) s.questions, options := options } := by
  intro quiz
  have hfilter : (modify question (withContent c) s.questions).filter (·.quiz == quiz) =
      modify question (withContent c) (s.questions.filter (·.quiz == quiz)) := filter_modify fun _ => rfl
  exact hfilter ▸ (h quiz).modify question fun _ => rfl

lemma AllInPlace.strike (h : AllInPlace s) (hn : Numbered s.questions) {k : Question}
    (hk : k ∈ s.questions) : AllInPlace (withoutQuestion k s) := by
  intro quiz
  by_cases hq : k.quiz = quiz
  · rw [questions_strike, questionsOf_eq h, hq]
    exact inPlace_placed ((hn.filter _).filter _)
  · rw [questions_strike_of_ne hn hk hq]
    exact h quiz

lemma AllInPlace.discard (h : AllInPlace s) (quiz : Int) : AllInPlace (withoutQuiz quiz s) := by
  intro other
  by_cases hq : other = quiz
  · unfold withoutQuiz
    rw [List.filter_filter, List.filter_eq_nil_iff.mpr (by simp [hq])]
    exact .nil
  · rw [questions_discard_of_ne hq]
    exact h other

lemma AllInPlace.write (h : AllInPlace s) (hi : Integrity s) {c : Call} (w : Write ctx s c s') :
    AllInPlace s' := by
  cases w with
  | draft | publish | close => exact h
  | ask => exact h.ask _ _
  | rephrase => exact h.rephrase _ _ _
  | strike found => exact h.strike hi.questions (ownedQuestion_eq_ok found).1
  | discard => exact h.discard _

end Stores

end Assessment.Quiz
