import Assessment.Proofs.Quiz.Integrity
import Assessment.Proofs.Sorting

/-!
# The content of a quiz

What a quiz asks is its questions with their options. A write that is about one question leaves the
options of all others alone, and a write that is about one quiz leaves the content of all others alone.
Only drafts are written, so the content of a quiz that was published stays what it is.
-/

namespace Assessment.Quiz

open Table

section Options

variable {question other : Int} {first : Int} {given : List (String × Bool)} {rows : List AnswerOption}

/-- New options of a question, numbered from a first number on. -/
def newOptions (question first : Int) (given : List (String × Bool)) : List AnswerOption :=
  given.mapIdx fun i o => ⟨first + i, question, o.1, o.2⟩

lemma append_optionRows :
    append rows (optionRows question given) = rows ++ newOptions question (nextId rows) given := by
  rw [append_eq optionRows_id]
  congr 1
  exact List.ext_getElem (by simp [optionRows, newOptions]) fun i _ _ => by
    simp [optionRows, newOptions]

lemma mem_newOptions {o : AnswerOption} (h : o ∈ newOptions question first given) :
    first ≤ o.id ∧ o.question = question := by
  obtain ⟨i, hi, rfl⟩ := List.mem_mapIdx.mp h
  exact ⟨by simp, rfl⟩

lemma newOptions_contents :
    (newOptions question first given).map (fun o => (o.text, o.correct)) = given :=
  List.ext_getElem (by simp [newOptions]) fun i _ _ => by simp [newOptions]

lemma filter_newOptions :
    (newOptions question first given).filter (·.question == question) =
      newOptions question first given :=
  List.filter_eq_self.mpr fun o ho => by simp [(mem_newOptions ho).2]

lemma filter_newOptions_of_ne (h : question ≠ other) :
    (newOptions question first given).filter (·.question == other) = [] :=
  List.filter_eq_nil_iff.mpr fun o ho => by simp [(mem_newOptions ho).2, h]

lemma replacedOptions_eq (hn : Numbered rows) (c : CheckedQuestion) :
    replacedOptions question c rows =
      rows.filter (·.question != question) ++ newOptions question (nextId rows) c.options := by
  unfold replacedOptions
  rw [append_optionRows, List.filter_append]
  congr 1
  · refine List.filter_congr fun o ho => ?_
    rw [Bool.eq_iff_iff, Bool.not_eq_true', ← Bool.not_eq_true, List.contains_iff_mem, bne_iff_ne]
    refine not_congr ⟨fun hold => ?_, fun hq => ?_⟩
    · obtain ⟨x, hx, hid⟩ := List.mem_map.mp hold
      obtain ⟨hx, hxq⟩ := List.mem_filter.mp hx
      rw [← hn.eq_of_id_eq hx ho hid]
      exact eq_of_beq hxq
    · exact List.mem_map_of_mem (List.mem_filter.mpr ⟨ho, beq_iff_eq.mpr hq⟩)
  · refine List.filter_eq_self.mpr fun o ho => ?_
    rw [Bool.not_eq_true', ← Bool.not_eq_true, List.contains_iff_mem]
    intro hold
    obtain ⟨x, hx, hid⟩ := List.mem_map.mp hold
    have hlt : x.id < nextId rows := lt_nextId (List.mem_filter.mp hx).1
    have := (mem_newOptions ho).1
    omega

lemma filter_question_of_ne (h : other ≠ question) :
    (rows.filter (·.question != question)).filter (·.question == other) =
      rows.filter (·.question == other) := by
  rw [List.filter_filter]
  refine List.filter_congr fun o _ => ?_
  by_cases ho : o.question = other <;> simp [ho, h]

end Options

section Writes

variable {s : Store} {quiz : Int}

lemma options_ask (q : Quiz) (c : CheckedQuestion) {k : Question} (hk : k ∈ s.questions) :
    (withQuestion q c s).options.filter (·.question == k.id) =
      s.options.filter (·.question == k.id) := by
  have hne : nextId s.questions ≠ k.id := (lt_nextId hk).ne'
  rw [withQuestion, append_optionRows, List.filter_append, filter_newOptions_of_ne hne, List.append_nil]

lemma options_rephrase (hn : Numbered s.options) (c : CheckedQuestion) {question other : Int}
    (h : other ≠ question) :
    (replacedOptions question c s.options).filter (·.question == other) =
      s.options.filter (·.question == other) := by
  rw [replacedOptions_eq hn, List.filter_append, filter_question_of_ne h,
    filter_newOptions_of_ne h.symm, List.append_nil]

lemma options_strike (k : Question) {other : Int} (h : other ≠ k.id) :
    (withoutQuestion k s).options.filter (·.question == other) =
      s.options.filter (·.question == other) := filter_question_of_ne h

lemma options_discard (hi : Integrity s) {k : Question} (hk : k ∈ s.questions) (h : k.quiz ≠ quiz) :
    (withoutQuiz quiz s).options.filter (·.question == k.id) =
      s.options.filter (·.question == k.id) := by
  simp only [withoutQuiz, List.filter_filter]
  refine List.filter_congr fun o _ => ?_
  have hkept : ((s.questions.filter (·.quiz == quiz)).map (·.id)).contains k.id = false := by
    rw [← Bool.not_eq_true, List.contains_iff_mem]
    intro hgone
    obtain ⟨x, hx, hid⟩ := List.mem_map.mp hgone
    obtain ⟨hx, hxq⟩ := List.mem_filter.mp hx
    rw [hi.questions.eq_of_id_eq hx hk hid] at hxq
    exact h (eq_of_beq hxq)
  by_cases ho : o.question = k.id
  · rw [ho, hkept, Bool.not_false, Bool.and_true]
  · rw [beq_false_of_ne ho, Bool.false_and]

lemma questions_ask_of_ne {q : Quiz} (h : q.id ≠ quiz) (c : CheckedQuestion) :
    (withQuestion q c s).questions.filter (·.quiz == quiz) =
      s.questions.filter (·.quiz == quiz) := by
  unfold withQuestion
  rw [List.filter_append, List.filter_cons_of_neg (by simpa using h), List.filter_nil, List.append_nil]

lemma id_ne_of_quiz_ne (hn : Numbered s.questions) {k : Question} (hk : k ∈ s.questions)
    (h : k.quiz ≠ quiz) : ∀ x ∈ s.questions.filter (·.quiz == quiz), x.id ≠ k.id := by
  intro x hx hid
  obtain ⟨hx, hxq⟩ := List.mem_filter.mp hx
  rw [hn.eq_of_id_eq hx hk hid] at hxq
  exact h (eq_of_beq hxq)

lemma questions_rephrase_of_ne (hn : Numbered s.questions) {k : Question} (hk : k ∈ s.questions)
    (h : k.quiz ≠ quiz) (c : CheckedQuestion) :
    (modify k.id (withContent c) s.questions).filter (·.quiz == quiz) =
      s.questions.filter (·.quiz == quiz) := by
  rw [filter_modify (f := withContent c) fun _ => rfl]
  exact modify_eq_self (id_ne_of_quiz_ne hn hk h)

lemma placed_of_ne {ordered : List Question} {k : Question} (h : ∀ x ∈ ordered, x.id ≠ k.id) :
    placed ordered k = k := by
  have hnone : ordered.findIdx? (·.id == k.id) = none :=
    List.findIdx?_eq_none_iff.mpr fun x hx => by simpa using h x hx
  simp [placed, hnone]

lemma mem_questionsOf {k : Question} : k ∈ s.questionsOf quiz ↔ k ∈ s.questions ∧ k.quiz = quiz := by
  unfold Store.questionsOf Store.inOrder
  rw [mem_sortBy, List.mem_filter, beq_iff_eq]

lemma questions_strike (k : Question) :
    (withoutQuestion k s).questions.filter (·.quiz == quiz) =
      ((s.questions.filter (·.quiz == quiz)).filter (·.id != k.id)).map
        (placed ((s.questionsOf k.quiz).filter (·.id != k.id))) := by
  have hplaced (ordered : List Question) : (fun x : Question => x.quiz == quiz) ∘ placed ordered =
      fun x => x.quiz == quiz := by
    funext x
    rw [Function.comp_apply, placed_quiz]
  unfold withoutQuestion
  rw [List.filter_map, hplaced, Table.remove, List.filter_comm]
  rfl

lemma questions_strike_apart (hn : Numbered s.questions) {k : Question} (hk : k ∈ s.questions)
    {p : Int → Bool} (h : p k.quiz = false) :
    (withoutQuestion k s).questions.filter (fun x => p x.quiz) = s.questions.filter fun x => p x.quiz := by
  have hother {x : Question} (hx : x ∈ s.questions.filter fun x => p x.quiz) {y : Question}
      (hy : y ∈ s.questions) (hyk : y.quiz = k.quiz) : y.id ≠ x.id := by
    obtain ⟨hx, hxp⟩ := List.mem_filter.mp hx
    intro hid
    rw [← hn.eq_of_id_eq hy hx hid, hyk, h] at hxp
    cases hxp
  have hkept : (s.questions.filter fun x => p x.quiz).filter (fun r => Row.id r != k.id) =
      s.questions.filter fun x => p x.quiz :=
    List.filter_eq_self.mpr fun x hx => bne_iff_ne.mpr (hother hx hk rfl).symm
  have hplaced (ordered : List Question) : (fun x : Question => p x.quiz) ∘ placed ordered =
      fun x => p x.quiz := by
    funext x
    rw [Function.comp_apply, placed_quiz]
  unfold withoutQuestion
  rw [List.filter_map, hplaced, Table.remove, List.filter_comm, hkept]
  conv_rhs => rw [← List.map_id (s.questions.filter fun x => p x.quiz)]
  refine List.map_congr_left fun x hx => placed_of_ne fun y hy => ?_
  obtain ⟨hy, hyk⟩ := mem_questionsOf.mp (List.mem_filter.mp hy).1
  exact hother hx hy hyk

lemma questions_strike_of_ne (hn : Numbered s.questions) {k : Question} (hk : k ∈ s.questions)
    (h : k.quiz ≠ quiz) :
    (withoutQuestion k s).questions.filter (·.quiz == quiz) =
      s.questions.filter (·.quiz == quiz) :=
  questions_strike_apart hn hk (p := (· == quiz)) (beq_false_of_ne h)

lemma questions_discard_of_ne {other : Int} (h : other ≠ quiz) :
    (withoutQuiz quiz s).questions.filter (·.quiz == other) =
      s.questions.filter (·.quiz == other) := by
  unfold withoutQuiz
  rw [List.filter_filter]
  refine List.filter_congr fun k _ => ?_
  by_cases hk : k.quiz = other <;> simp [hk, h]

end Writes

/-- The questions of a quiz and their options are the same in two stores. -/
structure SameContent (quiz : Int) (s s' : Store) : Prop where
  questions : s'.questions.filter (·.quiz == quiz) = s.questions.filter (·.quiz == quiz)
  options : ∀ k ∈ s.questions, k.quiz = quiz →
    s'.options.filter (·.question == k.id) = s.options.filter (·.question == k.id)

/-- What becomes of the row of a quiz that was published: nothing, or it is closed. -/
def Later (q q' : Quiz) : Prop := q' = q ∨ q.status = .published ∧ ∃ now, q' = closed now q

section Steps

variable {ctx : Context} {s s' : Store} {op : Service} {q : Quiz}

lemma SameContent.of_eq {quiz : Int} (questions : s'.questions = s.questions)
    (options : s'.options = s.options) : SameContent quiz s s' :=
  ⟨by rw [questions], fun _ _ _ => by rw [options]⟩

lemma SameContent.questionsOf {quiz : Int} (h : SameContent quiz s s') :
    s'.questionsOf quiz = s.questionsOf quiz := by
  unfold Store.questionsOf
  rw [h.questions]

lemma SameContent.optionsOf {quiz : Int} (h : SameContent quiz s s') {k : Question}
    (hk : k ∈ s.questionsOf quiz) : s'.optionsOf k.id = s.optionsOf k.id := by
  obtain ⟨hk, hq⟩ := mem_questionsOf.mp hk
  unfold Store.optionsOf
  rw [h.options k hk hq]

lemma id_ne_of_draft (hi : Integrity s) (hq : q ∈ s.quizzes) (taken : q.status ≠ .draft) {d : Quiz}
    (hd : d ∈ s.quizzes) (draft : d.status = .draft) : d.id ≠ q.id := by
  intro hid
  rw [hi.quizzes.eq_of_id_eq hd hq hid] at draft
  exact taken draft

lemma Write.sameContent (hi : Integrity s) (hq : q ∈ s.quizzes) (taken : q.status ≠ .draft) {c : Call}
    (w : Write ctx s c s') : SameContent q.id s s' := by
  cases w with
  | draft | publish | close => exact .of_eq rfl rfl
  | ask found editable =>
    have hne := id_ne_of_draft hi hq taken (owned_eq_ok found).1 editable
    exact ⟨questions_ask_of_ne hne _, fun k hk _ => options_ask _ _ hk⟩
  | rephrase found editable =>
    obtain ⟨hk, hd, hkd, -⟩ := ownedQuestion_eq_ok found
    have hne := id_ne_of_draft hi hq taken hd editable
    rw [← hkd] at hne
    refine ⟨questions_rephrase_of_ne hi.questions hk hne _, fun x hx hxq => ?_⟩
    refine options_rephrase hi.options _ (id_ne_of_quiz_ne hi.questions hk hne x ?_)
    exact List.mem_filter.mpr ⟨hx, beq_iff_eq.mpr hxq⟩
  | strike found editable =>
    obtain ⟨hk, hd, hkd, -⟩ := ownedQuestion_eq_ok found
    have hne := id_ne_of_draft hi hq taken hd editable
    rw [← hkd] at hne
    refine ⟨questions_strike_of_ne hi.questions hk hne, fun x hx hxq => ?_⟩
    refine options_strike _ (id_ne_of_quiz_ne hi.questions hk hne x ?_)
    exact List.mem_filter.mpr ⟨hx, beq_iff_eq.mpr hxq⟩
  | discard found editable =>
    have hne := id_ne_of_draft hi hq taken (owned_eq_ok found).1 editable
    exact ⟨questions_discard_of_ne hne.symm, fun k hk hkq => options_discard hi hk (hkq ▸ hne.symm)⟩

lemma Write.later (hi : Integrity s) (hq : q ∈ s.quizzes) (taken : q.status ≠ .draft) {c : Call}
    (w : Write ctx s c s') : ∃ q' ∈ s'.quizzes, Later q q' := by
  cases w with
  | draft => exact ⟨q, List.mem_append_left _ hq, .inl rfl⟩
  | ask | rephrase | strike => exact ⟨q, hq, .inl rfl⟩
  | discard found editable =>
    have hne := id_ne_of_draft hi hq taken (owned_eq_ok found).1 editable
    exact ⟨q, List.mem_filter.mpr ⟨hq, bne_iff_ne.mpr hne.symm⟩, .inl rfl⟩
  | publish found editable =>
    have hd := (owned_eq_ok found).1
    have hne := id_ne_of_draft hi hq taken hd editable
    exact ⟨q, (mem_modify hi.quizzes hd).mpr (.inr ⟨hq, hne.symm⟩), .inl rfl⟩
  | @close _ _ d found open' =>
    have hd := (owned_eq_ok found).1
    by_cases hid : q.id = d.id
    · obtain rfl : q = d := hi.quizzes.eq_of_id_eq hq hd hid
      exact ⟨closed ctx.now q, (mem_modify hi.quizzes hd).mpr (.inl rfl), .inr ⟨open', _, rfl⟩⟩
    · exact ⟨q, (mem_modify hi.quizzes hd).mpr (.inr ⟨hq, hid⟩), .inl rfl⟩

end Steps

end Assessment.Quiz
