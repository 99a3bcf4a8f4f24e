import Assessment.Proofs.Attempt.Starting
import Assessment.Proofs.References

/-!
# Edits of questions

A question that is added to a draft takes the next number and the last position, so removing it again leaves
the store as it was. A question that is removed lets the others of its quiz move up, and one that is given new
content keeps its number and its position; other questions and other quizzes do not notice.
-/

namespace Assessment.Quiz

open Access Request Table

/-- A question of a quiz is gone with its options. The others follow each other as before, from position one
on, and everything else is as it was. -/
structure Strikes (q : Quiz) (k : Question) (s t : Store) : Prop where
  remaining : t.questionsOf q.id =
    ((s.questionsOf q.id).filter (·.id != k.id)).mapIdx fun i x => { x with order := .whole (i + 1 : Nat) }
  others : t.questions.filter (·.quiz != q.id) = s.questions.filter (·.quiz != q.id)
  options : t.options = s.options.filter (·.question != k.id)
  frame : t = { s with questions := t.questions, options := t.options }

/-- A question of a quiz has new content, in its place and under its number, and its options are those of the
content, in this order. Everything else is as it was. -/
structure Rewrites (q : Quiz) (k : Question) (c : CheckedQuestion) (s t : Store) : Prop where
  questions : t.questions = modify k.id (withContent c) s.questions
  inPlace : t.questionsOf q.id = modify k.id (withContent c) (s.questionsOf q.id)
  options : (t.optionsOf k.id).map (fun o => (o.text, o.correct)) = c.options
  others : t.options.filter (·.question != k.id) = s.options.filter (·.question != k.id)
  frame : t = { s with questions := t.questions, options := t.options }

section Edits

lemma filter_concat_self {α : Type} {rows : List α} {r : α} {p : α → Bool} (h : ∀ x ∈ rows, p x = true)
    (hr : p r = false) : (rows ++ [r]).filter p = rows := by
  rw [List.filter_append, List.filter_eq_self.mpr h, List.filter_cons_of_neg (by simp [hr]), List.filter_nil,
    List.append_nil]

variable {ctx : Context} {caller : Caller} {s t : Store} {q : Quiz} {k : Question} {c : CheckedQuestion}

/-- The question that is added. -/
def asked (q : Quiz) (c : CheckedQuestion) (s : Store) : Question :=
  ⟨nextId s.questions, q.id, c.text, c.kind, storedPoints c, .whole ((s.questionsOf q.id).length + 1 : Nat)⟩

lemma questions_withQuestion : (withQuestion q c s).questions = s.questions ++ [asked q c s] := rfl

lemma questionsOf_withQuestion (hp : AllInPlace s) :
    (withQuestion q c s).questionsOf q.id = s.questionsOf q.id ++ [asked q c s] := by
  have hown : [asked q c s].filter (·.quiz == q.id) = [asked q c s] :=
    List.filter_eq_self.mpr fun x hx => by rw [List.mem_singleton.mp hx]; exact beq_self_eq_true q.id
  rw [questionsOf_eq (hp.ask q c), questions_withQuestion, List.filter_append, hown, questionsOf_eq hp]

/-- A question that is added and removed again leaves nothing behind. -/
lemma withoutQuestion_withQuestion (hi : Integrity s) (hp : AllInPlace s) (q : Quiz) (c : CheckedQuestion) :
    withoutQuestion (asked q c s) (withQuestion q c s) = s := by
  have hother {x : Question} (hx : x ∈ s.questions) : x.id ≠ nextId s.questions := (lt_nextId hx).ne
  have hremaining : ((withQuestion q c s).questionsOf q.id).filter (·.id != (asked q c s).id) =
      s.questionsOf q.id := by
    rw [questionsOf_withQuestion hp]
    refine filter_concat_self (fun x hx => ?_) (bne_self_eq_false _)
    exact bne_iff_ne.mpr (hother (mem_questionsOf.mp hx).1)
  have hrows : remove (asked q c s).id (withQuestion q c s).questions = s.questions :=
    filter_concat_self (fun x hx => bne_iff_ne.mpr (hother hx)) (bne_self_eq_false _)
  have hplaced : s.questions.map (placed (s.questionsOf q.id)) = s.questions := by
    conv_rhs => rw [← List.map_id s.questions]
    refine List.map_congr_left fun x hx => ?_
    rw [questionsOf_eq hp]
    by_cases hquiz : x.quiz = q.id
    · exact (hp q.id).placed_eq (hi.questions.filter _) (List.mem_filter.mpr ⟨hx, beq_iff_eq.mpr hquiz⟩)
    · exact placed_of_ne (id_ne_of_quiz_ne hi.questions hx hquiz)
  have hoptions : (withQuestion q c s).options.filter (·.question != (asked q c s).id) = s.options := by
    have hold : s.options.filter (·.question != nextId s.questions) = s.options :=
      List.filter_eq_self.mpr fun o ho => bne_iff_ne.mpr (hi.optionQuestion.ne_nextId ho)
    have hnew : (newOptions (nextId s.questions) (nextId s.options) c.options).filter
        (·.question != nextId s.questions) = [] :=
      List.filter_eq_nil_iff.mpr fun o ho => by simp [(mem_newOptions ho).2]
    change (append s.options (optionRows (nextId s.questions) c.options)).filter
      (·.question != nextId s.questions) = _
    rw [append_optionRows, List.filter_append, hold, hnew, List.append_nil]
  unfold withoutQuestion
  change { withQuestion q c s with
    questions := (remove (asked q c s).id (withQuestion q c s).questions).map
      (placed (((withQuestion q c s).questionsOf q.id).filter (·.id != (asked q c s).id)))
    options := (withQuestion q c s).options.filter (·.question != (asked q c s).id) } = s
  rw [hremaining, hrows, hplaced, hoptions]
  rfl

lemma strikes_without (hi : Integrity s) (hp : AllInPlace s) (hk : k ∈ s.questions) (quiz : k.quiz = q.id) :
    Strikes q k s (withoutQuestion k s) where
  remaining := by
    rw [questionsOf_eq (hp.strike hi.questions hk), questions_strike, quiz, questionsOf_eq hp]
    exact map_placed ((hi.questions.filter _).filter _)
  others := questions_strike_apart hi.questions hk (p := (· != q.id)) (by simp [quiz])
  options := rfl
  frame := rfl

lemma rewrites_replaced (hi : Integrity s) (hp : AllInPlace s) (hk : k ∈ s.questions) (c : CheckedQuestion) :
    Rewrites q k c s { s with
      questions := modify k.id (withContent c) s.questions
      options := replacedOptions k.id c s.options } where
  questions := rfl
  inPlace := by
    rw [questionsOf_eq (hp.rephrase k.id c _), questionsOf_eq hp]
    exact filter_modify (f := withContent c) fun _ => rfl
  options := by
    have hold : (s.options.filter (·.question != k.id)).filter (·.question == k.id) = [] :=
      List.filter_eq_nil_iff.mpr fun o ho => by simpa using (List.mem_filter.mp ho).2
    rw [optionsOf_eq (hi.rephrase hk c).options]
    change ((replacedOptions k.id c s.options).filter _).map _ = _
    rw [replacedOptions_eq hi.options, List.filter_append, hold, filter_newOptions, List.nil_append,
      newOptions_contents]
  others := by
    have hnew : (newOptions k.id (nextId s.options) c.options).filter (·.question != k.id) = [] :=
      List.filter_eq_nil_iff.mpr fun o ho => by simp [(mem_newOptions ho).2]
    change (replacedOptions k.id c s.options).filter _ = _
    rw [replacedOptions_eq hi.options, List.filter_append, hnew, List.append_nil, List.filter_filter]
    simp only [Bool.and_self]
  frame := rfl

end Edits

section Runs

variable {P : Context → Service → Prop} {s : Store}

/-- In every store that can be reached, whoever adds a question to a draft may delete it again, and that leaves
the very store from before. Whoever may edit a draft may delete any question of it, which removes the question
and its options and lets the others follow each other from position one on; and a question that is given new
content, as it is whenever the content passes the checks and has texts with an encoding, keeps its number and
its position, and has the options that were given, without blanks around them, in the order given. Nothing
else changes. -/
theorem question_edits_are_local (h : Reachable P s) (ctx : Context) (caller : Caller) :
    (∀ quiz r a t, (addQuestion ctx caller quiz r).run s = .ok (a, t) →
      ∀ question, readPositive "Question id" question = .ok a.question → isStorable a.question = true →
        ∃ answer, (deleteQuestion ctx caller question).run t = .ok (answer, s)) ∧
    ∀ q, MayEdit ctx caller s q → ∀ k ∈ s.questions, k.quiz = q.id → ∀ question,
      readPositive "Question id" question = .ok k.id → isStorable k.id = true →
      (∃ t, (deleteQuestion ctx caller question).run s =
          .ok ((q.id, ((s.questionsOf q.id).filter (·.id != k.id)).length), t) ∧ Strikes q k s t) ∧
      (∀ r c, checkQuestion Kind.all r = .ok c → (textsOf c).all Text.hasEncoding = true →
        ∃ t, (updateQuestion ctx caller question r).run s = .ok (k.id, t)) ∧
      ∀ r a t, (updateQuestion ctx caller question r).run s = .ok (a, t) → a = k.id ∧
        ∃ given c, readItems r.options = .ok given ∧ c.options = given.map readOption ∧
          checkQuestion Kind.all r = .ok c ∧ Rewrites q k c s t := by
  obtain ⟨hi, ha⟩ := Attempting.integrity_of_reachable h
  have hs := Attempting.grounded_of_reachable h
  have hp := Attempting.inPlace_of_reachable h
  refine ⟨fun quiz r a t added question named storable => ?_, fun q may k hk quiz question named storable =>
    ⟨?_, fun r c valid fits => ?_, fun r a t updated => ?_⟩⟩
  · have w : Step ctx s (.call (.addQuestion caller quiz r)) t := .quiz (addQuestion_writes added)
    obtain ⟨q, c, found, draft, -, -, hid, rfl⟩ := addQuestion_eq_ok added
    obtain ⟨hq, teaches⟩ := owned_eq_ok found
    have may : MayEdit ctx caller (withQuestion q c s) q := ⟨hq, draft, teaches⟩
    have hk : asked q c s ∈ (withQuestion q c s).questions :=
      List.mem_append_right _ (List.mem_singleton_self _)
    have hnumber : (asked q c s).id = a.question := hid.symm
    have hgrounded : ∀ r ∈ s.selections, Attempting.Grounded (withQuestion q c s) r :=
      fun r hr => (hs r hr).step hi ha w
    have hrun := deleteQuestion_run (hi.step w) (ha.step hi w) hgrounded may hk rfl
      (hnumber ▸ named) (hnumber ▸ storable)
    rw [withoutQuestion_withQuestion hi hp] at hrun
    exact ⟨_, hrun⟩
  · exact ⟨_, deleteQuestion_run hi ha hs may hk quiz named storable, strikes_without hi hp hk quiz⟩
  · exact ⟨_, updateQuestion_run hi ha hs may hk quiz named storable valid fits⟩
  · obtain ⟨x, _, c, found, -, valid, -, rfl, rfl⟩ := updateQuestion_eq_ok updated
    obtain ⟨hnamed, hfind, -⟩ := ownedQuestion_found found
    obtain ⟨hx, -⟩ := mem_of_find? hfind
    have hid : x.id = k.id := Except.ok.inj (hnamed.symm.trans named)
    obtain rfl := hi.questions.eq_of_id_eq hx hk hid
    obtain ⟨-, given, hgiven, hoptions⟩ := checkQuestion_given valid
    exact ⟨rfl, given, c, hgiven, hoptions, valid, rewrites_replaced hi hp hk c⟩

end Runs

/-- Three questions are asked in a draft beside a quiz that a student has submitted. -/
def threeAsked : Store :=
  let option (text : String) (correct : Bool) : Value :=
    .object [("answer_text", .text text), ("is_correct", .bool correct)]
  let ask (text : String) : Service := .call (.addQuestion ⟨.int 1, "TEACHER"⟩ (.int 2)
    ⟨.text text, .text "TRUE_FALSE", .int 1, .list [option "True" true, option "False" false]⟩)
  (Scenario.State.start .standard).context.serve [ask "2 * 2 = 4", ask "2 * 3 = 6", ask "2 * 4 = 8"]
    begunBesideDraft

/-- The teacher adds a fourth question and removes it again, removes the first one, or gives the second one new
content. -/
theorem question_edits_are_local_of_three :
    let ctx := (Scenario.State.start .standard).context
    let teacher : Caller := ⟨.int 1, "TEACHER"⟩
    let s := threeAsked
    let option (text : String) (correct : Bool) : Value :=
      .object [("answer_text", .text text), ("is_correct", .bool correct)]
    let r : QuestionRequest :=
      ⟨.text "2 * 5", .text "mcq", .int 2, .list [option " 7 " false, option "10" true]⟩
    (∃ a t answer, (addQuestion ctx teacher (.int 2) r).run s = .ok (a, t) ∧ a.question = 14 ∧
        (deleteQuestion ctx teacher (.int 14)).run t = .ok (answer, s)) ∧
      ∃ q ∈ s.quizzes, ∃ k ∈ s.questions, ∃ l ∈ s.questions, q.id = 2 ∧ k.id = 11 ∧ l.id = 12 ∧
        (∃ t, (deleteQuestion ctx teacher (.int 11)).run s = .ok ((2, 2), t) ∧ Strikes q k s t) ∧
        ∃ t c, (updateQuestion ctx teacher (.int 12) r).run s = .ok (12, t) ∧
          c.options = [("7", false), ("10", true)] ∧ Rewrites q l c s t := by
  intro ctx teacher s option r
  have hbegun : Reachable (fun _ _ => True) Attempting.begunAndSubmitted := .serve (fun _ _ => trivial) _ _ _
  have hdraft : Reachable (fun _ _ => True) begunBesideDraft := hbegun.run (.serve fun _ _ => trivial)
  have h : Reachable (fun _ _ => True) s := hdraft.run (.serve fun _ _ => trivial)
  have hadded : ((addQuestion ctx teacher (.int 2) r).run s).toOption.map (·.1.question) = some 14 := by
    decide +kernel
  have hquiz : ∃ q ∈ s.quizzes, ∃ k ∈ s.questions, ∃ l ∈ s.questions,
      (q.id = 2 ∧ q.status = .draft ∧ q.classSection = 1) ∧ (k.id = 11 ∧ k.quiz = 2) ∧
        (l.id = 12 ∧ l.quiz = 2) ∧ ((s.questionsOf 2).filter (·.id != 11)).length = 2 := by decide +kernel
  have hteaches : Access.requireSectionTeacher (ctx.directory s) teacher (.int 1) = .ok () := by decide +kernel
  clear_value s
  obtain ⟨hundo, hedits⟩ := question_edits_are_local h ctx teacher
  obtain ⟨q, hq, k, hk, l, hl, ⟨hid, draft, hsection⟩, ⟨hkid, hkq⟩, ⟨hlid, hlq⟩, hcount⟩ := hquiz
  have may : MayEdit ctx teacher s q := ⟨hq, draft, by rw [hsection]; exact hteaches⟩
  refine ⟨?_, q, hq, k, hk, l, hl, hid, hkid, hlid, ?_, ?_⟩
  · rcases hrun : (addQuestion ctx teacher (.int 2) r).run s with _ | ⟨a, t⟩
    · rw [hrun] at hadded
      cases hadded
    · rw [hrun] at hadded
      have hnumber : a.question = 14 := Option.some.inj hadded
      obtain ⟨answer, hback⟩ := hundo (.int 2) r a t hrun (.int 14) (by rw [hnumber]; rfl)
        (by rw [hnumber]; rfl)
      exact ⟨a, t, answer, rfl, hnumber, hback⟩
  · obtain ⟨⟨t, hrun, strikes⟩, -⟩ := hedits q may k hk (hkq.trans hid.symm) (.int 11) (by rw [hkid]; rfl)
      (by rw [hkid]; rfl)
    rw [hid, hkid, hcount] at hrun
    exact ⟨t, hrun, strikes⟩
  · obtain ⟨-, hvalid, hupdated⟩ := hedits q may l hl (hlq.trans hid.symm) (.int 12) (by rw [hlid]; rfl)
      (by rw [hlid]; rfl)
    have hchecked : (checkQuestion Kind.all r).toOption.map (fun c => (textsOf c).all Text.hasEncoding) =
        some true := by decide +kernel
    rcases hc : checkQuestion Kind.all r with fault | c
    · rw [hc] at hchecked
      cases hchecked
    · rw [hc] at hchecked
      obtain ⟨t, hrun⟩ := hvalid r c hc (Option.some.inj hchecked)
      obtain ⟨-, given, c, hgiven, hoptions, -, rewrites⟩ := hupdated r l.id t hrun
      obtain rfl : [option " 7 " false, option "10" true] = given := Except.ok.inj hgiven
      rw [hlid] at hrun
      exact ⟨t, c, hrun, hoptions.trans (by decide +kernel), rewrites⟩

end Assessment.Quiz
