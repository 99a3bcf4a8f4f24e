import Assessment.Proofs.Attempt.Selections
import Assessment.Proofs.Gradebook.Integrity
import Assessment.Proofs.Sync.Integrity

/-!
# References do not dangle

Every row that names another one finds it in its table. Attempts, and so selections and jobs, only ever
point into quizzes that were published; so nothing points into a draft but its own questions and options,
and whoever may edit a draft may remove it, or parts of it, with all that belongs to them.
-/

namespace Assessment

open Access Quiz Request Table

/-- What a row refers to is there. -/
structure References (s : Store) : Prop where
  questionQuiz : Refers Question.quiz s.questions s.quizzes
  optionQuestion : Refers AnswerOption.question s.options s.questions
  attemptQuiz : Refers Attempt.quiz s.attempts s.quizzes
  /-- The attempt, the question and the option of a selection. -/
  selections : ∀ r ∈ s.selections, Attempting.Grounded s r
  itemBook : Refers GradeItem.book s.items s.books
  approvalBook : Refers Approval.book s.approvals s.books
  entryItem : Refers GradeEntry.item s.entries s.items
  auditEntry : Refers AuditRow.entry s.audits s.entries
  jobAttempt : Refers SyncJob.attempt s.jobs s.attempts

/-- A caller may edit a quiz: it is a draft of a section that the caller teaches. -/
structure MayEdit (ctx : Context) (caller : Caller) (s : Store) (q : Quiz) : Prop where
  found : q ∈ s.quizzes
  draft : q.status = .draft
  teaches : requireSectionTeacher (ctx.directory s) caller (.int q.classSection) = .ok ()

/-- A call is answered with success. -/
def Call.Succeeds (ctx : Context) (c : Call) (s : Store) : Prop :=
  ∃ data, (c.answer ctx (.ofStore s)).1 = some (.success data)

/-- A quiz is gone with its questions and their options, and everything else is as it was. -/
structure RemovesQuiz (q : Quiz) (s t : Store) : Prop where
  quizzes : t.quizzes = s.quizzes.filter (·.id != q.id)
  questions : t.questions = s.questions.filter (·.quiz != q.id)
  options : t.options.Sublist s.options ∧
    ∀ o ∈ s.options, o ∈ t.options ↔ ∀ k ∈ s.questions, k.id = o.question → k.quiz ≠ q.id
  frame : t = { s with quizzes := t.quizzes, questions := t.questions, options := t.options }

/-- A question is gone with its options. The other questions of its quiz may have moved up, and everything
else is as it was. -/
structure RemovesQuestion (k : Question) (s t : Store) : Prop where
  questions : List.Forall₂ (fun x y => y = { x with order := y.order } ∧ (x.quiz ≠ k.quiz → y = x))
    (s.questions.filter (·.id != k.id)) t.questions
  options : t.options = s.options.filter (·.question != k.id)
  frame : t = { s with questions := t.questions, options := t.options }

/-- A question has new content, its options are gone, new ones are in their place, and everything else is
as it was. -/
structure ReplacesContent (k : Question) (c : CheckedQuestion) (s t : Store) : Prop where
  questions : t.questions = Table.modify k.id (withContent c) s.questions
  options : ∃ new, t.options = s.options.filter (·.question != k.id) ++ new ∧
    (∀ o ∈ new, o.question = k.id) ∧ new.map (fun o => (o.text, o.correct)) = c.options
  frame : t = { s with questions := t.questions, options := t.options }

section Calls

variable {α : Type} {ctx : Context} {c : Call} {s : Store}

lemma isSuccess_iff {o : Option Outcome} : o.any Outcome.isSuccess = true ↔ ∃ data, o = some (.success data) := by
  rcases o with _ | _ | _ <;> simp [Outcome.isSuccess]

instance : Decidable (c.Succeeds ctx s) :=
  decidable_of_iff _ isSuccess_iff

lemma Call.Succeeds.ran {a : Action α} {report : Store → α → Value} (h : c.Succeeds ctx s)
    (run : c.run ctx = Call.reported a report) :
    ∃ x σ, a (.ofStore s) = (.ok x, σ) ∧ (Service.call c).after ctx s = σ.store := by
  have hafter : (Service.call c).after ctx s = (c.run ctx (.ofStore s)).2.store :=
    congrArg Session.store (answer_session c _)
  obtain ⟨data, hdata⟩ := h
  rw [hafter, run]
  rcases hrun : Call.reported a report (.ofStore s) with ⟨fault | found, σ⟩
  · rw [answer_of_error (congrArg Prod.fst (run ▸ hrun))] at hdata
    cases hdata
  · obtain ⟨x, τ, hx, hreport⟩ := Action.bind_succeeded hrun
    obtain ⟨-, rfl⟩ := Action.read_eq_ok.mp hreport
    exact ⟨x, τ, hx, rfl⟩

lemma Call.Succeeds.committed {t : Transaction α} {report : Store → α → Value} (h : c.Succeeds ctx s)
    (run : c.run ctx = Call.reported (Action.commit t) report) :
    ∃ a, t.run s = .ok (a, (Service.call c).after ctx s) := by
  obtain ⟨a, σ, hcommit, hafter⟩ := h.ran run
  rw [hafter]
  exact ⟨a, (Action.commit_succeeded rfl hcommit).1⟩

end Calls

section Drafts

variable {P : Context → Service → Prop} {ctx : Context} {caller : Caller} {s : Store} {q : Quiz} {k : Question}

lemma references_of_reachable (h : Reachable P s) : References s := by
  obtain ⟨hi, ha⟩ := Attempting.integrity_of_reachable h
  have hb := Gradebook.integrity_of_reachable h
  refine ⟨hi.questionQuiz, hi.optionQuestion, fun a hmem => ?_, Attempting.grounded_of_reachable h,
    hb.itemBook, hb.approvalBook, hb.entryItem, hb.auditEntry,
    (Sync.queueIntegrity_of_reachable h).attempts⟩
  obtain ⟨q, hq, hid, -⟩ := ha.quizzes a hmem
  exact ⟨q, hq, hid⟩

/-- Nobody has attempted a draft. -/
lemma unattempted_of_draft (hi : Quiz.Integrity s) (ha : Attempting.Integrity s) (hq : q ∈ s.quizzes)
    (draft : q.status = .draft) {a : Attempt} (hmem : a ∈ s.attempts) : a.quiz ≠ q.id := by
  intro hquiz
  obtain ⟨x, hx, hid, taken⟩ := ha.quizzes a hmem
  rw [hi.quizzes.eq_of_id_eq hx hq (hid.trans hquiz)] at taken
  exact taken draft

lemma unselected_of_draft (hi : Quiz.Integrity s) (ha : Attempting.Integrity s)
    (hs : ∀ r ∈ s.selections, Attempting.Grounded s r) (hq : q ∈ s.quizzes) (draft : q.status = .draft)
    (hk : k ∈ s.questions) (quiz : k.quiz = q.id) :
    s.selections.any (·.question == k.id) = false ∧ hasSelectedOption s k.id = false := by
  -- A selection that named the question would be of an attempt at the draft.
  have hother {a : Attempt} {x : Question} (hmem : a ∈ s.attempts) (hx : x ∈ s.questions)
      (hxq : x.quiz = a.quiz) : x.id ≠ k.id := by
    intro hid
    rw [hi.questions.eq_of_id_eq hx hk hid, quiz] at hxq
    exact unattempted_of_draft hi ha hq draft hmem hxq.symm
  constructor
  · rw [List.any_eq_false]
    intro r hr
    obtain ⟨a, hmem, -, x, hx, hid, hxq, -⟩ := hs r hr
    simpa [← hid] using hother hmem hx hxq
  · rw [hasSelectedOption, List.any_eq_false]
    intro o ho hboth
    simp only [Bool.and_eq_true, beq_iff_eq, List.any_eq_true] at hboth
    obtain ⟨hok, r, hr, hselected⟩ := hboth
    obtain ⟨a, hmem, -, x, hx, -, hxq, hoptions⟩ := hs r hr
    obtain ⟨y, hy, hid, hyx⟩ := hoptions _ hselected
    rw [hi.options.eq_of_id_eq hy ho hid, hok] at hyx
    exact hother hmem hx hxq hyx.symm

lemma owned_of_mayEdit (hi : Quiz.Integrity s) (h : MayEdit ctx caller s q) {quiz : Value}
    (named : readPositive "Quiz id" quiz = .ok q.id) (storable : isStorable q.id = true) :
    owned ctx caller quiz s = .ok q := by
  have hfind : Table.find? q.id s.quizzes = some q := find?_of_mem hi.quizzes h.found
  simp [owned, named, readRow?, storable, hfind, h.teaches]

lemma ownedQuestion_of_mayEdit (hi : Quiz.Integrity s) (h : MayEdit ctx caller s q) (hk : k ∈ s.questions)
    (quiz : k.quiz = q.id) {question : Value} (named : readPositive "Question id" question = .ok k.id)
    (storable : isStorable k.id = true) : ownedQuestion ctx caller question s = .ok (k, q) := by
  have hfind : Table.find? k.id s.questions = some k := find?_of_mem hi.questions hk
  have hquiz : Table.find? k.quiz s.quizzes = some q := quiz ▸ find?_of_mem hi.quizzes h.found
  simp [ownedQuestion, named, readRow?, storable, hfind, hquiz, h.teaches]

lemma committed {α : Type} {c : Call} {t : Transaction α} {report : Store → α → Value} {a : α} {s' : Store}
    (run : c.run ctx = Call.reported (Action.commit t) report) (h : t.run s = .ok (a, s')) :
    c.Succeeds ctx s ∧ (Service.call c).after ctx s = s' := by
  have hrun : c.run ctx (.ofStore s) = (.ok (some (report s' a)), { Session.ofStore s with store := s' }) := by
    rw [run]
    exact Action.bind_of_ok (Action.commit_of_ok rfl h)
  refine ⟨⟨_, answer_of_ok (congrArg Prod.fst hrun)⟩, ?_⟩
  change (c.answer ctx (.ofStore s)).2.store = s'
  rw [answer_session, hrun]

lemma removesQuiz_without (q : Quiz) : RemovesQuiz q s (withoutQuiz q.id s) where
  quizzes := rfl
  questions := rfl
  options := by
    refine ⟨List.filter_sublist, fun o ho => ?_⟩
    simp only [withoutQuiz, List.mem_filter, ho, true_and, Bool.not_eq_true', ← Bool.not_eq_true,
      List.contains_iff_mem, List.mem_map, beq_iff_eq, not_exists, not_and, and_imp]
    exact ⟨fun h k hk hid hquiz => h k hk hquiz hid, fun h k hk hquiz hid => h k hk hid hquiz⟩
  frame := rfl

lemma placed_order (ordered : List Question) (k : Question) :
    placed ordered k = { k with order := (placed ordered k).order } := by
  unfold placed
  split <;> rfl

lemma removesQuestion_without (hi : Quiz.Integrity s) (k : Question) :
    RemovesQuestion k s (withoutQuestion k s) where
  questions := by
    refine List.forall₂_map_right_iff.mpr (List.forall₂_same.mpr fun x hx => ⟨placed_order _ x, fun hne => ?_⟩)
    refine placed_of_ne fun y hy hid => hne ?_
    obtain ⟨hy, hquiz⟩ := mem_questionsOf.mp (List.mem_filter.mp hy).1
    rw [← hi.questions.eq_of_id_eq hy (List.mem_filter.mp hx).1 hid, hquiz]
  options := rfl
  frame := rfl

lemma replacesContent_replaced (hi : Quiz.Integrity s) (k : Question) (c : CheckedQuestion) :
    ReplacesContent k c s { s with
      questions := Table.modify k.id (withContent c) s.questions
      options := replacedOptions k.id c s.options } where
  questions := rfl
  options := ⟨_, replacedOptions_eq hi.options c, fun _ ho => (mem_newOptions ho).2, newOptions_contents⟩
  frame := rfl

lemma deleteQuiz_succeeds (hi : Quiz.Integrity s) (ha : Attempting.Integrity s)
    (h : MayEdit ctx caller s q) {quiz : Value} (named : readPositive "Quiz id" quiz = .ok q.id)
    (storable : isStorable q.id = true) :
    (Call.deleteQuiz caller quiz).Succeeds ctx s ∧
      RemovesQuiz q s ((Service.call (.deleteQuiz caller quiz)).after ctx s) := by
  have hunattempted : s.attempts.any (·.quiz == q.id) = false := by
    rw [List.any_eq_false]
    exact fun a hmem => by simpa using unattempted_of_draft hi ha h.found h.draft hmem
  have hremove : removeQuiz q.id s = .ok ((), withoutQuiz q.id s) := by
    rw [removeQuiz, hunattempted]
    rfl
  have hrun : (deleteQuiz ctx caller quiz).run s = .ok (q.id, withoutQuiz q.id s) := by
    simp [deleteQuiz, owned_of_mayEdit hi h named storable, requireDraft, h.draft, hremove]
  obtain ⟨hsuccess, hafter⟩ := committed (c := .deleteQuiz caller quiz) rfl hrun
  exact ⟨hsuccess, hafter ▸ removesQuiz_without q⟩

lemma deleteQuestion_run (hi : Quiz.Integrity s) (ha : Attempting.Integrity s)
    (hs : ∀ r ∈ s.selections, Attempting.Grounded s r) (h : MayEdit ctx caller s q)
    (hk : k ∈ s.questions) (quiz : k.quiz = q.id) {question : Value}
    (named : readPositive "Question id" question = .ok k.id) (storable : isStorable k.id = true) :
    (deleteQuestion ctx caller question).run s =
      .ok ((q.id, ((s.questionsOf q.id).filter (·.id != k.id)).length), withoutQuestion k s) := by
  obtain ⟨hunanswered, hunselected⟩ := unselected_of_draft hi ha hs h.found h.draft hk quiz
  have hremove : removeQuestion k s =
      .ok (((s.questionsOf q.id).filter (·.id != k.id)).length, withoutQuestion k s) := by
    rw [removeQuestion, hunanswered, hunselected, ← quiz]
    rfl
  simp [deleteQuestion, ownedQuestion_of_mayEdit hi h hk quiz named storable, requireDraft, h.draft, hremove]

lemma deleteQuestion_succeeds (hi : Quiz.Integrity s) (ha : Attempting.Integrity s)
    (hs : ∀ r ∈ s.selections, Attempting.Grounded s r) (h : MayEdit ctx caller s q)
    (hk : k ∈ s.questions) (quiz : k.quiz = q.id) {question : Value}
    (named : readPositive "Question id" question = .ok k.id) (storable : isStorable k.id = true) :
    (Call.deleteQuestion caller question).Succeeds ctx s ∧
      RemovesQuestion k s ((Service.call (.deleteQuestion caller question)).after ctx s) := by
  have hrun := deleteQuestion_run hi ha hs h hk quiz named storable
  obtain ⟨hsuccess, hafter⟩ := committed (c := .deleteQuestion caller question) rfl hrun
  exact ⟨hsuccess, hafter ▸ removesQuestion_without hi k⟩

lemma updateQuestion_run (hi : Quiz.Integrity s) (ha : Attempting.Integrity s)
    (hs : ∀ r ∈ s.selections, Attempting.Grounded s r) (h : MayEdit ctx caller s q)
    (hk : k ∈ s.questions) (quiz : k.quiz = q.id) {question : Value}
    (named : readPositive "Question id" question = .ok k.id) (storable : isStorable k.id = true)
    {r : QuestionRequest} {c : CheckedQuestion} (valid : checkQuestion Kind.all r = .ok c)
    (fits : (textsOf c).all Text.hasEncoding = true) :
    (updateQuestion ctx caller question r).run s = .ok (k.id, { s with
      questions := Table.modify k.id (withContent c) s.questions
      options := replacedOptions k.id c s.options }) := by
  obtain ⟨-, hunselected⟩ := unselected_of_draft hi ha hs h.found h.draft hk quiz
  have hreplace : replaceQuestion k.id c s = .ok ((), { s with
      questions := Table.modify k.id (withContent c) s.questions
      options := replacedOptions k.id c s.options }) := by
    simp [replaceQuestion, requireEncoding, fits, hunselected, replacedOptions]
  simp [updateQuestion, ownedQuestion_of_mayEdit hi h hk quiz named storable, requireDraft, h.draft, valid,
    hreplace]

lemma updateQuestion_succeeds (hi : Quiz.Integrity s) (ha : Attempting.Integrity s)
    (hs : ∀ r ∈ s.selections, Attempting.Grounded s r) (h : MayEdit ctx caller s q)
    (hk : k ∈ s.questions) (quiz : k.quiz = q.id) {question : Value}
    (named : readPositive "Question id" question = .ok k.id) (storable : isStorable k.id = true)
    {r : QuestionRequest} {c : CheckedQuestion} (valid : checkQuestion Kind.all r = .ok c)
    (fits : (textsOf c).all Text.hasEncoding = true) :
    (Call.updateQuestion caller question r).Succeeds ctx s ∧
      ReplacesContent k c s ((Service.call (.updateQuestion caller question r)).after ctx s) := by
  have hrun := updateQuestion_run hi ha hs h hk quiz named storable valid fits
  obtain ⟨hsuccess, hafter⟩ := committed (c := .updateQuestion caller question r) rfl hrun
  exact ⟨hsuccess, hafter ▸ replacesContent_replaced hi k c⟩

end Drafts

/-- In every store that can be reached, what a row refers to is there. So whoever may edit a draft succeeds in
deleting it, in deleting a question of it and in giving a question new content that passes the checks of a
question and whose texts have an encoding; and what is removed is what belongs to the quiz, or to the
question, and nothing else. -/
theorem references_never_dangle {P : Context → Service → Prop} {s : Store} (h : Reachable P s) :
    References s ∧ ∀ ctx caller q, MayEdit ctx caller s q →
      (∀ quiz, readPositive "Quiz id" quiz = .ok q.id → isStorable q.id = true →
        (Call.deleteQuiz caller quiz).Succeeds ctx s ∧
          RemovesQuiz q s ((Service.call (.deleteQuiz caller quiz)).after ctx s)) ∧
      ∀ k ∈ s.questions, k.quiz = q.id → ∀ question, readPositive "Question id" question = .ok k.id →
        isStorable k.id = true →
        ((Call.deleteQuestion caller question).Succeeds ctx s ∧
          RemovesQuestion k s ((Service.call (.deleteQuestion caller question)).after ctx s)) ∧
        ∀ r c, checkQuestion Kind.all r = .ok c → (textsOf c).all Text.hasEncoding = true →
          (Call.updateQuestion caller question r).Succeeds ctx s ∧
            ReplacesContent k c s ((Service.call (.updateQuestion caller question r)).after ctx s) := by
  obtain ⟨hi, ha⟩ := Attempting.integrity_of_reachable h
  have hs := Attempting.grounded_of_reachable h
  refine ⟨references_of_reachable h, fun ctx caller q may => ⟨fun quiz named storable => ?_, ?_⟩⟩
  · exact deleteQuiz_succeeds hi ha may named storable
  · intro k hk quiz question named storable
    refine ⟨deleteQuestion_succeeds hi ha hs may hk quiz named storable, fun r c valid fits => ?_⟩
    exact updateQuestion_succeeds hi ha hs may hk quiz named storable valid fits

/-- The store after a question is asked in a draft beside a quiz that a student has submitted. -/
def askedBesideBegun : Store :=
  let option (text : String) (correct : Bool) : Value :=
    .object [("answer_text", .text text), ("is_correct", .bool correct)]
  (Scenario.State.start .standard).context.serve
    [.call (.addQuestion ⟨.int 1, "TEACHER"⟩ (.int 2)
      ⟨.text "2 * 2 = 4", .text "TRUE_FALSE", .int 1, .list [option "True" true, option "False" false]⟩)]
    Quiz.begunBesideDraft

/-- The draft and its question may be deleted while the selections in the other quiz stay. -/
theorem references_never_dangle_of_submitted :
    let ctx := (Scenario.State.start .standard).context
    let s := askedBesideBegun
    let teacher : Caller := ⟨.int 1, "TEACHER"⟩
    References s ∧ s.selections.length = 2 ∧ ∃ q ∈ s.quizzes, MayEdit ctx teacher s q ∧
      (Call.deleteQuiz teacher (.int 2)).Succeeds ctx s ∧
      RemovesQuiz q s ((Service.call (.deleteQuiz teacher (.int 2))).after ctx s) ∧
      ∃ k ∈ s.questions, k.quiz = q.id ∧ (Call.deleteQuestion teacher (.int 11)).Succeeds ctx s ∧
        RemovesQuestion k s ((Service.call (.deleteQuestion teacher (.int 11))).after ctx s) := by
  intro ctx s teacher
  have hbegun : Reachable (fun _ _ => True) Attempting.begunAndSubmitted := .serve (fun _ _ => trivial) _ _ _
  have hdraft : Reachable (fun _ _ => True) Quiz.begunBesideDraft := hbegun.run (.serve fun _ _ => trivial)
  obtain ⟨hreferences, hedits⟩ := references_never_dangle (hdraft.run (.serve fun _ _ => trivial) :
    Reachable (fun _ _ => True) s)
  have hselections : s.selections.length = 2 := by decide +kernel
  have hquiz : ∃ q ∈ s.quizzes, q.id = 2 ∧ q.status = .draft ∧ q.classSection = 1 ∧
      ∃ k ∈ s.questions, k.id = 11 ∧ k.quiz = q.id := by decide +kernel
  obtain ⟨q, hq, hid, draft, hsection, k, hk, hkid, hkq⟩ := hquiz
  have may : MayEdit ctx teacher s q := ⟨hq, draft, by rw [hsection]; decide +kernel⟩
  obtain ⟨hquiz, hquestion⟩ := hedits ctx teacher q may
  obtain ⟨hdeleted, hremoved⟩ := hquiz (.int 2) (by rw [hid]; rfl) (by rw [hid]; rfl)
  obtain ⟨⟨hstruck, hgone⟩, -⟩ := hquestion k hk hkq (.int 11) (by rw [hkid]; rfl) (by rw [hkid]; rfl)
  exact ⟨hreferences, hselections, q, hq, may, hdeleted, hremoved, k, hk, hkq, hstruck, hgone⟩

end Assessment
