import Assessment.Proofs.Attempt.Integrity
import Assessment.Proofs.Foreseen
import Assessment.Proofs.Number.Texts
import Assessment.Proofs.Quiz.Soundness

/-!
# Questions that are checked again

A question that has passed the check is in a form that the check leaves alone: written as a request, it is checked to
what it is. Its options have passed what is checked before a quiz is published, so that check finds nothing wrong.
-/

namespace Assessment.Quiz

open Number Request

/-- A question that passed the checks, with texts that are not empty, not too long and have no blanks around them. -/
structure CheckedQuestion.Normal (c : CheckedQuestion) : Prop extends c.Passed where
  text : Text.Trimmed c.text
  options : ∀ o ∈ c.options, Text.Trimmed o.1 ∧ o.1.length ≤ maxOptionLength

/-- An option as a request writes it. -/
def writtenOption (o : String × Bool) : Value := .object [("text", .text o.1), ("is_correct", .bool o.2)]

/-- A checked question as a request writes it. -/
def CheckedQuestion.request (c : CheckedQuestion) : QuestionRequest where
  text := .text c.text
  kind := .text c.kind.name
  points := .decimal c.points
  options := .list (c.options.map writtenOption)

section Checks

variable {c : CheckedQuestion} {r : QuestionRequest}

lemma trim_readOption (v : Value) : Text.trim (readOption v).1 = (readOption v).1 := by
  unfold readOption
  dsimp only
  split_ifs
  · rfl
  · exact Text.trim_trim _

lemma normal_of_checked (h : checkQuestion Kind.all r = .ok c) : c.Normal := by
  have hc := checkQuestion_iff.mp h
  refine ⟨checkQuestion_eq_ok h, Text.trimmed_iff.mpr ⟨hc.some_text, readTrimmed_eq_ok hc.text⟩, fun o ho => ?_⟩
  obtain ⟨hsome, hlength⟩ := checkOptionTexts_iff.mp hc.texts o ho
  obtain ⟨given, -, hgiven⟩ := hc.options
  obtain ⟨v, -, rfl⟩ := List.mem_map.mp (hgiven ▸ ho)
  exact ⟨Text.trimmed_iff.mpr ⟨hsome, trim_readOption v⟩, hlength⟩

lemma held_hundredths {n : Nat} (hn : n < 10 ^ 28) (s : Bool) : (Decimal.finite s n (-2)).Held := by
  have hdigits : digitCount n ≤ 28 := (digitCount_le_iff (by omega)).mpr hn
  refine .finite (by decide) ?_
  unfold Decimal.adjusted Decimal.maxAdjusted
  omega

lemma checkPoints_hundredths {n : Nat} (hpos : 0 < n) (hn : n < 10 ^ 28) :
    checkPoints (.decimal (.finite false n (-2))) = .ok (.finite false n (-2)) := by
  have hgiven : readDecimal "Points" (.decimal (.finite false n (-2))) = .ok (.finite false n (-2)) := by
    unfold readDecimal
    simp [Value.display, (held_hundredths hn false).read?_text, Decimal.isFinite]
  have hrounded : (Decimal.finite false n (-2)).toHundredths .halfEven = .ok (.finite false n (-2)) := by
    obtain ⟨s, c, h⟩ : ∃ s c, (Decimal.finite false n (-2)).toHundredths .halfEven = .ok (.finite s c (-2)) :=
      Decimal.toHundredths_isOk rfl (Decimal.fewDigits_hundredths hn false)
    rw [h, Decimal.toHundredths_hundredths h]
  have hpositive : (Decimal.finite false n (-2)).atMost .zero = .ok false := Decimal.atMost_zero_of_pos hpos (-2)
  simp only [checkPoints, bind_eq_ok, lift_eq_ok, guard_eq_ok, pure_eq_ok]
  exact ⟨_, hgiven, _, hrounded, _, hpositive, Bool.false_ne_true, rfl⟩

lemma readOption_written {o : String × Bool} (h : Text.trim o.1 = o.1) : readOption (writtenOption o) = o := by
  simp [readOption, writtenOption, Value.member?, Value.isNull, Value.display, Value.truthy, h]

lemma optionProblem?_map {α : Type} {kind : Kind} {options : List α} {correct : α → Bool} (enough : 2 ≤ options.length)
    (two : kind = .trueFalse → options.length = 2) (one : options.countP correct = 1) :
    optionProblem? kind (options.map correct) = none := by
  refine optionProblem?_iff.mpr ⟨?_, fun hkind => ?_, ?_⟩
  · rwa [List.length_map]
  · rw [List.length_map, two hkind]
  · rw [List.count_eq_countP, List.countP_map]
    simpa [Function.comp_def] using one

/-- A question in that form is checked to itself. -/
lemma CheckedQuestion.Normal.checked (h : c.Normal) : checkQuestion Kind.all c.request = .ok c := by
  obtain ⟨hsome, htext⟩ := Text.trimmed_iff.mp h.text
  have hkind : ∃ name, readTrimmed c.request.kind = .ok name ∧ c.kind = ⟨Text.upper name⟩ := by
    have hnames : ∀ k ∈ Kind.all, Text.trim k.name = k.name ∧ Text.upper k.name = k.name := by decide
    obtain ⟨htrim, hupper⟩ := hnames c.kind h.kind
    exact ⟨c.kind.name, readTrimmed_text htrim, congrArg Kind.mk hupper.symm⟩
  have hvalue : checkPoints (.decimal c.points) = .ok c.points := by
    obtain ⟨n, hpos, hn, hpoints⟩ := h.points
    rw [hpoints]
    exact checkPoints_hundredths hpos hn
  have hoptions : (c.options.map writtenOption).map readOption = c.options := by
    rw [List.map_map]
    conv_rhs => rw [← List.map_id c.options]
    exact List.map_congr_left fun o ho => readOption_written (Text.trimmed_iff.mp (h.options o ho).1).2
  exact checkQuestion_iff.mpr
    { text := readTrimmed_text htext
      some_text := hsome
      kind := hkind
      known := h.kind
      points := hvalue
      options := ⟨_, readItems_list _, hoptions.symm⟩
      texts := checkOptionTexts_iff.mpr fun o ho => ⟨h.texts o ho, (h.options o ho).2⟩
      sound := optionProblem?_map h.enough h.two h.one }

end Checks

section Publishing

variable {ctx : Context} {caller : Access.Caller} {s : Store} {v : Value}

/-- A failure that does not say that a question is unsound. -/
def Otherwise (fault : Fault) : Prop := ∀ order problem, fault ≠ .refused (.questionUnsound order problem)

lemma otherwise_crashed (defect : Defect) : Otherwise (.crashed defect) := nofun

lemma otherwise_lift {α : Type} (x : Except Defect α) : FailsOnly Otherwise (x.mapError Fault.crashed) :=
  .mapError (P := fun _ => True) (fun _ _ => trivial) fun _ _ => otherwise_crashed _

lemma otherwise_readPositive (label : String) : FailsOnly Otherwise (readPositive label v) := by
  have hinteger (v : Value) : FailsOnly Otherwise (tryInteger v) := by
    unfold tryInteger
    split
    · exact .of_ok rfl
    · exact .error (otherwise_crashed _)
    · exact .of_ok rfl
  cases v with
  | bool =>
    change FailsOnly Otherwise (.error (.refused (.notPositive label)))
    exact .error nofun
  | _ =>
    refine .bind (hinteger _) fun n? _ => ?_
    cases n? with
    | none => exact .throw nofun
    | some n => exact .ite (fun _ => .pure _) fun _ => .throw nofun

lemma otherwise_owned : FailsOnly Otherwise (owned ctx caller v s) := by
  refine .bind (otherwise_readPositive _) fun id _ =>
    .bind (.ite (fun _ => .of_ok rfl) fun _ => .error nofun) fun q? _ => ?_
  cases q? with
  | none => exact .throw nofun
  | some q =>
    have hteaches : FailsOnly Otherwise
        (Access.requireSectionTeacher (ctx.directory s) caller (.int q.classSection)) := by
      refine .bind (.ite (fun _ => otherwise_lift _) fun _ => .of_ok rfl) fun teaches _ => ?_
      exact .ite (fun _ => .throw nofun) fun _ => .pure _
    exact .bind hteaches fun _ _ => .pure _

lemma otherwise_windowEnd (drafted : Option Time.Instant) : FailsOnly Otherwise (windowEnd v drafted) := by
  refine .ite (fun _ => .of_ok rfl) fun _ => ?_
  unfold readInstant?
  split
  · exact .of_ok rfl
  · exact .bind (otherwise_lift _) fun _ _ => .pure _
  · exact .error (otherwise_crashed _)

lemma otherwise_checkWindow (opens closes : Option Time.Instant) : FailsOnly Otherwise (checkWindow opens closes) := by
  unfold checkWindow
  split
  · exact .ite (fun _ => .error nofun) fun _ => .of_ok rfl
  · exact .of_ok rfl

lemma checkQuestions_of_sound {ks : List Question} (h : ∀ k ∈ ks, SoundQuestion k (s.optionsOf k.id)) :
    checkQuestions s ks = .ok () := by
  induction ks with
  | nil => rfl
  | cons k ks ih =>
    obtain ⟨hk, hks⟩ := List.forall_mem_cons.mp h
    rw [checkQuestions, optionProblem?_map hk.enough hk.two hk.one]
    exact ih hks

lemma otherwise_publishDraft {quiz startAt endAt : Value} (h : ∀ k ∈ s.questions, SoundQuestion k (s.optionsOf k.id)) :
    FailsOnly Otherwise (publishDraft ctx caller quiz startAt endAt s) := by
  refine .bind otherwise_owned fun q _ => ?_
  refine .guard nofun fun _ => .guard nofun fun _ => ?_
  have hchecked : checkQuestions s (s.questionsOf q.id) = .ok () :=
    checkQuestions_of_sound fun k hk => h k (mem_questionsOf.mp hk).1
  refine .bind (.of_ok hchecked) fun _ _ => ?_
  refine .bind (otherwise_windowEnd _) fun opens _ => ?_
  refine .bind (otherwise_windowEnd _) fun closes _ => ?_
  exact .bind (otherwise_checkWindow opens closes) fun _ _ => .pure _

lemma publishDraft_changes {quiz startAt endAt : Value} {change : Store → Except Fault (Quiz × Store)}
    (h : publishDraft ctx caller quiz startAt endAt s = .ok (.write change)) (s' : Store) :
    FailsOnly Otherwise (change s') := by
  simp only [publishDraft, bind_eq_ok, guard_eq_ok, pure_eq_ok] at h
  obtain ⟨q, -, -, -, -, -, _, -, _, -, -, -, hchange⟩ := h
  cases hchange
  exact .of_ok rfl

lemma otherwise_publish {quiz startAt endAt : Value} {σ : Session}
    (h : ∀ k ∈ σ.store.questions, SoundQuestion k (σ.store.optionsOf k.id)) :
    FailsOnly Otherwise (publish ctx caller quiz startAt endAt σ).1 := by
  have hcommit := FailsOnly.commit (otherwise_publishDraft h)
    fun change (hwrite : publishDraft ctx caller quiz startAt endAt σ.store = .ok (.write change)) =>
      publishDraft_changes hwrite
  unfold publish
  rcases hdraft : Action.commit (publishDraft ctx caller quiz startAt endAt) σ with ⟨fault | q, τ⟩
  · rw [Action.bind_of_error hdraft]
    rw [hdraft] at hcommit
    exact hcommit
  · rw [Action.bind_of_ok hdraft]
    exact .of_ok rfl

end Publishing

/-- Whatever a request writes: a question that passes the check has texts without blanks around them, one of two kinds,
positive hundredths for points, and the options that were given, in their order, at least two of them, exactly two for
true or false, and one of them correct. Nothing is wrong with its options, and when it is written as a request it is
checked to itself. So no quiz, published from any store that can be reached, is refused for an unsound question. -/
theorem checked_questions_are_accepted_again :
    (∀ (r : QuestionRequest) (c : CheckedQuestion), checkQuestion Kind.all r = .ok c →
      c.Normal ∧ (∃ given, readItems r.options = .ok given ∧ c.options = given.map readOption) ∧
        optionProblem? c.kind c.correct = none ∧ checkQuestion Kind.all c.request = .ok c) ∧
    ∀ (P : Context → Service → Prop) (σ : Session), Reachable P σ.store →
      ∀ ctx caller quiz startAt endAt order problem,
        (publish ctx caller quiz startAt endAt σ).1 ≠ .error (.refused (.questionUnsound order problem)) := by
  constructor
  · intro r c h
    have hc := checkQuestion_iff.mp h
    exact ⟨normal_of_checked h, hc.options, hc.sound, (normal_of_checked h).checked⟩
  · intro P σ h ctx caller quiz startAt endAt order problem heq
    have hsound : ∀ k ∈ σ.store.questions, SoundQuestion k (σ.store.optionsOf k.id) := by
      intro k hk
      rw [optionsOf_eq (Attempting.integrity_of_reachable h).1.options]
      exact allSound_of_reachable h k hk
    exact otherwise_publish hsound _ heq order problem rfl

/-- A question with blanks around its texts, its kind in small letters and a third place in its points. -/
def unpolishedQuestion : QuestionRequest :=
  ⟨.text "  1 + 1 = 2 ", .text "true_false", .text "1.005",
    .list [.object [("answer_text", .text "True "), ("is_correct", .int 1)], .object [("text", .text "False")]]⟩

/-- The store after a quiz is drafted and given that question as often as it has questions. -/
def completeDraft : Store :=
  let start := Scenario.State.start .standard
  let teacher : Access.Caller := ⟨.int 1, "TEACHER"⟩
  start.context.serve
    (.call (.createDraft teacher ⟨.int 1, .text "Sums", .int 10, .null, .null, .null, .null, .null, .null⟩) ::
      List.replicate 10 (.call (.addQuestion teacher (.int 1) unpolishedQuestion))) start.store

/-- The question is accepted, and so is what it is checked to; the draft that is full of it is not refused for it. -/
theorem unpolished_question_is_accepted_again :
    let c : CheckedQuestion := ⟨"1 + 1 = 2", .trueFalse, .finite false 100 (-2), [("True", true), ("False", false)]⟩
    let ctx := (Scenario.State.start .standard).context
    let s := completeDraft
    (checkQuestion Kind.all unpolishedQuestion = .ok c ∧ c.Normal ∧ checkQuestion Kind.all c.request = .ok c) ∧
      Reachable (fun _ _ => True) s ∧ (s.questionsOf 1).length = 10 ∧ ∀ order problem,
        (publish ctx ⟨.int 1, "TEACHER"⟩ (.int 1) .null .null (.ofStore s)).1 ≠
          .error (.refused (.questionUnsound order problem)) := by
  intro c ctx s
  have hread : (checkQuestion Kind.all unpolishedQuestion).toOption = some c := by decide +kernel
  have hchecked : checkQuestion Kind.all unpolishedQuestion = .ok c := by
    cases h : checkQuestion Kind.all unpolishedQuestion with
    | ok x =>
      rw [h] at hread
      exact congrArg Except.ok (Option.some.inj hread)
    | error fault =>
      rw [h] at hread
      cases hread
  obtain ⟨hnormal, -, -, hagain⟩ := checked_questions_are_accepted_again.1 _ c hchecked
  have hreached : Reachable (fun _ _ => True) s := .serve (fun _ _ => trivial) _ _ _
  have hcount : (s.questionsOf 1).length = 10 := by decide +kernel
  clear_value s ctx
  exact ⟨⟨hchecked, hnormal, hagain⟩, hreached, hcount,
    checked_questions_are_accepted_again.2 _ (.ofStore s) hreached ctx ⟨.int 1, "TEACHER"⟩ (.int 1) .null .null⟩

end Assessment.Quiz
