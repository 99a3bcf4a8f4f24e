import Assessment.Proofs.LooseValues
import Assessment.Proofs.Quiz.Questions
import Assessment.Scenario.State

/-!
# Quizzes stay sound

A draft has at most as many questions as its total, and a quiz that was published exactly as many. Its
window, and the times at which it was published and closed, agree with its status. Together with the
positions and the contents of its questions, that is what every operation keeps.
-/

namespace Assessment

/-- Only numbers that satisfy a condition are among the totals that are allowed. -/
def Settings.AllowsOnly (s : Settings) (T : Int → Prop) : Prop :=
  ∀ allowed, s.allowedTotals = .ok allowed → ∀ n : Int, (Value.int n).isAmong allowed = true → T n

lemma Settings.AllowsOnly.mono {s : Settings} {T U : Int → Prop} (h : s.AllowsOnly T)
    (htu : ∀ n, T n → U n) : s.AllowsOnly U :=
  fun allowed hallowed n hn => htu n (h allowed hallowed n hn)

lemma Settings.allowsOnly_list {s : Settings} (totals : List Nat)
    (h : s.totals = .list (totals.map fun (n : Nat) => .int n)) :
    s.AllowsOnly fun n => ∃ m ∈ totals, n = m := by
  intro allowed hallowed n hn
  simp only [Settings.allowedTotals, h, Value.elements, mapError_eq_ok, Except.ok.injEq] at hallowed
  rw [← hallowed, Value.isAmong, List.any_map, List.any_eq_true] at hn
  obtain ⟨m, hm, hnm⟩ := hn
  exact ⟨m, hm, Value.same_int.mp hnm⟩

lemma Settings.allowsOnly_standard {s : Settings} (h : s.totals = Settings.standard.totals) :
    s.AllowsOnly fun n => 0 ≤ n ∧ n ≤ 30 := by
  refine (s.allowsOnly_list [10, 20, 30] h).mono fun n hn => ?_
  simp only [List.mem_cons, List.not_mem_nil, or_false] at hn
  omega

namespace Quiz

open Table

/-- What holds of a quiz with a number of questions. -/
structure Settled (count : Nat) (q : Quiz) : Prop where
  room : (count : Int) ≤ q.total
  complete : q.status ≠ .draft → (count : Int) = q.total
  window : ∀ opens closes, q.startAt = some opens → q.endAt = some closes → opens < closes
  publishedAt : q.publishedAt.isSome ↔ q.status ≠ .draft
  closedAt : q.closedAt.isSome ↔ q.status = .closed

/-- How many questions a quiz has. -/
def countOf (s : Store) (quiz : Int) : Nat := (s.questions.filter (·.quiz == quiz)).length

/-- What holds of every quiz. -/
def AllSettled (s : Store) : Prop := ∀ q ∈ s.quizzes, Settled (countOf s q.id) q

section Rows

variable {count : Nat} {q : Quiz} {opens closes : Option Time.Instant} {now : Time.Instant}

lemma checkWindow_eq_ok (h : checkWindow opens closes = .ok ()) :
    ∀ a b, opens = some a → closes = some b → a < b := by
  rintro a b rfl rfl
  simp only [checkWindow, unless_eq_ok] at h
  exact Int.not_le.mp h.1

lemma Settled.drafted {new : NewQuiz} {author total id : Int} (htotal : 0 ≤ total)
    (hwindow : checkWindow new.startAt new.endAt = .ok ()) : Settled 0 (new.row author total id) where
  room := htotal
  complete h := absurd rfl h
  window := checkWindow_eq_ok hwindow
  publishedAt := by simp [NewQuiz.row]
  closedAt := by simp [NewQuiz.row]

lemma Settled.recount (h : Settled count q) (draft : q.status = .draft) {count' : Nat}
    (room : (count' : Int) ≤ q.total) : Settled count' q :=
  { h with
    room := room
    complete := fun hne => absurd draft hne }

lemma Settled.publish (h : Settled count q) (draft : q.status = .draft)
    (complete : (count : Int) = q.total) (hwindow : checkWindow opens closes = .ok ()) :
    Settled count (published now opens closes q) where
  room := complete.le
  complete _ := complete
  window := checkWindow_eq_ok hwindow
  publishedAt := by simp [published]
  closedAt := by simpa [published, draft] using h.closedAt

lemma Settled.close (h : Settled count q) (open' : q.status = .published) :
    Settled count (closed now q) where
  room := h.room
  complete _ := h.complete (by simp [open'])
  window := h.window
  publishedAt := by simpa [closed, open'] using h.publishedAt
  closedAt := by simp [closed]

end Rows

section Checks

variable {ctx : Context} {caller : Access.Caller} {r : DraftRequest} {s : Store} {new : NewQuiz}

lemma checkDraft_window (h : checkDraft ctx caller r s = .ok new) :
    checkWindow new.startAt new.endAt = .ok () := by
  simp only [checkDraft, bind_eq_ok, pure_eq_ok, exists_unit] at h
  obtain ⟨_, -, -, _, -, _, -, _, -, _, -, startAt, -, endAt, -, hwindow, _, -, rfl⟩ := h
  exact hwindow

lemma checkDraft_total (h : checkDraft ctx caller r s = .ok new) {total : Int}
    (ht : new.total = some total) {T : Int → Prop} (hs : ctx.settings.AllowsOnly T) : T total := by
  simp only [checkDraft, bind_eq_ok, pure_eq_ok, exists_unit] at h
  obtain ⟨_, -, -, _, -, allowed, hallowed, checked, htotal, _, -, _, -, _, -, -, _, -, rfl⟩ := h
  simp only [checkTotal, bind_eq_ok] at htotal
  obtain ⟨given, -, htotal⟩ := htotal
  split_ifs at htotal with hamong
  rw [pure_eq_ok] at htotal
  obtain rfl : given = some total := htotal.trans ht
  exact hs allowed hallowed total hamong

end Checks

section Steps

variable {ctx : Context} {s s' : Store} {op : Service}

lemma countOf_eq (h : AllInPlace s) (quiz : Int) : (s.questionsOf quiz).length = countOf s quiz := by
  rw [questionsOf_eq h]
  rfl

lemma countOf_nextId (hi : Integrity s) : countOf s (nextId s.quizzes) = 0 := by
  refine List.length_eq_zero_iff.mpr (List.filter_eq_nil_iff.mpr fun k hk => ?_)
  simpa using hi.questionQuiz.ne_nextId hk

lemma AllSettled.draft (h : AllSettled s) (hi : Integrity s) {new : NewQuiz} {author total : Int}
    (htotal : 0 ≤ total) (hwindow : checkWindow new.startAt new.endAt = .ok ()) :
    AllSettled { s with quizzes := s.quizzes ++ [new.row author total (nextId s.quizzes)] } := by
  intro q hq
  rcases List.mem_append.mp hq with hq | hq
  · exact h q hq
  · rw [List.mem_singleton.mp hq]
    have hcount : countOf s (nextId s.quizzes) = 0 := countOf_nextId hi
    have hnew : Settled 0 (new.row author total (nextId s.quizzes)) := .drafted htotal hwindow
    rwa [← hcount] at hnew

lemma AllSettled.ask (h : AllSettled s) (hi : Integrity s) {q : Quiz} (hq : q ∈ s.quizzes)
    (draft : q.status = .draft) (room : (countOf s q.id : Int) < q.total) (c : CheckedQuestion) :
    AllSettled (withQuestion q c s) := by
  intro x hx
  by_cases hid : q.id = x.id
  · obtain rfl : q = x := hi.quizzes.eq_of_id_eq hq hx hid
    have hcount : countOf (withQuestion q c s) q.id = countOf s q.id + 1 := by
      simp [countOf, withQuestion]
    exact (h q hq).recount draft (by omega)
  · rw [countOf, questions_ask_of_ne hid]
    exact h x hx

lemma AllSettled.rephrase (h : AllSettled s) (id : Int) (c : CheckedQuestion)
    (options : List AnswerOption) :
    AllSettled { s with questions := modify id (withContent c) s.questions, options := options } := by
  intro q hq
  have hcount : ((modify id (withContent c) s.questions).filter (·.quiz == q.id)).length =
      countOf s q.id := by
    rw [filter_modify (f := withContent c) fun _ => rfl, Table.modify, List.length_map, countOf]
  rw [countOf, hcount]
  exact h q hq

lemma AllSettled.strike (h : AllSettled s) (hi : Integrity s) {k : Question} (hk : k ∈ s.questions)
    {q : Quiz} (hq : q ∈ s.quizzes) (hkq : k.quiz = q.id) (draft : q.status = .draft) :
    AllSettled (withoutQuestion k s) := by
  intro x hx
  by_cases hid : q.id = x.id
  · obtain rfl : q = x := hi.quizzes.eq_of_id_eq hq hx hid
    have hfewer : countOf (withoutQuestion k s) q.id ≤ countOf s q.id := by
      rw [countOf, questions_strike, List.length_map]
      exact List.length_filter_le _ _
    have hroom := (h q hq).room
    exact (h q hq).recount draft (by omega)
  · rw [countOf, questions_strike_of_ne hi.questions hk (hkq ▸ hid)]
    exact h x hx

lemma AllSettled.discard (h : AllSettled s) (quiz : Int) : AllSettled (withoutQuiz quiz s) := by
  intro q hq
  obtain ⟨hq, hne⟩ := List.mem_filter.mp hq
  have hother : q.id ≠ quiz := bne_iff_ne.mp hne
  rw [countOf, questions_discard_of_ne hother]
  exact h q hq

lemma AllSettled.change (h : AllSettled s) (hi : Integrity s) {q : Quiz} (hq : q ∈ s.quizzes)
    {f : Quiz → Quiz} (hid : (f q).id = q.id) (hf : Settled (countOf s q.id) (f q)) :
    AllSettled { s with quizzes := modify q.id f s.quizzes } := by
  intro x hx
  rcases (mem_modify hi.quizzes hq).mp hx with rfl | ⟨hx, -⟩
  · rw [hid]
    exact hf
  · exact h x hx

lemma AllSettled.write (h : AllSettled s) (hi : Integrity s) (hp : AllInPlace s)
    (totals : ctx.settings.AllowsOnly (0 ≤ ·)) {c : Call} (w : Write ctx s c s') : AllSettled s' := by
  cases w with
  | draft checked allowed =>
    exact h.draft hi (checkDraft_total checked allowed totals) (checkDraft_window checked)
  | ask found editable _ room =>
    rw [countOf_eq hp] at room
    exact h.ask hi (owned_eq_ok found).1 editable room _
  | rephrase => exact h.rephrase _ _ _
  | strike found editable =>
    obtain ⟨hk, hq, hkq, -⟩ := ownedQuestion_eq_ok found
    exact h.strike hi hk hq hkq editable
  | discard => exact h.discard _
  | publish found editable complete _ _ _ window =>
    rw [countOf_eq hp] at complete
    have hq := (owned_eq_ok found).1
    exact h.change hi hq rfl ((h _ hq).publish editable complete window)
  | close found open' =>
    have hq := (owned_eq_ok found).1
    exact h.change hi hq rfl ((h _ hq).close open')

end Steps

lemma Step.totals {ctx : Context} {s s' : Store} {op : Service} {T : Int → Prop}
    (totals : ctx.settings.AllowsOnly T) (h : ∀ q ∈ s.quizzes, T q.total) (w : Step ctx s op s') :
    ∀ q ∈ s'.quizzes, T q.total := by
  have change (id : Int) {f : Quiz → Quiz} (hf : ∀ q, (f q).total = q.total) :
      ∀ q ∈ modify id f s.quizzes, T q.total := by
    intro q hq
    obtain ⟨x, hx, rfl⟩ := List.mem_map.mp hq
    by_cases hid : Row.id x = id
    · rw [if_pos hid, hf]
      exact h x hx
    · rw [if_neg hid]
      exact h x hx
  cases w with
  | quiz w =>
    cases w with
    | draft checked allowed =>
      intro q hq
      rcases List.mem_append.mp hq with hq | hq
      · exact h q hq
      · rw [List.mem_singleton.mp hq]
        exact checkDraft_total checked allowed totals
    | ask | rephrase | strike => exact h
    | discard => exact fun q hq => h q (List.mem_filter.mp hq).1
    | publish | close => exact change _ fun _ => rfl
  | attempt w | book w | opening _ w | posting _ w | queueing _ w =>
    rw [w.frame]
    exact h

/-- Everything that is kept of the quiz tables. -/
structure Kept (s : Store) : Prop extends Integrity s where
  inPlace : AllInPlace s
  sound : AllSound s
  settled : AllSettled s

lemma Kept.step {ctx : Context} {s s' : Store} {op : Service} (h : Kept s)
    (totals : ctx.settings.AllowsOnly (0 ≤ ·)) (w : Step ctx s op s') : Kept s' := by
  have hi := h.toIntegrity.step w
  cases w with
  | quiz w =>
    exact ⟨hi, h.inPlace.write h.toIntegrity w, h.sound.write h.toIntegrity w,
      h.settled.write h.toIntegrity h.inPlace totals w⟩
  | attempt w | book w | opening _ w | posting _ w | queueing _ w =>
    rw [w.frame] at hi ⊢
    exact ⟨hi, h.inPlace, h.sound, h.settled⟩

lemma kept_ofSchool (users : List User) (classSections : List ClassSection)
    (enrollments : List Enrollment) : Kept (.ofSchool users classSections enrollments) where
  toIntegrity := integrity_ofSchool users classSections enrollments
  inPlace _ := .nil
  sound _ hk := absurd hk List.not_mem_nil
  settled _ hq := absurd hq List.not_mem_nil

lemma kept_of_reachable {P : Context → Service → Prop} {s : Store} (h : Reachable P s)
    (totals : ∀ ctx op, P ctx op → ctx.settings.AllowsOnly (0 ≤ ·)) : Kept s :=
  h.invariant kept_ofSchool fun ctx op _ _ hop hk w => hk.step (totals ctx op hop) w

/-- Questions are sound whatever totals are allowed. -/
lemma allSound_of_reachable {P : Context → Service → Prop} {s : Store} (h : Reachable P s) : AllSound s := by
  refine (h.invariant (I := fun s => Integrity s ∧ AllSound s) (fun users sections enrollments => ?_)
    fun ctx op s s' _ hs w => ⟨hs.1.step w, ?_⟩).2
  · exact ⟨integrity_ofSchool users sections enrollments, fun _ hk => absurd hk List.not_mem_nil⟩
  · cases w with
    | quiz w => exact hs.2.write hs.1 w
    | attempt w | book w | opening _ w | posting _ w | queueing _ w =>
      rw [w.frame]
      exact hs.2

lemma totals_of_reachable {P : Context → Service → Prop} {s : Store} (h : Reachable P s) {T : Int → Prop}
    (totals : ∀ ctx op, P ctx op → ctx.settings.AllowsOnly T) : ∀ q ∈ s.quizzes, T q.total :=
  h.invariant (I := fun s => ∀ q ∈ s.quizzes, T q.total)
    (fun _ _ _ _ hq => absurd hq List.not_mem_nil)
    fun ctx op _ _ hop hs w => Step.totals (totals ctx op hop) hs w

/-- A quiz as it stands in the store with its questions and their options. -/
structure Sound (s : Store) (q : Quiz) : Prop where
  inPlace : InPlace (s.questionsOf q.id)
  settled : Settled (s.questionsOf q.id).length q
  questions : ∀ k ∈ s.questionsOf q.id, SoundQuestion k (s.optionsOf k.id)

lemma Kept.allSound {s : Store} (h : Kept s) : ∀ q ∈ s.quizzes, Sound s q := by
  intro q hq
  refine ⟨?_, ?_, fun k hk => ?_⟩
  · rw [questionsOf_eq h.inPlace]
    exact h.inPlace q.id
  · rw [countOf_eq h.inPlace]
    exact h.settled q hq
  · rw [optionsOf_eq h.options]
    exact h.sound k (mem_questionsOf.mp hk).1

/-- Whatever is asked of the program, if no negative total is ever allowed: the questions of every quiz
stand at the positions from one on, each of them is sound, there are no more of them than the total and
exactly as many once the quiz is published, and the window and the times of the quiz agree with its
status. -/
theorem quizzes_stay_sound {s : Store}
    (h : Reachable (fun ctx _ => ctx.settings.AllowsOnly (0 ≤ ·)) s) : ∀ q ∈ s.quizzes, Sound s q :=
  (kept_of_reachable h fun _ _ hop => hop).allSound

/-- The store after a quiz is drafted and given a question. -/
def startedDraft : Store :=
  let start := Scenario.State.start .standard
  let teacher : Access.Caller := ⟨.int 1, "TEACHER"⟩
  let option (text : String) (correct : Bool) : Value :=
    .object [("answer_text", .text text), ("is_correct", .bool correct)]
  start.context.serve
    [.call (.createDraft teacher ⟨.int 1, .text "Sums", .int 10, .null, .null, .null, .null, .null, .null⟩),
      .call (.addQuestion teacher (.int 1) ⟨.text "1 + 1 = 2", .text "TRUE_FALSE", .int 1,
        .list [option "True" true, option "False" false]⟩)] start.store

/-- A draft with a question is sound. -/
theorem quizzes_stay_sound_of_draft :
    let s := startedDraft
    ∃ q ∈ s.quizzes, q.total = 10 ∧ (s.questionsOf q.id).length = 1 ∧ Sound s q := by
  intro s
  have hstandard : (Scenario.State.start .standard).context.settings.AllowsOnly (0 ≤ ·) :=
    (Settings.allowsOnly_standard rfl).mono fun _ hn => hn.1
  have h : Reachable (fun ctx _ => ctx.settings.AllowsOnly (0 ≤ ·)) s :=
    .serve (fun _ _ => hstandard) _ _ _
  have hq : ∃ q ∈ s.quizzes, q.total = 10 ∧ (s.questionsOf q.id).length = 1 := by decide +kernel
  obtain ⟨q, hq, htotal, hcount⟩ := hq
  exact ⟨q, hq, htotal, hcount, quizzes_stay_sound h q hq⟩

end Quiz

end Assessment
