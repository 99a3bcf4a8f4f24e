import Assessment.Proofs.Runs
import Assessment.Proofs.Shuffling
import Assessment.Proofs.Sorting
import Assessment.Scenario.State

/-!
# Marks are hidden until an attempt is submitted

Which options are marked correct plays no part in listing quizzes, in starting an attempt or in showing it:
these calls do the same in a store from which the marks are taken away.
-/

namespace Assessment

/-- An option without its mark. -/
def AnswerOption.unmarked (o : AnswerOption) : AnswerOption := { o with correct := false }

/-- A store with no option marked correct. -/
def Store.withoutMarks (s : Store) : Store := { s with options := s.options.map AnswerOption.unmarked }

/-- A session on what is left of its store. -/
def Session.through (f : Store → Store) (s : Session) : Session := { s with store := f s.store }

namespace Action

variable {α β : Type} {f : Store → Store}

/-- An action does the same on what is left of a store, and what is left of its result is the same. -/
def Ignores (f : Store → Store) (a : Action α) : Prop :=
  ∀ s : Session, s.rivals = [] → (a s).2.rivals = [] ∧ a (s.through f) = ((a s).1, (a s).2.through f)

namespace Ignores

lemma read {r : Store → Except Fault α} (h : ∀ s, r (f s) = r s) : (Action.read r).Ignores f :=
  fun s hs => ⟨hs, Prod.ext (h s.store) rfl⟩

lemma commit {t : Transaction α} (h : ∀ s, t.run (f s) = (t.run s).map fun r => (r.1, f r.2)) :
    (Action.commit t).Ignores f := by
  intro s hs
  have hthrough := h s.store
  cases ht : t.run s.store with
  | error fault =>
    rw [ht] at hthrough
    rw [commit_of_error hs ht, commit_of_error (s := s.through f) hs hthrough]
    exact ⟨hs, rfl⟩
  | ok r =>
    rw [ht] at hthrough
    rw [commit_of_ok hs ht, commit_of_ok (s := s.through f) hs hthrough]
    exact ⟨hs, rfl⟩

lemma bind {x : Action α} {g : α → Action β} (hx : x.Ignores f) (hg : ∀ a, (g a).Ignores f) :
    (x >>= g).Ignores f := by
  intro s hs
  obtain ⟨hrivals, hthrough⟩ := hx s hs
  rcases h : x s with ⟨r, t⟩
  rw [h] at hrivals hthrough
  cases r with
  | error fault =>
    rw [bind_of_error h, bind_of_error hthrough]
    exact ⟨hrivals, rfl⟩
  | ok a =>
    rw [bind_of_ok h, bind_of_ok hthrough]
    exact hg a t hrivals

lemma reported {x : Action α} {report : Store → α → Value} (hx : x.Ignores f)
    (h : ∀ s, report (f s) = report s) : (Call.reported x report).Ignores f :=
  hx.bind fun a => .read fun s => by rw [h]

end Ignores

end Action

namespace Attempting

open Access Quiz Request

variable {ctx : Context} {caller : Caller} {quiz now : Value}

lemma optionsOf_withoutMarks (s : Store) (question : Int) :
    s.withoutMarks.optionsOf question = (s.optionsOf question).map AnswerOption.unmarked := by
  have hfilter : (s.options.map AnswerOption.unmarked).filter (·.question == question) =
      (s.options.filter (·.question == question)).map AnswerOption.unmarked := List.filter_map
  unfold Store.optionsOf
  exact (congrArg _ hfilter).trans (sortBy_map (fun _ _ => rfl) _)

lemma showQuestion_withoutMarks (s : Store) (seed : String) (shuffled : Bool) (q : Question) :
    showQuestion s.withoutMarks seed shuffled q = showQuestion s seed shuffled q := by
  have horder : ∀ options : List AnswerOption, orderOptions seed (.int q.id) shuffled
        (options.map AnswerOption.unmarked) =
      (orderOptions seed (.int q.id) shuffled options).map AnswerOption.unmarked := by
    intro options
    unfold orderOptions
    cases shuffled with
    | false => rfl
    | true => exact Random.shuffle_map ..
  unfold showQuestion
  rw [optionsOf_withoutMarks, horder, List.map_map]
  rfl

lemma viewOf_withoutMarks (s : Store) (q : Quiz) (a : Attempt) :
    viewOf s.withoutMarks q a = viewOf s q a := by
  have hshow : showQuestion s.withoutMarks = showQuestion s := by
    funext seed shuffled k
    exact showQuestion_withoutMarks s seed shuffled k
  simp only [viewOf, hshow]
  rfl

lemma view_withoutMarks (attempt : Value) (s : Store) :
    view caller attempt s.withoutMarks = view caller attempt s := by
  unfold view
  simp only [viewOf_withoutMarks]
  rfl

lemma insertAttempt_withoutMarks (q : Quiz) (student enrollment : Value) (t : Time.Instant) (s : Store) :
    insertAttempt q student enrollment t s.withoutMarks =
      (insertAttempt q student enrollment t s).map fun r => (r.1, r.2.withoutMarks) := by
  change _ = (fun r => (r.1, r.2.withoutMarks)) <$> insertAttempt q student enrollment t s
  simp only [insertAttempt, map_bind]
  refine bind_congr fun student => bind_congr fun enrollment => bind_congr fun _ =>
    bind_congr fun student => bind_congr fun enrollment => bind_congr fun _ => ?_
  rw [apply_ite (Functor.map _)]
  rfl

lemma beginAttempt_withoutMarks (s : Store) :
    (beginAttempt ctx caller quiz now).run s.withoutMarks =
      ((beginAttempt ctx caller quiz now).run s).map fun r => (r.1, r.2.withoutMarks) := by
  have hread : beginAttempt ctx caller quiz now s.withoutMarks = beginAttempt ctx caller quiz now s := rfl
  unfold Transaction.run
  rw [hread]
  cases hd : beginAttempt ctx caller quiz now s with
  | error fault => rfl
  | ok d =>
    simp only [beginAttempt, bind_eq_ok] at hd
    obtain ⟨id, -, row, -, hd⟩ := hd
    cases row with
    | none => simp at hd
    | some q =>
      simp only [bind_eq_ok, guard_eq_ok, lift_eq_ok, pure_eq_ok, exists_unit] at hd
      obtain ⟨enrolled, -, t, -, -, student, -, -, rfl⟩ := hd
      change ((insertAttempt q caller.id enrolled t s.withoutMarks >>= fun r =>
        pure ((q, r.1), r.2)).mapError _ : Except Fault _) = _
      rw [insertAttempt_withoutMarks]
      dsimp only [bind, Except.bind, Decision.change, Decision.apply]
      cases insertAttempt q caller.id enrolled t s <;> rfl

end Attempting

namespace Call

/-- The calls that a student makes before submitting: listing quizzes, starting an attempt and viewing
it. -/
def precedesSubmission : Call → Bool
  | listPublished .. | startAttempt .. | viewAttempt .. => true
  | _ => false

open Attempting in
lemma run_withoutMarks (ctx : Context) {c : Call} (h : c.precedesSubmission = true) :
    (c.run ctx).Ignores Store.withoutMarks := by
  cases c with
  | listPublished caller classSection => exact .reported (.read fun _ => rfl) fun _ => rfl
  | viewAttempt caller attempt => exact .reported (.read (view_withoutMarks attempt)) fun _ => rfl
  | startAttempt caller quiz now =>
    refine .reported (.bind (.commit beginAttempt_withoutMarks) fun r => .read fun s => ?_) fun _ => rfl
    rw [viewOf_withoutMarks]
  | _ => cases h

lemma answer_withoutMarks (ctx : Context) {c : Call} (h : c.precedesSubmission = true) {s : Session}
    (hs : s.rivals = []) :
    (c.answer ctx s).2.rivals = [] ∧ c.answer ctx (s.through Store.withoutMarks) =
      ((c.answer ctx s).1, (c.answer ctx s).2.through Store.withoutMarks) := by
  obtain ⟨hrivals, hrun⟩ := run_withoutMarks ctx h s hs
  unfold answer
  rw [hrun]
  rcases hr : c.run ctx s with ⟨_ | _, t⟩ <;> rw [hr] at hrivals <;> exact ⟨hrivals, rfl⟩

/-- Answers calls one after another, each in a context of its own. -/
def answers : List (Context × Call) → Session → List (Option Outcome) × Session
  | [], s => ([], s)
  | (ctx, c) :: rest, s =>
    let (outcome, s) := c.answer ctx s
    let (outcomes, s) := answers rest s
    (outcome :: outcomes, s)

lemma answers_withoutMarks {calls : List (Context × Call)}
    (before : ∀ c ∈ calls, c.2.precedesSubmission = true) {s : Session} (hs : s.rivals = []) :
    answers calls (s.through Store.withoutMarks) =
      ((answers calls s).1, (answers calls s).2.through Store.withoutMarks) := by
  induction calls generalizing s with
  | nil => rfl
  | cons c rest ih =>
    obtain ⟨ctx, c⟩ := c
    obtain ⟨hrivals, hanswer⟩ := answer_withoutMarks ctx (before _ (List.mem_cons_self ..)) hs
    simp only [answers, hanswer]
    rw [ih (fun d hd => before d (List.mem_cons_of_mem _ hd)) hrivals]

/-- Whatever options are marked correct, a student who has not submitted is answered alike, call by call, and
what the calls leave differs in the marks only. -/
theorem marks_stay_hidden {s t : Store} (agree : s.withoutMarks = t.withoutMarks)
    {calls : List (Context × Call)} (before : ∀ c ∈ calls, c.2.precedesSubmission = true) :
    ∃ outcomes u v, answers calls (.ofStore s) = (outcomes, u) ∧
      answers calls (.ofStore t) = (outcomes, v) ∧
      u.store.withoutMarks = v.store.withoutMarks ∧ u.sent = v.sent := by
  have hs := answers_withoutMarks before (s := .ofStore s) rfl
  have ht := answers_withoutMarks before (s := .ofStore t) rfl
  have hsame : (Session.ofStore s).through Store.withoutMarks =
      (Session.ofStore t).through Store.withoutMarks := congrArg Session.ofStore agree
  rcases hu : answers calls (.ofStore s) with ⟨outcomes, u⟩
  rcases hv : answers calls (.ofStore t) with ⟨outcomes', v⟩
  rw [hsame, ht, hu, hv] at hs
  obtain ⟨rfl, hsession⟩ := Prod.mk.inj hs
  exact ⟨_, u, v, rfl, rfl, (congrArg Session.store hsession).symm,
    (congrArg Session.sent hsession).symm⟩

/-- A school where a quiz is published that shuffles the options of its one question. -/
def shuffledQuiz : Scenario.State :=
  let start := Scenario.State.start { Settings.standard with totals := .list [.int 1] }
  let teacher : Access.Caller := ⟨.int 1, "TEACHER"⟩
  let option (text : String) (correct : Bool) : Value :=
    .object [("answer_text", .text text), ("is_correct", .bool correct)]
  { start with
    store := start.context.serve
      [.call (.createDraft teacher ⟨.int 1, .text "Sums", .int 1, .null, .null, .null, .bool true, .null,
          .null⟩),
        .call (.addQuestion teacher (.int 1) ⟨.text "1 + 1", .text "MCQ", .int 1,
          .list [option "1" false, option "2" true, option "3" false]⟩),
        .call (.publish teacher (.int 1) .null .null)] start.store }

/-- A student lists the quiz, starts an attempt and views it where another option is marked. -/
theorem marks_stay_hidden_of_shuffled :
    let ctx := shuffledQuiz.context
    let s := shuffledQuiz.store
    let t := { s with options := s.options.map fun o => { o with correct := o.text == "1" } }
    let student : Access.Caller := ⟨.int 4, "STUDENT"⟩
    let calls : List (Context × Call) :=
      [(ctx, .listPublished student (.int 1)), (ctx, .startAttempt student (.int 1) .null),
        (ctx, .viewAttempt student (.int 1))]
    (s ≠ t ∧ s.withoutMarks = t.withoutMarks) ∧
      ∃ outcomes u v, answers calls (.ofStore s) = (outcomes, u) ∧
        answers calls (.ofStore t) = (outcomes, v) ∧
        u.store.withoutMarks = v.store.withoutMarks ∧ u.store.attempts.length = 1 ∧
        outcomes.all (·.any Outcome.isSuccess) = true := by
  intro ctx s t student calls
  have hmarks : s ≠ t ∧ s.withoutMarks = t.withoutMarks := by decide +kernel
  have before : ∀ c ∈ calls, c.2.precedesSubmission = true := by simp [calls, precedesSubmission]
  have hstarted : (answers calls (.ofStore s)).2.store.attempts.length = 1 ∧
      (answers calls (.ofStore s)).1.all (·.any Outcome.isSuccess) = true := by decide +kernel
  obtain ⟨outcomes, u, v, hu, hv, hstores, -⟩ := marks_stay_hidden hmarks.2 before
  rw [hu] at hstarted
  exact ⟨hmarks, outcomes, u, v, hu, hv, hstores, hstarted⟩

end Call

end Assessment
