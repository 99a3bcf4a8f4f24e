import Assessment.Proofs.Attempt.Finality
import Assessment.Proofs.Attempt.Hiding
import Assessment.Proofs.Attempt.Starting
import Assessment.Proofs.Quiz.Freezing

/-!
# What an attempt shows

An attempt that is started shows every question of its quiz and every option of each question once, in the
order of the author or shuffled. What it shows depends on its row, on its quiz and on the content of that
quiz, which all stay as they are; so it shows the same until it is submitted.
-/

namespace Assessment

/-- What is shown of an option. -/
def AnswerOption.shown (o : AnswerOption) : ShownOption := ⟨o.id, o.text⟩

namespace Attempting

open Access Quiz Request Table

/-- A question is shown with all its options, each once, by their numbers unless they are shuffled. -/
structure ShowsQuestion (s : Store) (q : Quiz) (k : Question) (x : ShownQuestion) : Prop where
  row : x.id = k.id ∧ x.text = k.text ∧ x.kind = k.kind ∧ x.points = k.points
  options : x.options.Perm ((s.options.filter (·.question == k.id)).map AnswerOption.shown)
  once : (x.options.map (·.id)).Nodup
  ascending : q.shuffleOptions = false → (x.options.map (·.id)).Pairwise (· < ·)

/-- A view shows all questions of a quiz, each once, by their positions unless they are shuffled. -/
structure ShowsQuiz (s : Store) (q : Quiz) (v : AttemptView) : Prop where
  questions : (v.questions.map (·.id)).Perm ((s.questions.filter (·.quiz == q.id)).map (·.id))
  once : (v.questions.map (·.id)).Nodup
  contents : ∀ x ∈ v.questions, ∃ k ∈ s.questions, k.quiz = q.id ∧ ShowsQuestion s q k x
  positions : InPlace (s.questionsOf q.id)
  authored : q.shuffleQuestions = false →
    v.questions.map (·.id) = (s.questionsOf q.id).map (·.id)

/-- A caller is the student of an attempt and acts as a student. -/
def IsOwn (caller : Caller) (a : Attempt) : Prop :=
  caller.actsAs .student = true ∧ caller.id.equals (.int a.student) = .ok true

section Orders

variable {α : Type} (seed : String) (xs : List α)

lemma orderQuestions_perm (shuffled : Bool) : (orderQuestions seed shuffled xs).Perm xs := by
  cases shuffled with
  | false => exact .refl xs
  | true => exact Random.shuffle_perm seed xs

lemma orderOptions_perm (question : Value) (shuffled : Bool) :
    (orderOptions seed question shuffled xs).Perm xs := by
  cases shuffled with
  | false => exact .refl xs
  | true => exact Random.shuffle_perm _ xs

end Orders

section Views

variable {s t : Store} {q q' : Quiz} {a : Attempt} {v : AttemptView}

lemma showQuestion_shows (hi : Quiz.Integrity s) (seed : String) (k : Question) :
    ShowsQuestion s q k (showQuestion s seed q.shuffleOptions k) := by
  have hsorted : (s.optionsOf k.id).Perm (s.options.filter (·.question == k.id)) := sortBy_perm _
  have hperm := (orderOptions_perm seed (s.optionsOf k.id) (.int k.id) q.shuffleOptions).trans hsorted
  have hids : ((s.options.filter (·.question == k.id)).map (·.id)).Pairwise (· < ·) :=
    List.pairwise_map.mpr (hi.options.filter _).ascending
  have hshown : (showQuestion s seed q.shuffleOptions k).options.map (·.id) =
      (orderOptions seed (.int k.id) q.shuffleOptions (s.optionsOf k.id)).map (·.id) := by
    simp [showQuestion]
  refine ⟨⟨rfl, rfl, rfl, rfl⟩, hperm.map _, ?_, fun hauthored => ?_⟩
  · rw [hshown, (hperm.map _).nodup_iff]
    exact hids.imp ne_of_lt
  · rw [hshown, hauthored]
    change ((s.optionsOf k.id).map (·.id)).Pairwise (· < ·)
    rw [optionsOf_eq hi.options]
    exact hids

lemma viewOf_shows (hi : Quiz.Integrity s) (hp : AllInPlace s) (h : viewOf s q a = .ok v) :
    v.attempt = a.id ∧ v.quiz = q.id ∧ ShowsQuiz s q v := by
  simp only [viewOf, bind_eq_ok, pure_eq_ok, exists_unit] at h
  obtain ⟨-, ends, -, rfl⟩ := h
  have hordered := orderQuestions_perm a.orderSeed (s.questionsOf q.id) q.shuffleQuestions
  have hids (ks : List Question) :
      (ks.map (showQuestion s a.orderSeed q.shuffleOptions)).map (·.id) = ks.map (·.id) := by
    rw [List.map_map]
    rfl
  refine ⟨rfl, rfl, ?_, ?_, fun x hx => ?_, ?_, fun hauthored => ?_⟩
  · rw [hids, ← questionsOf_eq hp]
    exact hordered.map _
  · rw [hids, (hordered.map _).nodup_iff, questionsOf_eq hp]
    exact List.Pairwise.imp ne_of_lt (List.pairwise_map.mpr (hi.questions.filter _).ascending)
  · obtain ⟨k, hk, rfl⟩ := List.mem_map.mp hx
    obtain ⟨hk, hquiz⟩ := mem_questionsOf.mp (hordered.mem_iff.mp hk)
    exact ⟨k, hk, hquiz, showQuestion_shows hi _ k⟩
  · rw [questionsOf_eq hp]
    exact hp q.id
  · rw [hids, hauthored]
    rfl

lemma viewOf_congr (h : SameContent q.id s t) (a : Attempt) : viewOf t q a = viewOf s q a := by
  have hshow : ∀ k ∈ s.questionsOf q.id, showQuestion t a.orderSeed q.shuffleOptions k =
      showQuestion s a.orderSeed q.shuffleOptions k := by
    intro k hk
    unfold showQuestion
    rw [h.optionsOf hk]
  have hall : (orderQuestions a.orderSeed q.shuffleQuestions (s.questionsOf q.id)).map
        (showQuestion t a.orderSeed q.shuffleOptions) =
      (orderQuestions a.orderSeed q.shuffleQuestions (s.questionsOf q.id)).map
        (showQuestion s a.orderSeed q.shuffleOptions) :=
    List.map_congr_left fun k hk => hshow k ((orderQuestions_perm _ _ _).mem_iff.mp hk)
  unfold viewOf
  simp only [h.questionsOf, hall]

lemma viewOf_later (h : Later q q') (s : Store) (a : Attempt) : viewOf s q' a = viewOf s q a := by
  rcases h with rfl | ⟨-, now, rfl⟩ <;> rfl

end Views

section Calls

variable {ctx : Context} {caller : Caller} {quiz now attempt data : Value} {s t : Store} {a : Attempt}
  {q : Quiz} {v : AttemptView}

lemma start_succeeded
    (h : ((Call.startAttempt caller quiz now).answer ctx (.ofStore s)).1 = some (.success data)) :
    ∃ q a v, (beginAttempt ctx caller quiz now).run s =
        .ok ((q, a), (Service.call (.startAttempt caller quiz now)).after ctx s) ∧
      viewOf ((Service.call (.startAttempt caller quiz now)).after ctx s) q a = .ok v ∧
      data = viewReport v := by
  have hafter : (Service.call (.startAttempt caller quiz now)).after ctx s =
      ((Call.startAttempt caller quiz now).run ctx (.ofStore s)).2.store :=
    congrArg Session.store (answer_session _ _)
  rcases hrun : (Call.startAttempt caller quiz now).run ctx (.ofStore s) with ⟨fault | found, σ⟩
  · rw [answer_of_error (congrArg Prod.fst hrun)] at h
    cases h
  rw [answer_of_ok (congrArg Prod.fst hrun)] at h
  obtain ⟨x, rfl, hx⟩ := Option.map_eq_some_iff.mp h
  obtain rfl : x = data := Outcome.success.inj hx
  rw [hafter, hrun]
  obtain ⟨v, σ₁, hstart, hreport⟩ := Action.bind_succeeded hrun
  obtain ⟨hdata, rfl⟩ := Action.read_eq_ok.mp hreport
  obtain ⟨⟨q, a⟩, σ₂, hbegin, hview⟩ := Action.bind_succeeded hstart
  obtain ⟨hv, rfl⟩ := Action.read_eq_ok.mp hview
  have hbegun := (Action.commit_succeeded (s := .ofStore s) rfl hbegin).1
  exact ⟨q, a, v, hbegun, mapError_eq_ok.mp hv, (Option.some.inj (Except.ok.inj hdata)).symm⟩

lemma beginAttempt_recorded (h : (beginAttempt ctx caller quiz now).run s = .ok ((q, a), t)) :
    q ∈ t.quizzes ∧ a ∈ t.attempts ∧ a.quiz = q.id ∧ q.status ≠ .draft := by
  obtain ⟨_, _, _, _, -, hq, -, -, hopen, -, -, -, -, ha, rfl⟩ := beginAttempt_eq_ok h
  have hmem : a ∈ s.attempts ++ [a] := List.mem_append_right _ (List.mem_singleton_self a)
  exact ⟨hq, hmem, congrArg Attempt.quiz ha, by simp [(requireOpen_eq_ok hopen).1]⟩

lemma beginAttempt_own (h : (beginAttempt ctx caller quiz now).run s = .ok ((q, a), t)) {n : Int}
    (hn : caller.id = .int n) : IsOwn caller a := by
  obtain ⟨_, _, student, _, -, -, hmember, -, -, hself, -, -, -, ha, -⟩ := beginAttempt_eq_ok h
  have hstudent : a.student = student := congrArg Attempt.student ha
  rw [hn] at hself
  refine ⟨(requireEnrolledStudent_eq_ok hmember).1, ?_⟩
  rw [hn, hstudent, Value.columnOf_int hself]
  simp [Value.equals, Value.signals]

lemma view_of_own (hi : Integrity s) (ha : a ∈ s.attempts) (running : a.status = .inProgress)
    (storable : isStorable a.id = true) (named : readPositive "Attempt id" attempt = .ok a.id)
    (own : IsOwn caller a) (quiz : quizOf s a = .ok q) (shown : viewOf s q a = .ok v) :
    ((Call.viewAttempt caller attempt).answer ctx (.ofStore s)).1 = some (.success (viewReport v)) := by
  have hview : view caller attempt s = .ok v := by
    simp [view, own_of_student hi ha storable named own.1 own.2, running, quiz, shown]
  have hrun : (Call.viewAttempt caller attempt).run ctx (.ofStore s) =
      (.ok (some (viewReport v)), .ofStore s) :=
    Action.bind_of_ok (Action.read_eq_ok.mpr ⟨hview, rfl⟩)
  exact answer_of_ok (congrArg Prod.fst hrun)

end Calls

section Runs

variable {P : Context → Service → Prop} {s t : Store} {q : Quiz} {a x : Attempt} {v : AttemptView}

/-- As long as an attempt is in progress, nothing changes of what it shows. -/
lemma viewOf_stays (hi : Quiz.Integrity s ∧ Integrity s) (ha : a ∈ s.attempts) (hq : q ∈ s.quizzes)
    (hquiz : a.quiz = q.id) (taken : q.status ≠ .draft) (hview : viewOf s q a = .ok v) (run : Run P s t)
    (hx : x ∈ t.attempts) (hid : x.id = a.id) (running : x.status = .inProgress) :
    Integrity t ∧ x = a ∧ ∃ q', quizOf t x = .ok q' ∧ viewOf t q' x = .ok v := by
  obtain ⟨ht, a', ha', hprogress⟩ := progress_of_run hi ha run
  obtain rfl : x = a' := ht.attempts.eq_of_id_eq hx ha' (hid.trans hprogress.id_eq.symm)
  obtain rfl : x = a := hprogress.resolve_right fun ⟨_, _, _, _, hdone⟩ => by
    rw [hdone] at running
    cases running
  obtain ⟨hquizzes, ⟨q', hfound, hlater⟩, hsame⟩ := frozen_run hi.1 hq taken run
  refine ⟨ht, rfl, q', ?_, ?_⟩
  · have hfind : Table.find? q'.id t.quizzes = some q' := find?_of_mem hquizzes.quizzes hfound
    rw [hlater.id_eq, ← hquiz] at hfind
    simp [quizOf, hfind]
  · rw [viewOf_later hlater, viewOf_congr hsame, hview]

/-- In every store that can be reached, a start that succeeds shows all questions of the quiz and all their
options, each once: by their positions and by their numbers, or shuffled. Whatever is asked of the program
from then on, as long as the attempt is in progress, its student is shown exactly the same. -/
theorem views_are_complete_and_stable (h : Reachable P s) (ctx : Context) (caller : Caller)
    (quiz now data : Value)
    (started : ((Call.startAttempt caller quiz now).answer ctx (.ofStore s)).1 = some (.success data)) :
    let s' := (Service.call (.startAttempt caller quiz now)).after ctx s
    ∃ q ∈ s'.quizzes, ∃ a ∈ s'.attempts, ∃ v, readPositive "Quiz id" quiz = .ok q.id ∧
      a.quiz = q.id ∧ v.attempt = a.id ∧ v.quiz = q.id ∧ data = viewReport v ∧ ShowsQuiz s' q v ∧
      (∀ n, caller.id = .int n → IsOwn caller a) ∧
      ∀ (Q : Context → Service → Prop) (t : Store), Run Q s' t →
        ∀ x ∈ t.attempts, x.id = a.id → x.status = .inProgress →
        ∀ (ctx' : Context) (viewer : Caller) (attempt : Value), IsOwn viewer a →
          readPositive "Attempt id" attempt = .ok a.id → isStorable a.id = true →
          ((Call.viewAttempt viewer attempt).answer ctx' (.ofStore t)).1 = some (.success data) := by
  intro s'
  obtain ⟨q, a, v, hbegun, hview, rfl⟩ := start_succeeded started
  obtain ⟨hq, ha, hquiz, taken⟩ := beginAttempt_recorded hbegun
  obtain ⟨_, _, _, _, hchosen, -⟩ := beginAttempt_eq_ok hbegun
  have h' : Reachable (fun _ _ => True) s' := h.after ctx _
  have hi' := integrity_of_reachable h'
  obtain ⟨hattempt, hnamed, hshows⟩ := viewOf_shows hi'.1 (inPlace_of_reachable h') hview
  refine ⟨q, hq, a, ha, v, hchosen, hquiz, hattempt, hnamed, rfl, hshows,
    fun _ => beginAttempt_own hbegun, fun _ t run x hx hid running ctx' viewer attempt own named storable => ?_⟩
  obtain ⟨ht, rfl, q', hfound, hshown⟩ := viewOf_stays hi' ha hq hquiz taken hview run hx hid running
  exact view_of_own ht hx running storable named own hfound hshown

/-- A student is shown the same after another one has begun the quiz and its teacher has closed it. -/
theorem views_are_complete_and_stable_of_closed :
    let ctx := Call.shuffledQuiz.context
    let student : Caller := ⟨.int 4, "STUDENT"⟩
    let start := Call.startAttempt student (.int 1) .null
    let s := (Service.call start).after ctx Call.shuffledQuiz.store
    let t := ctx.serve [.call (.startAttempt ⟨.int 5, "STUDENT"⟩ (.int 1) .null),
      .call (.close ⟨.int 1, "TEACHER"⟩ (.int 1))] s
    ∃ q ∈ s.quizzes, ∃ v, q.shuffleOptions = true ∧ ShowsQuiz s q v ∧ v.questions.length = 1 ∧
      (start.answer ctx (.ofStore Call.shuffledQuiz.store)).1 = some (.success (viewReport v)) ∧
      ((Call.viewAttempt student (.int 1)).answer ctx (.ofStore t)).1 = some (.success (viewReport v)) := by
  intro ctx student start s t
  have hreachable : Reachable (fun _ _ => True) Call.shuffledQuiz.store := .serve (fun _ _ => trivial) _ _ _
  have hstarted : (start.answer ctx (.ofStore Call.shuffledQuiz.store)).1.any Outcome.isSuccess = true := by
    decide +kernel
  obtain ⟨data, hanswer⟩ := success_of_any hstarted
  obtain ⟨q, hq, a, ha, v, -, -, -, -, rfl, hshows, hown, hstable⟩ :=
    views_are_complete_and_stable hreachable ctx student (.int 1) .null _ hanswer
  have hquizzes : ∀ q ∈ s.quizzes, q.shuffleOptions = true ∧
      (s.questions.filter (·.quiz == q.id)).length = 1 := by decide +kernel
  have hattempts : ∀ a ∈ s.attempts, a.id = 1 := by decide +kernel
  have hlater : ∃ x ∈ t.attempts, x.id = 1 ∧ x.status = .inProgress := by decide +kernel
  obtain ⟨hshuffles, hcount⟩ := hquizzes q hq
  obtain ⟨x, hx, hxid, running⟩ := hlater
  have hviewed := hstable (fun _ _ => True) t (.serve fun _ _ => trivial) x hx
    (hxid.trans (hattempts a ha).symm) running ctx student (.int 1) (hown 4 rfl)
  rw [hattempts a ha] at hviewed
  have hlength := hshows.questions.length_eq
  rw [List.length_map, List.length_map, hcount] at hlength
  exact ⟨q, hq, v, hshuffles, hshows, hlength, hanswer, hviewed rfl rfl⟩

end Runs

end Attempting

end Assessment
