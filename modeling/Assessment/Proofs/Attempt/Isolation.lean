import Assessment.Proofs.Gradebook.Bounds

/-!
# Submissions are isolated from gradebooks

What a submission records and answers depends on the tables of the school, of its quizzes and of attempts.
Scores are posted within the submission, but whatever comes of that, the submission is answered as it would
be without gradebooks, and no attempt is touched.
-/

namespace Assessment

/-- A store without its gradebooks and its queue. -/
def Store.withoutGradebooks (s : Store) : Store :=
  { s with books := [], items := [], entries := [], approvals := [], audits := [], jobs := [] }

namespace Sync

variable {ctx : Context}

lemma retrying_silent {α : Type} (t : Transaction α) (retries : Nat) : (retrying t retries).Silent := by
  induction retries with
  | zero => exact .commit t
  | succ retries ih =>
    refine .bind (.outcome (.commit t)) fun r => ?_
    cases r with
    | ok a => exact .pure a
    | error fault => exact .ite ih (.throw fault)

lemma post_silent (r : PostRequest) : (post ctx r).Silent :=
  .bind (.read _) fun _ => .bind (.read _) fun _ => .bind (.read _) fun _ =>
    .ite (.pure none) (.map (retrying_silent _ _) _)

lemma runJob_silent (job : Value) : (runJob ctx job).Silent := by
  refine .bind (.read _) fun found => ?_
  cases found with
  | none => exact .pure none
  | some j =>
    refine .bind (.outcome (post_silent _)) fun result => ?_
    rcases result with fault | _ | posted
    · exact .bind (.commit _) fun _ => .pure _
    · exact .throw _
    · exact .bind (.commit _) fun _ => .pure _

lemma syncNow_silent (attempt : Value) : (syncNow ctx attempt).Silent := by
  refine .bind (.commit _) fun found => ?_
  cases found with
  | none => exact .throw _
  | some j => exact runJob_silent _

lemma onSubmitted_silent (attempt : Int) : (onSubmitted ctx attempt).Silent :=
  .ite (.bind (syncNow_silent _) fun _ => .pure ()) (.bind (.commit _) fun _ => .pure ())

lemma frame_of_workings {s s' : Store} (h : Relation.ReflTransGen (Working ctx) s s') :
    s' = { s with books := s'.books, entries := s'.entries, audits := s'.audits, jobs := s'.jobs } := by
  induction h with
  | refl => rfl
  | tail _ w ih =>
    rcases w with w | w <;> rw [w.frame, ih]

lemma withoutGradebooks_of_workings {s s' : Store} (h : Relation.ReflTransGen (Working ctx) s s') :
    s'.withoutGradebooks = s.withoutGradebooks := by
  rw [frame_of_workings h]
  rfl

lemma onSubmitted_leaves (ctx : Context) (attempt : Int) {s : Session} (hs : s.rivals = []) :
    let t := (onSubmitted ctx attempt s).2
    t.rivals = [] ∧ t.sent = s.sent ∧ t.store.withoutGradebooks = s.store.withoutGradebooks := by
  obtain ⟨hrivals, hworks⟩ := onSubmitted_takes attempt s hs
  exact ⟨hrivals, onSubmitted_silent attempt s, withoutGradebooks_of_workings hworks⟩

end Sync

namespace Attempting

open Access Quiz Request

section Records

variable {ctx ctx' : Context} {caller : Caller} {attempt answers now timeout : Value} {s : Store}

lemma claim_withoutGradebooks (id : Int) (b : Quiz.Breakdown) (late : Bool) (t : Time.Instant) :
    claim id b late t s.withoutGradebooks = (claim id b late t s).map Store.withoutGradebooks := by
  unfold claim
  rw [apply_ite (Except.map Store.withoutGradebooks)]
  rfl

lemma insertSelections_withoutGradebooks (id : Int) (graded : List Quiz.GradedSelection) :
    insertSelections id graded s.withoutGradebooks =
      (insertSelections id graded s).map fun r => (r.1, r.2.withoutGradebooks) := by
  have hattempts : s.withoutGradebooks.attempts = s.attempts := rfl
  have hquestions : s.withoutGradebooks.questions = s.questions := rfl
  have hoptions : s.withoutGradebooks.options = s.options := rfl
  unfold insertSelections
  rw [hattempts, hquestions, hoptions]
  cases requireStorable (graded.map (·.question) ++ graded.filterMap (·.selected)) with
  | error => rfl
  | ok =>
    cases requireRow id s.attempts with
    | error => rfl
    | ok =>
      dsimp only [bind, Except.bind]
      split_ifs <;> rfl

lemma record_withoutGradebooks :
    (record ctx caller attempt answers now timeout).run s.withoutGradebooks =
      ((record ctx caller attempt answers now timeout).run s).map
        fun r => (r.1, r.2.withoutGradebooks) := by
  have hread : record ctx caller attempt answers now timeout s.withoutGradebooks =
      record ctx caller attempt answers now timeout s := rfl
  unfold Transaction.run
  rw [hread]
  cases hd : record ctx caller attempt answers now timeout s with
  | error fault => rfl
  | ok d =>
    simp only [record, bind_eq_ok, guard_eq_ok, lift_eq_ok, pure_eq_ok] at hd
    obtain ⟨deadline, -, a, -, -, selections, -, t, -, q, -, ends, -, b, -, rfl⟩ := hd
    change (do
      let s ← claim a.id b _ t s.withoutGradebooks
      _) = Except.map _ (do
      let s ← claim a.id b _ t s
      _)
    rw [claim_withoutGradebooks]
    cases claim a.id b (ends.any (· < t)) t s with
    | error fault => rfl
    | ok u =>
      dsimp only [bind, Except.bind, Except.map]
      by_cases hexpired : isExpired ctx.now deadline = true
      · rw [if_pos hexpired, if_pos hexpired]
        rfl
      · rw [if_neg hexpired, if_neg hexpired, insertSelections_withoutGradebooks]
        cases insertSelections a.id b.graded u <;> rfl

lemma record_congr (clock : ctx.now = ctx'.now) :
    record ctx caller attempt answers now timeout = record ctx' caller attempt answers now timeout := by
  unfold record timeOr
  rw [clock]

/-- What is recorded is the same in stores that agree but for their gradebooks. -/
lemma record_agrees {t : Store} (clock : ctx.now = ctx'.now)
    (agree : s.withoutGradebooks = t.withoutGradebooks) (caller : Caller)
    (attempt answers now timeout : Value) :
    (∃ fault, (record ctx caller attempt answers now timeout).run s = .error fault ∧
        (record ctx' caller attempt answers now timeout).run t = .error fault) ∨
      ∃ r s' t', (record ctx caller attempt answers now timeout).run s = .ok (r, s') ∧
        (record ctx' caller attempt answers now timeout).run t = .ok (r, t') ∧
        s'.withoutGradebooks = t'.withoutGradebooks := by
  have hrecord := congrArg (record ctx caller attempt answers now timeout).run agree
  rw [record_withoutGradebooks, record_withoutGradebooks] at hrecord
  rw [← record_congr clock]
  cases hs : (record ctx caller attempt answers now timeout).run s with
  | error fault =>
    cases ht : (record ctx caller attempt answers now timeout).run t with
    | error fault' => rw [hs, ht] at hrecord; cases hrecord; exact .inl ⟨fault, rfl, rfl⟩
    | ok y => rw [hs, ht] at hrecord; cases hrecord
  | ok x =>
    cases ht : (record ctx caller attempt answers now timeout).run t with
    | error fault' => rw [hs, ht] at hrecord; cases hrecord
    | ok y =>
      rw [hs, ht] at hrecord
      obtain ⟨hr, hstore⟩ := Prod.mk.inj (Except.ok.inj hrecord)
      exact .inr ⟨x.1, x.2, y.2, rfl, by rw [hr], hstore⟩

end Records

section Answers

variable {ctx : Context} {caller : Caller} {attempt answers now timeout : Value} {s s' : Store}

/-- What is sent of a submission. -/
def submissionSignal (caller : Caller) (a : Attempt) (r : SubmissionResult) : Signal :=
  .attemptSubmitted a.id r.quiz caller.id a.classSection r.score r.maxScore r.late

lemma submit_of_error {fault : Fault}
    (h : (record ctx caller attempt answers now timeout).run s = .error fault) :
    (Call.submitAttempt caller attempt answers now timeout).answer ctx (.ofStore s) =
      (some (.failure fault.failure), .ofStore s) := by
  have hcommit := Action.commit_of_error (s := .ofStore s) rfl h
  have hrun : (Call.submitAttempt caller attempt answers now timeout).run ctx (.ofStore s) =
      (.error fault, .ofStore s) := Action.bind_of_error (Action.bind_of_error hcommit)
  unfold Call.answer
  rw [hrun]

lemma submit_of_ok {a : Attempt} {r : SubmissionResult}
    (h : (record ctx caller attempt answers now timeout).run s = .ok ((a, r), s')) :
    (Call.submitAttempt caller attempt answers now timeout).answer ctx (.ofStore s) =
      (some (.success (submissionReport r)),
        (Sync.onSubmitted ctx a.id ⟨s', [], [submissionSignal caller a r]⟩).2) := by
  have hcommit := Action.commit_of_ok (s := .ofStore s) rfl h
  have hsubmit : submit (Sync.onSubmitted ctx) ctx caller attempt answers now timeout (.ofStore s) =
      (.ok r, (Sync.onSubmitted ctx a.id ⟨s', [], [submissionSignal caller a r]⟩).2) :=
    Action.bind_of_ok hcommit
  have hrun : (Call.submitAttempt caller attempt answers now timeout).run ctx (.ofStore s) =
      (.ok (some (submissionReport r)),
        (Sync.onSubmitted ctx a.id ⟨s', [], [submissionSignal caller a r]⟩).2) :=
    Action.bind_of_ok hsubmit
  unfold Call.answer
  rw [hrun]
  rfl

end Answers

/-- A submission is answered alike, whatever gradebooks and queue there are and whatever the settings,
the directory and the choice of items: it leaves the same tables of the school, of quizzes and of attempts,
and sends the same signal. What it sends tells the score that it answers with; when it fails, nothing has
happened. -/
theorem submissions_are_isolated {ctx ctx' : Context} (clock : ctx.now = ctx'.now) {s t : Store}
    (agree : s.withoutGradebooks = t.withoutGradebooks) (caller : Caller)
    (attempt answers now timeout : Value) :
    ∃ outcome u v,
      (Call.submitAttempt caller attempt answers now timeout).answer ctx (.ofStore s) = (some outcome, u) ∧
      (Call.submitAttempt caller attempt answers now timeout).answer ctx' (.ofStore t) =
        (some outcome, v) ∧
      u.store.withoutGradebooks = v.store.withoutGradebooks ∧ u.sent = v.sent ∧
      ((∃ f, outcome = .failure f ∧ u = .ofStore s ∧ v = .ofStore t) ∨
        ∃ a result, outcome = .success (submissionReport result) ∧
          u.sent = [submissionSignal caller a result]) := by
  rcases record_agrees clock agree caller attempt answers now timeout with
    ⟨fault, hs, ht⟩ | ⟨⟨a, result⟩, s', t', hs, ht, hagree⟩
  · exact ⟨_, _, _, submit_of_error hs, submit_of_error ht, agree, rfl, .inl ⟨_, rfl, rfl, rfl⟩⟩
  · refine ⟨_, _, _, submit_of_ok hs, submit_of_ok ht, ?_⟩
    have leaves (ctx : Context) (s : Store) :=
      Sync.onSubmitted_leaves ctx a.id (s := ⟨s, [], [submissionSignal caller a result]⟩) rfl
    obtain ⟨-, hsent, hstore⟩ := leaves ctx s'
    obtain ⟨-, hsent', hstore'⟩ := leaves ctx' t'
    exact ⟨hstore.trans (hagree.trans hstore'.symm), hsent.trans hsent'.symm,
      .inr ⟨a, result, rfl, hsent⟩⟩

/-- The last student submits where the score can be posted at once, and where nothing is set up and
posting waits. -/
theorem submissions_are_isolated_of_entered :
    let ctx := (Scenario.State.start .standard).context
    let ctx' := { ctx with
      settings := { ctx.settings with eager := .bool false, maxRuns := .text "many" } }
    let c := Call.submitAttempt ⟨.int 5, "STUDENT"⟩ (.int 2) (.list []) .null .null
    (ctx.now = ctx'.now ∧
        Gradebook.enteredAndPosted.withoutGradebooks = begunAndSubmitted.withoutGradebooks) ∧
      ∃ outcome u v, c.answer ctx (.ofStore Gradebook.enteredAndPosted) = (some outcome, u) ∧
        c.answer ctx' (.ofStore begunAndSubmitted) = (some outcome, v) ∧
        u.store.withoutGradebooks = v.store.withoutGradebooks ∧ u.sent = v.sent ∧
        u.store.entries.length = 3 ∧ v.store.entries.length = 0 := by
  intro ctx ctx' c
  have clock : ctx.now = ctx'.now := rfl
  have agree : Gradebook.enteredAndPosted.withoutGradebooks = begunAndSubmitted.withoutGradebooks := by
    decide +kernel
  obtain ⟨outcome, u, v, hu, hv, hstore, hsent, -⟩ := submissions_are_isolated clock agree
    ⟨.int 5, "STUDENT"⟩ (.int 2) (.list []) .null .null
  have hu' : (c.answer ctx (.ofStore Gradebook.enteredAndPosted)).2 = u := congrArg Prod.snd hu
  have hv' : (c.answer ctx' (.ofStore begunAndSubmitted)).2 = v := congrArg Prod.snd hv
  refine ⟨⟨clock, agree⟩, outcome, u, v, hu, hv, hstore, hsent, ?_, ?_⟩
  · rw [← hu']
    decide +kernel
  · rw [← hv']
    decide +kernel

end Attempting

end Assessment
