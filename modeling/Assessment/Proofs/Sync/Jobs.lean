import Assessment.Proofs.Attempt.Isolation
import Assessment.Proofs.Attempt.Integrity
import Assessment.Proofs.Attempt.Projections
import Assessment.Proofs.Sync.Integrity
import Assessment.Proofs.Sync.Results

/-!
# Every submitted attempt has a job

A submission queues its attempt before anything else can fail, and no job is ever taken from the queue. A
job that was queued for an attempt too early, while it was in progress, has failed for good whenever it was
run, so it starts over when it is queued again.
-/

namespace Assessment.Sync

open Access Attempting Request Table

/-- The numbers of the queue are such as tables work on: jobs are counted, and their attempts have such
numbers. -/
structure QueueLimits (s : Store) : Prop where
  counted : ∀ j ∈ s.jobs, j.id ≤ s.jobs.length
  attempts : ∀ j ∈ s.jobs, isStorable j.attempt = true

/-- A job that waits for an attempt in progress has not been run, or not since it started over. -/
def Unrun (s : Store) : Prop :=
  ∀ j ∈ s.jobs, ∀ a ∈ s.attempts, a.id = j.attempt → a.status = .inProgress → j.status = .pending →
    j.runs = 0

/-- Every submitted attempt has a job. -/
def AllQueued (s : Store) : Prop :=
  ∀ a ∈ s.attempts, a.status = .submitted → ∃ j ∈ s.jobs, j.attempt = a.id

section Steps

variable {ctx : Context} {s s' : Store} {op : Service}

lemma queue_of_step (w : Step ctx s op s') : s'.jobs = s.jobs ∨ Queueing ctx s s' := by
  cases w with
  | queueing _ w => exact .inr w
  | quiz w | attempt w | book w | opening _ w | posting _ w =>
    rw [w.frame]
    exact .inl rfl

lemma job_of_step (hi : QueueIntegrity s) (w : Step ctx s op s') {attempt : Int}
    (h : ∃ j ∈ s.jobs, j.attempt = attempt) : ∃ j ∈ s'.jobs, j.attempt = attempt := by
  obtain ⟨j, hj, rfl⟩ := h
  rcases queue_of_step w with hjobs | w
  · exact ⟨j, hjobs ▸ hj, rfl⟩
  · rcases w.updates hi.jobs with ⟨_, -, -, -, hjobs⟩ | ⟨i, hi', i', u, hjobs⟩
    · exact ⟨j, hjobs ▸ List.mem_append_left _ hj, rfl⟩
    · have hsame : s'.jobs.map SyncJob.attempt = s.jobs.map SyncJob.attempt := by
        rw [hjobs]
        exact hi.jobs.map_replace hi' u.names.2
      exact List.mem_map.mp (hsame ▸ List.mem_map_of_mem hj)

lemma QueueLimits.step (h : QueueLimits s) (hi : QueueIntegrity s) (w : Step ctx s op s') :
    QueueLimits s' := by
  rcases queue_of_step w with hjobs | w
  · exact ⟨hjobs ▸ h.counted, hjobs ▸ h.attempts⟩
  · rcases w.updates hi.jobs with ⟨a, -, -, hstorable, hjobs⟩ | ⟨j, hj, j', u, hjobs⟩
    · have hlength : s'.jobs.length = s.jobs.length + 1 := by
        rw [hjobs, List.length_append, List.length_singleton]
      have hnext : nextId s.jobs ≤ s.jobs.length + 1 := nextId_le (Int.natCast_nonneg _) h.counted
      refine ⟨fun x hx => ?_, fun x hx => ?_⟩
      all_goals
        rw [hjobs] at hx
        rcases List.mem_append.mp hx with hx | hx
      · have := h.counted x hx
        omega
      · rw [List.mem_singleton.mp hx, hlength]
        exact hnext
      · exact h.attempts x hx
      · rw [List.mem_singleton.mp hx]
        exact hstorable
    · obtain ⟨hid, hattempt⟩ := u.names
      have hlength : s'.jobs.length = s.jobs.length := by rw [hjobs, Table.modify, List.length_map]
      refine ⟨fun x hx => ?_, fun x hx => ?_⟩
      all_goals
        rw [hjobs] at hx
        rcases (mem_modify hi.jobs hj).mp hx with rfl | ⟨hx, -⟩
      · exact hlength ▸ hid ▸ h.counted j hj
      · exact hlength ▸ h.counted x hx
      · exact hattempt ▸ h.attempts j hj
      · exact h.attempts x hx

lemma running_of_step (w : Step ctx s op s') {a : Attempt} (ha : a ∈ s'.attempts)
    (running : a.status = .inProgress) : a ∈ s.attempts ∨ a.id = nextId s.attempts := by
  cases w with
  | attempt w =>
    cases w with
    | start => exact (List.mem_append.mp ha).imp_right fun h => by rw [List.mem_singleton.mp h]; rfl
    | submit =>
      obtain ⟨x, hx, rfl⟩ := List.mem_map.mp ha
      split_ifs at running ⊢
      · cases running
      · exact .inl hx
  | quiz w | book w | opening _ w | posting _ w | queueing _ w =>
    rw [w.frame] at ha
    exact .inl ha

lemma FailsIn.of_running (hn : Numbered s.attempts) {a : Attempt} (ha : a ∈ s.attempts)
    (running : a.status = .inProgress) (storable : isStorable a.id = true)
    (retries : ∃ n, readSetting ctx.settings.conflictRetries = .ok n) {fault : Fault}
    (h : FailsIn ctx s a.id fault) : fault = .refused .attemptNotSubmitted := by
  obtain ⟨σ, hσ, rfl, hpost⟩ := h
  obtain ⟨n, hn'⟩ := retries
  have hnamed : readPositive "Attempt id" (.int a.id) = .ok a.id := readPositive_of_pos (hn.positive a ha)
  by_cases hnegative : n < 0
  · unfold post at hpost
    rw [Action.bind_of_ok (Action.read_eq_ok.mpr ⟨hnamed, rfl⟩),
      Action.bind_of_ok (Action.read_eq_ok.mpr ⟨(rfl : readDeadline? ctx.now .null = .ok none), rfl⟩),
      Action.bind_of_ok (Action.read_eq_ok.mpr ⟨hn', rfl⟩), if_pos hnegative] at hpost
    cases hpost
  · have hrun : (postOnce ctx a.id program .null none).run σ.store =
        .error (.refused .attemptNotSubmitted) := by
      have hfind : find? a.id σ.store.attempts = some a := find?_of_mem hn ha
      have hrow : readRow? a.id σ.store.attempts = .ok (some a) := by simp [readRow?, storable, hfind]
      simp only [Transaction.run, postOnce, submittedAttempt, hrow, bind, Except.bind, running]
      rfl
    have reads : Reads ctx ⟨.int a.id, program, .null, .null⟩ a.id none :=
      ⟨hnamed, rfl, n, hn', not_lt.mp hnegative⟩
    rw [post_of_error reads hσ hrun] at hpost
    exact (Except.error.inj hpost).symm

lemma Unrun.queueing (h : Unrun s) (hi : QueueIntegrity s) (hn : Numbered s.attempts) (hr : QueueLimits s)
    (retries : ∃ n, readSetting ctx.settings.conflictRetries = .ok n) (w : Queueing ctx s s') : Unrun s' := by
  intro j hj a ha hid running pending
  rw [w.frame] at ha
  cases w with
  | begin =>
    rcases List.mem_append.mp hj with hj | hj
    · exact h j hj a ha hid running pending
    · rw [List.mem_singleton.mp hj]
      rfl
  | again =>
    obtain ⟨i, hi', rfl⟩ := List.mem_map.mp hj
    split_ifs at hid pending ⊢
    · unfold requeued at hid ⊢
      split_ifs at hid ⊢ with hpending
      · exact h i hi' a ha hid running hpending
      · rfl
    · exact h i hi' a ha hid running pending
  | success found =>
    rcases (mem_modify hi.jobs found).mp hj with rfl | ⟨hj, -⟩
    · cases pending
    · exact h j hj a ha hid running pending
  | @failure i _ fault found hpending outcome fails =>
    rcases (mem_modify hi.jobs found).mp hj with rfl | ⟨hj, -⟩
    · -- The attempt is in progress still, and for that the job is given up.
      have hattempt : j.attempt = i.attempt := (Update.failure hpending outcome).names.2
      have hstorable : isStorable a.id = true := by
        rw [hid, hattempt]
        exact hr.attempts i found
      have hfault := FailsIn.of_running hn ha running hstorable retries (by rwa [hid, hattempt])
      obtain ⟨_, -, ⟨-, rfl⟩ | ⟨hpassing, -⟩⟩ := failed_eq_ok outcome
      · cases pending
      · rw [hfault] at hpassing
        exact absurd (by decide) hpassing
    · exact h j hj a ha hid running pending

lemma Unrun.step (h : Unrun s) (hi : QueueIntegrity s) (hn : Numbered s.attempts) (hr : QueueLimits s)
    (retries : ∃ n, readSetting ctx.settings.conflictRetries = .ok n) (w : Step ctx s op s') : Unrun s' := by
  rcases queue_of_step w with hjobs | w'
  · intro j hj a ha hid running pending
    rw [hjobs] at hj
    rcases running_of_step w ha running with ha | hnew
    · exact h j hj a ha hid running pending
    · exact absurd (hid.symm.trans hnew) (hi.attempts.ne_nextId hj)
  · exact h.queueing hi hn hr retries w'

end Steps

section Queue

variable {ctx : Context} {s : Store} {a : Attempt} {j j' : SyncJob} {σ τ : Session}

lemma QueueLimits.storable (h : QueueLimits s) (hi : QueueIntegrity s) (hn : Numbered s.attempts)
    (hj : j ∈ s.jobs) : isStorable j.id = true := by
  have hlength : s.jobs.length ≤ (2 ^ 63 - 1 : Int).toNat := by
    have hmap : (s.jobs.map SyncJob.attempt).length = s.jobs.length := List.length_map _
    rw [← hmap]
    refine length_le_of_nodup hi.single fun n hn' => ?_
    obtain ⟨i, hi', rfl⟩ := List.mem_map.mp hn'
    obtain ⟨x, hx, hid⟩ := hi.attempts i hi'
    have hpos : 0 < Row.id x := hn.positive x hx
    have hrange := isStorable_iff.mp (h.attempts i hi')
    omega
  have hpos : 0 < j.id := hi.jobs.positive j hj
  have hle := h.counted j hj
  exact isStorable_iff.mpr (by omega)

/-- What queuing an attempt comes to: its job is pending and starts over, unless it was pending already. -/
structure Enqueued (ctx : Context) (s : Store) (attempt : Int) (j : SyncJob) (t : Store) : Prop where
  writes : Queueing ctx s t
  mem : j ∈ t.jobs
  named : j.attempt = attempt
  pending : j.status = .pending
  runs : (∀ i ∈ s.jobs, i.attempt = attempt → i.status = .pending → i.runs = 0) → j.runs = 0

lemma enqueueOne_enqueues (ctx : Context) (hi : QueueIntegrity s) {attempt : Int}
    (known : ∃ a ∈ s.attempts, a.id = attempt) (storable : isStorable attempt = true) :
    ∃ j t, (enqueueOne ctx (.int attempt)).run s = .ok (some j, t) ∧ Enqueued ctx s attempt j t := by
  have hkey : jobOf? (.cell (.whole attempt)) s = s.jobOf? attempt := by
    simp only [jobOf?, Probe.findsWhole_whole]
    rfl
  cases hj : s.jobOf? attempt with
  | some i =>
    have hmem : i ∈ s.jobs := List.mem_of_find?_eq_some hj
    have hattempt : i.attempt = attempt := by simpa using List.find?_some hj
    have hrun : (enqueueOne ctx (.int attempt)).run s = .ok (some (requeued ctx.now i),
        { s with jobs := modify i.id (requeued ctx.now) s.jobs }) := by
      simp [Transaction.run, enqueueOne, Value.probe_of_storable storable, hkey, hj, Decision.apply]
    refine ⟨_, _, hrun, .again hmem, (mem_modify hi.jobs hmem).mpr (.inl rfl), ?_, ?_, fun unrun => ?_⟩
    · exact (Update.again : Update ctx i _).names.2.trans hattempt
    all_goals
      unfold requeued
      split_ifs with hpending
    · exact hpending
    · rfl
    · exact unrun i hmem hattempt hpending
    · rfl
  | none =>
    have hhas : has attempt s.attempts = true := has_iff.mpr known
    have hinsert : insertJob (.int attempt) ctx.now s = .ok (SyncJob.begin attempt ctx.now (nextId s.jobs),
        { s with jobs := s.jobs ++ [SyncJob.begin attempt ctx.now (nextId s.jobs)] }) := by
      simp [insertJob, columnOf_storable storable, requiredReference, reference, hhas, hj]
    have hrun : (enqueueOne ctx (.int attempt)).run s = .ok
        (some (SyncJob.begin attempt ctx.now (nextId s.jobs)),
          { s with jobs := s.jobs ++ [SyncJob.begin attempt ctx.now (nextId s.jobs)] }) := by
      simp [Transaction.run, enqueueOne, Value.probe_of_storable storable, hkey, hj, Decision.apply, hinsert]
    exact ⟨_, _, hrun, .begin known hj storable, List.mem_append_right _ (List.mem_singleton_self _), rfl,
      rfl, fun _ => rfl⟩

lemma enqueue_of_run (hσ : σ.rivals = []) {attempt : Value} {t : Store}
    (h : (enqueueOne ctx attempt).run σ.store = .ok (some j, t)) :
    enqueue ctx attempt σ = (.ok (some j), { σ with store := t }) := Action.commit_of_ok hσ h

lemma onSubmitted_eager (eager : ctx.settings.eager.truthy = true) (hσ : σ.rivals = []) {attempt : Int}
    {t : Store} (h : (enqueueOne ctx (.int attempt)).run σ.store = .ok (some j, t)) :
    (onSubmitted ctx attempt σ).2 = (runJob ctx (.int j.id) { σ with store := t }).2 := by
  have hsync : syncNow ctx (.int attempt) σ = runJob ctx (.int j.id) { σ with store := t } :=
    Action.bind_of_ok (enqueue_of_run hσ h)
  unfold onSubmitted
  rw [if_pos eager]
  rcases hrun : runJob ctx (.int j.id) { σ with store := t } with ⟨_ | _, τ⟩
  · rw [Action.bind_of_error (hsync.trans hrun)]
  · rw [Action.bind_of_ok (hsync.trans hrun)]
    rfl

/-- Whatever the settings are, a submission queues its attempt first. -/
lemma onSubmitted_queues (hσ : σ.rivals = []) (hi : QueueIntegrity σ.store) {attempt : Int}
    (known : ∃ a ∈ σ.store.attempts, a.id = attempt) (storable : isStorable attempt = true) :
    ∃ j t, Enqueued ctx σ.store attempt j t ∧
      Relation.ReflTransGen (Working ctx) t (onSubmitted ctx attempt σ).2.store := by
  obtain ⟨j, t, hrun, henqueued⟩ := enqueueOne_enqueues ctx hi known storable
  refine ⟨j, t, henqueued, ?_⟩
  by_cases eager : ctx.settings.eager.truthy = true
  · rw [onSubmitted_eager eager hσ hrun]
    exact (runJob_takes (.int j.id) { σ with store := t } hσ).2
  · unfold onSubmitted
    rw [if_neg eager, Action.bind_of_ok (enqueue_of_run hσ hrun)]
    exact .refl

lemma jobs_of_workings {t : Store} (hi : QueueIntegrity s) (h : Relation.ReflTransGen (Working ctx) s t) :
    QueueIntegrity t ∧ t.attempts = s.attempts ∧
      ∀ attempt, (∃ j ∈ s.jobs, j.attempt = attempt) → ∃ j ∈ t.jobs, j.attempt = attempt := by
  induction h with
  | refl => exact ⟨hi, rfl, fun _ h => h⟩
  | tail _ w ih =>
    obtain ⟨ht, hattempts, hjobs⟩ := ih
    have hstep : Step ctx _ (.syncNow .null) _ := w.elim (.posting rfl) (.queueing rfl)
    refine ⟨ht.step hstep, ?_, fun attempt h => job_of_step ht hstep (hjobs attempt h)⟩
    rw [← hattempts]
    rcases w with w | w <;> rw [w.frame]

end Queue

section Runs

variable {P : Context → Service → Prop} {ctx : Context} {s s' : Store} {op : Service}

lemma submitted_of_step (w : Step ctx s op s')
    (other : ∀ caller attempt answers now timeout,
      op ≠ .call (.submitAttempt caller attempt answers now timeout))
    {a : Attempt} (ha : a ∈ s'.attempts) (done : a.status = .submitted) : a ∈ s.attempts := by
  cases w with
  | attempt w =>
    cases w with
    | start =>
      rcases List.mem_append.mp ha with ha | ha
      · exact ha
      · rw [List.mem_singleton.mp ha] at done
        cases done
    | submit => exact absurd rfl (other _ _ _ _ _)
  | quiz w | book w | opening _ w | posting _ w | queueing _ w =>
    rw [w.frame] at ha
    exact ha

/-- A submission queues the attempt that it submits, and takes no job from the queue. -/
lemma AllQueued.submit (h : AllQueued s) (hq : QueueIntegrity s) (hn : Numbered s.attempts) {caller : Caller}
    {attempt answers now timeout : Value} :
    AllQueued (Service.after ctx (.call (.submitAttempt caller attempt answers now timeout)) s) := by
  have hafter : Service.after ctx (.call (.submitAttempt caller attempt answers now timeout)) s =
    ((Call.submitAttempt caller attempt answers now timeout).answer ctx (.ofStore s)).2.store := rfl
  rw [hafter]
  rcases hrecord : (record ctx caller attempt answers now timeout).run s with fault | ⟨⟨a, r⟩, t⟩
  · rw [submit_of_error hrecord]
    exact h
  · rw [submit_of_ok hrecord]
    obtain ⟨_, _, submittedAt, ends, b, found, -, -, -, -, -, -, -, -, ht⟩ := record_eq_ok hrecord
    have ha := (own_eq_ok found).1
    have hjobs : t.jobs = s.jobs := by rw [ht]
    have hrow (x : Attempt) : x ∈ t.attempts ↔
        x = submitted b (ends.any (· < submittedAt)) submittedAt a ∨ x ∈ s.attempts ∧ x.id ≠ a.id := by
      rw [ht]
      exact mem_modify hn ha
    have hi := hq.step (.attempt (record_writes hrecord))
    have hknown : ∃ x ∈ t.attempts, x.id = a.id := ⟨_, (hrow _).mpr (.inl rfl), rfl⟩
    let σ : Session := ⟨t, [], [submissionSignal caller a r]⟩
    have hσ : σ.rivals = [] := rfl
    obtain ⟨j, u, henqueued, hworks⟩ := onSubmitted_queues hσ hi hknown (own_named found).2
    have hqueues : Step ctx t (.enqueue .null) u := .queueing rfl henqueued.writes
    obtain ⟨-, hattempts, hkept⟩ := jobs_of_workings (hi.step hqueues) hworks
    intro x hx done
    dsimp only at hx ⊢
    rw [hattempts, henqueued.writes.frame] at hx
    refine hkept x.id ?_
    rcases (hrow x).mp hx with rfl | ⟨hx, -⟩
    · exact ⟨j, henqueued.mem, henqueued.named⟩
    · exact job_of_step hi hqueues (hjobs ▸ h x hx done)

lemma AllQueued.after (h : AllQueued s) (hq : QueueIntegrity s) (hn : Numbered s.attempts) :
    AllQueued (op.after ctx s) := by
  by_cases hop : ∃ caller attempt answers now timeout,
      op = .call (.submitAttempt caller attempt answers now timeout)
  · obtain ⟨_, _, _, _, _, rfl⟩ := hop
    exact h.submit hq hn
  · have other : ∀ caller attempt answers now timeout,
        op ≠ .call (.submitAttempt caller attempt answers now timeout) :=
      fun caller attempt answers now timeout heq => hop ⟨caller, attempt, answers, now, timeout, heq⟩
    refine (Service.after_invariant (I := fun t => QueueIntegrity t ∧ AllQueued t) ⟨hq, h⟩
      fun t u ht w => ⟨ht.1.step w, fun a ha done => ?_⟩).2
    exact job_of_step ht.1 w (ht.2 a (submitted_of_step w other ha done) done)

lemma allQueued_of_reachable (h : Reachable P s) : AllQueued s := by
  obtain ⟨users, classSections, enrollments, h⟩ := h
  induction h with
  | done => exact fun a ha => absurd ha List.not_mem_nil
  | next h ctx op _ ih =>
    have hreachable : Reachable P _ := ⟨users, classSections, enrollments, h⟩
    exact ih.after (queueIntegrity_of_reachable hreachable)
      (Attempting.integrity_of_reachable hreachable).2.attempts

lemma QueueIntegrity.only (h : QueueIntegrity s) {j : SyncJob} (hj : j ∈ s.jobs) :
    s.jobs.filter (·.attempt == j.attempt) = [j] := by
  have hsingle := h.single
  generalize s.jobs = jobs at hj hsingle
  induction jobs with
  | nil => cases hj
  | cons i jobs ih =>
    rw [List.map_cons, List.nodup_cons] at hsingle
    have hother {x : SyncJob} (hx : x ∈ jobs) : x.attempt ≠ i.attempt :=
      fun heq => hsingle.1 (heq ▸ List.mem_map_of_mem hx)
    rcases List.mem_cons.mp hj with rfl | hj
    · have hnone : jobs.filter (·.attempt == j.attempt) = [] :=
        List.filter_eq_nil_iff.mpr fun x hx => by simpa using hother hx
      simp [hnone]
    · rw [List.filter_cons_of_neg (by simpa using Ne.symm (hother hj))]
      exact ih hj hsingle.2

end Runs

end Assessment.Sync
