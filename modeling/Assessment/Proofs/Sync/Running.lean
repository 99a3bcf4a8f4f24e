import Assessment.Proofs.Sync.Jobs

/-!
# The run of a job

A run of a pending job posts once and records on the job what comes of it. With the standard settings of the
queue every run comes to an end: the job is completed or given up, or it is due again after the time of the
run.
-/

namespace Assessment.Sync

open Request Table Time

variable {ctx : Context} {s t : Store} {j j' : SyncJob} {σ : Session} {r : Except Fault Posted}

/-- What becomes of a job by the result of its run. -/
inductive Ended (ctx : Context) (j : SyncJob) : Except Fault Posted → SyncJob → Prop
  | success (p : Posted) : Ended ctx j (.ok p) (succeeded ctx.now j)
  | failure {fault : Fault} {j' : SyncJob} (outcome : failed ctx fault.failure j = .ok j') :
      Ended ctx j (.error fault) j'

section Runs

lemma Ended.update (h : Ended ctx j r j') (pending : j.status = .pending) : Update ctx j j' := by
  cases h with
  | success => exact .success pending
  | failure outcome => exact .failure pending outcome

lemma pendingJob?_of_mem (hn : Numbered s.jobs) (hj : j ∈ s.jobs) (pending : j.status = .pending)
    (storable : isStorable j.id = true) : pendingJob? (.int j.id) s = .ok (some j) := by
  have hfind : find? j.id s.jobs = some j := find?_of_mem hn hj
  simp [pendingJob?, Value.keyProbe_of_storable storable, Probe.find?_whole, hfind, pending]

lemma recordRun_ended (found : find? j.id s.jobs = some j) (h : Ended ctx j r j') :
    (recordRun ctx j.id r).run s = .ok ((), { s with jobs := modify j.id (fun _ => j') s.jobs }) := by
  cases h with
  | success => simp [Transaction.run, recordRun, found, Decision.apply]
  | failure outcome => simp [Transaction.run, recordRun, found, Decision.apply, outcome]

lemma runJob_of_post (hσ : σ.rivals = []) (hn : Numbered σ.store.jobs) (hj : j ∈ σ.store.jobs)
    (pending : j.status = .pending) (storable : isStorable j.id = true)
    (posts : post ctx ⟨.int j.attempt, program, .null, .null⟩ σ = (r.map some, { σ with store := t }))
    (queue : t.jobs = σ.store.jobs) (ended : Ended ctx j r j') :
    runJob ctx (.int j.id) σ =
      (.ok (some r), { σ with store := { t with jobs := modify j.id (fun _ => j') t.jobs } }) := by
  have hfound : find? j.id t.jobs = some j := queue ▸ find?_of_mem hn hj
  have hread : (pendingJob? (.int j.id) σ.store).mapError Fault.crashed = .ok (some j) := by
    rw [pendingJob?_of_mem hn hj pending storable]
    rfl
  have houtcome : Action.outcome (post ctx ⟨.int j.attempt, program, .null, .null⟩) σ =
      (.ok (r.map some), { σ with store := t }) := by rw [Action.outcome, posts]
  have hrecord : Action.commit (recordRun ctx j.id r) { σ with store := t } =
      (.ok (), { σ with store := { t with jobs := modify j.id (fun _ => j') t.jobs } }) :=
    Action.commit_of_ok hσ (recordRun_ended hfound ended)
  unfold runJob
  rw [Action.bind_of_ok (Action.read_eq_ok.mpr ⟨hread, rfl⟩)]
  dsimp only
  rw [Action.bind_of_ok houtcome]
  cases r with
  | ok p | error fault =>
    dsimp only [Except.map]
    rw [Action.bind_of_ok hrecord]
    rfl

lemma failed_of_passing {f : Failure} {maxRuns base : Int} {wait : Duration} {due : Instant}
    (hmax : readSetting ctx.settings.maxRuns = .ok maxRuns)
    (hbase : readSetting ctx.settings.baseSeconds = .ok base) (passing : f.kind ∉ permanentKinds)
    (left : j.runs + 1 < maxRuns) (hwait : retryDelay base (j.runs + 1) = .ok wait)
    (hdue : ctx.now.add wait = .ok due) :
    failed ctx f j = .ok { failedOnce ctx.now f j with nextRunAt := due } := by
  have hends : ¬(permanentKinds.contains f.kind || maxRuns ≤ (failedOnce ctx.now f j).runs) = true := by
    simp only [Bool.or_eq_true, List.contains_iff_mem, decide_eq_true_eq, not_or, not_le]
    exact ⟨passing, left⟩
  have hwait' : retryDelay base (failedOnce ctx.now f j).runs = .ok wait := hwait
  simp only [failed, hmax, hbase, bind, Except.bind, if_neg hends, hwait']
  simp [liftM, monadLift, MonadLift.monadLift, Except.mapError, hdue, pure, Except.pure]

end Runs

/-- The standard settings of the queue, at a time before the year 9999. -/
structure Regular (ctx : Context) : Prop where
  maxRuns : ctx.settings.maxRuns = Settings.standard.maxRuns
  baseSeconds : ctx.settings.baseSeconds = Settings.standard.baseSeconds
  conflictRetries : ctx.settings.conflictRetries = Settings.standard.conflictRetries
  begun : 0 ≤ ctx.now.micros
  early : ctx.now < .ofDateTime ⟨9999, 1, 1⟩ 0 0 0

namespace Regular

lemma readMaxRuns (h : Regular ctx) : readSetting ctx.settings.maxRuns = .ok 5 := by
  rw [h.maxRuns]
  rfl

lemma readBaseSeconds (h : Regular ctx) : readSetting ctx.settings.baseSeconds = .ok 30 := by
  rw [h.baseSeconds]
  rfl

lemma reads (h : Regular ctx) {attempt : Int} (positive : 0 < attempt) :
    Reads ctx ⟨.int attempt, program, .null, .null⟩ attempt none where
  attempt := readPositive_of_pos positive
  deadline := rfl
  retries := ⟨2, by rw [h.conflictRetries]; rfl, by decide⟩

lemma retryDelay_isOk {runs : Int} (left : runs < 5) :
    ∃ wait, retryDelay 30 runs = .ok wait ∧ 0 < wait.micros ∧ wait.micros ≤ 240 * Duration.perSecond := by
  obtain ⟨n, hn⟩ : ∃ n, n = (runs - 1).toNat := ⟨_, rfl⟩
  have hle : n ≤ 3 := by omega
  unfold retryDelay
  rw [← hn]
  interval_cases n <;> exact ⟨_, rfl, by decide, by decide⟩

lemma failed_isOk (h : Regular ctx) (f : Failure) (j : SyncJob) : ∃ j', failed ctx f j = .ok j' := by
  by_cases hends : f.kind ∈ permanentKinds ∨ 5 ≤ j.runs + 1
  · have hstop : (permanentKinds.contains f.kind || 5 ≤ (failedOnce ctx.now f j).runs) = true := by
      simp only [Bool.or_eq_true, List.contains_iff_mem, decide_eq_true_eq]
      exact hends
    refine ⟨{ failedOnce ctx.now f j with status := .failed }, ?_⟩
    simp only [failed, h.readMaxRuns, bind, Except.bind, if_pos hstop]
    rfl
  · obtain ⟨passing, left⟩ := not_or.mp hends
    obtain ⟨wait, hwait, hpos, hle⟩ := retryDelay_isOk (not_le.mp left)
    have hdue : ctx.now.add wait = .ok ⟨ctx.now.micros + wait.micros⟩ := by
      have hearly : ctx.now.micros < (Instant.ofDateTime ⟨9999, 1, 1⟩ 0 0 0).micros := h.early
      have hroom : (Instant.ofDateTime ⟨9999, 1, 1⟩ 0 0 0).micros + 240 * Duration.perSecond < endOfTime := by
        decide +kernel
      have hbegun := h.begun
      exact if_pos ⟨by omega, by omega⟩
    exact ⟨_, failed_of_passing h.readMaxRuns h.readBaseSeconds passing (not_le.mp left) hwait hdue⟩

lemma ended (h : Regular ctx) (r : Except Fault Posted) (j : SyncJob) : ∃ j', Ended ctx j r j' := by
  cases r with
  | ok p => exact ⟨_, .success p⟩
  | error fault =>
    obtain ⟨j', outcome⟩ := h.failed_isOk fault.failure j
    exact ⟨j', .failure outcome⟩

lemma rests (h : Regular ctx) (ended : Ended ctx j r j') (pending : j'.status = .pending) :
    ctx.now < j'.nextRunAt := by
  cases ended with
  | success => cases pending
  | failure outcome =>
    obtain ⟨_, -, ⟨-, rfl⟩ | ⟨-, -, base, due, hbase, hdue, rfl⟩⟩ := failed_eq_ok outcome
    · cases pending
    · obtain rfl : 30 = base := Except.ok.inj (h.readBaseSeconds.symm.trans hbase)
      have hpos : 0 < 30 * 2 ^ j.runs.toNat * Duration.perSecond := by
        have hsecond : (0 : Int) < Duration.perSecond := by decide
        positivity
      change ctx.now.micros < due.micros
      omega

end Regular

/-- What is kept of the queue, so that every job in it can be run. -/
structure Runnable (s : Store) : Prop where
  queue : QueueIntegrity s
  limits : QueueLimits s
  attempts : Numbered s.attempts

namespace Runnable

lemma of_reachable {P : Context → Service → Prop} (h : Reachable P s) : Runnable s := by
  have hqueue : QueueIntegrity s ∧ QueueLimits s :=
    h.invariant (I := fun s => QueueIntegrity s ∧ QueueLimits s)
      (fun _ _ _ => ⟨⟨.nil, .nil, .nil⟩, List.forall_mem_nil _, List.forall_mem_nil _⟩)
      fun _ _ _ _ _ ⟨hi, hl⟩ w => ⟨hi.step w, hl.step hi w⟩
  exact ⟨hqueue.1, hqueue.2, (Attempting.integrity_of_reachable h).2.attempts⟩

lemma workings (h : Runnable s) (w : Relation.ReflTransGen (Working ctx) s t) : Runnable t := by
  induction w with
  | refl => exact h
  | @tail u v _ w ih =>
    have hstep : Step ctx u (.syncNow .null) v := w.elim (.posting rfl) (.queueing rfl)
    have hattempts : v.attempts = u.attempts := by rcases w with w | w <;> rw [w.frame]
    exact ⟨ih.queue.step hstep, ih.limits.step ih.queue hstep, hattempts ▸ ih.attempts⟩

end Runnable

lemma post_result {request : PostRequest} {attempt : Int} {deadline : Option Instant}
    (reads : Reads ctx request attempt deadline) (hσ : σ.rivals = []) :
    ∃ (r : Except Fault Posted) (t : Store), post ctx request σ = (r.map some, { σ with store := t }) ∧
      t.jobs = σ.store.jobs := by
  rcases hpost : (postOnce ctx attempt request.poster request.reason deadline).run σ.store with fault | ⟨p, t⟩
  · exact ⟨.error fault, σ.store, post_of_error reads hσ hpost, rfl⟩
  · refine ⟨.ok p, t, post_of_ok reads hσ hpost, ?_⟩
    rcases postOnce_writes hpost with rfl | w
    · rfl
    · rw [w.frame]

/-- The run of a job that posts the score of its attempt once: what comes of the post, the store after it, and what
becomes of the job. -/
structure RunOf (ctx : Context) (j : SyncJob) (σ : Session) (r : Except Fault Posted) (t : Store) (j' : SyncJob) :
    Prop where
  posts : post ctx ⟨.int j.attempt, program, .null, .null⟩ σ = (r.map some, { σ with store := t })
  queue : t.jobs = σ.store.jobs
  ended : Ended ctx j r j'
  runs : runJob ctx (.int j.id) σ =
    (.ok (some r), { σ with store := { t with jobs := modify j.id (fun _ => j') t.jobs } })
  runnable : Runnable { t with jobs := modify j.id (fun _ => j') t.jobs }

lemma exists_runOf (regular : Regular ctx) (hσ : σ.rivals = []) (h : Runnable σ.store) (hj : j ∈ σ.store.jobs)
    (pending : j.status = .pending) : ∃ r t j', RunOf ctx j σ r t j' := by
  obtain ⟨a, ha, hid⟩ := h.queue.attempts j hj
  have reads : Reads ctx ⟨.int j.attempt, program, .null, .null⟩ j.attempt none :=
    regular.reads (hid ▸ h.attempts.positive a ha)
  obtain ⟨r, t, posts, queue⟩ := post_result reads hσ
  obtain ⟨j', ended⟩ := regular.ended r j
  have hrun := runJob_of_post hσ h.queue.jobs hj pending (h.limits.storable h.queue h.attempts hj) posts queue
    ended
  have hworks : Relation.ReflTransGen (Working ctx) σ.store (runJob ctx (.int j.id) σ).2.store :=
    (runJob_takes (.int j.id) σ hσ).2
  rw [hrun] at hworks
  exact ⟨r, t, j', posts, queue, ended, hrun, h.workings hworks⟩

/-- A pending job is run to an end, which takes its place in the queue; no other job changes. -/
lemma runJob_runs (regular : Regular ctx) (hσ : σ.rivals = []) (h : Runnable σ.store) (hj : j ∈ σ.store.jobs)
    (pending : j.status = .pending) :
    ∃ r j' τ, runJob ctx (.int j.id) σ = (.ok (some r), τ) ∧ Ended ctx j r j' ∧
      τ.store.jobs = modify j.id (fun _ => j') σ.store.jobs ∧ τ.rivals = [] ∧ Runnable τ.store := by
  obtain ⟨r, t, j', run⟩ := exists_runOf regular hσ h hj pending
  exact ⟨r, j', _, run.runs, run.ended, congrArg (modify _ _) run.queue, hσ, run.runnable⟩

end Assessment.Sync
