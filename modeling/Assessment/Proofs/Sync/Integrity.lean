import Assessment.Proofs.Runs

/-!
# The queue hangs together

Jobs are numbered, they are for attempts that exist, and an attempt has at most one. A write to the queue
either adds the first job of an attempt or puts a job in the place of its earlier self.
-/

namespace Assessment.Sync

open Table

structure QueueIntegrity (s : Store) : Prop where
  jobs : Numbered s.jobs
  attempts : Refers SyncJob.attempt s.jobs s.attempts
  single : (s.jobs.map SyncJob.attempt).Nodup

/-- What a write makes of a job. -/
inductive Update (ctx : Context) (j : SyncJob) : SyncJob → Prop
  | again : Update ctx j (requeued ctx.now j)
  | success (pending : j.status = .pending) : Update ctx j (succeeded ctx.now j)
  | failure {j' : SyncJob} {fault : Fault} (pending : j.status = .pending)
      (outcome : failed ctx fault.failure j = .ok j') : Update ctx j j'

section Jobs

variable {ctx : Context} {f : Failure} {j j' : SyncJob}

lemma failed_eq_ok (h : failed ctx f j = .ok j') :
    ∃ maxRuns, readSetting ctx.settings.maxRuns = .ok maxRuns ∧
      ((f.kind ∈ permanentKinds ∨ maxRuns ≤ j.runs + 1) ∧
          j' = { failedOnce ctx.now f j with status := .failed } ∨
        f.kind ∉ permanentKinds ∧ j.runs + 1 < maxRuns ∧
          ∃ base due, readSetting ctx.settings.baseSeconds = .ok base ∧
            due.micros = ctx.now.micros + base * 2 ^ j.runs.toNat * Time.Duration.perSecond ∧
            j' = { failedOnce ctx.now f j with nextRunAt := due }) := by
  simp only [failed, bind_eq_ok] at h
  obtain ⟨maxRuns, hmax, h⟩ := h
  refine ⟨maxRuns, hmax, ?_⟩
  by_cases hends : (permanentKinds.contains f.kind || maxRuns ≤ (failedOnce ctx.now f j).runs) = true
  · rw [if_pos hends] at h
    simp only [pure_eq_ok] at h
    simp only [Bool.or_eq_true, List.contains_iff_mem, decide_eq_true_eq] at hends
    exact .inl ⟨hends, h.symm⟩
  · rw [if_neg hends] at h
    simp only [bind_eq_ok, pure_eq_ok, lift_eq_ok] at h
    obtain ⟨base, hbase, wait, hwait, due, hdue, h⟩ := h
    simp only [Bool.or_eq_true, List.contains_iff_mem, decide_eq_true_eq, not_or, not_le] at hends
    simp only [retryDelay, Time.Duration.ofSeconds, Time.Duration.ofMicros, when_eq_ok,
      Except.ok.injEq] at hwait
    simp only [Time.Instant.add, Time.Instant.ofMicros, when_eq_ok, Except.ok.injEq] at hdue
    obtain ⟨-, rfl⟩ := hwait
    obtain ⟨-, rfl⟩ := hdue
    refine .inr ⟨hends.1, hends.2, base, _, hbase, ?_, h.symm⟩
    simp [failedOnce, Number.twoPow]

lemma Update.names (u : Update ctx j j') : j'.id = j.id ∧ j'.attempt = j.attempt := by
  cases u with
  | again =>
    unfold requeued
    split <;> exact ⟨rfl, rfl⟩
  | success => exact ⟨rfl, rfl⟩
  | failure _ outcome =>
    obtain ⟨_, -, ⟨-, rfl⟩ | ⟨-, -, _, _, -, -, rfl⟩⟩ := failed_eq_ok outcome <;> exact ⟨rfl, rfl⟩

end Jobs

section Writes

variable {ctx : Context} {s s' : Store} {op : Service}

lemma Queueing.updates (hn : Numbered s.jobs) (w : Queueing ctx s s') :
    (∃ a ∈ s.attempts, s.jobOf? a.id = none ∧ isStorable a.id = true ∧
        s'.jobs = s.jobs ++ [SyncJob.begin a.id ctx.now (nextId s.jobs)]) ∨
      ∃ j ∈ s.jobs, ∃ j', Update ctx j j' ∧ s'.jobs = modify j.id (fun _ => j') s.jobs := by
  cases w with
  | begin known first storable =>
    obtain ⟨a, ha, rfl⟩ := known
    exact .inl ⟨a, ha, first, storable, rfl⟩
  | @again j found => exact .inr ⟨j, found, _, .again, hn.modify_eq_replace found⟩
  | @success j found pending => exact .inr ⟨j, found, _, .success pending, rfl⟩
  | @failure j j' fault found pending outcome => exact .inr ⟨j, found, j', .failure pending outcome, rfl⟩

lemma QueueIntegrity.queueing (h : QueueIntegrity s) (w : Queueing ctx s s') : QueueIntegrity s' := by
  have hattempts : s'.attempts = s.attempts := by rw [w.frame]
  rcases w.updates h.jobs with ⟨a, ha, first, -, hjobs⟩ | ⟨j, hj, j', u, hjobs⟩
  · refine ⟨?_, ?_, ?_⟩
    · rw [hjobs]
      exact h.jobs.concat rfl
    · rw [hjobs, hattempts]
      exact h.attempts.concat ⟨a, ha, rfl⟩
    · have hnew : a.id ∉ s.jobs.map SyncJob.attempt := by
        simpa [Store.jobOf?] using first
      rw [hjobs, List.map_append]
      exact h.single.append (List.nodup_singleton _) (by simpa [SyncJob.begin] using hnew)
  · obtain ⟨hid, hattempt⟩ := u.names
    have hsame : s'.jobs.map SyncJob.attempt = s.jobs.map SyncJob.attempt := by
      rw [hjobs]
      exact h.jobs.map_replace hj hattempt
    refine ⟨?_, ?_, hsame ▸ h.single⟩
    · rw [hjobs]
      exact h.jobs.replace hid
    · rw [hattempts]
      exact h.attempts.of_map_eq hsame

lemma QueueIntegrity.step (h : QueueIntegrity s) (w : Step ctx s op s') : QueueIntegrity s' := by
  cases w with
  | attempt w =>
    cases w with
    | start => exact ⟨h.jobs, h.attempts.concat_target _, h.single⟩
    | submit => exact ⟨h.jobs, h.attempts.modify_target _ fun _ => rfl, h.single⟩
  | queueing _ w => exact h.queueing w
  | quiz w | book w | opening _ w | posting _ w =>
    rw [w.frame]
    exact { h with }

theorem queueIntegrity_of_reachable {P : Context → Service → Prop} (h : Reachable P s) : QueueIntegrity s :=
  h.invariant (fun _ _ _ => ⟨.nil, .nil, .nil⟩) fun _ _ _ _ _ hi w => hi.step w

end Writes

end Assessment.Sync
