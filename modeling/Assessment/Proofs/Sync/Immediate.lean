import Assessment.Proofs.Attempt.Scores
import Assessment.Proofs.Sync.Running

/-!
# Attempts that are synced at once

To sync an attempt at once is to queue it and to run its job. An attempt that exists gets a job, or its job is made due
again, and the run is recorded on that job. One that does not exist gets no job, and there is nothing to run: the call
fails like a defect, although it changes nothing.
-/

namespace Assessment.Sync

open Table

variable {ctx : Context} {s : Store} {attempt : Int}

/-- A sync that queues an attempt and posts its score once: the job that is queued and the store with it, what comes of
the post and the store after it, and what becomes of the job, which is the only one of the attempt. -/
structure SyncedOnce (ctx : Context) (s : Store) (attempt : Int) (j : SyncJob) (u : Store) (r : Except Fault Posted)
    (t : Store) (j' : SyncJob) : Prop where
  enqueues : enqueue ctx (.int attempt) (.ofStore s) = (.ok (some j), .ofStore u)
  enqueued : Enqueued ctx s attempt j u
  posts : post ctx ⟨.int attempt, program, .null, .null⟩ (.ofStore u) = (r.map some, .ofStore t)
  ended : Ended ctx j r j'
  syncs : syncNow ctx (.int attempt) (.ofStore s) =
    (.ok (some r), .ofStore { t with jobs := modify j.id (fun _ => j') t.jobs })
  queue : t.jobs = u.jobs
  only : (modify j.id (fun _ => j') t.jobs).filter (·.attempt == attempt) = [j']

/-- An attempt that exists is synced once. -/
lemma exists_syncedOnce (regular : Regular ctx) (h : Runnable s) (known : ∃ a ∈ s.attempts, a.id = attempt)
    (storable : isStorable attempt = true) : ∃ j u r t j', SyncedOnce ctx s attempt j u r t j' := by
  have alone (v : Store) : (Session.ofStore v).rivals = [] := rfl
  obtain ⟨j, u, hrun, enqueued⟩ := enqueueOne_enqueues ctx h.queue known storable
  have enqueues : enqueue ctx (.int attempt) (.ofStore s) = (.ok (some j), .ofStore u) :=
    enqueue_of_run (alone s) hrun
  have hu : Runnable u := h.workings (.single (.inr enqueued.writes))
  obtain ⟨r, t, j', run⟩ := exists_runOf regular (alone u) hu enqueued.mem enqueued.pending
  refine ⟨j, u, r, t, j', enqueues, enqueued, enqueued.named ▸ run.posts, run.ended, ?_, run.queue, ?_⟩
  · exact (Action.bind_of_ok enqueues).trans run.runs
  · obtain ⟨-, hnamed⟩ := (run.ended.update enqueued.pending).names
    have hj : j ∈ t.jobs := run.queue ▸ enqueued.mem
    have hmem : j' ∈ modify j.id (fun _ => j') t.jobs := (mem_modify (run.queue ▸ hu.queue.jobs) hj).mpr (.inl rfl)
    have honly := run.runnable.queue.only hmem
    rwa [hnamed, enqueued.named] at honly

lemma enqueueOne_of_missing (ctx : Context) (hi : QueueIntegrity s) (missing : ∀ a ∈ s.attempts, a.id ≠ attempt)
    (storable : isStorable attempt = true) : (enqueueOne ctx (.int attempt)).run s = .ok (none, s) := by
  have hnone : jobOf? (.cell (.whole attempt)) s = none := by
    refine List.find?_eq_none.mpr fun j hj hfinds => ?_
    obtain ⟨a, ha, hid⟩ := hi.attempts j hj
    rw [Probe.findsWhole_whole] at hfinds
    exact missing a ha (hid.trans (beq_iff_eq.mp hfinds))
  have hhas : has attempt s.attempts = false := by
    refine Bool.eq_false_iff.mpr fun hhas => ?_
    obtain ⟨a, ha, hid⟩ := has_iff.mp hhas
    exact missing a ha hid
  have hreference : requiredReference (some (.whole attempt)) s.attempts = .error .constraint := by
    rw [requiredReference, reference, hhas]
    rfl
  have hinsert : insertJob (.int attempt) ctx.now s = .error .constraint := by
    rw [insertJob, columnOf_storable storable]
    change (requiredReference (some (.whole attempt)) s.attempts >>= _) = _
    rw [hreference]
    rfl
  simp [Transaction.run, enqueueOne, Value.probe_of_storable storable, hnone, Decision.apply, hinsert]

/-- In every store that can be reached, an attempt that exists is synced once, whatever job it has. One that does not
exist makes the call crash, and then nothing is changed. -/
theorem syncs_at_once_unless_missing {P : Context → Service → Prop} (h : Reachable P s) (regular : Regular ctx)
    (storable : isStorable attempt = true) :
    ((∃ a ∈ s.attempts, a.id = attempt) → ∃ j u r t j', SyncedOnce ctx s attempt j u r t j') ∧
      ((∀ a ∈ s.attempts, a.id ≠ attempt) →
        syncNow ctx (.int attempt) (.ofStore s) = (.error (.crashed .missingMember), .ofStore s)) := by
  have hs := Runnable.of_reachable h
  refine ⟨fun known => exists_syncedOnce regular hs known storable, fun missing => ?_⟩
  have hcommit := Action.commit_of_ok (s := .ofStore s) rfl (enqueueOne_of_missing ctx hs.queue missing storable)
  exact (Action.bind_of_ok hcommit).trans rfl

/-- An attempt that is submitted is synced at once, and for one that is not there the call crashes. -/
theorem syncs_at_once_unless_missing_of_submitted :
    let ctx := (Scenario.State.start .standard).context
    let s := Attempting.begunAndSubmitted
    ((∃ a ∈ s.attempts, a.id = 1) ∧ ∃ j u r t j', SyncedOnce ctx s 1 j u r t j') ∧
      (∀ a ∈ s.attempts, a.id ≠ 7) ∧
        syncNow ctx (.int 7) (.ofStore s) = (.error (.crashed .missingMember), .ofStore s) := by
  intro ctx s
  have regular : Regular ctx := ⟨rfl, rfl, rfl, by decide, by decide⟩
  have h : Reachable (fun _ _ => True) s := .serve (fun _ _ => trivial) _ _ _
  have known : ∃ a ∈ s.attempts, a.id = 1 := by decide +kernel
  have missing : ∀ a ∈ s.attempts, a.id ≠ 7 := by decide +kernel
  clear_value s
  exact ⟨⟨known, (syncs_at_once_unless_missing h regular (by decide)).1 known⟩, missing,
    (syncs_at_once_unless_missing h regular (by decide)).2 missing⟩

/-- In a school where nothing has happened yet, the call for any attempt crashes. -/
theorem missing_attempt_crashes :
    ¬∀ s : Store, Reachable (fun _ _ => True) s → ∀ ctx, Regular ctx → ∀ attempt : Int, 0 < attempt →
      isStorable attempt = true → ∃ r τ, syncNow ctx (.int attempt) (.ofStore s) = (.ok (some r), τ) := by
  intro hreturns
  let start := Scenario.State.start .standard
  have h : Reachable (fun _ _ => True) start.store := ⟨_, _, _, .done⟩
  have regular : Regular start.context := ⟨rfl, rfl, rfl, by decide, by decide⟩
  obtain ⟨r, τ, hsync⟩ := hreturns start.store h start.context regular 7 (by decide) (by decide)
  cases hsync

end Assessment.Sync
