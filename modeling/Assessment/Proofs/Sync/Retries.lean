import Assessment.Proofs.Attempt.Scores
import Assessment.Proofs.Sync.Integrity

/-!
# Jobs are run within a budget and at widening intervals

While the largest number of runs and the base of the waits stay as they are, what a job records of its runs
agrees with them, in whatever order jobs are queued, run, given up and queued again.
-/

namespace Assessment.Sync

open Table Time

/-- The codes of the failures that a further run does not mend. -/
def permanentCodes : List String := ["INVALID_INPUT", "ITEM_NOT_FOUND", "FORBIDDEN"]

lemma code_mem_permanentCodes {kind : FailureKind} :
    kind.code ∈ permanentCodes ↔ kind ∈ permanentKinds := by
  cases kind <;> decide

/-- What a job records of its runs, when it may be run a number of times and waits a multiple of `base`
seconds in between. -/
inductive Standing (maxRuns base : Int) (j : SyncJob) : Prop
  /-- The job is due and has not been run, or not since it started over. -/
  | queued (pending : j.status = .pending) (runs : j.runs = 0) (due : j.nextRunAt = j.updatedAt)
  /-- The job is due again: twice as long after its last run as it was after the run before, or, once it
  is queued again, at that time. -/
  | waiting {code : String} (pending : j.status = .pending) (runs : 1 ≤ j.runs) (left : j.runs < maxRuns)
      (error : j.errorCode = some code) (passing : code ∉ permanentCodes)
      (due : j.nextRunAt.micros =
          j.updatedAt.micros + base * 2 ^ (j.runs - 1).toNat * Duration.perSecond ∨
        j.nextRunAt = j.updatedAt)
  | completed (done : j.status = .completed) (runs : 1 ≤ j.runs) (budget : j.runs ≤ max maxRuns 1)
      (noError : j.errorCode = none) (noMessage : j.errorMessage = none)
  | failed {code : String} (done : j.status = .failed) (runs : 1 ≤ j.runs)
      (budget : j.runs ≤ max maxRuns 1) (error : j.errorCode = some code)
      (reason : code ∈ permanentCodes ∨ maxRuns ≤ j.runs)

section Steps

variable {maxRuns base : Int} {ctx : Context} {j j' : SyncJob} {s s' : Store} {op : Service}

lemma Standing.has_run_left (h : Standing maxRuns base j) (pending : j.status = .pending) :
    0 ≤ j.runs ∧ j.runs + 1 ≤ max maxRuns 1 := by
  cases h with
  | queued _ runs => omega
  | waiting _ runs left => omega
  | completed done | failed done => simp [done] at pending

lemma Standing.requeued (h : Standing maxRuns base j) (now : Instant) :
    Standing maxRuns base (requeued now j) := by
  unfold Sync.requeued
  cases h with
  | queued pending runs =>
    rw [if_pos pending]
    exact .queued pending runs rfl
  | waiting pending runs left error passing =>
    rw [if_pos pending]
    exact .waiting pending runs left error passing (.inr rfl)
  | completed done | failed done =>
    rw [if_neg (by simp [done])]
    exact .queued rfl rfl rfl

lemma Standing.failure (h : Standing maxRuns base j) (pending : j.status = .pending)
    (hmax : readSetting ctx.settings.maxRuns = .ok maxRuns)
    (hbase : readSetting ctx.settings.baseSeconds = .ok base) {f : Failure}
    (outcome : Sync.failed ctx f j = .ok j') : Standing maxRuns base j' := by
  obtain ⟨hruns, hbudget⟩ := h.has_run_left pending
  obtain ⟨m, hm, hcases⟩ := failed_eq_ok outcome
  obtain rfl : maxRuns = m := Except.ok.inj (hmax.symm.trans hm)
  rcases hcases with ⟨hreason, rfl⟩ | ⟨hkind, hleft, b, due, hb, hdue, rfl⟩
  · exact .failed rfl (Int.le_add_of_nonneg_left hruns) hbudget rfl
      (hreason.imp_left code_mem_permanentCodes.mpr)
  · obtain rfl : base = b := Except.ok.inj (hbase.symm.trans hb)
    refine .waiting pending (Int.le_add_of_nonneg_left hruns) hleft rfl
      (mt code_mem_permanentCodes.mp hkind) (.inl ?_)
    simpa [failedOnce] using hdue

lemma Standing.update (h : Standing maxRuns base j)
    (hmax : readSetting ctx.settings.maxRuns = .ok maxRuns)
    (hbase : readSetting ctx.settings.baseSeconds = .ok base) (u : Update ctx j j') :
    Standing maxRuns base j' := by
  cases u with
  | again => exact h.requeued ctx.now
  | success pending =>
    obtain ⟨hruns, hbudget⟩ := h.has_run_left pending
    exact .completed rfl (Int.le_add_of_nonneg_left hruns) hbudget rfl rfl
  | failure pending outcome => exact h.failure pending hmax hbase outcome

end Steps

section Runs

variable {s : Store}

end Runs

end Assessment.Sync
