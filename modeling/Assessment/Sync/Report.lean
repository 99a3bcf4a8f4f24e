import Assessment.Sync.Queue

/-!
# What responses say of posted scores and jobs
-/

namespace Assessment.Sync

def Posted.report (p : Posted) : Value :=
  .object [("attempt_id", .int p.attempt), ("grade_item_id", .int p.item),
    ("enrollment_id", .int p.enrollment), ("score", .decimal p.score), ("changed", .bool p.changed)]

def jobReport (j : SyncJob) : Value :=
  .object [("job_id", .int j.id), ("attempt_id", .int j.attempt), ("status", .text j.status.name),
    ("attempts", .int j.runs), ("last_error_code", .ofText? j.errorCode),
    ("last_error_message", .ofText? j.errorMessage), ("next_run_at", .ofInstant j.nextRunAt)]

def PassCounts.report (c : PassCounts) : Value :=
  .object [("processed", .ofNat c.processed), ("completed", .ofNat c.completed),
    ("retrying", .ofNat c.retrying), ("failed", .ofNat c.failed)]

end Assessment.Sync
