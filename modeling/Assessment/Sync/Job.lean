import Assessment.Store.Table
import Assessment.Time.Instant

/-!
# Jobs that post scores

Each submitted attempt has a job that posts its score. A job that fails waits, twice as long after each
further failure, until it succeeds or gives up.
-/

namespace Assessment

open Assessment.Time

inductive JobStatus where
  | pending
  | completed
  | failed
  deriving DecidableEq, Repr

def JobStatus.name : JobStatus → String
  | pending => "pending"
  | completed => "completed"
  | failed => "failed"

/-- A job that posts the score of an attempt. -/
structure SyncJob where
  id : Int
  attempt : Int
  status : JobStatus
  /-- How often the job has been run. -/
  runs : Int
  errorCode : Option String
  errorMessage : Option String
  nextRunAt : Instant
  createdAt : Instant
  updatedAt : Instant
  deriving DecidableEq, Repr

instance : Row SyncJob := ⟨SyncJob.id⟩

def SyncJob.begin (attempt : Int) (now : Instant) (id : Int) : SyncJob where
  id
  attempt
  status := .pending
  runs := 0
  errorCode := none
  errorMessage := none
  nextRunAt := now
  createdAt := now
  updatedAt := now

namespace Sync

/-- The wait after a number of failed runs: the base, twice the base, four times the base, … -/
def retryDelay (baseSeconds : Int) (runs : Int) : Except Defect Duration :=
  Duration.ofSeconds (baseSeconds * Number.twoPow (runs - 1).toNat)

end Sync

end Assessment
