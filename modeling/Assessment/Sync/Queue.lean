import Assessment.Sync.Posting

/-!
# The queue of posts

Each attempt has at most one job. A job that is due is run once per pass; what fails for good or too
often is given up, and what may still succeed waits longer each time.
-/

namespace Assessment.Sync

open Assessment.Request Assessment.Time

/-- Failures that a further run does not mend. -/
def permanentKinds : List FailureKind := [.invalidInput, .itemNotFound, .forbidden]

/-- The longest error message that a job keeps. -/
def maxErrorLength : Nat := 500

/-- Adds a job for an attempt that has none. -/
def insertJob (attempt : Value) (now : Instant) : Change SyncJob := fun s => do
  let attempt ← requiredReference (← columnOf attempt) s.attempts
  if (s.jobOf? attempt).isSome then throw .constraint
  let row := SyncJob.begin attempt now (Table.nextId s.jobs)
  return (row, { s with jobs := s.jobs ++ [row] })

/-- A job that is due again; one that had ended starts over. -/
def requeued (now : Instant) (j : SyncJob) : SyncJob :=
  if j.status = .pending then { j with nextRunAt := now, updatedAt := now }
  else { j with status := .pending, runs := 0, nextRunAt := now, updatedAt := now }

/-- The job that a query by attempt finds. -/
def jobOf? (attempt : Probe) (s : Store) : Option SyncJob :=
  s.jobs.find? fun j => attempt.findsWhole j.attempt

/-- Queues an attempt. When another writer queues it first, theirs counts; an attempt that does not
exist has no job. -/
def enqueueOne (ctx : Context) (attempt : Value) : Transaction (Option SyncJob) := fun s => do
  let key ← (attempt.probe : Except Defect Probe)
  match jobOf? key s with
  | some j =>
    return .write fun s =>
      .ok (some (requeued ctx.now j), { s with jobs := Table.modify j.id (requeued ctx.now) s.jobs })
  | none =>
    return .write fun s =>
      match insertJob attempt ctx.now s with
      | .ok (j, s) => .ok (some j, s)
      | .error (.unfit defect) => .error (.crashed defect)
      | .error _ => .ok (jobOf? key s, s)

def enqueue (ctx : Context) (attempt : Value) : Action (Option SyncJob) :=
  Action.commit (enqueueOne ctx attempt)

def succeeded (now : Instant) (j : SyncJob) : SyncJob :=
  { j with
    runs := j.runs + 1
    updatedAt := now
    status := .completed
    errorCode := none
    errorMessage := none }

/-- A job that has failed once more, before it is decided what comes of it. -/
def failedOnce (now : Instant) (f : Failure) (j : SyncJob) : SyncJob :=
  { j with
    runs := j.runs + 1
    updatedAt := now
    errorCode := some f.kind.code
    errorMessage := some (Text.takeChars maxErrorLength f.message) }

/-- A job after a run that failed: given up, or due after a wait. -/
def failed (ctx : Context) (f : Failure) (j : SyncJob) : Except Fault SyncJob := do
  let j := failedOnce ctx.now f j
  let maxRuns ← readSetting ctx.settings.maxRuns
  if permanentKinds.contains f.kind || maxRuns ≤ j.runs then
    return { j with status := .failed }
  let base ← readSetting ctx.settings.baseSeconds
  let wait ← (retryDelay base j.runs : Except Defect Duration)
  return { j with nextRunAt := ← (ctx.now.add wait : Except Defect Instant) }

/-- Records the result of a run on its job. -/
def recordRun (ctx : Context) (job : Int) (result : Except Fault Posted) : Transaction Unit :=
  fun s => do
    match Table.find? job s.jobs with
    | none => throw (.crashed .missingMember)
    | some j =>
      let j' ←
        match result with
        | .ok _ => pure (succeeded ctx.now j)
        | .error fault => failed ctx fault.failure j
      return .write fun s => .ok ((), { s with jobs := Table.modify job (fun _ => j') s.jobs })

def pendingJob? (job : Value) (s : Store) : Except Defect (Option SyncJob) := do
  return ((← job.keyProbe "job_id").find? s.jobs).filter (·.status == .pending)

/-- Runs a pending job and records the result on it. A job that is not pending is not run. -/
def runJob (ctx : Context) (job : Value) : Action (Option (Except Fault Posted)) := do
  match ← Action.read fun s => (pendingJob? job s).mapError .crashed with
  | none => return none
  | some j =>
    match ← Action.outcome (post ctx ⟨.int j.attempt, program, .null, .null⟩) with
    | .ok none => throw (.crashed .missingMember)
    | .ok (some posted) =>
      Action.commit (recordRun ctx j.id (.ok posted))
      return some (.ok posted)
    | .error fault =>
      Action.commit (recordRun ctx j.id (.error fault))
      return some (.error fault)

def syncNow (ctx : Context) (attempt : Value) : Action (Option (Except Fault Posted)) := do
  match ← enqueue ctx attempt with
  | none => throw (.crashed .missingMember)
  | some j => runJob ctx (.int j.id)

def isDue (now : Instant) (j : SyncJob) : Bool := j.status == .pending && j.nextRunAt ≤ now

/-- The due jobs by time and number. -/
def dueJobs (now : Instant) (s : Store) : List SyncJob :=
  sortBy (fun a b => a.nextRunAt < b.nextRunAt || (a.nextRunAt == b.nextRunAt && a.id ≤ b.id))
    (s.jobs.filter (isDue now))

/-- The counts of a pass over the queue. -/
structure PassCounts where
  processed : Nat
  completed : Nat
  retrying : Nat
  failed : Nat
  deriving DecidableEq, Repr

def PassCounts.none : PassCounts := ⟨0, 0, 0, 0⟩

/-- Counts a job that was run by the state it is in afterwards. -/
def PassCounts.count (c : PassCounts) : JobStatus → PassCounts
  | .completed => { c with processed := c.processed + 1, completed := c.completed + 1 }
  | .failed => { c with processed := c.processed + 1, failed := c.failed + 1 }
  | .pending => { c with processed := c.processed + 1, retrying := c.retrying + 1 }

def statusOf (job : Int) (s : Store) : Except Fault JobStatus :=
  match Table.find? job s.jobs with
  | some j => .ok j.status
  | none => .error (.crashed .missingMember)

/-- Runs jobs one after the other and counts them. -/
def runJobs (ctx : Context) : PassCounts → List Int → Action PassCounts
  | counts, [] => return counts
  | counts, job :: rest => do
    match ← runJob ctx (.int job) with
    | none => runJobs ctx counts rest
    | some _ => runJobs ctx (counts.count (← Action.read (statusOf job))) rest

/-- The number of jobs of a pass: the given one, or the one of the settings. A negative number is no
limit. -/
def passLimit (ctx : Context) (limit : Value) : Except Fault Int := do
  let n ← if limit.truthy then (limit.toInteger).mapError .crashed
    else readSetting ctx.settings.batchSize
  queryWith [n]
  return n

def firstDue (now : Instant) (limit : Int) (s : Store) : List Int :=
  let due := (dueJobs now s).map (·.id)
  if limit < 0 then due else due.take limit.toNat

/-- Runs the due jobs, as many as a pass takes. -/
def processPending (ctx : Context) (now limit : Value) : Action PassCounts := do
  let now ← Action.read fun _ => return (← readInstant? now).getD ctx.now
  let limit ← Action.read fun _ => passLimit ctx limit
  let jobs ← Action.read fun s => return firstDue now limit s
  runJobs ctx .none jobs

/-- What follows a submission: the attempt is queued, and its score is posted at once unless posting
waits for a pass. -/
def onSubmitted (ctx : Context) (attempt : Int) : Action Unit := do
  if ctx.settings.eager.truthy then
    let _ ← syncNow ctx (.int attempt)
  else
    let _ ← enqueue ctx (.int attempt)

end Assessment.Sync
