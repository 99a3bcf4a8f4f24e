import Assessment.Proofs.Sync.Writes

/-!
# What posts and runs of jobs report

Without other writers, a post is a single try. What it reports tells what it has done to the gradebooks,
and so does the result of a job that posts; a run that ends in a fault has posted nothing.
-/

namespace Assessment.Sync

open Access Request Assessment.Action

section Posts

variable {ctx : Context}

/-- What is done by posting that reports a result, or none. -/
def Done (ctx : Context) (poster : Caller) (s : Store) : Option Posted → Store → Prop
  | some p, s' => Posts ctx poster s p s'
  | none, s' => s' = s

lemma post_ensures (r : PostRequest) :
    (post ctx r).Ensures fun s result s' => Done ctx r.poster s result.toOption.join s' := by
  refine .read_bind (fun attempt => ?_) fun _ _ _ => rfl
  refine .read_bind (fun deadline => ?_) fun _ _ _ _ => rfl
  refine .read_bind (fun retries => ?_) fun _ _ _ _ _ => rfl
  refine .ite (fun _ => .pure fun _ _ _ _ => rfl) fun _ => ?_
  have hpost := retrying_ensures (t := postOnce ctx attempt r.poster r.reason deadline)
    (Q := fun s result s' => Done ctx r.poster s result.toOption s')
    (.commit (fun _ _ _ h => postOnce_posts h) fun _ _ _ => rfl) retries.toNat
  exact hpost.map (fun _ _ _ h _ _ _ => h) fun _ _ _ h _ _ _ => h

end Posts

section Jobs

variable {ctx : Context}

/-- The score that the run of a job posts, by its result. -/
def posted? : Except Fault (Option (Except Fault Posted)) → Option Posted
  | .ok (some (.ok p)) => some p
  | _ => none

lemma recordRun_ensures (job : Int) (result : Except Fault Posted) :
    (Action.commit (recordRun ctx job result)).Ensures fun s r s' =>
      s' = { s with jobs := s'.jobs } ∧
        ((Table.find? job s.jobs).isSome → ∀ p, result = .ok p → r = .ok ()) := by
  refine .commit (fun s _ s' h => ⟨?_, fun _ _ _ => rfl⟩) fun s fault h => ⟨rfl, ?_⟩
  · cases hj : Table.find? job s.jobs with
    | none => simp [recordRun, hj] at h
    | some j =>
      cases result with
      | ok p | error fault =>
        simp only [recordRun, hj, Transaction.run_eq_ok, bind_eq_ok, pure_eq_ok] at h
        obtain ⟨_, ⟨_, -, rfl⟩, h⟩ := h
        cases h
        rfl
  · rintro hjob p rfl
    obtain ⟨j, hj⟩ := Option.isSome_iff_exists.mp hjob
    simp [recordRun, hj, Transaction.run, Decision.apply] at h

lemma recorded_ensures (job : Int) (result : Except Fault Posted) :
    (do
      Action.commit (recordRun ctx job result)
      return some result : Action (Option (Except Fault Posted))).Ensures fun s r s' =>
        s' = { s with jobs := s'.jobs } ∧
          ((Table.find? job s.jobs).isSome → posted? r = result.toOption) := by
  refine .bind (recordRun_ensures job result) (fun _ => .pure ?_) ?_
  · rintro t s ⟨ht, -⟩
    exact ⟨ht, fun _ => by cases result <;> rfl⟩
  · rintro s fault t ⟨ht, hrecorded⟩
    refine ⟨ht, fun hjob => ?_⟩
    cases result with
    | error _ => rfl
    | ok p => exact absurd (hrecorded hjob p rfl) (by simp)

lemma Done.frame {poster : Caller} {s s' : Store} {p : Option Posted} (h : Done ctx poster s p s') :
    s' = { s with books := s'.books, entries := s'.entries, audits := s'.audits } := by
  cases p with
  | none => rw [h]
  | some p => cases h <;> rfl

lemma runJob_ensures_of {D : Store → Option Posted → Store → Prop} (idle : ∀ s, D s none s)
    (jobs : ∀ s p t, D s p t → t.jobs = s.jobs)
    (posts : ∀ attempt, (post ctx ⟨.int attempt, program, .null, .null⟩).Ensures
      fun s result s' => D s result.toOption.join s') (job : Value) :
    (runJob ctx job).Ensures fun s r s' => ∃ t, D s (posted? r) t ∧ s' = { t with jobs := s'.jobs } := by
  refine .read_bind (fun found => ?_) fun s _ _ => ⟨s, idle s, rfl⟩
  cases found with
  | none => exact .pure fun s _ => ⟨s, idle s, rfl⟩
  | some j =>
    -- The job is still there after the post, so what is recorded is what was posted.
    have hrecorded (result : Except Fault Posted) {s t u : Store}
        {r : Except Fault (Option (Except Fault Posted))} (hdone : D s result.toOption t)
        (hu : u = { t with jobs := u.jobs } ∧
          ((Table.find? j.id t.jobs).isSome → posted? r = result.toOption))
        (hfound : (pendingJob? job s).mapError Fault.crashed = .ok (some j)) :
        ∃ t, D s (posted? r) t ∧ u = { t with jobs := u.jobs } := by
      have hjob : Table.find? j.id s.jobs = some j := (pendingJob?_eq_ok (mapError_eq_ok.mp hfound)).1
      refine ⟨t, ?_, hu.1⟩
      rw [hu.2 (by rw [jobs s _ t hdone, hjob]; rfl)]
      exact hdone
    refine .bind (.outcome (posts _)) (fun result => ?_) (by simp)
    rcases result with fault | _ | p
    · refine (recorded_ensures j.id (.error fault)).mono ?_
      rintro t r u hu s ⟨_, hr, hdone⟩ hfound
      cases hr
      exact hrecorded (.error fault) hdone hu hfound
    · refine .throw ?_
      rintro t s ⟨_, hr, hdone⟩ -
      cases hr
      exact ⟨t, hdone, rfl⟩
    · refine (recorded_ensures j.id (.ok p)).mono ?_
      rintro t r u hu s ⟨_, hr, hdone⟩ hfound
      cases hr
      exact hrecorded (.ok p) hdone hu hfound

lemma runJob_ensures (job : Value) :
    (runJob ctx job).Ensures fun s r s' =>
      ∃ t, Done ctx program s (posted? r) t ∧ s' = { t with jobs := s'.jobs } :=
  runJob_ensures_of (D := Done ctx program) (fun _ => rfl) (fun _ _ _ h => by rw [h.frame])
    (fun _ => post_ensures _) job

/-- The scores that jobs post when they are run one after the other, as far as that gets. -/
def postsOf (ctx : Context) : List Int → Session → List Posted
  | [], _ => []
  | job :: rest, s =>
    match runJob ctx (.int job) s with
    | (.error _, _) => []
    | (.ok none, t) => postsOf ctx rest t
    | (.ok (some r), t) =>
      r.toOption.toList ++
        match statusOf job t.store with
        | .error _ => []
        | .ok _ => postsOf ctx rest t

/-- The jobs that a pass over the queue runs. -/
def passJobs (ctx : Context) (now limit : Value) (s : Store) : Except Fault (List Int) := do
  let now := (← readInstant? now).getD ctx.now
  let limit ← passLimit ctx limit
  return firstDue now limit s

lemma processPending_eq (now limit : Value) : processPending ctx now limit =
    (Action.read (passJobs ctx now limit) >>= runJobs ctx .none) := by
  funext s
  unfold processPending passJobs
  cases readInstant? now with
  | error fault => rfl
  | ok given => cases passLimit ctx limit <;> rfl

/-- The scores that a pass posts. -/
def passPosts (ctx : Context) (now limit : Value) (s : Store) : List Posted :=
  match passJobs ctx now limit s with
  | .ok jobs => postsOf ctx jobs (.ofStore s)
  | .error _ => []

variable {R : List Posted → Store → Store → Prop}

/-- What holds of the run of a job, and of runs that are put one after the other, holds of all runs of a
list of jobs with the scores that they post. -/
lemma runJobs_induction (nil : ∀ s, R [] s s)
    (append : ∀ {posts rest s t u}, R posts s t → R rest t u → R (posts ++ rest) s u)
    (run : ∀ job, (runJob ctx job).Ensures fun s r s' => R (posted? r).toList s s') (jobs : List Int)
    (counts : PassCounts) {s : Session} (hs : s.rivals = []) :
    R (postsOf ctx jobs s) s.store (runJobs ctx counts jobs s).2.store := by
  induction jobs generalizing counts s with
  | nil => exact nil s.store
  | cons job rest ih =>
    have hrun : (runJob ctx (.int job)).Ensures _ := run (.int job)
    obtain ⟨ht, hfirst⟩ := hrun s hs
    rcases hrun : runJob ctx (.int job) s with ⟨r, t⟩
    rw [hrun] at ht hfirst
    have hrest (counts : PassCounts) := append hfirst (ih counts ht)
    rcases r with fault | _ | result
    · have hstop : runJobs ctx counts (job :: rest) s = (.error fault, t) := bind_of_error hrun
      simp only [postsOf, hrun, hstop]
      exact hfirst
    · have hnext : runJobs ctx counts (job :: rest) s = runJobs ctx counts rest t := bind_of_ok hrun
      simp only [postsOf, hrun, hnext]
      exact hrest counts
    · have hposted : posted? (.ok (some result)) = result.toOption := by cases result <;> rfl
      have hread : runJobs ctx counts (job :: rest) s =
          (Action.read (statusOf job) >>= fun status => runJobs ctx (counts.count status) rest) t :=
        bind_of_ok hrun
      rw [hposted] at hfirst hrest
      cases hstatus : statusOf job t.store with
      | error fault =>
        have hstop : Action.read (statusOf job) t = (.error fault, t) := congrArg (·, t) hstatus
        simp only [postsOf, hrun, hstatus, hread, bind_of_error hstop, List.append_nil]
        exact hfirst
      | ok status =>
        have hnext : Action.read (statusOf job) t = (.ok status, t) := congrArg (·, t) hstatus
        simp only [postsOf, hrun, hstatus, hread, bind_of_ok hnext]
        exact hrest _

lemma pass_induction (nil : ∀ s, R [] s s)
    (append : ∀ {posts rest s t u}, R posts s t → R rest t u → R (posts ++ rest) s u)
    (run : ∀ job, (runJob ctx job).Ensures fun s r s' => R (posted? r).toList s s') (now limit : Value)
    (s : Store) : R (passPosts ctx now limit s) s (processPending ctx now limit (.ofStore s)).2.store := by
  rw [processPending_eq]
  unfold passPosts
  cases hjobs : passJobs ctx now limit s with
  | error fault =>
    have hstop : Action.read (passJobs ctx now limit) (.ofStore s) = (.error fault, .ofStore s) :=
      congrArg (·, _) hjobs
    rw [bind_of_error hstop]
    exact nil s
  | ok jobs =>
    have hread : Action.read (passJobs ctx now limit) (.ofStore s) = (.ok jobs, .ofStore s) :=
      congrArg (·, _) hjobs
    rw [bind_of_ok hread]
    exact runJobs_induction (s := .ofStore s) nil append run jobs .none rfl

end Jobs

end Assessment.Sync
