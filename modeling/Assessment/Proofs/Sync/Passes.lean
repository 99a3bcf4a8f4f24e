import Assessment.Proofs.Sorting
import Assessment.Proofs.Sync.Running
import Mathlib.Algebra.Order.Floor.Div

/-!
# Passes over the queue

A pass runs the jobs that are due by their times and numbers, as many as it takes. A run touches no other job,
so the jobs of a pass are those that are due before its first run. A job that has run is not due any more at the
time of the pass, so passes at one time work off what is due block by block.
-/

namespace Assessment.Sync

open Attempting Table Time

/-- A job is due before another one, or at the same time and with a smaller number. -/
def Earlier (a b : SyncJob) : Prop :=
  a.nextRunAt < b.nextRunAt ∨ a.nextRunAt = b.nextRunAt ∧ a.id < b.id

/-- Jobs are run one after the other, each once, and every run comes to an end. -/
inductive RunsInTurn (ctx : Context) : Session → List SyncJob → List SyncJob → Session → Prop
  | done {σ : Session} : RunsInTurn ctx σ [] [] σ
  | next {σ τ υ : Session} {j j' : SyncJob} {jobs ran : List SyncJob} {r : Except Fault Posted}
      (runs : runJob ctx (.int j.id) σ = (.ok (some r), τ)) (ended : Ended ctx j r j')
      (rest : RunsInTurn ctx τ jobs ran υ) : RunsInTurn ctx σ (j :: jobs) (j' :: ran) υ

/-- What a pass does that runs some jobs: what these come to takes their places in the queue, all other jobs
are as they were, and the runs are counted by what they come to. -/
structure Passed (ctx : Context) (s : Store) (jobs ran : List SyncJob) (counts : PassCounts) (σ : Session) :
    Prop where
  runs : RunsInTurn ctx (.ofStore s) jobs ran σ
  named : ran.map (·.id) = jobs.map (·.id)
  rows : σ.store.jobs = s.jobs.map fun j => (find? j.id ran).getD j
  processed : counts.processed = jobs.length
  completed : counts.completed = ran.countP (·.status = .completed)
  retrying : counts.retrying = ran.countP (·.status = .pending)
  failed : counts.failed = ran.countP (·.status = .failed)
  accounted : counts.processed = counts.completed + counts.retrying + counts.failed

/-- Passes one after the other, each in a context of its own. -/
def passes (contexts : List Context) (now limit : Value) (s : Store) : Store :=
  contexts.foldl (fun s ctx => (Service.processPending now limit).after ctx s) s

section Order

variable {t : Instant} {s : Store}

lemma instant_eq_iff {a b : Instant} : a = b ↔ a.micros = b.micros := by
  cases a
  cases b
  simp

lemma ranks_jobs : Ranks fun a b : SyncJob =>
    a.nextRunAt < b.nextRunAt || (a.nextRunAt == b.nextRunAt && a.id ≤ b.id) := by
  have hlt (a b : Instant) : a < b ↔ a.micros < b.micros := Iff.rfl
  constructor <;>
    (intros
     simp only [Bool.or_eq_true, Bool.and_eq_true, decide_eq_true_eq, beq_iff_eq, instant_eq_iff, hlt] at *
     omega)

lemma dueJobs_perm (t : Instant) (s : Store) : (dueJobs t s).Perm (s.jobs.filter (isDue t)) := sortBy_perm _

lemma mem_dueJobs {j : SyncJob} : j ∈ dueJobs t s ↔ j ∈ s.jobs ∧ isDue t j = true :=
  (dueJobs_perm t s).mem_iff.trans List.mem_filter

lemma dueJobs_nodup (hn : Numbered s.jobs) : ((dueJobs t s).map (·.id)).Nodup := by
  rw [((dueJobs_perm t s).map _).nodup_iff]
  exact List.pairwise_map.mpr ((hn.ascending.filter _).imp ne_of_lt)

lemma dueJobs_pairwise (hn : Numbered s.jobs) : (dueJobs t s).Pairwise Earlier := by
  have hdistinct : (dueJobs t s).Pairwise fun a b => a.id ≠ b.id := List.pairwise_map.mp (dueJobs_nodup hn)
  refine ((pairwise_sortBy ranks_jobs _).and hdistinct).imp fun {a b} ⟨hranks, hne⟩ => ?_
  simp only [Bool.or_eq_true, Bool.and_eq_true, decide_eq_true_eq, beq_iff_eq] at hranks
  exact hranks.imp_right fun ⟨htime, hid⟩ => ⟨htime, lt_of_le_of_ne hid hne⟩

end Order

section Passes

variable {ctx : Context} {s : Store} {σ τ : Session} {jobs ran : List SyncJob} {t : Instant}

lemma RunsInTurn.ended (h : RunsInTurn ctx σ jobs ran τ) :
    ∀ j' ∈ ran, ∃ j ∈ jobs, ∃ r, Ended ctx j r j' := by
  induction h with
  | done => exact List.forall_mem_nil _
  | @next _ _ _ j _ _ _ r _ ended _ ih =>
    rintro k (_ | ⟨_, hk⟩)
    · exact ⟨j, List.mem_cons_self .., r, ended⟩
    · obtain ⟨i, hi, r, hended⟩ := ih k hk
      exact ⟨i, List.mem_cons_of_mem _ hi, r, hended⟩

lemma replace_cons {j' : SyncJob} (rows : List SyncJob) (new : find? j'.id ran = none) :
    (Table.modify j'.id (fun _ => j') rows).map (fun j => (find? j.id ran).getD j) =
      rows.map fun j => (find? j.id (j' :: ran)).getD j := by
  rw [Table.modify, List.map_map]
  refine List.map_congr_left fun x _ => ?_
  dsimp only [Function.comp]
  by_cases hx : Row.id x = j'.id
  · have hself : find? x.id (j' :: ran) = some j' := List.find?_cons_of_pos (beq_iff_eq.mpr hx.symm)
    rw [if_pos hx, new, hself]
    rfl
  · have hother : find? x.id (j' :: ran) = find? x.id ran :=
      List.find?_cons_of_neg fun heq => hx (beq_iff_eq.mp heq).symm
    rw [if_neg hx, hother]

lemma find?_of_named (named : ran.map (·.id) = jobs.map (·.id)) {id : Int} :
    find? id ran = none ↔ id ∉ jobs.map (·.id) := by
  rw [← named]
  simp [find?, Row.id]

lemma runJobs_runs (regular : Regular ctx) (hσ : σ.rivals = []) (h : Runnable σ.store)
    (queued : ∀ j ∈ jobs, j ∈ σ.store.jobs ∧ j.status = .pending) (distinct : (jobs.map (·.id)).Nodup)
    (counts : PassCounts) :
    ∃ ran τ, runJobs ctx counts (jobs.map (·.id)) σ =
        (.ok (ran.foldl (fun c j => c.count j.status) counts), τ) ∧
      RunsInTurn ctx σ jobs ran τ ∧ ran.map (·.id) = jobs.map (·.id) ∧
      τ.store.jobs = (σ.store.jobs.map fun j => (find? j.id ran).getD j) ∧ Runnable τ.store := by
  induction jobs generalizing σ counts with
  | nil => exact ⟨[], σ, rfl, .done, rfl, (List.map_id _).symm, h⟩
  | cons j jobs ih =>
    obtain ⟨⟨hj, pending⟩, queued'⟩ := List.forall_mem_cons.mp queued
    obtain ⟨hother, distinct'⟩ := List.nodup_cons.mp distinct
    obtain ⟨r, j', σ', hrun, ended, hjobs, hσ', h'⟩ := runJob_runs regular hσ h hj pending
    have hid : j'.id = j.id := (ended.update pending).names.1
    have hmem (k : SyncJob) : k ∈ σ'.store.jobs ↔ k = j' ∨ k ∈ σ.store.jobs ∧ k.id ≠ j.id := by
      rw [hjobs]
      exact mem_modify h.queue.jobs hj
    have hqueued : ∀ k ∈ jobs, k ∈ σ'.store.jobs ∧ k.status = .pending := by
      intro k hk
      have hne : k.id ≠ j.id := fun heq => hother (List.mem_map.mpr ⟨k, hk, heq⟩)
      exact ⟨(hmem k).mpr (.inr ⟨(queued' k hk).1, hne⟩), (queued' k hk).2⟩
    obtain ⟨ran, τ, hruns, inTurn, named, rows, hτ⟩ := ih hσ' h' hqueued distinct' (counts.count j'.status)
    have hstatus : Action.read (statusOf j.id) σ' = (.ok j'.status, σ') := by
      have hfind : find? j.id σ'.store.jobs = some j' :=
        hid ▸ find?_of_mem h'.queue.jobs ((hmem j').mpr (.inl rfl))
      exact Action.read_eq_ok.mpr ⟨by rw [statusOf, hfind], rfl⟩
    refine ⟨j' :: ran, τ, ?_, .next hrun ended inTurn, ?_, ?_, hτ⟩
    · rw [List.map_cons, runJobs, Action.bind_of_ok hrun]
      dsimp only
      rw [Action.bind_of_ok hstatus]
      exact hruns
    · rw [List.map_cons, List.map_cons, hid, named]
    · rw [rows, hjobs, ← hid]
      exact replace_cons _ ((find?_of_named named).mpr (hid ▸ hother))

lemma foldl_count (ran : List SyncJob) (c : PassCounts) :
    ran.foldl (fun c j => c.count j.status) c =
      ⟨c.processed + ran.length, c.completed + ran.countP (·.status = .completed),
        c.retrying + ran.countP (·.status = .pending), c.failed + ran.countP (·.status = .failed)⟩ := by
  induction ran generalizing c with
  | nil => rfl
  | cons j ran ih =>
    rw [List.foldl_cons, ih]
    cases hstatus : j.status <;> simp [PassCounts.count, hstatus] <;> omega

lemma length_eq_counts (ran : List SyncJob) :
    ran.length = ran.countP (·.status = .completed) + ran.countP (·.status = .pending) +
      ran.countP (·.status = .failed) := by
  induction ran with
  | nil => rfl
  | cons j ran ih =>
    cases hstatus : j.status <;> simp [hstatus, ih] <;> omega

/-- A pass runs the first jobs that are due, as many as it takes. -/
lemma processPending_passes (regular : Regular ctx) (h : Runnable s) {now : Value}
    (time : timeOr ctx now = .ok t) {limit : Int} (positive : 1 ≤ limit) (storable : isStorable limit = true) :
    ∃ ran counts σ, processPending ctx now (.int limit) (.ofStore s) = (.ok counts, σ) ∧
      Passed ctx s ((dueJobs t s).take limit.toNat) ran counts σ ∧ Runnable σ.store := by
  have hlimit : passLimit ctx (.int limit) = .ok limit := by
    have htruthy : (Value.int limit).truthy = true := by
      simp [Value.truthy]
      omega
    simp [passLimit, htruthy, Value.toInteger, queryWith, storable]
  have hjobs : passJobs ctx now (.int limit) s = .ok (((dueJobs t s).take limit.toNat).map (·.id)) := by
    simp only [timeOr, bind_eq_ok, pure_eq_ok] at time
    obtain ⟨given, hgiven, rfl⟩ := time
    have hfirst : ¬limit < 0 := by omega
    simp [passJobs, hgiven, hlimit, firstDue, hfirst, List.map_take, bind, Except.bind, pure, Except.pure]
  have hread : Action.read (passJobs ctx now (.int limit)) (.ofStore s) =
      (.ok (((dueJobs t s).take limit.toNat).map (·.id)), .ofStore s) :=
    Action.read_eq_ok.mpr ⟨hjobs, rfl⟩
  have hqueued : ∀ j ∈ (dueJobs t s).take limit.toNat, j ∈ s.jobs ∧ j.status = .pending := by
    intro j hj
    obtain ⟨hj, hdue⟩ := mem_dueJobs.mp (List.mem_of_mem_take hj)
    simp only [isDue, Bool.and_eq_true, beq_iff_eq] at hdue
    exact ⟨hj, hdue.1⟩
  have hdistinct : (((dueJobs t s).take limit.toNat).map (·.id)).Nodup := by
    rw [List.map_take]
    exact (dueJobs_nodup h.queue.jobs).sublist (List.take_sublist _ _)
  obtain ⟨ran, σ, hrun, runs, named, rows, hσ⟩ :=
    runJobs_runs regular (rfl : (Session.ofStore s).rivals = []) h hqueued hdistinct .none
  have hlength : ran.length = ((dueJobs t s).take limit.toNat).length := by
    simpa using congrArg List.length named
  rw [foldl_count] at hrun
  have hpass : (Action.read (passJobs ctx now (.int limit)) >>= runJobs ctx .none) (.ofStore s) = _ :=
    (Action.bind_of_ok hread).trans hrun
  rw [← processPending_eq] at hpass
  refine ⟨ran, _, σ, hpass, ⟨runs, named, rows, ?_, ?_, ?_, ?_, ?_⟩, hσ⟩
  · simpa [PassCounts.none] using hlength
  · simp [PassCounts.none]
  · simp [PassCounts.none]
  · simp [PassCounts.none]
  · simpa [PassCounts.none] using length_eq_counts ran

lemma Passed.due {counts : PassCounts} (h : Passed ctx s jobs ran counts σ) (regular : Regular ctx)
    (past : t ≤ ctx.now) :
    dueJobs t σ.store = (dueJobs t s).filter fun j => j.id ∉ jobs.map (·.id) := by
  have hspent : ∀ j ∈ ran, isDue t j = false := by
    intro j' hj'
    obtain ⟨j, -, r, ended⟩ := h.runs.ended j' hj'
    by_contra hdue
    simp only [isDue, Bool.not_eq_false, Bool.and_eq_true, beq_iff_eq, decide_eq_true_eq] at hdue
    have hrests : ctx.now.micros < j'.nextRunAt.micros := regular.rests ended hdue.1
    have hnow : j'.nextRunAt.micros ≤ t.micros := hdue.2
    have hpast : t.micros ≤ ctx.now.micros := past
    omega
  have hrows (rows : List SyncJob) : (rows.map fun j => (find? j.id ran).getD j).filter (isDue t) =
      (rows.filter (isDue t)).filter fun j => j.id ∉ jobs.map (·.id) := by
    induction rows with
    | nil => rfl
    | cons x rows ih =>
      rw [List.map_cons, List.filter_cons, ih, List.filter_cons]
      cases hx : find? x.id ran with
      | none =>
        have hkept : decide (x.id ∉ jobs.map (·.id)) = true := decide_eq_true ((find?_of_named h.named).mp hx)
        rw [Option.getD_none]
        split_ifs
        · rw [List.filter_cons, if_pos hkept]
        · rfl
      | some y =>
        have hgone : ¬decide (x.id ∉ jobs.map (·.id)) = true := by
          rw [decide_eq_true_eq, ← find?_of_named h.named, hx]
          exact Option.some_ne_none y
        rw [Option.getD_some, hspent y (mem_of_find? hx).1, if_neg Bool.false_ne_true]
        split_ifs
        · rw [List.filter_cons, if_neg hgone]
        · rfl
  unfold dueJobs
  rw [h.rows, hrows, filter_sortBy ranks_jobs]

lemma filter_take {xs : List SyncJob} (hn : (xs.map (·.id)).Nodup) (n : Nat) :
    (xs.filter fun j => j.id ∉ (xs.take n).map (·.id)) = xs.drop n := by
  have hsplit := hn
  rw [← List.take_append_drop n xs, List.map_append, List.nodup_append] at hsplit
  obtain ⟨-, -, hapart⟩ := hsplit
  have htaken : ((xs.take n).filter fun j => j.id ∉ (xs.take n).map (·.id)) = [] :=
    List.filter_eq_nil_iff.mpr fun j hj => by
      simpa only [decide_eq_true_eq, not_not] using List.mem_map_of_mem hj
  have hleft : ((xs.drop n).filter fun j => j.id ∉ (xs.take n).map (·.id)) = xs.drop n :=
    List.filter_eq_self.mpr fun j hj => decide_eq_true fun hmem =>
      hapart _ hmem _ (List.mem_map_of_mem hj) rfl
  conv_lhs => rw [← List.take_append_drop n xs]
  rw [List.filter_append, List.take_append_drop, htaken, hleft, List.nil_append]

lemma due_of_pass (regular : Regular ctx) (h : Runnable s) {now : Value} (time : timeOr ctx now = .ok t)
    (past : t ≤ ctx.now) {limit : Int} (positive : 1 ≤ limit) (storable : isStorable limit = true) :
    let s' := (Service.processPending now (.int limit)).after ctx s
    dueJobs t s' = (dueJobs t s).drop limit.toNat ∧ Runnable s' := by
  intro s'
  obtain ⟨ran, counts, σ, hpass, passed, hσ⟩ := processPending_passes regular h time positive storable
  have hs' : s' = σ.store := congrArg (·.2.store) hpass
  rw [hs', passed.due regular past, filter_take (dueJobs_nodup h.queue.jobs)]
  exact ⟨rfl, hσ⟩

/-- Passes at one time that is not later than the clock take one block after the other. -/
lemma due_of_passes {contexts : List Context} {now : Value} (h : Runnable s)
    (regular : ∀ ctx ∈ contexts, Regular ctx ∧ timeOr ctx now = .ok t ∧ t ≤ ctx.now) {limit : Int}
    (positive : 1 ≤ limit) (storable : isStorable limit = true) :
    let s' := passes contexts now (.int limit) s
    dueJobs t s' = (dueJobs t s).drop (contexts.length * limit.toNat) ∧ Runnable s' := by
  induction contexts generalizing s with
  | nil => exact ⟨by simp [passes], h⟩
  | cons ctx contexts ih =>
    obtain ⟨⟨hregular, htime, hpast⟩, hrest⟩ := List.forall_mem_cons.mp regular
    obtain ⟨hdue, hs⟩ := due_of_pass hregular h htime hpast positive storable
    obtain ⟨hrest, hs'⟩ := ih hs hrest
    refine ⟨hrest.trans ?_, hs'⟩
    rw [hdue, List.drop_drop, List.length_cons, Nat.add_one_mul, Nat.add_comm]

end Passes

variable {P : Context → Service → Prop} {s : Store} {t : Instant}

/-- In every store that can be reached, the jobs that are due at a time have an order, and passes at that time,
with the standard settings and before the year 9999, take them block by block, as many as the limit says, which
is a positive number that tables work on: after any number of passes at a time that is not later than the clock,
and so without any, the next pass runs the first jobs that are left, each once, changes no other job, and counts
its runs by what they come to. Nothing is left once there have been as many passes as there are blocks. -/
theorem passes_run_due_jobs (h : Reachable P s) (t : Instant) (now : Value) {limit : Int}
    (positive : 1 ≤ limit) (storable : isStorable limit = true) :
    ((dueJobs t s).Perm (s.jobs.filter (isDue t)) ∧ (dueJobs t s).Pairwise Earlier) ∧
      ∀ contexts : List Context,
        (∀ ctx ∈ contexts, Regular ctx ∧ timeOr ctx now = .ok t ∧ t ≤ ctx.now) →
          let s' := passes contexts now (.int limit) s
          let left := (dueJobs t s).drop (contexts.length * limit.toNat)
          dueJobs t s' = left ∧
            (left = [] ↔ (dueJobs t s).length ⌈/⌉ limit.toNat ≤ contexts.length) ∧
            ∀ ctx, Regular ctx → timeOr ctx now = .ok t → ∃ ran counts σ,
              processPending ctx now (.int limit) (.ofStore s') = (.ok counts, σ) ∧
                Passed ctx s' (left.take limit.toNat) ran counts σ := by
  have hs : Runnable s := .of_reachable h
  refine ⟨⟨dueJobs_perm t s, dueJobs_pairwise hs.queue.jobs⟩, fun contexts regular => ?_⟩
  obtain ⟨hleft, hs'⟩ := due_of_passes hs regular positive storable
  have hpos : 0 < limit.toNat := by omega
  refine ⟨hleft, ?_, fun ctx hregular time => ?_⟩
  · rw [List.drop_eq_nil_iff, ceilDiv_le_iff_le_mul hpos, Nat.mul_comm]
  · obtain ⟨ran, counts, σ, hpass, passed, -⟩ :=
      processPending_passes hregular hs' time positive storable
    exact ⟨ran, counts, σ, hpass, hleft ▸ passed⟩

/-- The store after the attempts of two students are queued, one of which is in progress. -/
def twoQueued : Store :=
  (Scenario.State.start .standard).context.serve [.enqueue (.int 1), .enqueue (.int 2)]
    Attempting.begunAndSubmitted

/-- Two passes of one job each: the first puts a job off, the second gives the other one up. -/
theorem passes_run_due_jobs_of_two :
    let ctx := (Scenario.State.start .standard).context
    let s := twoQueued
    let s' := passes [ctx] .null (.int 1) s
    (dueJobs ctx.now s).map (·.id) = [1, 2] ∧ dueJobs ctx.now (passes [ctx, ctx] .null (.int 1) s) = [] ∧
      ∃ ran σ, processPending ctx .null (.int 1) (.ofStore s') = (.ok ⟨1, 0, 0, 1⟩, σ) ∧
        Passed ctx s' (((dueJobs ctx.now s).drop 1).take 1) ran ⟨1, 0, 0, 1⟩ σ := by
  intro ctx s s'
  have hbegun : Reachable (fun _ _ => True) Attempting.begunAndSubmitted :=
    .serve (fun _ _ => trivial) _ _ _
  have h : Reachable (fun _ _ => True) s := hbegun.run (.serve fun _ _ => trivial)
  have regular : Regular ctx := ⟨rfl, rfl, rfl, by decide, by decide⟩
  have past : ∀ c ∈ [ctx, ctx], Regular c ∧ timeOr c .null = .ok ctx.now ∧ ctx.now ≤ c.now := by
    have hnow : ctx.now ≤ ctx.now := by decide
    simp only [List.forall_mem_cons]
    exact ⟨⟨regular, rfl, hnow⟩, ⟨regular, rfl, hnow⟩, List.forall_mem_nil _⟩
  have hdue : (dueJobs ctx.now s).map (·.id) = [1, 2] := by decide +kernel
  have hlength : (dueJobs ctx.now s).length = 2 := by simpa using congrArg List.length hdue
  have hcounts : (processPending ctx .null (.int 1) (.ofStore s')).1 = .ok ⟨1, 0, 0, 1⟩ := by decide +kernel
  obtain ⟨-, hpasses⟩ := passes_run_due_jobs h ctx.now .null (by decide : (1 : Int) ≤ 1) (by decide)
  obtain ⟨-, -, hnext⟩ := hpasses [ctx] fun c hc => past c (List.mem_cons_of_mem _ hc)
  obtain ⟨hend, -, -⟩ := hpasses [ctx, ctx] past
  obtain ⟨ran, counts, σ, hpass, passed⟩ := hnext ctx regular rfl
  rw [hpass] at hcounts
  obtain rfl := Except.ok.inj hcounts
  refine ⟨hdue, hend.trans ?_, ran, σ, hpass, passed⟩
  exact List.drop_eq_nil_of_le hlength.le

/-- A limit beyond the numbers that tables work on is a defect of the pass. -/
theorem pass_limit_overflows :
    ¬∀ s : Store, Reachable (fun _ _ => True) s → ∀ ctx, Regular ctx → ∀ limit : Int, 1 ≤ limit →
      ∃ counts σ, processPending ctx .null (.int limit) (.ofStore s) = (.ok counts, σ) := by
  intro hpasses
  have h : Reachable (fun _ _ => True) (.ofSchool [] [] []) := ⟨[], [], [], .done⟩
  have regular : Regular (Scenario.State.start .standard).context := ⟨rfl, rfl, rfl, by decide, by decide⟩
  obtain ⟨counts, σ, hpass⟩ := hpasses _ h _ regular (2 ^ 63) (by decide)
  cases hpass

end Assessment.Sync
