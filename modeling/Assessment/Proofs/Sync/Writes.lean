import Assessment.Proofs.Gradebook.Writes
import Assessment.Proofs.LooseValues
import Assessment.Proofs.Outcomes

/-!
# What posting scores and working off the queue write

A post enters one score into a book. Jobs are queued, queued again, and recorded on; a run of a job may
post in between.
-/

namespace Assessment.Sync

open Access Gradebook Number Request

/-- What a caller posts. -/
inductive Posting (ctx : Context) (poster : Caller) (s : Store) : Store → Prop
  | post {a : Attempt} {book : GradeBook} {item : GradeItem} {score : Decimal} {reason : String}
      {actor : Option Int}
      (found : a ∈ s.attempts) (submitted : a.status = .submitted)
      (manages : requirePoster ctx poster a.classSection s = .ok ())
      (open' : postableBook ctx a.classSection s = .ok book)
      (placed : postableItem ctx book a.classSection a.quiz s = .ok item)
      (scaled : scale (a.score.map Amount.toDecimal) (a.maxScore.map Amount.toDecimal)
        item.maxScore.toDecimal = .ok score)
      (differs : ScoreChange.changes ⟨item.id, a.enrollment, some score, poster.id, reason⟩
        (s.entryOf? item.id a.enrollment) = .ok true) :
      Posting ctx poster s
        (withScore ⟨item.id, a.enrollment, some score, poster.id, reason⟩ actor ctx.now
          { s with books := Table.modify book.id (touched ctx.now) s.books })

/-- What a post has done that reports its result: nothing if no score changed, and otherwise it has
entered a score under the item that it names. -/
inductive Posts (ctx : Context) (poster : Caller) (s : Store) (p : Posted) : Store → Prop
  | same (unchanged : p.changed = false) : Posts ctx poster s p s
  | entered {a : Attempt} {book : GradeBook} {item : GradeItem} {score : Decimal} {reason : String}
      {actor : Option Int} (changed : p.changed = true) (named : p.item = item.id)
      (found : a ∈ s.attempts) (submitted : a.status = .submitted)
      (manages : requirePoster ctx poster a.classSection s = .ok ())
      (open' : postableBook ctx a.classSection s = .ok book)
      (placed : postableItem ctx book a.classSection a.quiz s = .ok item)
      (scaled : scale (a.score.map Amount.toDecimal) (a.maxScore.map Amount.toDecimal)
        item.maxScore.toDecimal = .ok score)
      (differs : ScoreChange.changes ⟨item.id, a.enrollment, some score, poster.id, reason⟩
        (s.entryOf? item.id a.enrollment) = .ok true) :
      Posts ctx poster s p
        (withScore ⟨item.id, a.enrollment, some score, poster.id, reason⟩ actor ctx.now
          { s with books := Table.modify book.id (touched ctx.now) s.books })

/-- Posting the score of an attempt fails when the program tries it on a store. -/
def FailsIn (ctx : Context) (s : Store) (attempt : Int) (fault : Fault) : Prop :=
  ∃ σ : Session, σ.rivals = [] ∧ σ.store = s ∧
    (post ctx ⟨.int attempt, program, .null, .null⟩ σ).1 = .error fault

/-- What is written into the queue. -/
inductive Queueing (ctx : Context) (s : Store) : Store → Prop
  | begin {attempt : Int} (known : ∃ a ∈ s.attempts, a.id = attempt)
      (first : s.jobOf? attempt = none) (storable : isStorable attempt = true) :
      Queueing ctx s
        { s with jobs := s.jobs ++ [SyncJob.begin attempt ctx.now (Table.nextId s.jobs)] }
  | again {j : SyncJob} (found : j ∈ s.jobs) :
      Queueing ctx s { s with jobs := Table.modify j.id (requeued ctx.now) s.jobs }
  | success {j : SyncJob} (found : j ∈ s.jobs) (pending : j.status = .pending) :
      Queueing ctx s { s with jobs := Table.modify j.id (fun _ => succeeded ctx.now j) s.jobs }
  | failure {j j' : SyncJob} {fault : Fault} (found : j ∈ s.jobs) (pending : j.status = .pending)
      (outcome : failed ctx fault.failure j = .ok j') (fails : FailsIn ctx s j.attempt fault) :
      Queueing ctx s { s with jobs := Table.modify j.id (fun _ => j') s.jobs }

/-- A run of jobs posts scores for the program and records so in the queue. -/
def Working (ctx : Context) (s s' : Store) : Prop := Posting ctx program s s' ∨ Queueing ctx s s'

lemma Posting.frame {ctx : Context} {poster : Caller} {s s' : Store} (w : Posting ctx poster s s') :
    s' = { s with books := s'.books, entries := s'.entries, audits := s'.audits } := by
  cases w
  rfl

lemma Queueing.frame {ctx : Context} {s s' : Store} (w : Queueing ctx s s') :
    s' = { s with jobs := s'.jobs } := by
  cases w <;> rfl

section Operations

variable {ctx : Context} {s s' : Store}

lemma submittedAttempt_eq_ok {attempt : Int} {a : Attempt}
    (h : submittedAttempt attempt s = .ok a) :
    a ∈ s.attempts ∧ a.id = attempt ∧ a.status = .submitted := by
  simp only [submittedAttempt, bind_eq_ok, readRow?, when_eq_ok, Except.ok.injEq] at h
  obtain ⟨row, ⟨-, rfl⟩, h⟩ := h
  cases hf : Table.find? attempt s.attempts with
  | none => simp [hf] at h
  | some x =>
    simp only [hf, guard_eq_ok, pure_eq_ok, ne_eq, not_not] at h
    obtain ⟨hstatus, rfl⟩ := h
    exact ⟨(Table.mem_of_find? hf).1, (Table.mem_of_find? hf).2, hstatus⟩

lemma postableBook_eq_ok {classSection : Int} {book : GradeBook}
    (h : postableBook ctx classSection s = .ok book) :
    existingBook classSection s = .ok book ∧
      book.status.syncBar? ctx.settings.lateCorrections.truthy = none := by
  simp only [postableBook, bind_eq_ok] at h
  obtain ⟨b, hb, h⟩ := h
  cases hbar : b.status.syncBar? ctx.settings.lateCorrections.truthy with
  | some bar => simp [hbar] at h
  | none =>
    simp only [hbar, pure_eq_ok] at h
    subst h
    exact ⟨hb, hbar⟩

lemma postableItem_eq_ok {book : GradeBook} {classSection quiz : Int} {item : GradeItem}
    (h : postableItem ctx book classSection quiz s = .ok item) :
    item ∈ s.items ∧ item.book = book.id := by
  simp only [postableItem, bind_eq_ok, lift_eq_ok] at h
  obtain ⟨named, -, found, hf, h⟩ := h
  cases found with
  | none => simp at h
  | some i =>
    simp only [guard_eq_ok, pure_eq_ok, ne_eq, not_not] at h
    obtain ⟨hbook, rfl⟩ := h
    unfold targetItem? at hf
    by_cases ht : named.truthy = true
    · simp only [if_pos ht, bind_eq_ok, pure_eq_ok] at hf
      obtain ⟨probe, -, hf⟩ := hf
      exact ⟨List.mem_of_find?_eq_some hf, hbook⟩
    · simp [if_neg ht] at hf

/-- What a post finds before it reports, and what it has written by then. -/
lemma exists_of_postOnce {attempt : Int} {poster : Caller} {reason : Value}
    {deadline : Option Time.Instant} {p : Posted}
    (h : (postOnce ctx attempt poster reason deadline).run s = .ok (p, s')) :
    ∃ a book item score text, submittedAttempt attempt s = .ok a ∧
      requirePoster ctx poster a.classSection s = .ok () ∧
      postableBook ctx a.classSection s = .ok book ∧
      postableItem ctx book a.classSection a.quiz s = .ok item ∧
      scale (a.score.map Amount.toDecimal) (a.maxScore.map Amount.toDecimal) item.maxScore.toDecimal = .ok score ∧
      ScoreChange.changes ⟨item.id, a.enrollment, some score, poster.id, text⟩
        (s.entryOf? item.id a.enrollment) = .ok p.changed ∧
      p = ⟨a.id, item.id, a.enrollment, score, p.changed⟩ ∧
      (p.changed = false ∧ s' = s ∨
        p.changed = true ∧ ∃ actor, s' =
          withScore ⟨item.id, a.enrollment, some score, poster.id, text⟩ actor ctx.now
            { s with books := Table.modify book.id (touched ctx.now) s.books }) := by
  simp only [postOnce, Transaction.run_eq_ok, bind_eq_ok, exists_unit, lift_eq_ok, guard_eq_ok] at h
  obtain ⟨d, ⟨a, ha, hposter, book, hbook, item, hitem, score, hscore, text, -, changed, hchanged,
    -, hd⟩, h⟩ := h
  refine ⟨a, book, item, score, text, ha, hposter, hbook, hitem, hscore, ?_⟩
  cases changed with
  | true =>
    rw [if_pos rfl, pure_eq_ok] at hd
    subst hd
    simp only [Decision.apply_change, enterPosted, bind_eq_ok, pure_eq_ok, Prod.mk.injEq] at h
    obtain ⟨_, ⟨⟨_, t⟩, ht, hs⟩, rfl, rfl⟩ := h
    obtain ⟨actor, -, -, hs⟩ := applyScore_eq_ok hs
    rw [changeBook_eq_ok ht] at hs
    exact ⟨hchanged, rfl, .inr ⟨rfl, actor, hs⟩⟩
  | false =>
    rw [if_neg Bool.false_ne_true, pure_eq_ok] at hd
    subst hd
    simp only [Decision.apply_keep, Prod.mk.injEq] at h
    obtain ⟨rfl, rfl⟩ := h
    exact ⟨hchanged, rfl, .inl ⟨rfl, rfl⟩⟩

lemma postOnce_posts {attempt : Int} {poster : Caller} {reason : Value}
    {deadline : Option Time.Instant} {p : Posted}
    (h : (postOnce ctx attempt poster reason deadline).run s = .ok (p, s')) :
    Posts ctx poster s p s' := by
  obtain ⟨a, book, item, score, text, found, manages, open', placed, scaled, differs, hp, written⟩ :=
    exists_of_postOnce h
  rcases written with ⟨unchanged, rfl⟩ | ⟨changed, actor, rfl⟩
  · exact .same unchanged
  · obtain ⟨hmem, -, hstatus⟩ := submittedAttempt_eq_ok found
    exact .entered changed (congrArg Posted.item hp) hmem hstatus manages open' placed scaled (changed ▸ differs)

lemma postOnce_writes {attempt : Int} {poster : Caller} {reason : Value}
    {deadline : Option Time.Instant} {p : Posted}
    (h : (postOnce ctx attempt poster reason deadline).run s = .ok (p, s')) :
    s' = s ∨ Posting ctx poster s s' := by
  cases postOnce_posts h with
  | same => exact .inl rfl
  | entered _ _ found submitted manages open' placed scaled differs =>
    exact .inr (.post found submitted manages open' placed scaled differs)

lemma retrying_eq_commit {α : Type} (t : Transaction α) (retries : Nat) {s : Session} (hs : s.rivals = []) :
    retrying t retries s = Action.commit t s := by
  induction retries with
  | zero => rfl
  | succ retries ih =>
    cases ht : t.run s.store with
    | ok r =>
      obtain ⟨a, store⟩ := r
      have hc := Action.commit_of_ok hs ht
      have ho : Action.outcome (Action.commit t) s = (.ok (.ok a), { s with store }) := by
        rw [Action.outcome, hc]
      rw [retrying, Action.bind_of_ok ho, hc]
      rfl
    | error fault =>
      have hc := Action.commit_of_error hs ht
      have ho : Action.outcome (Action.commit t) s = (.ok (.error fault), s) := by
        rw [Action.outcome, hc]
      rw [retrying, Action.bind_of_ok ho]
      by_cases hconflict : isConflict fault = true
      · simp only [if_pos hconflict, ih]
      · simp only [if_neg hconflict, hc]
        rfl

lemma retrying_ensures {α : Type} {Q : Store → Except Fault α → Store → Prop} {t : Transaction α}
    (h : (Action.commit t).Ensures Q) (retries : Nat) : (retrying t retries).Ensures Q := by
  intro s hs
  rw [retrying_eq_commit t retries hs]
  exact h s hs

lemma retrying_takes {α : Type} {R : Store → Store → Prop} {t : Transaction α}
    (h : ∀ s a s', t.run s = .ok (a, s') → s' = s ∨ R s s') (retries : Nat) :
    (retrying t retries).Takes R := by
  induction retries with
  | zero => exact .commit h
  | succ retries ih =>
    refine Action.Takes.bind (.outcome (.commit h)) fun r => ?_
    cases r with
    | ok a => exact .pure a
    | error fault => exact .ite ih (.throw fault)

lemma post_takes (r : PostRequest) : (post ctx r).Takes (Posting ctx r.poster) := by
  refine .bind (.read _) fun attempt => .bind (.read _) fun deadline => .bind (.read _) fun retries => ?_
  exact .ite (.pure none) (.map (retrying_takes (fun _ _ _ => postOnce_writes) _) _)

/-- A post that fails leaves the store as it was. -/
lemma post_rollsBack (r : PostRequest) : (post ctx r).RollsBack :=
  .read_bind fun _ => .read_bind fun _ => .read_bind fun _ =>
    .ite (Action.Ensures.pure fun _ _ => nofun) (.map (retrying_ensures (Action.RollsBack.commit _) _) _)

lemma insertJob_eq_ok {attempt : Value} {j : SyncJob}
    (h : insertJob attempt ctx.now s = .ok (j, s')) : Queueing ctx s s' := by
  simp only [insertJob, bind_eq_ok, guard_eq_ok, pure_eq_ok, Prod.mk.injEq] at h
  obtain ⟨column, hcolumn, id, hid, hfirst, -, rfl⟩ := h
  obtain ⟨rfl, known⟩ := requiredReference_eq_ok hid
  exact .begin known (by simpa using hfirst) (Value.storable_of_column hcolumn)

lemma enqueueOne_writes {attempt : Value} {j : Option SyncJob}
    (h : (enqueueOne ctx attempt).run s = .ok (j, s')) : s' = s ∨ Queueing ctx s s' := by
  simp only [enqueueOne, Transaction.run_eq_ok, bind_eq_ok, lift_eq_ok] at h
  obtain ⟨d, ⟨key, -, hd⟩, h⟩ := h
  cases hj : jobOf? key s with
  | some job =>
    simp only [hj, pure_eq_ok] at hd
    subst hd
    simp only [Decision.apply_write, Except.ok.injEq, Prod.mk.injEq] at h
    obtain ⟨-, rfl⟩ := h
    exact .inr (.again (List.mem_of_find?_eq_some hj))
  | none =>
    simp only [hj, pure_eq_ok] at hd
    subst hd
    simp only [Decision.apply_write] at h
    cases hi : insertJob attempt ctx.now s with
    | error violation =>
      cases violation <;> simp [hi] at h
      · exact .inl h.2.symm
      · exact .inl h.2.symm
    | ok r =>
      simp only [hi, Except.ok.injEq, Prod.mk.injEq] at h
      obtain ⟨-, rfl⟩ := h
      exact .inr (insertJob_eq_ok hi)

lemma enqueue_takes (attempt : Value) : (enqueue ctx attempt).Takes (Queueing ctx) :=
  .commit fun _ _ _ => enqueueOne_writes

lemma jobs_of_postings {poster : Caller} (h : Relation.ReflTransGen (Posting ctx poster) s s') :
    s'.jobs = s.jobs := by
  induction h with
  | refl => rfl
  | tail _ w ih => rw [w.frame]; exact ih

lemma recordRun_writes {j : SyncJob} {result : Except Fault Posted} {u : Unit}
    (found : Table.find? j.id s.jobs = some j) (pending : j.status = .pending)
    (fails : ∀ fault, result = .error fault → FailsIn ctx s j.attempt fault)
    (h : (recordRun ctx j.id result).run s = .ok (u, s')) : Queueing ctx s s' := by
  cases result with
  | ok posted =>
    simp only [recordRun, found, Transaction.run_eq_ok, bind_eq_ok, pure_eq_ok] at h
    obtain ⟨_, ⟨_, rfl, rfl⟩, h⟩ := h
    cases h
    exact .success (Table.mem_of_find? found).1 pending
  | error fault =>
    simp only [recordRun, found, Transaction.run_eq_ok, bind_eq_ok, pure_eq_ok] at h
    obtain ⟨_, ⟨j', hj, rfl⟩, h⟩ := h
    cases h
    exact .failure (Table.mem_of_find? found).1 pending hj (fails fault rfl)

lemma pendingJob?_eq_ok {job : Value} {j : SyncJob} (h : pendingJob? job s = .ok (some j)) :
    Table.find? j.id s.jobs = some j ∧ j.status = .pending := by
  simp only [pendingJob?, bind_eq_ok, pure_eq_ok] at h
  obtain ⟨probe, -, h⟩ := h
  obtain ⟨hfind, hstatus⟩ := Option.filter_eq_some_iff.mp h
  have hp : probe = .cell (.whole j.id) := by
    have := List.find?_some hfind
    cases probe <;> simp_all [Probe.findsWhole, Probe.finds, Row.id]
  subst hp
  exact ⟨(Probe.find?_whole j.id s.jobs).symm.trans hfind, by simpa using hstatus⟩

lemma runJob_takes (job : Value) : (runJob ctx job).Takes (Working ctx) := by
  intro t ht
  refine Action.TakesFrom.bind (Action.Takes.read _ t ht) fun found t₁ hread ht₁ _ => ?_
  obtain ⟨hfound, rfl⟩ := Prod.mk.inj hread
  cases found with
  | none => exact Action.Takes.pure _ t ht
  | some j =>
    obtain ⟨hj, hpending⟩ := pendingJob?_eq_ok (mapError_eq_ok.mp hfound)
    have hposts : (Action.outcome (post ctx ⟨.int j.attempt, program, .null, .null⟩)).Takes
        (Posting ctx program) := .outcome (post_takes _)
    have hworks := hposts.mono fun _ _ h => (Or.inl h : Working ctx _ _)
    refine (hworks t ht).bind fun result t₂ hresult ht₂ _ => ?_
    have hjobs : t₂.store.jobs = t.store.jobs := by
      have h := (hposts t ht).2
      rw [hresult] at h
      exact jobs_of_postings h
    rw [← hjobs] at hj
    have hrecord (result : Except Fault Posted)
        (fails : ∀ fault, result = .error fault → FailsIn ctx t₂.store j.attempt fault) :
        Action.TakesFrom (Working ctx) t₂ (Action.commit (recordRun ctx j.id result)) :=
      .commit ht₂ fun _ _ h => .inr (.inr (recordRun_writes hj hpending fails h))
    cases result with
    | error fault =>
      have hpost : post ctx ⟨.int j.attempt, program, .null, .null⟩ t = (.error fault, t₂) := by
        unfold Action.outcome at hresult
        injection hresult with h₁ h₂
        exact Prod.ext (Except.ok.inj h₁) h₂
      have hfails : FailsIn ctx t₂.store j.attempt fault :=
        ⟨t, ht, ((post_rollsBack _ t ht).2 fault (congrArg Prod.fst hpost)).symm.trans
          (congrArg (·.2.store) hpost), congrArg Prod.fst hpost⟩
      refine (hrecord _ fun f hf => ?_).bind fun _ t₃ _ ht₃ _ => Action.Takes.pure _ t₃ ht₃
      exact Except.error.inj hf ▸ hfails
    | ok posted =>
      cases posted with
      | none => exact Action.Takes.throw _ t₂ ht₂
      | some posted =>
        exact (hrecord _ (by simp)).bind fun _ t₃ _ ht₃ _ => Action.Takes.pure _ t₃ ht₃

lemma syncNow_takes (attempt : Value) : (syncNow ctx attempt).Takes (Working ctx) := by
  refine .bind ((enqueue_takes attempt).mono fun _ _ => .inr) fun j => ?_
  cases j with
  | none => exact .throw _
  | some j => exact runJob_takes _

lemma runJobs_takes (counts : PassCounts) (jobs : List Int) :
    (runJobs ctx counts jobs).Takes (Working ctx) := by
  induction jobs generalizing counts with
  | nil => exact .pure counts
  | cons job jobs ih =>
    refine .bind (runJob_takes _) fun r => ?_
    cases r with
    | none => exact ih counts
    | some _ => exact .bind (.read _) fun status => ih _

lemma processPending_takes (now limit : Value) : (processPending ctx now limit).Takes (Working ctx) :=
  .bind (.read _) fun _ => .bind (.read _) fun _ => .bind (.read _) fun _ => runJobs_takes _ _

lemma onSubmitted_takes (attempt : Int) : (onSubmitted ctx attempt).Takes (Working ctx) :=
  .ite (.bind (syncNow_takes _) fun _ => .pure _)
    (.bind ((enqueue_takes _).mono fun _ _ => .inr) fun _ => .pure _)

end Operations

end Assessment.Sync
