import Assessment.Proofs.Gradebook.Scope
import Assessment.Proofs.Sync.Jobs

/-!
# How far posts and submissions reach

A post enters a score into the book of the attempt's section, for whoever manages that section, and shows in
that gradebook alone. A submission shows in its attempt, the selections and the job of that, and of the
gradebooks in the entry of the attempt's enrollment under one item, in the log of that entry, and in the
version of the book.
-/

namespace Assessment

open Access Table

/-- A store without an attempt, its selections and its job. -/
def Store.withoutAttempt (attempt : Int) (s : Store) : Store :=
  { s with
    attempts := s.attempts.filter fun a => !(a.id == attempt)
    selections := s.selections.filter fun r => !(r.attempt == attempt)
    jobs := s.jobs.filter fun j => !(j.attempt == attempt) }

namespace Sync

open Attempting Gradebook Request

/-- A submission shows in nothing but its attempt, the selections and the job of that, unless it enters the
score under an item of the section's book: then the book counts a change, and the entry of the attempt's
enrollment under this item has changed with its log. -/
inductive Shows (ctx : Context) (a : Attempt) (s s' : Store) : Prop
  | alone (rest : s'.withoutAttempt a.id = s.withoutAttempt a.id)
  | entered {b : GradeBook} {i : GradeItem} (book : b ∈ s.books) (section' : b.classSection = a.classSection)
      (item : i ∈ s.items) (held : i.book = b.id)
      (rest : (s'.withoutAttempt a.id).withoutEntries (isAt i.id a.enrollment) =
        (({ s with books := modify b.id (touched ctx.now) s.books } : Store).withoutAttempt
          a.id).withoutEntries (isAt i.id a.enrollment))

section Posts

variable {ctx : Context} {s s' : Store} {a : Attempt} {book : GradeBook} {item : GradeItem}
  {score : Number.Decimal}

lemma Settles.unchanged (h : Settles ctx s a book item score false s') : s' = s := by
  cases h
  rfl

lemma post_settles (r : PostRequest) :
    (post ctx r).Ensures fun s _ s' => s' = s ∨ ∃ a book item score,
      readPositive "Attempt id" r.attempt = .ok a.id ∧
      requirePoster ctx r.poster a.classSection s = .ok () ∧
      Postable ctx s a book item score ∧ Settles ctx s a book item score true s' := by
  intro σ hσ
  have hensures : (post ctx r).Ensures _ := post_ensures r
  obtain ⟨hrivals, hdone⟩ := hensures σ hσ
  refine ⟨hrivals, ?_⟩
  rcases hpost : post ctx r σ with ⟨_ | _ | p, τ⟩
  · rw [hpost] at hdone
    exact .inl hdone
  · rw [hpost] at hdone
    exact .inl hdone
  · obtain ⟨attempt, deadline, reads, hrun, -⟩ := post_eq_some hσ hpost
    obtain ⟨a, book, item, score, rfl, postable, manages, -, hsettles⟩ := postOnce_eq_ok hrun
    cases hchanged : p.changed with
    | false =>
      exact .inl (Settles.unchanged (hchanged ▸ hsettles))
    | true => exact .inr ⟨a, book, item, score, reads.attempt, manages, postable, hchanged ▸ hsettles⟩

lemma Postable.places (h : Postable ctx s a book item score) :
    a ∈ s.attempts ∧ book ∈ s.books ∧ book.classSection = a.classSection ∧ item ∈ s.items ∧
      item.book = book.id := by
  obtain ⟨hb, section', -⟩ := existingBook_eq_ok (postableBook_eq_ok h.open').1
  obtain ⟨hi, held⟩ := postableItem_eq_ok h.placed
  exact ⟨(submittedAttempt_eq_ok h.found).1, hb, section', hi, held⟩

lemma requirePoster_eq_ok {poster : Caller} {classSection : Int}
    (h : requirePoster ctx poster classSection s = .ok ()) :
    poster.id = .null ∨ Manages ctx s poster classSection := by
  unfold requirePoster at h
  by_cases hnull : poster.id.isNull = true
  · refine .inl ?_
    cases hid : poster.id <;> simp_all [Value.isNull]
  · rw [if_pos (by simpa using hnull)] at h
    obtain ⟨manages, hmanages, h⟩ := bind_eq_ok.mp h
    cases manages with
    | true => exact .inr (canManage_eq_ok hmanages)
    | false => cases h

lemma withoutBookOf_settled (hi : Gradebook.Integrity s) (h : Postable ctx s a book item score)
    (w : Settles ctx s a book item score true s') :
    s'.withoutBookOf a.classSection = s.withoutBookOf a.classSection := by
  obtain ⟨-, hb, section', hitem, held⟩ := h.places
  cases w with
  | entered poster text actor =>
    have hkeeps := keepsPlace_touched ctx.now
    have htouched : touched ctx.now book ∈ modify book.id (touched ctx.now) s.books :=
      (mem_modify hi.books hb).mpr (.inl rfl)
    rw [← section']
    exact (withoutBookOf_withScore (hi.changeBook _ hkeeps) htouched hitem held rfl actor ctx.now).trans
      (withoutBookOf_changeBook hi hb hkeeps)

lemma post_scoped (r : PostRequest) :
    (post ctx r).Ensures fun s _ s' => Gradebook.Integrity s → Gradebook.Scoped ctx (.postScore r) s s' := by
  refine (post_settles r).mono fun s _ s' h hi => h.imp_right ?_
  rintro ⟨a, book, item, score, named, manages, postable, settles⟩
  exact ⟨_, .posting postable.places.1 rfl named (requirePoster_eq_ok manages),
    withoutBookOf_settled hi postable settles⟩

lemma shows_settled (hi : Gradebook.Integrity s) (h : Postable ctx s a book item score)
    (w : Settles ctx s a book item score true s') : Shows ctx a s s' := by
  obtain ⟨-, hb, section', hitem, held⟩ := h.places
  cases w with
  | entered poster text actor =>
    refine .entered hb section' hitem held ?_
    have hscored : Store.withoutEntries (isAt item.id a.enrollment)
        (withScore ⟨item.id, a.enrollment, some score, poster, text⟩ actor ctx.now
          { s with books := modify book.id (touched ctx.now) s.books }) = _ :=
      withoutEntries_withScore (hi.changeBook book.id (keepsPlace_touched ctx.now)) (isAt_entered _ _ _)
        fun e hei hee => by simp [isAt, hei, hee]
    exact congrArg (Store.withoutAttempt a.id) hscored

end Posts

section Submissions

variable {ctx : Context} {s t u : Store} {a : Attempt} {j : SyncJob} {attempt : Int}

lemma withoutAttempt_jobs {jobs : List SyncJob}
    (h : (jobs.filter fun j => !(j.attempt == attempt)) = s.jobs.filter fun j => !(j.attempt == attempt)) :
    ({ s with jobs } : Store).withoutAttempt attempt = s.withoutAttempt attempt :=
  congrArg (fun jobs => { s.withoutAttempt attempt with jobs }) h

lemma withoutAttempt_job (hi : QueueIntegrity s) (hj : j ∈ s.jobs) {f : SyncJob → SyncJob}
    (hf : (f j).attempt = j.attempt) :
    ({ s with jobs := modify j.id f s.jobs } : Store).withoutAttempt j.attempt =
      s.withoutAttempt j.attempt :=
  withoutAttempt_jobs (filter_not_modify hi.jobs hj (beq_self_eq_true _) (by simpa using hf))

lemma insertJob_shows {now : Time.Instant} (h : insertJob (.int attempt) now s = .ok (j, t)) :
    t.withoutAttempt attempt = s.withoutAttempt attempt := by
  simp only [insertJob, bind_eq_ok, guard_eq_ok, pure_eq_ok] at h
  obtain ⟨column, hcolumn, id, hid, -, h⟩ := h
  cases h
  rw [(requiredReference_eq_ok hid).1] at hcolumn
  obtain rfl := Value.columnOf_int hcolumn
  exact withoutAttempt_jobs (filter_not_append (by simp [SyncJob.begin]))

lemma enqueueOne_shows {found : Option SyncJob} (hi : QueueIntegrity s)
    (h : (enqueueOne ctx (.int attempt)).run s = .ok (found, t)) :
    t.withoutAttempt attempt = s.withoutAttempt attempt := by
  simp only [enqueueOne, Transaction.run_eq_ok, bind_eq_ok, lift_eq_ok] at h
  obtain ⟨d, ⟨key, hkey, hd⟩, h⟩ := h
  cases hj : jobOf? key s with
  | some x =>
    simp only [hj, pure_eq_ok] at hd
    subst hd
    simp only [Decision.apply_write, Except.ok.injEq, Prod.mk.injEq] at h
    obtain ⟨-, rfl⟩ := h
    have hfinds : key.findsWhole x.attempt = true := by simpa using List.find?_some hj
    obtain rfl : x.attempt = attempt := (Value.probe_int hkey _).mp hfinds
    exact withoutAttempt_job hi (List.mem_of_find?_eq_some hj) (Update.again : Update ctx x _).names.2
  | none =>
    simp only [hj, pure_eq_ok] at hd
    subst hd
    simp only [Decision.apply_write] at h
    cases hinsert : insertJob (.int attempt) ctx.now s with
    | error violation =>
      cases violation <;> simp only [hinsert, hj] at h
      all_goals cases h
      all_goals rfl
    | ok r =>
      simp only [hinsert, Except.ok.injEq, Prod.mk.injEq] at h
      obtain ⟨-, rfl⟩ := h
      exact insertJob_shows hinsert

lemma recordRun_shows {result : Except Fault Posted} {x : Unit} (hi : QueueIntegrity s) (hj : j ∈ s.jobs)
    (h : (recordRun ctx j.id result).run s = .ok (x, t)) :
    t.withoutAttempt j.attempt = s.withoutAttempt j.attempt := by
  have hfind : find? j.id s.jobs = some j := find?_of_mem hi.jobs hj
  cases result with
  | ok posted =>
    simp only [recordRun, hfind, Transaction.run_eq_ok, bind_eq_ok, pure_eq_ok] at h
    obtain ⟨_, ⟨_, rfl, rfl⟩, h⟩ := h
    cases h
    exact withoutAttempt_job hi hj rfl
  | error fault =>
    simp only [recordRun, hfind, Transaction.run_eq_ok, bind_eq_ok, pure_eq_ok] at h
    obtain ⟨_, ⟨j', outcome, rfl⟩, h⟩ := h
    cases h
    have hattempt : j'.attempt = j.attempt := by
      obtain ⟨_, -, ⟨-, rfl⟩ | ⟨-, -, _, _, -, -, rfl⟩⟩ := failed_eq_ok outcome <;> rfl
    exact withoutAttempt_job hi hj hattempt

lemma Shows.between {s' t' : Store} (h : Shows ctx a s t)
    (before : s.withoutAttempt a.id = s'.withoutAttempt a.id)
    (after : t'.withoutAttempt a.id = t.withoutAttempt a.id) : Shows ctx a s' t' := by
  cases h with
  | alone rest => exact .alone (after.trans (rest.trans before))
  | @entered b i book section' item held rest =>
    have hbooks : (s.withoutAttempt a.id).books = (s'.withoutAttempt a.id).books :=
      congrArg Store.books before
    have hitems : (s.withoutAttempt a.id).items = (s'.withoutAttempt a.id).items :=
      congrArg Store.items before
    replace hbooks : s.books = s'.books := hbooks
    replace hitems : s.items = s'.items := hitems
    refine .entered (hbooks ▸ book) section' (hitems ▸ item) held ?_
    rw [after, rest]
    exact congrArg (fun u : Store => ({ u with
      books := modify b.id (touched ctx.now) u.books }).withoutEntries (isAt i.id a.enrollment)) before

lemma Shows.of_place {a' : Attempt} (h : Shows ctx a s t) (number : a.id = a'.id)
    (section' : a.classSection = a'.classSection) (place : a.enrollment = a'.enrollment) :
    Shows ctx a' s t := by
  cases h with
  | alone rest => exact .alone (number ▸ rest)
  | entered book held item within rest =>
    exact .entered book (held.trans section') item within (number ▸ place ▸ rest)

/-- What posting relies on: attempts are numbered, and gradebooks and the queue hang together. -/
structure Coherent (s : Store) : Prop where
  attempts : Numbered s.attempts
  gradebooks : Gradebook.Integrity s
  queue : QueueIntegrity s

lemma post_shows (attempt : Int) :
    (post ctx ⟨.int attempt, program, .null, .null⟩).Ensures fun s _ s' => Coherent s →
      (∀ a ∈ s.attempts, a.id = attempt → Shows ctx a s s') ∧ QueueIntegrity s' ∧ s'.jobs = s.jobs := by
  refine (post_settles _).mono fun s _ t h hs => ?_
  rcases h with rfl | ⟨a', book, item, score, named, -, postable, settles⟩
  · exact ⟨fun _ _ _ => .alone rfl, hs.queue, rfl⟩
  · refine ⟨fun a ha hid => ?_, ?_⟩
    · obtain rfl : a' = a :=
        hs.attempts.eq_of_id_eq postable.places.1 ha ((readPositive_int named).trans hid.symm)
      exact shows_settled hs.gradebooks postable settles
    · cases settles
      exact ⟨{ hs.queue with }, rfl⟩

lemma pendingJob?_int {n : Int} (h : pendingJob? (.int n) s = .ok (some j)) : j.id = n := by
  by_cases storable : isStorable n = true
  · simp only [pendingJob?, Value.keyProbe_of_storable storable, bind_eq_ok, Except.ok.injEq, pure_eq_ok] at h
    obtain ⟨_, rfl, h⟩ := h
    obtain ⟨hfind, -⟩ := Option.filter_eq_some_iff.mp h
    rw [Probe.find?_whole] at hfind
    exact (mem_of_find? hfind).2
  · have hrange : (Value.int n).keyProbe "job_id" = .error .outOfRange := by
      simp only [Value.keyProbe, Value.isKey, Value.numericCell?, Value.cell?, if_neg storable]
      rfl
    simp [pendingJob?, hrange] at h

lemma recorded_shows (j : SyncJob) (result : Except Fault Posted) :
    (do
      Action.commit (recordRun ctx j.id result)
      return some result : Action (Option (Except Fault Posted))).Ensures fun s _ s' =>
        QueueIntegrity s → j ∈ s.jobs → s'.withoutAttempt j.attempt = s.withoutAttempt j.attempt :=
  .followed (W := fun s s' => QueueIntegrity s → j ∈ s.jobs →
    s'.withoutAttempt j.attempt = s.withoutAttempt j.attempt)
    (.commit (fun _ _ _ h hq hj => recordRun_shows hq hj h) fun _ _ _ _ _ => rfl) fun _ => .pure _

lemma runJob_shows (job : Value) :
    (runJob ctx job).Ensures fun s _ s' => Coherent s →
      s' = s ∨ ∃ j ∈ s.jobs, pendingJob? job s = .ok (some j) ∧
        ∀ a ∈ s.attempts, a.id = j.attempt → Shows ctx a s s' := by
  refine .read_bind (fun found => ?_) fun _ _ _ _ => .inl rfl
  cases found with
  | none => exact .pure fun _ _ _ => .inl rfl
  | some j =>
    -- What is recorded after the post is about the same attempt.
    have hafter {s t u : Store}
        (hposted : Coherent s → (∀ a ∈ s.attempts, a.id = j.attempt → Shows ctx a s t) ∧
          QueueIntegrity t ∧ t.jobs = s.jobs)
        (hrecorded : QueueIntegrity t → j ∈ t.jobs →
          u.withoutAttempt j.attempt = t.withoutAttempt j.attempt)
        (hread : (pendingJob? job s).mapError Fault.crashed = .ok (some j)) (hs : Coherent s) :
        u = s ∨ ∃ j ∈ s.jobs, pendingJob? job s = .ok (some j) ∧
          ∀ a ∈ s.attempts, a.id = j.attempt → Shows ctx a s u := by
      obtain ⟨hshows, ht, hjobs⟩ := hposted hs
      have hpending := mapError_eq_ok.mp hread
      have hj : j ∈ s.jobs := (mem_of_find? (pendingJob?_eq_ok hpending).1).1
      refine .inr ⟨j, hj, hpending, fun a ha hid => (hshows a ha hid).between rfl ?_⟩
      rw [hid]
      exact hrecorded ht (hjobs ▸ hj)
    refine .bind (.outcome (post_shows _)) (fun result => ?_) (by simp)
    rcases result with fault | _ | p
    · exact (recorded_shows j (.error fault)).mono fun t _ u hrecorded s hposted =>
        hafter hposted.choose_spec.2 hrecorded
    · exact .throw fun t s hposted => hafter hposted.choose_spec.2 fun _ _ => rfl
    · exact (recorded_shows j (.ok p)).mono fun t _ u hrecorded s hposted =>
        hafter hposted.choose_spec.2 hrecorded

lemma onSubmitted_shows {σ : Session} (hσ : σ.rivals = []) (h : Coherent σ.store)
    (ha : a ∈ σ.store.attempts) (storable : isStorable a.id = true) :
    Shows ctx a σ.store (onSubmitted ctx a.id σ).2.store := by
  obtain ⟨j, t, hrun, henqueued⟩ := enqueueOne_enqueues ctx h.queue ⟨a, ha, rfl⟩ storable
  have hqueued := enqueueOne_shows h.queue hrun
  have hframe := henqueued.writes.frame
  have ht : Coherent t := by
    refine ⟨?_, ?_, h.queue.queueing henqueued.writes⟩
    · rw [hframe]
      exact h.attempts
    · rw [hframe]
      exact { h.gradebooks with }
  have ha' : a ∈ t.attempts := by
    rw [hframe]
    exact ha
  by_cases eager : ctx.settings.eager.truthy = true
  · rw [onSubmitted_eager eager hσ hrun]
    rcases (runJob_shows (.int j.id) { σ with store := t } hσ).2 ht with hsame | ⟨x, hx, hpending, hshows⟩
    · rw [hsame]
      exact .alone hqueued
    · obtain rfl : x = j := ht.queue.jobs.eq_of_id_eq hx henqueued.mem (pendingJob?_int hpending)
      exact (hshows a ha' henqueued.named.symm).between hqueued rfl
  · unfold onSubmitted
    rw [if_neg eager, Action.bind_of_ok (enqueue_of_run hσ hrun)]
    exact .alone hqueued

lemma withoutAttempt_submitted (hn : Numbered s.attempts) (ha : a ∈ s.attempts) (b : Quiz.Breakdown)
    (late : Bool) (now : Time.Instant) :
    ({ s with
      attempts := modify a.id (submitted b late now) s.attempts
      selections := append s.selections (selectionRows a.id b.graded) } : Store).withoutAttempt a.id =
        s.withoutAttempt a.id := by
  obtain ⟨new, hnew, hof, -⟩ := append_selectionRows s.selections a.id b.graded
  have hattempts : ((modify a.id (submitted b late now) s.attempts).filter fun x => !(x.id == a.id)) =
      s.attempts.filter fun x => !(x.id == a.id) :=
    filter_not_modify hn ha (beq_self_eq_true _) (beq_self_eq_true _)
  have hselections : ((s.selections ++ new).filter fun r => !(r.attempt == a.id)) =
      s.selections.filter fun r => !(r.attempt == a.id) :=
    filter_not_append fun r hr => beq_iff_eq.mpr (hof r hr)
  unfold Store.withoutAttempt
  rw [hnew, hattempts, hselections]

/-- A submission shows in its attempt. -/
lemma submit_shows {caller : Caller} {attempt answers now timeout : Value} {r : SubmissionResult}
    (h : Coherent s) (hrecord : (record ctx caller attempt answers now timeout).run s = .ok ((a, r), t)) :
    Shows ctx a s ((Call.submitAttempt caller attempt answers now timeout).answer ctx (.ofStore s)).2.store := by
  rw [submit_of_ok hrecord]
  have hstep : Step ctx s (.call (.submitAttempt caller attempt answers now timeout)) t :=
    .attempt (record_writes hrecord)
  obtain ⟨_, _, submittedAt, ends, b, hown, -, -, -, -, -, -, -, -, ht⟩ := record_eq_ok hrecord
  have ha := (own_eq_ok hown).1
  have hrest : t.withoutAttempt a.id = s.withoutAttempt a.id :=
    ht ▸ withoutAttempt_submitted h.attempts ha b _ _
  -- What follows is done for the row that the attempt has become.
  let a' := submitted b (ends.any (· < submittedAt)) submittedAt a
  have ha' : a' ∈ t.attempts := ht ▸ (mem_modify h.attempts ha).mpr (.inl rfl)
  have storable : isStorable a'.id = true := (own_named hown).2
  have hcoherent : Coherent t :=
    ⟨ht ▸ h.attempts.modify _ fun _ => rfl, h.gradebooks.step hstep, h.queue.step hstep⟩
  let σ : Session := ⟨t, [], [submissionSignal caller a r]⟩
  have hσ : σ.rivals = [] := rfl
  have hshows : Shows ctx a' t (onSubmitted ctx a'.id σ).2.store :=
    onSubmitted_shows hσ hcoherent ha' storable
  exact (hshows.between hrest rfl).of_place rfl rfl rfl

end Submissions

end Sync

end Assessment
