import Assessment.Proofs.Sync.Acceptance
import Assessment.Proofs.Sync.Running

/-!
# Submitted scores arrive

With the standard settings a submission runs the job of its attempt at once, and the job is fresh, however
often it was queued and run before. What becomes of it is decided by the gradebook: a score that is awaited is
entered, and one that is barred waits for half a minute, with nothing written into a gradebook.
-/

namespace Assessment.Sync

open Access Attempting Number Request Table

/-- Scores are posted as soon as they are submitted, with the standard settings and the grade items that
are named for quizzes, at a time before the year 9999. -/
structure Prompt (ctx : Context) : Prop where
  eager : ctx.settings.eager.truthy = true
  lateCorrections : ctx.settings.lateCorrections = Settings.standard.lateCorrections
  maxRuns : ctx.settings.maxRuns = Settings.standard.maxRuns
  baseSeconds : ctx.settings.baseSeconds = Settings.standard.baseSeconds
  conflictRetries : ctx.settings.conflictRetries = Settings.standard.conflictRetries
  item : ctx.item? = none
  begun : 0 ≤ ctx.now.micros
  early : ctx.now < .ofDateTime ⟨9999, 1, 1⟩ 0 0 0

/-- The score of an attempt has arrived under an item, and its job is done. -/
structure Arrived (s : Store) (a : Attempt) (item : GradeItem) (j : SyncJob) : Prop where
  completed : j.status = .completed
  noError : j.errorCode = none
  noMessage : j.errorMessage = none
  entry : ∃ score e, Gradebook.scale (a.score.map Amount.toDecimal) (a.maxScore.map Amount.toDecimal)
      item.maxScore.toDecimal = .ok score ∧
    s.entryOf? item.id a.enrollment = some e ∧ Gradebook.scoreValue e.score = some score.value

/-- The gradebooks of a store are those of another one. -/
structure SameGradebooks (s t : Store) : Prop where
  books : t.books = s.books
  items : t.items = s.items
  entries : t.entries = s.entries
  approvals : t.approvals = s.approvals
  audits : t.audits = s.audits

/-- A job has been run once, to be run again in half a minute, and the gradebooks are as they were. -/
structure PutOff (ctx : Context) (s s' : Store) (r : Refusal) (j : SyncJob) : Prop where
  pending : j.status = .pending
  runs : j.runs = 1
  error : j.errorCode = some r.kind.code
  due : j.nextRunAt.micros = ctx.now.micros + 30 * Time.Duration.perSecond
  gradebooks : SameGradebooks s s'

/-- A job has taken the place of its earlier self in the queue, and no attempt has changed. -/
structure Ran (s s' : Store) (j j' : SyncJob) : Prop where
  attempts : s'.attempts = s.attempts
  named : j'.attempt = j.attempt
  jobs : s'.jobs = modify j.id (fun _ => j') s.jobs

section Standard

variable {ctx : Context} {j : SyncJob} {f : Failure}

lemma Prompt.late (h : Prompt ctx) : ctx.settings.lateCorrections.truthy = false := by
  rw [h.lateCorrections]
  rfl

lemma Prompt.regular (h : Prompt ctx) : Regular ctx :=
  ⟨h.maxRuns, h.baseSeconds, h.conflictRetries, h.begun, h.early⟩

lemma Prompt.failed (h : Prompt ctx) (runs : j.runs = 0) (passing : f.kind ∉ permanentKinds) :
    ∃ j', Sync.failed ctx f j = .ok j' ∧ j'.attempt = j.attempt ∧ j'.status = j.status ∧ j'.runs = 1 ∧
      j'.errorCode = some f.kind.code ∧
      j'.nextRunAt.micros = ctx.now.micros + 30 * Time.Duration.perSecond := by
  obtain ⟨j', outcome⟩ := h.regular.failed_isOk f j
  obtain ⟨maxRuns, hmax, ⟨hends, -⟩ | ⟨-, -, base, due, hbase, hdue, rfl⟩⟩ := failed_eq_ok outcome
  · obtain rfl : 5 = maxRuns := Except.ok.inj (h.regular.readMaxRuns.symm.trans hmax)
    have hspent := hends.resolve_left passing
    omega
  · obtain rfl : 30 = base := Except.ok.inj (h.regular.readBaseSeconds.symm.trans hbase)
    refine ⟨_, outcome, rfl, rfl, by simp [failedOnce, runs], rfl, ?_⟩
    simpa [runs] using hdue

end Standard

/-- What is kept of the tables that scores are posted from and to, as long as the number of further tries can
be read. -/
structure Ready (s : Store) : Prop where
  quizzes : Quiz.Integrity s
  points : ∀ k ∈ s.questions, k.points.toDecimal.Pointed
  attempts : Attempting.Integrity s
  located : AllLocated s
  gradebooks : Gradebook.Integrity s
  scores : Gradebook.Kept s
  queue : QueueIntegrity s
  limits : QueueLimits s
  unrun : Unrun s

section Submissions

variable {P : Context → Service → Prop} {ctx : Context} {s s' t : Store} {op : Service} {a : Attempt}
  {book : GradeBook} {item : GradeItem} {j : SyncJob} {σ : Session} {refusal : Refusal}

lemma ready_ofSchool (users : List User) (classSections : List ClassSection)
    (enrollments : List Enrollment) : Ready (.ofSchool users classSections enrollments) where
  quizzes := Quiz.integrity_ofSchool ..
  points := List.forall_mem_nil _
  attempts := Attempting.integrity_ofSchool ..
  located := ⟨List.forall_mem_nil _, List.forall_mem_nil _⟩
  gradebooks := Gradebook.integrity_ofSchool ..
  scores := ⟨List.forall_mem_nil _, .nil, .nil, List.forall_mem_nil _⟩
  queue := ⟨.nil, .nil, .nil⟩
  limits := ⟨List.forall_mem_nil _, List.forall_mem_nil _⟩
  unrun := List.forall_mem_nil _

lemma Ready.step (h : Ready s) (retries : ∃ n, readSetting ctx.settings.conflictRetries = .ok n)
    (w : Step ctx s op s') : Ready s' where
  quizzes := h.quizzes.step w
  points := Quiz.pointed_of_step h.points w
  attempts := h.attempts.step h.quizzes w
  located := h.located.step w
  gradebooks := h.gradebooks.step w
  scores := h.scores.step h.gradebooks w
  queue := h.queue.step w
  limits := h.limits.step h.queue w
  unrun := h.unrun.step h.queue h.attempts.attempts h.limits retries w

lemma ready_of_reachable (h : Reachable P s)
    (retries : ∀ ctx op, P ctx op → ∃ n, readSetting ctx.settings.conflictRetries = .ok n) : Ready s :=
  h.invariant ready_ofSchool fun ctx op _ _ hop hs w => hs.step (retries ctx op hop) w

lemma Awaited.congr (h : Awaited s a book item) (same : SameGradebooks s t) : Awaited t a book item := by
  refine ⟨?_, h.editable, ?_, h.storable, h.small⟩
  · rw [Store.bookOf?, same.books]
    exact h.found
  · rw [namedTarget?, itemNamed?, itemNamed?, same.items]
    exact h.named

lemma Barred.congr (h : Barred s a refusal) (same : SameGradebooks s t) : Barred t a refusal := by
  have hbook : t.bookOf? a.classSection = s.bookOf? a.classSection := by
    rw [Store.bookOf?, same.books]
    rfl
  cases h with
  | missing absent => exact .missing (hbook.trans absent)
  | closed found closed => exact .closed (hbook.trans found) closed
  | unmapped found admits unnamed =>
    refine .unmapped (hbook.trans found) admits ?_
    rw [namedTarget?, itemNamed?, itemNamed?, same.items]
    exact unnamed

lemma Barred.passing (h : Barred s a refusal) : refusal.failure.kind ∉ permanentKinds := by
  cases h with
  | missing | unmapped => decide
  | @closed _ bar =>
    change FailureKind.invalidState ∉ permanentKinds
    decide

lemma submittedAttempt_of_mem (hn : Numbered s.attempts) (ha : a ∈ s.attempts) (done : a.status = .submitted)
    (storable : isStorable a.id = true) : submittedAttempt a.id s = .ok a := by
  have hfind : find? a.id s.attempts = some a := find?_of_mem hn ha
  simp [submittedAttempt, readRow?, storable, hfind, done]

/-- A score can be projected onto the scale of every item whose maximum has at most four digits before the
point. -/
def Projectable (a : Attempt) : Prop :=
  ∀ n : Nat, n ≤ 999999 → ∃ score, Gradebook.scale (a.score.map Amount.toDecimal)
    (a.maxScore.map Amount.toDecimal) (.finite false n (-2)) = .ok score

lemma Ready.submission (h : Ready s) {caller : Caller} {attempt answers now timeout : Value}
    {r : SubmissionResult}
    (recorded : (record ctx caller attempt answers now timeout).run s = .ok ((a, r), t)) :
    ∃ x ∈ t.attempts, x.id = a.id ∧ x.status = .submitted ∧ Projectable x ∧
      ∀ j ∈ t.jobs, j.attempt = a.id → j.status = .pending → j.runs = 0 := by
  obtain ⟨q, selections, submittedAt, ends, b, found, running, given, -, -, -, graded, hstorable, -, rfl⟩ :=
    record_eq_ok recorded
  have ha := (own_eq_ok found).1
  refine ⟨_, (mem_modify h.attempts.attempts ha).mpr (.inl rfl), rfl, rfl, fun n hn => ?_, ?_⟩
  · have hfits := Quiz.grade_fits (Quiz.readSelections_nodup given) graded
    refine hfits.scales (fun k hk => ?_) hstorable hn
    obtain ⟨x, hx, rfl⟩ := List.mem_map.mp hk
    exact h.points x (Quiz.mem_questionsOf.mp hx).1
  · exact fun j hj named pending => h.unrun j hj a ha named.symm running pending

/-- What a submission has done before the job of its attempt is run: the attempt is submitted, and its job is
fresh. -/
structure HandedOver (s : Store) (a : Attempt) (j : SyncJob) (σ : Session) : Prop where
  ready : Ready σ.store
  rivals : σ.rivals = []
  gradebooks : SameGradebooks s σ.store
  mem : a ∈ σ.store.attempts
  done : a.status = .submitted
  projectable : Projectable a
  queued : j ∈ σ.store.jobs
  named : j.attempt = a.id
  pending : j.status = .pending
  fresh : j.runs = 0

lemma HandedOver.submitted (h : HandedOver s a j σ) : submittedAttempt a.id σ.store = .ok a :=
  submittedAttempt_of_mem h.ready.attempts.attempts h.mem h.done (h.ready.attempts.storable a h.mem h.done)

lemma HandedOver.reads (h : HandedOver s a j σ) (prompt : Prompt ctx) :
    Reads ctx ⟨.int j.attempt, program, .null, .null⟩ a.id none :=
  h.named ▸ prompt.regular.reads (h.named ▸ h.ready.attempts.attempts.positive a h.mem)

lemma HandedOver.runJob (h : HandedOver s a j σ) {r : Except Fault Posted} {j' : SyncJob}
    (posts : post ctx ⟨.int j.attempt, program, .null, .null⟩ σ = (r.map some, { σ with store := t }))
    (queue : t.jobs = σ.store.jobs) (ended : Ended ctx j r j') :
    (Sync.runJob ctx (.int j.id) σ).2.store = { t with jobs := modify j.id (fun _ => j') t.jobs } :=
  congrArg (·.2.store) (runJob_of_post h.rivals h.ready.queue.jobs h.queued h.pending
    (h.ready.limits.storable h.ready.queue h.ready.attempts.attempts h.queued) posts queue ended)

/-- A job whose score is awaited is completed by its run, and the score is entered. -/
lemma HandedOver.delivers (h : HandedOver s a j σ) (prompt : Prompt ctx) (awaited : Awaited s a book item) :
    let t := (Sync.runJob ctx (.int j.id) σ).2.store
    Ran σ.store t j (succeeded ctx.now j) ∧ Arrived t a item (succeeded ctx.now j) := by
  intro t
  have awaited := awaited.congr h.gradebooks
  have located := h.ready.located.attempts a h.mem
  have hmem := (namedTarget?_eq_some awaited.named).1
  obtain ⟨n, -, hmax⟩ := (h.ready.scores.items item hmem).1.maxScore
  have hn : n ≤ 999999 := Gradebook.hundredths_le_of_value (hmax ▸ awaited.small)
  obtain ⟨score, hscore⟩ := h.projectable n hn
  rw [← hmax] at hscore
  have within : Gradebook.Within n score := (Gradebook.scale_between (hmax ▸ hscore)).2
  have postable := awaited.postable prompt.item h.submitted located h.ready.gradebooks.items hscore
  have compared := changes_of_small h.ready.scores h.ready.gradebooks hmem (by omega) hmax within
    a.enrollment program.id Gradebook.syncReason
  obtain ⟨changed, u, hposts, settles⟩ := postOnce_settles postable located awaited.storable compared
  obtain ⟨confined, -, e, he, -, hvalue⟩ :=
    settles.settled postable h.ready.scores h.ready.gradebooks (by omega) within
  have hframe := confined.tables
  have hjobs : u.jobs = σ.store.jobs := by rw [hframe]
  have hrun : t = { u with jobs := modify j.id (fun _ => succeeded ctx.now j) u.jobs } :=
    h.runJob (r := .ok _) (post_of_ok (h.reads prompt) h.rivals hposts) hjobs (.success _)
  rw [hrun]
  refine ⟨⟨?_, rfl, ?_⟩, rfl, rfl, rfl, score, e, hscore, he, hvalue⟩
  · change u.attempts = σ.store.attempts
    rw [hframe]
  · rw [← hjobs]

/-- A job whose score is barred waits after its run. -/
lemma HandedOver.putsOff (h : HandedOver s a j σ) (prompt : Prompt ctx) (barred : Barred s a refusal) :
    let t := (Sync.runJob ctx (.int j.id) σ).2.store
    ∃ j', Ran σ.store t j j' ∧ PutOff ctx s t refusal j' := by
  intro t
  have hrefuses := (barred.congr h.gradebooks).refuses prompt.item prompt.late h.submitted
    (h.ready.located.attempts a h.mem).classSection .null none
  obtain ⟨j', hfailed, hattempt, hstatus, honce, hcode, hdue⟩ := prompt.failed h.fresh barred.passing
  have hrun : t = { σ.store with jobs := modify j.id (fun _ => j') σ.store.jobs } :=
    h.runJob (r := .error _) (post_of_error (h.reads prompt) h.rivals hrefuses) rfl (.failure hfailed)
  rw [hrun]
  exact ⟨j', ⟨rfl, hattempt, rfl⟩, hstatus.trans h.pending, honce, hcode, hdue, { h.gradebooks with }⟩

lemma Ran.only {j' i : SyncJob} (ran : Ran s s' j j') (hs : QueueIntegrity s) (hs' : QueueIntegrity s')
    (hj : j ∈ s.jobs) (hi : i ∈ s'.jobs) (named : i.attempt = j.attempt) : i = j' := by
  have hmem : j' ∈ s'.jobs := ran.jobs ▸ (mem_modify hs.jobs hj).mpr (.inl rfl)
  have hfound : j' ∈ s'.jobs.filter (·.attempt == i.attempt) :=
    List.mem_filter.mpr ⟨hmem, beq_iff_eq.mpr (ran.named.trans named.symm)⟩
  rw [hs'.only hi] at hfound
  exact (List.mem_singleton.mp hfound).symm

lemma Ready.handsOver (h : Ready s) (prompt : Prompt ctx) {caller : Caller}
    {attempt answers now timeout data : Value} {u : Session}
    (answered : (Call.submitAttempt caller attempt answers now timeout).answer ctx (.ofStore s) =
      (some (.success data), u)) :
    ∃ a j σ, HandedOver s a j σ ∧ readPositive "Attempt id" attempt = .ok a.id ∧
      u = (runJob ctx (.int j.id) σ).2 := by
  have retries : ∃ n, readSetting ctx.settings.conflictRetries = .ok n :=
    ⟨2, by rw [prompt.conflictRetries]; rfl⟩
  rcases hrecord : (record ctx caller attempt answers now timeout).run s with fault | ⟨⟨a, r⟩, t⟩
  · rw [submit_of_error hrecord] at answered
    cases answered
  rw [submit_of_ok hrecord] at answered
  obtain rfl := (Prod.mk.inj answered).2
  obtain ⟨_, _, _, _, _, found, -, -, -, -, -, -, -, -, hframe⟩ := record_eq_ok hrecord
  obtain ⟨hnamed, hstorable⟩ := own_named found
  obtain ⟨x, hx, hid, done, projectable, fresh⟩ := h.submission hrecord
  have ht : Ready t := h.step retries (.attempt (record_writes hrecord))
  obtain ⟨j, v, hqueued, enqueued⟩ := enqueueOne_enqueues ctx ht.queue ⟨x, hx, hid⟩ hstorable
  have hqueues : Step ctx t (.enqueue .null) v := .queueing rfl enqueued.writes
  have hv : v = { t with jobs := v.jobs } := enqueued.writes.frame
  have same : SameGradebooks s v := by
    rw [hv, hframe]
    exact ⟨rfl, rfl, rfl, rfl, rfl⟩
  have hxv : x ∈ v.attempts := by
    rw [hv]
    exact hx
  refine ⟨x, j, ⟨v, [], [submissionSignal caller a r]⟩, ?_, hid ▸ hnamed,
    onSubmitted_eager prompt.eager rfl hqueued⟩
  exact ⟨ht.step retries hqueues, rfl, same, hxv, done, projectable, enqueued.mem,
    enqueued.named.trans hid.symm, enqueued.pending, enqueued.runs fresh⟩

lemma Ready.submitted_arrives (h : Ready s) (prompt : Prompt ctx) {caller : Caller}
    {attempt answers now timeout data : Value} {u : Session}
    (answered : (Call.submitAttempt caller attempt answers now timeout).answer ctx (.ofStore s) =
      (some (.success data), u)) :
    ∃ a ∈ u.store.attempts, readPositive "Attempt id" attempt = .ok a.id ∧ a.status = .submitted ∧
      ∃ j, u.store.jobs.filter (·.attempt == a.id) = [j] ∧
        (∀ book item, Awaited s a book item → Arrived u.store a item j) ∧
        ∀ r, Barred s a r → PutOff ctx s u.store r j := by
  obtain ⟨a, j, σ, handedOver, hnamed, rfl⟩ := h.handsOver prompt answered
  have hσ := handedOver.ready.queue
  obtain ⟨hqueue, hattempts, hjobs⟩ := jobs_of_workings hσ (runJob_takes (.int j.id) σ handedOver.rivals).2
  -- The attempt still has one job, so that is what the job has come to.
  obtain ⟨i, hi, named⟩ := hjobs a.id ⟨j, handedOver.queued, handedOver.named⟩
  have only {j' : SyncJob} (ran : Ran σ.store (runJob ctx (.int j.id) σ).2.store j j') : i = j' :=
    ran.only hσ hqueue handedOver.queued hi (named.trans handedOver.named.symm)
  refine ⟨a, hattempts ▸ handedOver.mem, hnamed, handedOver.done, i, named ▸ hqueue.only hi,
    fun book item awaited => ?_, fun refusal barred => ?_⟩
  · obtain ⟨ran, arrived⟩ := handedOver.delivers prompt awaited
    exact only ran ▸ arrived
  · obtain ⟨j', ran, putOff⟩ := handedOver.putsOff prompt barred
    exact only ran ▸ putOff

/-- Whatever the settings are, every submitted attempt has exactly one job in every store that can be reached.
Moreover, if the number of further tries was always one that can be read, then with the standard settings and
before the year 9999 a submission that succeeds has run the job of its attempt: if the section has a book that
is edited still, with an item for the quiz of at most 9999.99, whose number a table can hold, the job is
completed and the entry of the attempt's enrollment has its score on the scale of the item; if there is no
book, or no such item in a book that takes scores, or if the book takes none, the job has the code of that
refusal and is due again in half a minute, and the gradebooks are as they were. -/
theorem submitted_scores_arrive (h : Reachable P s) :
    (∀ a ∈ s.attempts, a.status = .submitted → ∃ j, s.jobs.filter (·.attempt == a.id) = [j]) ∧
      ((∀ ctx op, P ctx op → ∃ n, readSetting ctx.settings.conflictRetries = .ok n) →
        ∀ (ctx : Context) (caller : Caller) (attempt answers now timeout data : Value) (u : Session),
          Prompt ctx →
          (Call.submitAttempt caller attempt answers now timeout).answer ctx (.ofStore s) =
            (some (.success data), u) →
          ∃ a ∈ u.store.attempts, readPositive "Attempt id" attempt = .ok a.id ∧ a.status = .submitted ∧
            ∃ j, u.store.jobs.filter (·.attempt == a.id) = [j] ∧
              (∀ book item, Awaited s a book item → Arrived u.store a item j) ∧
              ∀ r, Barred s a r → PutOff ctx s u.store r j) := by
  refine ⟨fun a ha done => ?_, fun retries ctx caller attempt answers now timeout data u prompt answered =>
    (ready_of_reachable h retries).submitted_arrives prompt answered⟩
  obtain ⟨j, hj, hnamed⟩ := allQueued_of_reachable h a ha done
  exact ⟨j, hnamed ▸ (queueIntegrity_of_reachable h).only hj⟩

end Submissions

/-- The store after the job of an attempt in progress is run too early and given up, in a section with an item
for the quiz. -/
def givenUpEarly : Store :=
  (Scenario.State.start .standard).context.serve [.enqueue (.int 2), .runJob (.int 2)]
    Gradebook.enteredAndPosted

/-- The same submission completes a job that was given up where a score is awaited, and puts off a new one
where there is no gradebook yet. -/
theorem submitted_scores_arrive_of_given_up :
    let ctx := (Scenario.State.start .standard).context
    let c : Call := .submitAttempt ⟨.int 5, "STUDENT"⟩ (.int 2) (.list []) .null .null
    (∃ j ∈ givenUpEarly.jobs, j.attempt = 2 ∧ j.status = .failed ∧ ∃ data u,
        c.answer ctx (.ofStore givenUpEarly) = (some (.success data), u) ∧
        ∃ a ∈ u.store.attempts, a.id = 2 ∧ ∃ j item, u.store.jobs.filter (·.attempt == a.id) = [j] ∧
          item.name = "quiz:1" ∧ Arrived u.store a item j) ∧
      Attempting.begunAndSubmitted.books = [] ∧ ∃ data u,
        c.answer ctx (.ofStore Attempting.begunAndSubmitted) = (some (.success data), u) ∧
        ∃ a ∈ u.store.attempts, a.id = 2 ∧ ∃ j, u.store.jobs.filter (·.attempt == a.id) = [j] ∧
          PutOff ctx Attempting.begunAndSubmitted u.store .gradebookMissing j := by
  intro ctx c
  let P : Context → Service → Prop := fun ctx _ => ctx.settings.conflictRetries = .int 2
  have hbegun : Reachable P Attempting.begunAndSubmitted := .serve (fun _ _ => rfl) _ _ _
  have hposted : Reachable P Gradebook.enteredAndPosted := hbegun.run (.serve fun _ _ => rfl)
  have hgivenUp : Reachable P givenUpEarly := hposted.run (.serve fun _ _ => rfl)
  have retries : ∀ ctx op, P ctx op → ∃ n, readSetting ctx.settings.conflictRetries = .ok n :=
    fun _ _ h => ⟨2, by rw [h]; rfl⟩
  have prompt : Prompt ctx := ⟨rfl, rfl, rfl, rfl, rfl, rfl, by decide, by decide⟩
  have answered {s : Store} (h : (c.answer ctx (.ofStore s)).1.any Outcome.isSuccess = true) :
      ∃ data u, c.answer ctx (.ofStore s) = (some (.success data), u) := by
    rcases hc : c.answer ctx (.ofStore s) with ⟨_ | (data | _), u⟩ <;> rw [hc] at h
    · cases h
    · exact ⟨data, u, rfl⟩
    · cases h
  constructor
  · have hearly : ∃ j ∈ givenUpEarly.jobs, j.attempt = 2 ∧ j.status = .failed := by decide +kernel
    have hbook : ∃ b ∈ givenUpEarly.bookOf? 1, b.status.isEditable = true ∧
        ∃ i ∈ namedTarget? givenUpEarly b.id (.int 1), isStorable i.id = true ∧ i.name = "quiz:1" ∧
          i.maxScore.toDecimal = .finite false 2000 (-2) := by decide +kernel
    have hplaces : ∀ a ∈ (c.answer ctx (.ofStore givenUpEarly)).2.store.attempts,
        a.classSection = 1 ∧ a.quiz = 1 := by decide +kernel
    obtain ⟨data, u, hu⟩ := answered (s := givenUpEarly) (by decide +kernel)
    obtain ⟨j₀, hj₀, hattempt, hfailed⟩ := hearly
    obtain ⟨book, found, editable, item, named, storable, hname, hmax⟩ := hbook
    obtain ⟨a, ha, hid, -, j, hj, arrives, -⟩ :=
      (submitted_scores_arrive hgivenUp).2 retries _ _ _ _ _ _ _ _ prompt hu
    rw [hu] at hplaces
    obtain ⟨hsection, hquiz⟩ := hplaces a ha
    have small : item.maxScore.toDecimal.value ≤ 9999.99 := by
      rw [hmax, Decimal.value_finite, Decimal.magnitude_hundredths]
      norm_num
    have awaited : Awaited givenUpEarly a book item :=
      ⟨hsection ▸ found, editable, hquiz ▸ named, storable, small⟩
    exact ⟨j₀, hj₀, hattempt, hfailed, data, u, hu, a, ha, readPositive_int hid, j, item, hj, hname,
      arrives book item awaited⟩
  · obtain ⟨data, u, hu⟩ := answered (s := Attempting.begunAndSubmitted) (by decide +kernel)
    obtain ⟨a, ha, hid, -, j, hj, -, putsOff⟩ :=
      (submitted_scores_arrive hbegun).2 retries _ _ _ _ _ _ _ _ prompt hu
    have hnone : Attempting.begunAndSubmitted.books = [] := by decide +kernel
    have barred : Barred Attempting.begunAndSubmitted a .gradebookMissing := .missing <| by
      rw [Store.bookOf?, hnone]
      rfl
    exact ⟨hnone, data, u, hu, a, ha, readPositive_int hid, j, hj, putsOff _ barred⟩

end Assessment.Sync
