import Assessment.Proofs.Gradebook.Scores
import Assessment.Scenario.State

/-!
# The log replays to the gradebook

The rows of the log for an entry lead from no score at all to the score that the entry has, each from
where the last one left off, and none of them is ever changed or removed.
-/

namespace Assessment

/-- The rows of the log for an entry, by number. -/
def Store.logOf (s : Store) (entry : Int) : List AuditRow := s.audits.filter (·.entry == entry)

namespace Gradebook

open Number Table

/-- A log leads to an entry as it is. -/
structure Replays (e : GradeEntry) (log : List AuditRow) : Prop where
  ascending : log.Pairwise fun a b => a.id < b.id
  first : ∃ r, log.head? = some r ∧ r.oldScore = none
  chained : log.IsChain fun a b => b.oldScore = a.newScore
  differing : ∀ r ∈ log, scoreValue r.oldScore ≠ scoreValue r.newScore
  last : ∃ r, log.getLast? = some r ∧ r.newScore = e.score ∧ r.actor = e.updatedBy ∧
    r.createdAt = e.updatedAt

/-- One row more leads from the score of an entry to another one. -/
structure Continues (e e' : GradeEntry) (r : AuditRow) : Prop where
  old : r.oldScore = e.score
  new : r.newScore = e'.score
  actor : r.actor = e'.updatedBy
  time : r.createdAt = e'.updatedAt
  differs : scoreValue r.oldScore ≠ scoreValue r.newScore

lemma Replays.singleton {e : GradeEntry} {r : AuditRow} (old : r.oldScore = none)
    (new : r.newScore = e.score) (actor : r.actor = e.updatedBy) (time : r.createdAt = e.updatedAt)
    (differs : scoreValue r.oldScore ≠ scoreValue r.newScore) : Replays e [r] where
  ascending := List.pairwise_singleton ..
  first := ⟨r, rfl, old⟩
  chained := .singleton r
  differing x hx := by rwa [List.mem_singleton.mp hx]
  last := ⟨r, rfl, new, actor, time⟩

lemma Replays.concat {e e' : GradeEntry} {log : List AuditRow} (h : Replays e log) {r : AuditRow}
    (larger : ∀ x ∈ log, x.id < r.id) (c : Continues e e' r) : Replays e' (log ++ [r]) where
  ascending := by
    refine List.pairwise_append.mpr ⟨h.ascending, List.pairwise_singleton .., fun x hx y hy => ?_⟩
    rw [List.mem_singleton.mp hy]
    exact larger x hx
  first := by
    obtain ⟨f, hf, hold⟩ := h.first
    exact ⟨f, by rw [List.head?_append, hf, Option.some_or], hold⟩
  chained := by
    refine List.isChain_append.mpr ⟨h.chained, .singleton r, fun x hx y hy => ?_⟩
    obtain ⟨l, hl, hnew, -⟩ := h.last
    obtain rfl : l = x := Option.some.inj (hl.symm.trans hx)
    obtain rfl : r = y := Option.some.inj hy
    exact c.old.trans hnew.symm
  differing x hx := by
    rcases List.mem_append.mp hx with hx | hx
    · exact h.differing x hx
    · rw [List.mem_singleton.mp hx]
      exact c.differs
  last := ⟨r, List.getLast?_concat, c.new, c.actor, c.time⟩

/-- Every entry has a score that can be read and a log that leads to it. -/
structure Logged (s : Store) : Prop where
  readable : ∀ e ∈ s.entries, Readable e.score
  replays : ∀ e ∈ s.entries, Replays e (s.logOf e.id)

section Scores

variable {s : Store} {c : ScoreChange} {now : Time.Instant}

/-- The number of the entry that a score is entered in. -/
def entryNumber (c : ScoreChange) (s : Store) : Int :=
  ((s.entryOf? c.item c.enrollment).map (·.id)).getD (nextId s.entries)

lemma entryNumber_of_none (h : s.entryOf? c.item c.enrollment = none) :
    entryNumber c s = nextId s.entries := by simp [entryNumber, h]

lemma entryNumber_of_some {e : GradeEntry} (h : s.entryOf? c.item c.enrollment = some e) :
    entryNumber c s = e.id := by simp [entryNumber, h]

/-- The row of the log for a score that is entered. -/
def scoreRow (c : ScoreChange) (actor : Option Int) (now : Time.Instant) (s : Store) : AuditRow :=
  ⟨nextId s.audits, entryNumber c s, actor, (s.entryOf? c.item c.enrollment).bind (·.score),
    c.score.bind Amount.ofDecimal?, c.reason, now⟩

lemma audits_withScore_eq (c : ScoreChange) (actor : Option Int) (s : Store) :
    (withScore c actor now s).audits = s.audits ++ [scoreRow c actor now s] := by
  cases h : s.entryOf? c.item c.enrollment <;> simp [withScore, enter, scoreRow, entryNumber, h]

lemma logOf_withScore (c : ScoreChange) (actor : Option Int) (s : Store) (entry : Int) :
    (withScore c actor now s).logOf entry =
      if entryNumber c s = entry then s.logOf entry ++ [scoreRow c actor now s]
      else s.logOf entry := by
  rw [Store.logOf, audits_withScore_eq, List.filter_append]
  by_cases h : entryNumber c s = entry <;> simp [h, Store.logOf, scoreRow]

lemma mem_entries_withScore (hi : Integrity s) {actor : Option Int} {x : GradeEntry}
    (hx : x ∈ (withScore c actor now s).entries) :
    x ∈ s.entries ∧ x.id ≠ entryNumber c s ∨
      x.id = entryNumber c s ∧ x.score = c.score.bind Amount.ofDecimal? ∧ x.updatedBy = actor ∧
        x.updatedAt = now ∧ x.item = c.item ∧ x.enrollment = c.enrollment := by
  cases h : s.entryOf? c.item c.enrollment with
  | none =>
    rw [entries_withScore_of_none h] at hx
    rw [entryNumber_of_none h]
    rcases List.mem_append.mp hx with hx | hx
    · have hlt : x.id < nextId s.entries := lt_nextId hx
      exact .inl ⟨hx, by omega⟩
    · rw [List.mem_singleton.mp hx]
      exact .inr ⟨rfl, rfl, rfl, rfl, rfl, rfl⟩
  | some e =>
    obtain ⟨he, hitem, henrollment⟩ := entryOf?_eq_some h
    rw [entries_withScore_of_some h] at hx
    rw [entryNumber_of_some h]
    rcases (mem_modify hi.entries he).mp hx with rfl | ⟨hx, hne⟩
    · exact .inr ⟨rfl, rfl, rfl, rfl, hitem, henrollment⟩
    · exact .inl ⟨hx, hne⟩

lemma Entering.stored (h : Logged s) (w : Entering s c) :
    Readable (c.score.bind Amount.ofDecimal?) ∧
      scoreValue ((s.entryOf? c.item c.enrollment).bind (·.score)) ≠
        scoreValue (c.score.bind Amount.ofDecimal?) := by
  obtain ⟨hread, hvalue⟩ := stored_score (by norm_num) w.within
  refine ⟨hread, ?_⟩
  rw [hvalue]
  exact value_ne_of_changes (fun e he => h.readable e (entryOf?_eq_some he).1) w.within w.differs

lemma Logged.withScore (h : Logged s) (hi : Integrity s) (w : Entering s c) (actor : Option Int) :
    Logged (withScore c actor now s) := by
  obtain ⟨hread, hdiffers⟩ := w.stored h
  constructor
  · intro x hx
    rcases mem_entries_withScore hi hx with ⟨hx, -⟩ | ⟨-, hscore, -⟩
    · exact h.readable x hx
    · rwa [hscore]
  · intro x hx
    rw [logOf_withScore]
    rcases mem_entries_withScore hi hx with ⟨hx, hne⟩ | ⟨hid, hscore, hactor, htime, -⟩
    · rw [if_neg (Ne.symm hne)]
      exact h.replays x hx
    · rw [if_pos hid.symm, hid]
      -- The entry is either a new one, which has no log yet, or continues its log.
      cases he : s.entryOf? c.item c.enrollment with
      | none =>
        have hnone : s.logOf (nextId s.entries) = [] :=
          List.filter_eq_nil_iff.mpr fun a ha => by simpa using hi.auditEntry.ne_nextId ha
        rw [entryNumber_of_none he, hnone, List.nil_append]
        exact .singleton (by simp [scoreRow, he]) hscore.symm hactor.symm htime.symm hdiffers
      | some e =>
        rw [entryNumber_of_some he]
        refine (h.replays e (entryOf?_eq_some he).1).concat (fun a ha => ?_) ?_
        · exact lt_nextId (List.mem_filter.mp ha).1
        · exact ⟨by simp [scoreRow, he], hscore.symm, hactor.symm, htime.symm, hdiffers⟩

end Scores

section Steps

variable {ctx : Context} {s s' : Store} {op : Service}

lemma Logged.congr (h : Logged s) (entries : s'.entries = s.entries) (audits : s'.audits = s.audits) :
    Logged s' := by
  refine ⟨fun e he => h.readable e (entries ▸ he), fun e he => ?_⟩
  have hlog : s'.logOf e.id = s.logOf e.id := by rw [Store.logOf, audits, Store.logOf]
  exact hlog ▸ h.replays e (entries ▸ he)

lemma Logged.step (h : Logged s) (hi : Integrity s) (hr : InRange s) (hp : PositiveMaxima s)
    (w : Step ctx s op s') : Logged s' := by
  cases w with
  | quiz w | attempt w | queueing _ w | opening _ w =>
    rw [w.frame]
    exact h.congr rfl rfl
  | book w =>
    cases w with
    | item | request | decide => exact h.congr rfl rfl
    | batch _ _ _ _ checked _ differing _ entered =>
      have hentered := applyBatch_entering hi entered (apart_of_batch checked differing)
        (entering_of_batch hr hp checked differing) h
        fun t c actor hi ht w => ht.withScore hi w actor
      exact hentered.congr rfl rfl
  | posting _ w =>
    cases w with
    | post _ _ _ _ placed scaled differs =>
      have hw := entering_of_post hr hp (Sync.postableItem_eq_ok placed).1 scaled differs
      refine Logged.withScore ?_ (hi.changeBook _ (keepsPlace_touched _)) { hw with } _
      exact h.congr rfl rfl

/-- The log only grows. -/
lemma audits_of_step (w : Step ctx s op s') : s.audits <+: s'.audits := by
  cases w with
  | quiz w | attempt w | queueing _ w | opening _ w =>
    rw [w.frame]
  | book w =>
    cases w with
    | item | request | decide => exact List.prefix_rfl
    | batch _ _ _ _ _ _ _ _ entered =>
      have hentered := applyBatch_induction (P := fun t => s.audits <+: t.audits) entered
        List.prefix_rfl fun t ht c _ actor _ => by
          rw [audits_withScore_eq]
          exact ht.trans (List.prefix_append ..)
      exact hentered
  | posting _ w =>
    cases w with
    | post =>
      rw [audits_withScore_eq]
      exact List.prefix_append ..

end Steps

section Operations

variable {P : Context → Service → Prop} {s : Store}

lemma logged_ofSchool (users : List User) (classSections : List ClassSection)
    (enrollments : List Enrollment) : Logged (.ofSchool users classSections enrollments) :=
  ⟨List.forall_mem_nil _, List.forall_mem_nil _⟩

lemma logged_of_reachable (h : Reachable P s) (hr : InRange s) : Logged s := by
  have hboth : PositiveMaxima s ∧ (InRange s → Logged s) := by
    refine integrity_invariant (I := fun s => PositiveMaxima s ∧ (InRange s → Logged s)) h
      (fun _ _ _ => ⟨List.forall_mem_nil _, fun _ => logged_ofSchool _ _ _⟩) ?_
    rintro ctx op t t' - hi ⟨hp, ht⟩ w
    -- Items stay as they are, so the maxima were in range before the step.
    exact ⟨hp.step w, fun hr' => (ht (hr'.before w)).step hi (hr'.before w) hp w⟩
  exact hboth.2 hr

/-- In every store that can be reached and whose items have maxima of at most 9999.99, the log of each
entry, in order, starts from no score, passes from one score on to the next with a change of the value in
every row, and ends in the score of the entry, set by whom and when the entry says. No run changes or
removes a row of the log. -/
theorem log_replays (h : Reachable P s) :
    ((∀ i ∈ s.items, i.maxScore.toDecimal.value ≤ 9999.99) →
      ∀ e ∈ s.entries, Replays e (s.logOf e.id)) ∧
    ∀ t, Run P s t → s.audits <+: t.audits := by
  refine ⟨fun hr e he => (logged_of_reachable h hr).replays e he, fun t ht => ?_⟩
  exact ht.invariant (I := fun t => s.audits <+: t.audits) List.prefix_rfl
    fun _ _ _ _ _ hu w => hu.trans (audits_of_step w)

end Operations

/-- The store after a score of an item is entered, cleared, and entered again. -/
def clearedAndReentered : Store :=
  let start := Scenario.State.start .standard
  let teacher : Access.Caller := ⟨.int 1, "TEACHER"⟩
  let enter (score : Value) : Service := .call (.upsertScores teacher ⟨.int 1,
    .list [.object [("grade_item_id", .int 1), ("enrollment_id", .int 1), ("score", score)]], .null⟩)
  start.context.serve
    [.call (.addItem teacher ⟨.int 1, .text "Midterm", .int 10, .null, .bool true, .null, .null⟩),
      enter (.int 7), enter .null, enter (.text "8.505")] start.store

theorem log_replays_of_reentered :
    ∃ e ∈ clearedAndReentered.entries,
      (clearedAndReentered.logOf e.id).map (·.newScore.map Amount.toDecimal) =
        [some (.finite false 700 (-2)), none, some (.finite false 851 (-2))] ∧
      Replays e (clearedAndReentered.logOf e.id) := by
  have h : Reachable (fun _ _ => True) clearedAndReentered := .serve (fun _ _ => trivial) _ _ _
  have hmax : ∀ i ∈ clearedAndReentered.items, i.maxScore.toDecimal = .finite false 1000 (-2) := by
    decide +kernel
  have he : ∃ e ∈ clearedAndReentered.entries,
      (clearedAndReentered.logOf e.id).map (·.newScore.map Amount.toDecimal) =
        [some (.finite false 700 (-2)), none, some (.finite false 851 (-2))] := by
    decide +kernel
  obtain ⟨e, he, hlog⟩ := he
  refine ⟨e, he, hlog, (log_replays h).1 (fun i hi => ?_) e he⟩
  rw [hmax i hi, Decimal.value_finite, Decimal.magnitude_hundredths]
  norm_num

end Gradebook

end Assessment
