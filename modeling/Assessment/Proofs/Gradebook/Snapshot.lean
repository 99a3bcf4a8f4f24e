import Assessment.Proofs.Gradebook.Records

/-!
# What is reviewed is complete and stays as it is

Approval is asked for when every required item has a score for every enrolled student. From then on the
record of the book is closed to everything but the decision, and once it is published, to everything
but late corrections.
-/

namespace Assessment.Gradebook

open Table

/-- Every required item has a score for every student who is enrolled in a section. -/
def Complete (r : BookRecord) (classSection : Int) (enrollments : List Enrollment) : Prop :=
  ∀ i ∈ r.items, i.required = true →
    ∀ e ∈ enrollments, e.classSection = classSection → e.status = .enrolled →
      ∃ x ∈ r.entries, x.item = i.id ∧ x.enrollment = e.id ∧ x.score.isSome

section Completeness

variable {ctx : Context} {s : Store} {r r' : BookRecord} {classSection : Int}
  {enrollments : List Enrollment}

lemma Complete.corrected (h : Complete r classSection enrollments) (hc : Corrects r r') :
    Complete r' classSection enrollments := by
  intro i hi hrequired e he hsection hstatus
  rw [hc.items] at hi
  obtain ⟨x, hx, hitem, henrollment, hscore⟩ := h i hi hrequired e he hsection hstatus
  obtain ⟨y, hy, -, hitem', henrollment', hscore'⟩ := hc.scored x hx hscore
  exact ⟨y, hy, hitem'.trans hitem, henrollment'.trans henrollment, hscore'⟩

lemma scored_of_missingFor {book : Int} {found : List Value}
    (h : missingFor s book found = .ok []) {i : GradeItem} (hi : i ∈ s.itemsOf book)
    (hrequired : i.required = true) {v : Value} (hv : v ∈ found) :
    ∃ x ∈ s.entries, x.score.isSome ∧ x.item = i.id ∧ (Value.int x.enrollment).same v = true := by
  simp only [missingFor, tryMissingScores, when_eq_ok, Except.ok.injEq, missingScores,
    List.flatMap_eq_nil_iff, List.map_eq_nil_iff, List.filter_eq_nil_iff] at h
  have hitem : Value.int i.id ∈ ((s.itemsOf book).filter (·.required)).map fun i => Value.int i.id :=
    List.mem_map_of_mem (List.mem_filter.mpr ⟨hi, hrequired⟩)
  have hscored := h.2 _ hitem v hv
  simp only [isScored, Bool.not_eq_true', Bool.not_eq_false, List.any_eq_true,
    List.mem_map, List.mem_filter, Bool.and_eq_true] at hscored
  obtain ⟨_, ⟨x, ⟨hx, hscore⟩, rfl⟩, hsame, hsame'⟩ := hscored
  exact ⟨x, hx, hscore, Value.same_int.mp hsame, hsame'⟩

/-- What the check for approval lets pass is complete. -/
lemma complete_of_missingFor (registered : ctx.directory? = none) {book : Int} {found : List Value}
    (members : (ctx.directory s).enrollments (.int classSection) = .ok found)
    (h : missingFor s book found = .ok []) :
    Complete (s.bookRecord book) classSection s.enrollments := by
  intro i hi hrequired e he hsection hstatus
  obtain ⟨hi, hbook⟩ := List.mem_filter.mp hi
  have hbook := beq_iff_eq.mp hbook
  have hmember : ⟨e.id, e.student, e.classSection⟩ ∈ s.enrollments.filterMap Enrollment.membership? :=
    List.mem_filterMap.mpr ⟨e, he, by simp [Enrollment.membership?, hstatus]⟩
  have hfound : Value.int e.id ∈ found := by
    simp only [Context.directory, registered, Option.getD_none, Store.directory] at members
    exact Access.Directory.mem_enrollments_tabled members hmember hsection
  obtain ⟨x, hx, hscore, hitem, hsame⟩ :=
    scored_of_missingFor h (mem_itemsOf.mpr ⟨hi, hbook⟩) hrequired hfound
  refine ⟨x, List.mem_filter.mpr ⟨hx, holdsEntry_iff.mpr ⟨i, hi, hbook, hitem.symm⟩⟩, hitem, ?_, hscore⟩
  exact Value.same_int.mp hsame

end Completeness

section Steps

variable {ctx : Context} {s s' : Store} {op : Service}

lemma mem_of_modify {f : GradeBook → GradeBook} (hf : KeepsPlace f) {id : Int} {b : GradeBook}
    (hb : b ∈ modify id f s.books) : ∃ c ∈ s.books, c.id = b.id := by
  obtain ⟨c, hc, rfl⟩ := List.mem_map.mp hb
  refine ⟨c, hc, ?_⟩
  by_cases h : Row.id c = id
  · rw [if_pos h, hf.id]
  · rw [if_neg h]

lemma book_before_step (w : Step ctx s op s') {b : GradeBook} (hb : b ∈ s'.books) :
    (∃ c ∈ s.books, c.id = b.id) ∨ b.status = .draft := by
  cases w with
  | quiz w | attempt w | queueing _ w =>
    rw [w.frame] at hb
    exact .inl ⟨b, hb, rfl⟩
  | opening _ w =>
    obtain ⟨_, -, -, rfl⟩ := w
    rcases List.mem_append.mp hb with hb | hb
    · exact .inl ⟨b, hb, rfl⟩
    · rw [List.mem_singleton.mp hb]
      exact .inr rfl
  | book w =>
    cases w with
    | item => exact .inl (mem_of_modify (keepsPlace_touched _) hb)
    | batch _ _ _ _ _ _ _ _ entered =>
      rw [applyBatch_frame entered] at hb
      exact .inl (mem_of_modify (keepsPlace_touched _) hb)
    | request => exact .inl (mem_of_modify (keepsPlace_requested _) hb)
    | decide => exact .inl (mem_of_modify (keepsPlace_judged _ _) hb)
  | posting _ w =>
    cases w with
    | post => exact .inl (mem_of_modify (keepsPlace_touched _) hb)

/-- Does a book await approval, or is it published? -/
def IsReviewed (b : GradeBook) : Prop := b.status = .pendingApproval ∨ b.status = .published

/-- The books that await approval or are published are complete. -/
def AllComplete (s : Store) : Prop :=
  ∀ b ∈ s.books, IsReviewed b → Complete (s.bookRecord b.id) b.classSection s.enrollments

lemma AllComplete.step (h : AllComplete s) (hi : Integrity s) (registered : ctx.directory? = none)
    (w : Step ctx s op s') : AllComplete s' := by
  intro b hb hreviewed
  have hrow : (s'.bookRecord b.id).row = some b := find?_of_mem (hi.step w).books hb
  rw [w.registration.2.2]
  rcases book_before_step w hb with ⟨c, hc, hid⟩ | hdraft
  · have hrow' : (s.bookRecord c.id).row = some c := find?_of_mem hi.books hc
    rw [← hid] at hrow ⊢
    rcases Step.bookRecord hi hc w with hsame | hchange
    · rw [hsame, hrow'] at hrow
      obtain rfl := Option.some.inj hrow
      rw [hsame]
      exact h c hc hreviewed
    · cases hchange with
      | edit editable hedited =>
        obtain rfl := Option.some.inj (hedited.symm.trans hrow)
        rcases hreviewed with hstatus | hstatus
        all_goals
          change c.status = _ at hstatus
          rw [hstatus] at editable
          exact absurd editable (by decide)
      | request editable record complete =>
        obtain ⟨found, members, hmissing⟩ := complete
        obtain rfl : requested ctx.now c = b := Option.some.inj ((congrArg _ record).symm.trans hrow)
        rw [record]
        exact complete_of_missingFor registered members hmissing
      | decide verdict _ awaiting record =>
        obtain rfl : judged verdict ctx.now c = b := Option.some.inj ((congrArg _ record).symm.trans hrow)
        rw [record, (keepsPlace_judged verdict ctx.now).classSection]
        exact h c hc (.inl awaiting)
      | post _ open' corrects =>
        obtain ⟨version, updatedAt, hposted⟩ := corrects.row c hrow'
        obtain rfl := Option.some.inj (hposted.symm.trans hrow)
        exact (h c hc hreviewed).corrected corrects
  · rcases hreviewed with hstatus | hstatus <;> simp [hstatus] at hdraft

lemma keeps_pending (hi : Integrity s) {b : GradeBook} (hb : b ∈ s.books)
    (pending : b.status = .pendingApproval) (other : op.decides = false) (w : Step ctx s op s') :
    s'.bookRecord b.id = s.bookRecord b.id := by
  rcases Step.bookRecord hi hb w with hsame | hchange
  · exact hsame
  · exfalso
    cases hchange with
    | edit editable | request editable =>
      rw [pending] at editable
      exact absurd editable (by decide)
    | decide _ decides =>
      rw [other] at decides
      exact absurd decides (by decide)
    | post _ open' =>
      rw [pending] at open'
      simp [BookStatus.syncBar?] at open'

lemma keeps_published (hi : Integrity s) {b : GradeBook} (hb : b ∈ s.books)
    (published : b.status = .published) (w : Step ctx s op s') :
    s'.bookRecord b.id = s.bookRecord b.id ∨
      ctx.settings.lateCorrections.truthy = true ∧ op.poster?.isSome ∧
        Corrects (s.bookRecord b.id) (s'.bookRecord b.id) := by
  refine (Step.bookRecord hi hb w).imp_right fun hchange => ?_
  cases hchange with
  | edit editable | request editable =>
    rw [published] at editable
    exact absurd editable (by decide)
  | decide _ _ awaiting =>
    rw [published] at awaiting
    exact absurd awaiting (by decide)
  | post posts open' corrects =>
    refine ⟨?_, posts, corrects⟩
    rw [published] at open'
    by_contra hlate
    simp [BookStatus.syncBar?, BookStatus.isVisible, hlate] at open'

end Steps

section Operations

variable {P : Context → Service → Prop} {s : Store} {b : GradeBook}

lemma allComplete_of_reachable (registered : ∀ ctx op, P ctx op → ctx.directory? = none)
    (h : Reachable P s) : AllComplete s :=
  integrity_invariant h (fun _ _ _ => by simp [AllComplete, Store.ofSchool])
    fun ctx op _ _ hop hi hc w => hc.step hi (registered ctx op hop) w

lemma mem_of_row {book : Int} (h : (s.bookRecord book).row = some b) : b ∈ s.books ∧ b.id = book :=
  mem_of_find? h

lemma pending_kept (hi : Integrity s) (hb : b ∈ s.books) (pending : b.status = .pendingApproval)
    (ctx : Context) {op : Service} (other : op.decides = false) :
    (op.after ctx s).bookRecord b.id = s.bookRecord b.id := by
  have hrow : (s.bookRecord b.id).row = some b := find?_of_mem hi.books hb
  refine (Service.after_invariant (I := fun t => Integrity t ∧ t.bookRecord b.id = s.bookRecord b.id)
    ⟨hi, rfl⟩ ?_).2
  rintro t t' ⟨ht, hsame⟩ w
  have hbt : b ∈ t.books := (mem_of_row (hsame ▸ hrow)).1
  exact ⟨ht.step w, (keeps_pending ht hbt pending other w).trans hsame⟩

lemma published_kept (hi : Integrity s) (hb : b ∈ s.books) (published : b.status = .published)
    (ctx : Context) (op : Service) :
    (op.after ctx s).bookRecord b.id = s.bookRecord b.id ∨
      ctx.settings.lateCorrections.truthy = true ∧ op.poster?.isSome ∧
        Corrects (s.bookRecord b.id) ((op.after ctx s).bookRecord b.id) := by
  have hrow : (s.bookRecord b.id).row = some b := find?_of_mem hi.books hb
  refine (Service.after_invariant (I := fun t => Integrity t ∧
    (t.bookRecord b.id = s.bookRecord b.id ∨ ctx.settings.lateCorrections.truthy = true ∧
      op.poster?.isSome ∧ Corrects (s.bookRecord b.id) (t.bookRecord b.id))) ⟨hi, .inl rfl⟩ ?_).2
  rintro t t' ⟨ht, hsofar⟩ w
  refine ⟨ht.step w, ?_⟩
  -- The book is still published, with another version perhaps.
  obtain ⟨c, hc, hid, hstatus⟩ : ∃ c ∈ t.books, c.id = b.id ∧ c.status = .published := by
    rcases hsofar with hsame | ⟨-, -, hcorrects⟩
    · exact ⟨b, (mem_of_row (hsame ▸ hrow)).1, rfl, published⟩
    · obtain ⟨version, updatedAt, hrow'⟩ := hcorrects.row b hrow
      exact ⟨_, (mem_of_row hrow').1, rfl, published⟩
  have hstep := keeps_published ht hc hstatus w
  rw [hid] at hstep
  rcases hstep with hsame' | ⟨hlate, hposts, hcorrects'⟩
  · rw [hsame']
    exact hsofar
  · rcases hsofar with hsame | ⟨-, -, hcorrects⟩
    · exact .inr ⟨hlate, hposts, hsame ▸ hcorrects'⟩
    · exact .inr ⟨hlate, hposts, hcorrects.trans hcorrects'⟩

/-- In every store that can be reached with the registration tables as the directory, a book that awaits
approval or is published is complete; while it awaits approval only a decision changes its record; and
once it is published only posted scores do, if late corrections are on, without taking a score back. -/
theorem reviewed_record_stands (registered : ∀ ctx op, P ctx op → ctx.directory? = none)
    (h : Reachable P s) (hb : b ∈ s.books) :
    (b.status = .pendingApproval ∨ b.status = .published →
      Complete (s.bookRecord b.id) b.classSection s.enrollments) ∧
    (b.status = .pendingApproval → ∀ (ctx : Context) (op : Service), op.decides = false →
      (op.after ctx s).bookRecord b.id = s.bookRecord b.id) ∧
    (b.status = .published → ∀ (ctx : Context) (op : Service),
      (op.after ctx s).bookRecord b.id = s.bookRecord b.id ∨
        ctx.settings.lateCorrections.truthy = true ∧ op.poster?.isSome ∧
          Corrects (s.bookRecord b.id) ((op.after ctx s).bookRecord b.id)) := by
  have hi := integrity_of_reachable h
  exact ⟨allComplete_of_reachable registered h b hb,
    fun pending ctx _ other => pending_kept hi hb pending ctx other,
    fun published ctx op => published_kept hi hb published ctx op⟩

end Operations

/-- The store after the only item of a book is scored for both enrolled students, and approval is
asked for. -/
def scoredAndRequested : Store :=
  let start := Scenario.State.start .standard
  let teacher : Access.Caller := ⟨.int 1, "TEACHER"⟩
  let cell (enrollment : Int) : Value :=
    .object [("grade_item_id", .int 1), ("enrollment_id", .int enrollment), ("score", .int 7)]
  start.context.serve
    [.call (.addItem teacher ⟨.int 1, .text "Midterm", .int 10, .null, .bool true, .null, .null⟩),
      .call (.upsertScores teacher ⟨.int 1, .list [cell 1, cell 2], .null⟩),
      .call (.requestApproval teacher (.int 1) .null .null)] start.store

theorem reviewed_record_stands_of_requested :
    ∃ b ∈ scoredAndRequested.books, b.status = .pendingApproval ∧
      (scoredAndRequested.bookRecord b.id).items ≠ [] ∧
      Complete (scoredAndRequested.bookRecord b.id) b.classSection scoredAndRequested.enrollments := by
  have h : Reachable (fun ctx _ => ctx.directory? = none) scoredAndRequested :=
    .serve (fun _ _ => rfl) _ _ _
  have hb : ∃ b ∈ scoredAndRequested.books, b.status = .pendingApproval ∧
      (scoredAndRequested.bookRecord b.id).items ≠ [] := by
    decide +kernel
  obtain ⟨b, hb, hpending, hitems⟩ := hb
  obtain ⟨hcomplete, -, -⟩ := reviewed_record_stands (fun _ _ registered => registered) h hb
  exact ⟨b, hb, hpending, hitems, hcomplete (.inl hpending)⟩

end Assessment.Gradebook
