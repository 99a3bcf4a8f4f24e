import Assessment.Proofs.Runs

/-!
# The gradebook tables hang together

Books, items, entries, requests for approval and the log are numbered, refer to rows that exist, and a
section has at most one book.
-/

namespace Assessment.Gradebook

open Table

/-- The gradebook tables are numbered and refer to rows that exist. -/
structure Integrity (s : Store) : Prop where
  books : Numbered s.books
  items : Numbered s.items
  entries : Numbered s.entries
  approvals : Numbered s.approvals
  audits : Numbered s.audits
  itemBook : Refers GradeItem.book s.items s.books
  entryItem : Refers GradeEntry.item s.entries s.items
  approvalBook : Refers Approval.book s.approvals s.books
  auditEntry : Refers AuditRow.entry s.audits s.entries
  sections : s.books.Pairwise fun a b => a.classSection ≠ b.classSection

section Scores

variable {c : ScoreChange} {actor : Option Int} {now : Time.Instant} {s : Store}

lemma entryOf?_eq_some {item enrollment : Int} {e : GradeEntry}
    (h : s.entryOf? item enrollment = some e) :
    e ∈ s.entries ∧ e.item = item ∧ e.enrollment = enrollment := by
  have hp := List.find?_some h
  simp only [Bool.and_eq_true, beq_iff_eq] at hp
  exact ⟨List.mem_of_find?_eq_some h, hp⟩

lemma entries_withScore_of_some {e : GradeEntry} (h : s.entryOf? c.item c.enrollment = some e) :
    (withScore c actor now s).entries = modify e.id (entered c actor now) s.entries := by
  simp [withScore, enter, h]

/-- The entry that is made for a first score. -/
def firstEntry (c : ScoreChange) (actor : Option Int) (now : Time.Instant) (s : Store) : GradeEntry :=
  entered c actor now ⟨nextId s.entries, c.item, c.enrollment, none, none, now⟩

lemma entries_withScore_of_none (h : s.entryOf? c.item c.enrollment = none) :
    (withScore c actor now s).entries = s.entries ++ [firstEntry c actor now s] := by
  simp [withScore, enter, firstEntry, h]

lemma audits_withScore (c : ScoreChange) (actor : Option Int) (now : Time.Instant) (s : Store) :
    ∃ e ∈ (withScore c actor now s).entries, e.item = c.item ∧ e.enrollment = c.enrollment ∧
      (withScore c actor now s).audits = s.audits ++
        [⟨nextId s.audits, e.id, actor, (s.entryOf? c.item c.enrollment).bind (·.score),
          c.score.bind Amount.ofDecimal?, c.reason, now⟩] := by
  cases h : s.entryOf? c.item c.enrollment with
  | none =>
    refine ⟨firstEntry c actor now s, ?_, rfl, rfl, ?_⟩
    · rw [entries_withScore_of_none h]
      exact List.mem_append_right _ (List.mem_singleton_self _)
    · simp [withScore, enter, firstEntry, entered, h]
  | some e =>
    obtain ⟨he, hitem, henrollment⟩ := entryOf?_eq_some h
    refine ⟨entered c actor now e, ?_, hitem, henrollment, ?_⟩
    · rw [entries_withScore_of_some h]
      exact List.mem_map.mpr ⟨e, he, if_pos rfl⟩
    · simp [withScore, enter, entered, h]

lemma refers_withScore {ρ : Type} {key : ρ → Int} {rows : List ρ}
    (h : Refers key rows s.entries) : Refers key rows (withScore c actor now s).entries := by
  cases he : s.entryOf? c.item c.enrollment with
  | none =>
    rw [entries_withScore_of_none he]
    exact h.concat_target _
  | some e =>
    rw [entries_withScore_of_some he]
    exact h.modify_target _ fun _ => rfl

lemma Integrity.withScore (hi : Integrity s) (known : ∃ i ∈ s.items, i.id = c.item) :
    Integrity (withScore c actor now s) := by
  obtain ⟨e, he, -, -, haudits⟩ := audits_withScore c actor now s
  refine { hi with entries := ?_, entryItem := ?_, audits := ?_, auditEntry := ?_ }
  · cases h : s.entryOf? c.item c.enrollment with
    | none =>
      rw [entries_withScore_of_none h]
      exact hi.entries.concat rfl
    | some e =>
      rw [entries_withScore_of_some h]
      exact hi.entries.modify _ fun _ => rfl
  · rw [haudits]
    exact hi.audits.concat rfl
  · cases h : s.entryOf? c.item c.enrollment with
    | none =>
      rw [entries_withScore_of_none h]
      exact hi.entryItem.concat known
    | some e =>
      rw [entries_withScore_of_some h]
      exact hi.entryItem.modify _ fun _ => rfl
  · rw [haudits]
    exact (refers_withScore hi.auditEntry).concat ⟨e, he, rfl⟩

end Scores

section Books

variable {ctx : Context} {s s' : Store}

/-- The number and the section of a book are for good. -/
structure KeepsPlace (f : GradeBook → GradeBook) : Prop where
  id : ∀ b, (f b).id = b.id
  classSection : ∀ b, (f b).classSection = b.classSection

lemma keepsPlace_touched (now : Time.Instant) : KeepsPlace (touched now) := ⟨fun _ => rfl, fun _ => rfl⟩

lemma keepsPlace_requested (now : Time.Instant) : KeepsPlace (requested now) :=
  ⟨fun _ => rfl, fun _ => rfl⟩

lemma keepsPlace_judged (verdict : Verdict) (now : Time.Instant) : KeepsPlace (judged verdict now) := by
  constructor <;> intro b <;> cases verdict <;> rfl

lemma Integrity.changeBook (hi : Integrity s) (id : Int) {f : GradeBook → GradeBook}
    (hf : KeepsPlace f) : Integrity { s with books := modify id f s.books } := by
  refine { hi with books := ?_, itemBook := ?_, approvalBook := ?_, sections := ?_ }
  · exact hi.books.modify _ hf.id
  · exact hi.itemBook.modify_target _ hf.id
  · exact hi.approvalBook.modify_target _ hf.id
  · refine List.pairwise_map.mpr (hi.sections.imp ?_)
    intro a b h
    by_cases ha : Row.id a = id <;> by_cases hb : Row.id b = id <;> simp [ha, hb, hf.classSection, h]

lemma bookOf?_eq_none {classSection : Int} (h : s.bookOf? classSection = none) {b : GradeBook}
    (hb : b ∈ s.books) : b.classSection ≠ classSection := by
  simpa using List.find?_eq_none.mp h b hb

lemma Integrity.opening (hi : Integrity s) (w : Opening ctx s s') : Integrity s' := by
  obtain ⟨classSection, hnone, -, rfl⟩ := w
  refine { hi with books := ?_, itemBook := ?_, approvalBook := ?_, sections := ?_ }
  · exact hi.books.concat rfl
  · exact hi.itemBook.concat_target _
  · exact hi.approvalBook.concat_target _
  · refine List.pairwise_append.mpr ⟨hi.sections, List.pairwise_singleton .., ?_⟩
    intro a ha b hb
    rw [List.mem_singleton.mp hb]
    exact bookOf?_eq_none hnone ha

lemma Integrity.batch {changes : List BatchChange} {now : Time.Instant} (hi : Integrity s)
    (h : applyBatch now changes s = .ok s') : Integrity s' :=
  applyBatch_induction h hi fun _ ht _ _ _ known => ht.withScore known

lemma Integrity.item (hi : Integrity s) {i : GradeItem} (hid : i.id = nextId s.items)
    (known : ∃ b ∈ s.books, b.id = i.book) : Integrity { s with items := s.items ++ [i] } :=
  { hi with
    items := hi.items.concat hid
    itemBook := hi.itemBook.concat known
    entryItem := hi.entryItem.concat_target i }

lemma Integrity.request (hi : Integrity s) {a : Approval} (hid : a.id = nextId s.approvals)
    (known : ∃ b ∈ s.books, b.id = a.book) : Integrity { s with approvals := s.approvals ++ [a] } :=
  { hi with
    approvals := hi.approvals.concat hid
    approvalBook := hi.approvalBook.concat known }

lemma Integrity.answer (hi : Integrity s) (id : Int) (verdict : Verdict) (admin : Option Int)
    (text : Option String) (now : Time.Instant) :
    Integrity { s with approvals := modify id (answered verdict admin text now) s.approvals } :=
  { hi with
    approvals := hi.approvals.modify id fun _ => rfl
    approvalBook := hi.approvalBook.modify id fun _ => rfl }

lemma Integrity.write (hi : Integrity s) {c : Call} (w : Write ctx s c s') : Integrity s' := by
  cases w with
  | item _ found =>
    obtain ⟨hmem, -⟩ := existingBook_eq_ok found
    exact (hi.item rfl ⟨_, hmem, rfl⟩).changeBook _ (keepsPlace_touched _)
  | batch _ _ _ _ _ _ _ _ entered => exact (hi.batch entered).changeBook _ (keepsPlace_touched _)
  | request _ found =>
    obtain ⟨hmem, -⟩ := existingBook_eq_ok found
    exact (hi.request rfl ⟨_, hmem, rfl⟩).changeBook _ (keepsPlace_requested _)
  | decide =>
    exact (hi.answer _ _ _ _ _).changeBook _ (keepsPlace_judged _ _)

lemma Integrity.posting (hi : Integrity s) {poster : Access.Caller}
    (w : Sync.Posting ctx poster s s') : Integrity s' := by
  cases w with
  | post _ _ _ _ placed =>
    obtain ⟨hmem, -⟩ := Sync.postableItem_eq_ok placed
    exact (hi.changeBook _ (keepsPlace_touched _)).withScore ⟨_, hmem, rfl⟩

lemma Integrity.step (hi : Integrity s) {op : Service} (w : Step ctx s op s') : Integrity s' := by
  cases w with
  | quiz w | attempt w | queueing _ w =>
    rw [w.frame]
    exact { hi with }
  | opening _ w => exact hi.opening w
  | book w => exact hi.write w
  | posting _ w => exact hi.posting w

end Books

lemma integrity_ofSchool (users : List User) (classSections : List ClassSection)
    (enrollments : List Enrollment) : Integrity (.ofSchool users classSections enrollments) :=
  ⟨.nil, .nil, .nil, .nil, .nil, .nil, .nil, .nil, .nil, .nil⟩

section Runs

variable {P : Context → Service → Prop} {s s' : Store} {I : Store → Prop}

/-- The gradebook tables hang together in every store that can be reached. -/
theorem integrity_of_reachable (h : Reachable P s) : Integrity s :=
  h.invariant integrity_ofSchool fun _ _ _ _ _ hi w => hi.step w

/-- What every step preserves in tables that hang together holds in every store that a run leads to. -/
theorem Integrity.run_invariant (hi : Integrity s) (h : Run P s s') (start : I s)
    (step : ∀ ctx op s s', P ctx op → Integrity s → I s → Step ctx s op s' → I s') : I s' := by
  have hboth : Integrity s' ∧ I s' := h.invariant (I := fun s => Integrity s ∧ I s) ⟨hi, start⟩
    fun ctx op t t' hop ht w => ⟨ht.1.step w, step ctx op t t' hop ht.1 ht.2 w⟩
  exact hboth.2

theorem integrity_invariant (h : Reachable P s)
    (start : ∀ users classSections enrollments, I (.ofSchool users classSections enrollments))
    (step : ∀ ctx op s s', P ctx op → Integrity s → I s → Step ctx s op s' → I s') : I s := by
  obtain ⟨users, classSections, enrollments, h⟩ := h
  exact (integrity_ofSchool _ _ _).run_invariant h (start users classSections enrollments) step

end Runs

end Assessment.Gradebook
