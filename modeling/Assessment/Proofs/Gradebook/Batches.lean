import Assessment.Gradebook.Editing
import Assessment.Proofs.Sessions
import Assessment.Proofs.Sorting
import Mathlib.Data.List.Forall2

/-!
# The cells of a batch

The rows of a batch pass if each of them asks for a cell and no two cells are at one place; what they change
are the cells that differ from what is entered. Neither depends on the order of the rows.
-/

namespace Assessment.Gradebook

open Request

lemma exists_of_forall₂ {α β : Type} {R : α → β → Prop} {as : List α} {bs : List β}
    (h : List.Forall₂ R as bs) : ∀ b ∈ bs, ∃ a ∈ as, R a b := by
  induction h with
  | nil => exact List.forall_mem_nil _
  | cons hfirst _ ih =>
    refine List.forall_mem_cons.mpr ⟨⟨_, List.mem_cons_self .., hfirst⟩, fun b hb => ?_⟩
    obtain ⟨a, ha, hrest⟩ := ih b hb
    exact ⟨a, List.mem_cons_of_mem _ ha, hrest⟩

section Cells

variable {items : List GradeItem} {enrollments rows rows' : List Value} {before cells : List ScoreCell}
  {v : Value} {c : ScoreCell}

/-- A row asks for a cell, whatever the rows before it ask for. -/
structure Asks (items : List GradeItem) (enrollments : List Value) (v : Value) (c : ScoreCell) : Prop where
  item : readCellNumber (v.memberOrNull "grade_item_id") = .ok c.item.id
  found : Table.find? c.item.id items = some c.item
  enrollment : readCellNumber (v.memberOrNull "enrollment_id") = .ok c.enrollment
  member : (Value.int c.enrollment).isAmong enrollments = true
  score : checkScore c.item (v.memberOrNull "score") = .ok c.score
  reason : reasonOr (v.memberOrNull "reason") manualReason = .ok c.reason

lemma checkCell_iff : checkCell items enrollments before v = .ok c ↔
    Asks items enrollments v c ∧ ∀ b ∈ before, b.place ≠ c.place := by
  constructor
  · intro h
    simp only [checkCell, bind_eq_ok] at h
    obtain ⟨id, hid, enrollment, henrollment, h⟩ := h
    cases hf : Table.find? id items with
    | none => simp [hf] at h
    | some item =>
      simp only [hf, guard_eq_ok, bind_eq_ok, pure_eq_ok, Bool.not_eq_true, Bool.not_eq_false'] at h
      obtain ⟨hmember, hfree, score, hscore, reason, hreason, rfl⟩ := h
      obtain ⟨-, rfl⟩ := Table.mem_of_find? hf
      refine ⟨⟨hid, hf, henrollment, hmember, hscore, hreason⟩, fun b hb hsame => ?_⟩
      exact List.any_eq_false.mp hfree b hb (beq_iff_eq.mpr hsame)
  · rintro ⟨h, hfree⟩
    have hplace : ∀ b ∈ before, ¬b.place = (c.item.id, c.enrollment) := hfree
    simpa [checkCell, h.item, h.enrollment, h.found, h.member, h.score, h.reason] using hplace

lemma checkCells_append_iff : checkCells items enrollments before rows = .ok cells ↔
    ∃ new, cells = before ++ new ∧ List.Forall₂ (Asks items enrollments) rows new ∧
      (new.Pairwise fun c d => c.place ≠ d.place) ∧ ∀ b ∈ before, ∀ c ∈ new, b.place ≠ c.place := by
  induction rows generalizing before with
  | nil =>
    simp only [checkCells, Except.ok.injEq, List.forall₂_nil_left_iff]
    constructor
    · rintro rfl
      exact ⟨[], by simp⟩
    · rintro ⟨_, rfl, rfl, -⟩
      exact (List.append_nil _).symm
  | cons v rows ih =>
    simp only [checkCells, bind_eq_ok, ih, checkCell_iff]
    constructor
    · rintro ⟨c, ⟨hasks, hfree⟩, new, rfl, hrest, hapart, hnew⟩
      refine ⟨c :: new, by simp, .cons hasks hrest, .cons (fun d hd => ?_) hapart, fun b hb d hd => ?_⟩
      · exact hnew c (List.mem_append_right _ (List.mem_singleton_self c)) d hd
      · rcases List.mem_cons.mp hd with rfl | hd
        · exact hfree b hb
        · exact hnew b (List.mem_append_left _ hb) d hd
    · rintro ⟨_, rfl, hasks | ⟨hasks, hrest⟩, hapart, hfree⟩
      rename_i c new
      obtain ⟨hfirst, hapart⟩ := List.pairwise_cons.mp hapart
      refine ⟨c, ⟨hasks, fun b hb => hfree b hb c (List.mem_cons_self ..)⟩, new, by simp, hrest, hapart, ?_⟩
      intro b hb d hd
      rcases List.mem_append.mp hb with hb | hb
      · exact hfree b hb d (List.mem_cons_of_mem _ hd)
      · rw [List.mem_singleton.mp hb]
        exact hfirst d hd

/-- The rows of a batch pass if they ask for cells at places apart. -/
lemma checkCells_iff : checkCells items enrollments [] rows = .ok cells ↔
    List.Forall₂ (Asks items enrollments) rows cells ∧ cells.Pairwise fun c d => c.place ≠ d.place := by
  simp [checkCells_append_iff]

lemma checkCells_cells (h : checkCells items enrollments [] rows = .ok cells) :
    ∀ c ∈ cells, c.item ∈ items ∧ (Value.int c.enrollment).isAmong enrollments = true ∧
      ∃ v ∈ rows, checkScore c.item (v.memberOrNull "score") = .ok c.score ∧
        reasonOr (v.memberOrNull "reason") manualReason = .ok c.reason := by
  intro c hc
  obtain ⟨v, hv, hasks⟩ := exists_of_forall₂ (checkCells_iff.mp h).1 c hc
  exact ⟨(Table.mem_of_find? hasks.found).1, hasks.member, v, hv, hasks.score, hasks.reason⟩

lemma checkCells_perm (order : rows.Perm rows') (h : checkCells items enrollments [] rows = .ok cells) :
    ∃ cells', checkCells items enrollments [] rows' = .ok cells' ∧ cells.Perm cells' := by
  obtain ⟨hasks, hapart⟩ := checkCells_iff.mp h
  obtain ⟨cells', hasks', hperm⟩ := List.perm_comp_forall₂ order.symm hasks
  have hapart' : cells'.Pairwise fun c d => c.place ≠ d.place :=
    (hperm.symm.pairwise_iff fun h => Ne.symm h).mp hapart
  exact ⟨cells', checkCells_iff.mpr ⟨hasks', hapart'⟩, hperm.symm⟩

end Cells

section Changes

variable {s : Store} {actor : Value} {cells cells' : List ScoreCell} {changes : List BatchChange}

/-- Does a cell differ from what is entered at its place? -/
def ScoreCell.differs (s : Store) (actor : Value) (c : ScoreCell) : Except Defect Bool :=
  (c.change actor).changes (s.entryOf? c.item.id c.enrollment)

lemma batchChanges_eq_filter (h : batchChanges s actor cells = .ok changes) :
    ∃ p : ScoreCell → Bool, (∀ c ∈ cells, c.differs s actor = .ok (p c)) ∧
      changes.map (·.change) = (cells.filter p).map (·.change actor) := by
  refine ⟨fun c => (c.differs s actor).toOption.getD false, ?_⟩
  induction cells generalizing changes with
  | nil =>
    cases h
    simp
  | cons cell cells ih =>
    simp only [batchChanges, bind_eq_ok, pure_eq_ok] at h
    obtain ⟨differs, hdiffers, others, hothers, rfl⟩ := h
    obtain ⟨hrest, hchanges⟩ := ih hothers
    have hcell : cell.differs s actor = .ok differs := hdiffers
    refine ⟨List.forall_mem_cons.mpr ⟨by simp [hcell, Except.toOption], hrest⟩, ?_⟩
    cases differs <;> simp [hcell, Except.toOption, hchanges]

lemma batchChanges_isOk_iff :
    (∃ changes, batchChanges s actor cells = .ok changes) ↔ ∀ c ∈ cells, ∃ b, c.differs s actor = .ok b := by
  constructor
  · rintro ⟨changes, h⟩ c hc
    obtain ⟨p, hp, -⟩ := batchChanges_eq_filter h
    exact ⟨p c, hp c hc⟩
  · intro h
    induction cells with
    | nil => exact ⟨[], rfl⟩
    | cons c cells ih =>
      obtain ⟨⟨b, hb⟩, hrest⟩ := List.forall_mem_cons.mp h
      obtain ⟨others, hothers⟩ := ih hrest
      simp only [batchChanges, bind_eq_ok, pure_eq_ok]
      exact ⟨_, b, hb, others, hothers, rfl⟩

lemma batchChanges_perm (order : cells.Perm cells') (h : batchChanges s actor cells = .ok changes) :
    ∃ changes', batchChanges s actor cells' = .ok changes' ∧
      (changes.map (·.change)).Perm (changes'.map (·.change)) := by
  obtain ⟨p, hp, hchanges⟩ := batchChanges_eq_filter h
  obtain ⟨changes', h'⟩ : ∃ changes', batchChanges s actor cells' = .ok changes' :=
    batchChanges_isOk_iff.mpr fun c hc => ⟨p c, hp c (order.mem_iff.mpr hc)⟩
  obtain ⟨q, hq, hchanges'⟩ := batchChanges_eq_filter h'
  have hsame : cells'.filter q = cells'.filter p := List.filter_congr fun c hc =>
    Except.ok.inj ((hq c hc).symm.trans (hp c (order.mem_iff.mpr hc)))
  refine ⟨changes', h', ?_⟩
  rw [hchanges, hchanges', hsame]
  exact (order.filter p).map _

lemma batchChanges_eq_ok (h : batchChanges s actor cells = .ok changes) :
    (changes.map (·.change)).Sublist (cells.map (·.change actor)) ∧
      ∀ c ∈ changes, c.change.changes (s.entryOf? c.change.item c.change.enrollment) = .ok true := by
  obtain ⟨p, hp, hchanges⟩ := batchChanges_eq_filter h
  refine ⟨hchanges ▸ List.filter_sublist.map _, fun c hc => ?_⟩
  have hmem : c.change ∈ (cells.filter p).map (·.change actor) := hchanges ▸ List.mem_map_of_mem hc
  obtain ⟨cell, hcell, hchange⟩ := List.mem_map.mp hmem
  obtain ⟨hcell, hdiffers⟩ := List.mem_filter.mp hcell
  have hcompared := hp cell hcell
  rw [hdiffers] at hcompared
  exact hchange ▸ hcompared

lemma batchChanges_cells (h : batchChanges s actor cells = .ok changes) :
    ∀ c ∈ changes, ∃ cell ∈ cells, c.change = cell.change actor := by
  intro c hc
  have hmem := (batchChanges_eq_ok h).1.subset (List.mem_map_of_mem hc)
  obtain ⟨cell, hcell, hchange⟩ := List.mem_map.mp hmem
  exact ⟨cell, hcell, hchange.symm⟩

lemma mem_itemsOf {s : Store} {book : Int} {i : GradeItem} :
    i ∈ s.itemsOf book ↔ i ∈ s.items ∧ i.book = book := by
  simp [Store.itemsOf, Store.inOrder, mem_sortBy]

lemma changes_items {s : Store} {book : Int} {actor : Value} {enrollments rows : List Value}
    {cells : List ScoreCell} {changes : List BatchChange}
    (checked : checkCells (s.itemsOf book) enrollments [] rows = .ok cells)
    (differing : batchChanges s actor cells = .ok changes) :
    ∀ c ∈ changes, ∃ i ∈ s.items, i.book = book ∧ i.id = c.change.item := by
  intro c hc
  obtain ⟨cell, hcell, hchange⟩ := batchChanges_cells differing c hc
  obtain ⟨hmem, hbook⟩ := mem_itemsOf.mp (checkCells_cells checked cell hcell).1
  exact ⟨cell.item, hmem, hbook, by rw [hchange]; rfl⟩

end Changes

end Assessment.Gradebook
