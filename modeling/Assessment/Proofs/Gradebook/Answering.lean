import Assessment.Proofs.Foreseen
import Assessment.Proofs.Gradebook.Bounds

/-!
# Items and scores that are taken in or refused

An item or a batch of scores whose parts are of the right kinds, whose numbers have few digits and whose
texts have an encoding is either taken in or refused with a reason, as long as the scores that are stored
have few digits themselves.
-/

namespace Assessment

/-- Rows have numbers that columns can hold, and scores at most 26 digits before the point. -/
structure Store.WithinLimits (s : Store) : Prop where
  items : ∀ i ∈ s.items, isStorable i.id = true
  enrollments : ∀ m ∈ s.enrollments, isStorable m.id = true
  scores : ∀ e ∈ s.entries, ∀ a, e.score = some a → a.toDecimal.value < 10 ^ 26

namespace Gradebook

open Number Request Access

/-- An item as a request body holds it. -/
structure ItemRequest.WellFormed (r : ItemRequest) : Prop where
  name : r.name.IsTextual
  order : r.order.IsIntegral
  expectedVersion : r.expectedVersion.IsIntegral

/-- The maximum of an item has few digits, its name has an encoding, and its place fits a column. -/
structure ItemRequest.WithinLimits (r : ItemRequest) : Prop where
  name : r.name.IsEncodable
  maxScore : r.maxScore.HasFewDigits
  order : r.order.IsStorable

/-- A cell of a batch of scores as a request body holds it. -/
structure WellFormedCell (v : Value) : Prop where
  item : ∃ n, v.memberOrNull "grade_item_id" = .int n
  enrollment : ∃ n, v.memberOrNull "enrollment_id" = .int n
  reason : (v.memberOrNull "reason").IsTextual

/-- The score of a cell has few digits, and its reason has an encoding. -/
structure CellWithinLimits (v : Value) : Prop where
  score : (v.memberOrNull "score").HasFewDigits
  reason : (v.memberOrNull "reason").IsEncodable

/-- A batch of scores as a request body holds it. -/
structure BatchRequest.WellFormed (r : BatchRequest) : Prop where
  cells : ∃ vs, r.cells = .list vs ∧ ∀ v ∈ vs, WellFormedCell v
  expectedVersion : r.expectedVersion.IsIntegral

/-- The cells of a batch are within their limits. -/
def BatchRequest.WithinLimits (r : BatchRequest) : Prop :=
  ∀ vs, r.cells = .list vs → ∀ v ∈ vs, CellWithinLimits v

section Access

variable {ctx : Context} {s : Store}

lemma storable_of_teaches (registered : ctx.directory? = none) {id n : Int} {role : String}
    (h : requireSectionTeacher (ctx.directory s) ⟨.int id, role⟩ (.int n) = .ok ()) :
    isStorable id = true ∧ isStorable n = true := by
  simp only [requireSectionTeacher, isSectionTeacher, Context.directory, registered, Option.getD_none,
    Store.directory, Directory.teaches, bind_eq_ok] at h
  obtain ⟨manages, hmanages, h⟩ := h
  split_ifs at hmanages
  · simp only [mapError_eq_ok, bind_eq_ok] at hmanages
    obtain ⟨place, hplace, self, hself, -⟩ := hmanages
    exact ⟨Value.storable_of_probe hself, Value.storable_of_probe hplace⟩
  · obtain rfl := Except.ok.inj hmanages
    cases h

end Access

section Items

variable {ctx : Context} {caller : Caller} {s : Store} {r : ItemRequest}

lemma foreseen_checkName {v : Value} (h : v.IsTextual) : Foreseen (checkName v) := by
  obtain ⟨t, ht, -⟩ := readTrimmed_textual h
  exact .bind (.of_ok ht) fun _ _ => .guard rfl fun _ => .guard rfl fun _ => .pure _

lemma foreseen_checkMaxScore {v : Value} (h : v.HasFewDigits) : Foreseen (checkMaxScore v) := by
  refine .bind (foreseen_readScore? h) fun found hfound => ?_
  cases found with
  | none => exact .throw rfl
  | some d =>
    obtain ⟨s, c, -, rfl⟩ := readScore?_eq_ok hfound
    exact .bind (.lift (Decimal.atMost_finite ..)) fun _ _ => .guard rfl fun _ => .pure _

lemma foreseen_checkWeight (v : Value) : Foreseen (checkWeight v) := by
  refine .ite (fun _ => .pure _) fun _ => ?_
  cases Decimal.read? v.display with
  | none => exact .throw rfl
  | some d =>
    refine .guard rfl fun hfinite => ?_
    cases d with
    | nan | infinite => simp [Decimal.isFinite] at hfinite
    | finite s c e =>
      refine .bind (.lift (Decimal.less_finite ..)) fun _ _ => .guard rfl fun _ => ?_
      exact .bind (.lift (Decimal.less_finite ..)) fun _ _ => .guard rfl fun _ => .pure _

lemma foreseen_checkItem {n : Int} (place : r.classSection = .int n)
    (teaches : requireSectionTeacher (ctx.directory s) caller (.int n) = .ok ()) (formed : r.WellFormed)
    (limits : r.WithinLimits) : Foreseen (checkItem ctx caller r s) := by
  refine .bind (foreseen_readPositive (.inr ⟨n, place⟩)) fun m hm => ?_
  obtain rfl := readPositive_int (place ▸ hm)
  refine .bind (.of_ok teaches) fun _ _ => .bind (foreseen_checkName formed.name) fun _ _ => ?_
  refine .bind (foreseen_checkMaxScore limits.maxScore) fun _ _ => ?_
  exact .bind (foreseen_checkWeight _) fun _ _ => .pure _

lemma foreseen_existingBook {n : Int} (hn : isStorable n = true) : Foreseen (existingBook n s) := by
  refine .bind (foreseen_queryWith (List.forall_mem_singleton.mpr hn)) fun _ _ => ?_
  split
  · exact .pure _
  · exact .throw rfl

lemma foreseen_requireEditable (book : GradeBook) : Foreseen (requireEditable book) :=
  .ite (fun _ => .of_ok rfl) fun _ => .error rfl

lemma foreseen_checkVersion {book : GradeBook} {v : Value} (h : v.IsIntegral) :
    Foreseen (checkVersion book v) :=
  .ite (fun _ => .bind (foreseen_readPositive h) fun _ _ => .ite (fun _ => .throw rfl) fun _ => .pure _)
    fun _ => .pure _

lemma fitting_changeBook (seen : GradeBook) (f : GradeBook → GradeBook) : Fitting (changeBook seen f s) :=
  .ite (fun _ => .of_ok rfl) fun _ => .error trivial

lemma fitting_insertBook {n : Int} (hn : isStorable n = true) (now : Time.Instant) :
    Fitting (insertBook n now s) := by
  refine .bind (fitting_requireStorable (List.forall_mem_singleton.mpr hn)) fun _ _ => ?_
  exact .bind (fitting_requireRow _ _) fun _ _ => .guard trivial fun _ => .pure _

lemma foreseen_openBook {n : Int} (hn : isStorable n = true) : Foreseen ((openBook ctx n).run s) := by
  have hquery : Foreseen (queryWith [n]) := foreseen_queryWith (List.forall_mem_singleton.mpr hn)
  refine foreseen_run (.bind hquery fun _ _ => ?_) fun d hd => ?_
  · split <;> exact .pure _
  · simp only [openBook, bind_eq_ok, exists_unit] at hd
    obtain ⟨-, hd⟩ := hd
    split at hd
    · rw [← pure_eq_ok.mp hd]
      exact .of_ok rfl
    · rw [← pure_eq_ok.mp hd]
      intro fault hfault
      simp only [Decision.apply_write] at hfault
      split at hfault
      · cases hfault
      · rename_i hinsert
        exact (fitting_insertBook hn ctx.now _ hinsert).elim
      · split at hfault <;> cases hfault
        rfl

lemma orderOf_isOk {v : Value} (formed : v.IsIntegral) (limits : v.IsStorable) (count : Nat) :
    ∃ order, orderOf v count = .ok (some order) := by
  rcases formed with rfl | ⟨n, rfl⟩
  · exact ⟨_, rfl⟩
  · exact ⟨_, columnOf_storable (limits n rfl)⟩

lemma foreseen_enterItem {item : CheckedItem} (place : isStorable item.classSection = true)
    (name : Text.hasEncoding item.name = true) (formed : r.WellFormed) (limits : r.WithinLimits) :
    Foreseen ((enterItem ctx item r).run s) := by
  refine foreseen_run ?_ fun d hd => ?_
  · refine .bind (foreseen_existingBook place) fun book _ => ?_
    refine .bind (foreseen_requireEditable book) fun _ _ => ?_
    refine .bind (foreseen_checkVersion formed.expectedVersion) fun _ _ => ?_
    exact .guard rfl fun _ => .pure _
  · simp only [enterItem, bind_eq_ok, exists_unit, guard_eq_ok, pure_eq_ok] at hd
    obtain ⟨book, -, -, -, -, rfl⟩ := hd
    obtain ⟨order, horder⟩ := orderOf_isOk formed.order limits.order (s.itemsOf book.id).length
    refine .bind ((fitting_changeBook _ _).foreseen rfl) fun r _ => ?_
    refine .bind (Fitting.foreseen ?_ rfl) fun _ _ => .pure _
    refine .bind (fitting_requireEncoding (List.forall_mem_singleton.mpr name)) fun _ _ => ?_
    rw [horder]
    exact .pure _

lemma name_encodable {v : Value} {name : String} (formed : v.IsTextual) (limits : v.IsEncodable)
    (h : checkName v = .ok name) : Text.hasEncoding name = true := by
  obtain ⟨t, ht, hencoding⟩ := readTrimmed_textual formed
  simp only [checkName, ht, bind_eq_ok, guard_eq_ok, pure_eq_ok, Except.ok.injEq] at h
  obtain ⟨_, rfl, -, -, rfl⟩ := h
  exact hencoding limits

lemma storable_of_checkItem {n : Int} {item : CheckedItem} (place : r.classSection = .int n)
    (storable : isStorable n = true) (formed : r.WellFormed) (limits : r.WithinLimits)
    (h : checkItem ctx caller r s = .ok item) :
    isStorable item.classSection = true ∧ Text.hasEncoding item.name = true := by
  obtain ⟨hsection, hname, -⟩ := checkItem_eq_ok h
  have hn : item.classSection = n := readPositive_int (place ▸ hsection)
  exact ⟨hn ▸ storable, name_encodable formed.name limits.name hname⟩

lemma foreseenFrom_addItem {id n : Int} {role : String} (registered : ctx.directory? = none)
    (place : r.classSection = .int n)
    (teaches : requireSectionTeacher (ctx.directory s) ⟨.int id, role⟩ (.int n) = .ok ())
    (formed : r.WellFormed) (limits : r.WithinLimits) :
    (addItem ctx ⟨.int id, role⟩ r).ForeseenFrom s := by
  have hn := (storable_of_teaches registered teaches).2
  refine .read_bind (fun item => ?_) fun t fault hfault ht => ?_
  · refine .bind (Q := fun _ b _ => isStorable item.classSection = true → Foreseen b)
      (.commit (fun _ _ _ _ _ => .of_ok rfl) fun t fault hfault hstorable => ?_) (fun _ => ?_)
      fun t fault _ hopened hchecked _ => ?_
    · exact .error (foreseen_openBook hstorable fault hfault)
    · refine .commit (fun _ _ _ _ _ _ _ _ => .of_ok rfl) fun u fault hfault t _ hchecked _ => ?_
      obtain ⟨hstorable, hname⟩ := storable_of_checkItem place hn formed limits hchecked
      exact .error (foreseen_enterItem hstorable hname formed limits fault hfault)
    · exact .error (hopened (storable_of_checkItem place hn formed limits hchecked).1 fault rfl)
  · exact .error (foreseen_checkItem place (ht ▸ teaches) formed limits fault hfault)

end Items

section Scores

variable {ctx : Context} {s : Store} {now : Time.Instant} {c : ScoreChange}

lemma rounds_hundredths {k : Nat} (hk : k < 10 ^ 28) (sign : Bool) (mode : Rounding) :
    ∃ d, (Decimal.finite sign k (-2)).toHundredths mode = .ok d := by
  have hle : (k : ℚ) + 1 ≤ 10 ^ 28 := by exact_mod_cast hk
  have few : (Decimal.finite sign k (-2)).FewDigits := by
    unfold Decimal.FewDigits
    rw [Decimal.abs_value_finite, Decimal.magnitude_hundredths]
    linarith
  obtain ⟨_, _, hrounded⟩ := Decimal.toHundredths_isOk rfl few
  exact ⟨_, hrounded⟩

/-- A score is a number of hundredths, or it is absent. -/
def InHundredths (score : Option Decimal) : Prop :=
  ∀ d, score = some d → ∃ sign k, k < 10 ^ 28 ∧ d = .finite sign k (-2)

lemma foreseen_checkScore {i : GradeItem} (hi : SoundItem i) {v : Value} (h : v.HasFewDigits) :
    Foreseen (checkScore i v) := by
  refine .bind (foreseen_readScore? h) fun found hfound => ?_
  cases found with
  | none => exact .pure _
  | some d =>
    obtain ⟨sign, k, -, rfl⟩ := readScore?_eq_ok hfound
    obtain ⟨n, -, hmax⟩ := hi.maxScore
    rw [hmax]
    refine .bind (.lift (Decimal.less_finite ..)) fun _ _ => ?_
    exact .bind (.lift (Decimal.less_finite ..)) fun _ _ => .guard rfl fun _ => .pure _

lemma checkScore_inHundredths {i : GradeItem} {v : Value} {score : Option Decimal}
    (h : checkScore i v = .ok score) : InHundredths score := by
  simp only [checkScore, bind_eq_ok] at h
  obtain ⟨found, hfound, h⟩ := h
  rintro d rfl
  cases found with
  | none => simp at h
  | some x =>
    simp only [bind_eq_ok, guard_eq_ok, pure_eq_ok, Option.some_inj] at h
    obtain ⟨_, -, _, -, -, rfl⟩ := h
    exact readScore?_eq_ok hfound

lemma reason_encodable {v : Value} {reason : String} (formed : v.IsTextual) (limits : v.IsEncodable)
    (h : reasonOr v manualReason = .ok reason) : Text.hasEncoding reason = true := by
  obtain ⟨t, ht, hencoding⟩ := readTrimmed_textual formed
  simp only [reasonOr, ht, bind_eq_ok, pure_eq_ok, Except.ok.injEq] at h
  obtain ⟨_, rfl, rfl⟩ := h
  split_ifs
  · decide
  · exact hencoding limits

lemma foreseen_checkCell {items : List GradeItem} {enrollments : List Value} {before : List ScoreCell}
    {v : Value} (hitems : ∀ i ∈ items, SoundItem i) (formed : WellFormedCell v) (limits : CellWithinLimits v) :
    Foreseen (checkCell items enrollments before v) := by
  obtain ⟨itemId, hitem⟩ := formed.item
  obtain ⟨enrollment, henrollment⟩ := formed.enrollment
  obtain ⟨reason, hreason, -⟩ := readTrimmed_textual formed.reason
  unfold checkCell
  rw [hitem, henrollment]
  refine .bind (.of_ok rfl) fun _ _ => .bind (.of_ok rfl) fun _ _ => ?_
  split
  · exact .throw rfl
  · rename_i i hfound
    refine .guard rfl fun _ => .guard rfl fun _ => ?_
    refine .bind (foreseen_checkScore (hitems i (Table.mem_of_find? hfound).1) limits.score) fun _ _ => ?_
    exact .bind (.bind (.of_ok hreason) fun _ _ => .pure _) fun _ _ => .pure _

lemma foreseen_checkCells {items : List GradeItem} {enrollments : List Value} {before : List ScoreCell}
    {rows : List Value} (hitems : ∀ i ∈ items, SoundItem i) (formed : ∀ v ∈ rows, WellFormedCell v)
    (limits : ∀ v ∈ rows, CellWithinLimits v) : Foreseen (checkCells items enrollments before rows) := by
  induction rows generalizing before with
  | nil => exact .of_ok rfl
  | cons v rows ih =>
    obtain ⟨hv, hrest⟩ := List.forall_mem_cons.mp formed
    obtain ⟨hl, hrest'⟩ := List.forall_mem_cons.mp limits
    exact .bind (foreseen_checkCell hitems hv hl) fun _ _ => ih hrest hrest'

lemma sameScore_isOk {left right : Option Decimal} (hleft : InHundredths left) (hright : InHundredths right) :
    ∃ same, sameScore left right = .ok same := by
  cases left with
  | none => cases right <;> exact ⟨_, rfl⟩
  | some l =>
    cases right with
    | none => exact ⟨_, rfl⟩
    | some r =>
      obtain ⟨s, k, hk, rfl⟩ := hleft l rfl
      obtain ⟨t, m, hm, rfl⟩ := hright r rfl
      obtain ⟨l, hl⟩ := rounds_hundredths hk s .halfEven
      obtain ⟨r, hr⟩ := rounds_hundredths hm t .halfEven
      exact ⟨l.sameValue r, by simp [sameScore, hl, hr]⟩

lemma stored_inHundredths (hk : Kept s) (hs : s.WithinLimits) {e : GradeEntry} (he : e ∈ s.entries) :
    InHundredths (e.score.map Amount.toDecimal) := by
  intro d hd
  obtain ⟨a, ha, rfl⟩ := Option.map_eq_some_iff.mp hd
  obtain ⟨k, hread⟩ := hk.read_score he ha
  have hvalue := hs.scores e he a ha
  rw [hread, Decimal.value_finite, if_neg Bool.false_ne_true, Decimal.magnitude_hundredths] at hvalue
  have hlt : (k : ℚ) < 10 ^ 28 := by linarith
  exact ⟨false, k, by exact_mod_cast hlt, hread⟩

lemma changes_isOk (hk : Kept s) (hs : s.WithinLimits) (hscore : InHundredths c.score)
    {entry : Option GradeEntry} (there : ∀ e, entry = some e → e ∈ s.entries) :
    ∃ differs, c.changes entry = .ok differs := by
  cases entry with
  | none => exact ⟨_, rfl⟩
  | some e =>
    obtain ⟨same, hsame⟩ := sameScore_isOk (stored_inHundredths hk hs (there e rfl)) hscore
    exact ⟨!same, by simp [ScoreChange.changes, hsame]⟩

lemma batchChanges_isOk (hk : Kept s) (hs : s.WithinLimits) (actor : Value) {cells : List ScoreCell}
    (hcells : ∀ c ∈ cells, InHundredths c.score) : ∃ changes, batchChanges s actor cells = .ok changes :=
  batchChanges_isOk_iff.mpr fun c hc => changes_isOk hk hs (hcells c hc) fun _ => List.mem_of_find?_eq_some

/-- A change of a score that the store takes: what it refers to is there, and the columns can hold it. -/
structure Enterable (s : Store) (c : ScoreChange) : Prop where
  item : isStorable c.item = true ∧ ∃ i ∈ s.items, i.id = c.item
  enrollment : isStorable c.enrollment = true ∧ ∃ m ∈ s.enrollments, m.id = c.enrollment
  actor : c.actor = .null ∨ ∃ u ∈ s.users, isStorable u.id = true ∧ c.actor = .int u.id
  reason : Text.hasEncoding c.reason = true

lemma Enterable.accepts (h : Enterable s c) : ∃ actor, Accepts s c actor := by
  obtain ⟨column, actor, hcolumn, hactor⟩ : ∃ column actor,
      columnOf c.actor = .ok column ∧ reference column s.users = .ok actor := by
    rcases h.actor with hactor | ⟨u, hu, hstorable, hactor⟩
    · exact ⟨none, none, by rw [hactor]; rfl, rfl⟩
    · have huser : Table.has u.id s.users = true := Table.has_iff.mpr ⟨u, hu, rfl⟩
      exact ⟨_, some u.id, hactor ▸ columnOf_storable hstorable, by simp [reference, huser]⟩
  exact ⟨actor, ⟨h.item.1, h.enrollment.1⟩, h.reason, h.item.2, h.enrollment.2, column, hcolumn, hactor⟩

variable {r : BatchRequest}

lemma enrollments_isOk {n : Int} (hn : isStorable n = true) :
    ∃ enrollments, s.directory.enrollments (.int n) = .ok enrollments ∧
      enrollments.all Value.isKey = true := by
  cases h : s.directory.enrollments (.int n) with
  | error defect => simp [Store.directory, Directory.enrollments, Value.probe_of_storable hn] at h
  | ok enrollments =>
    refine ⟨enrollments, rfl, List.all_eq_true.mpr fun v hv => ?_⟩
    obtain ⟨m, -, -, rfl⟩ := Directory.enrollments_tabled h hv
    rfl

lemma enterable_of_batch {u : User} {n : Int} {book : GradeBook} {enrollments rows : List Value}
    {cells : List ScoreCell} {changes : List BatchChange} (hs : s.WithinLimits) (hu : u ∈ s.users)
    (storable : isStorable u.id = true) (members : s.directory.enrollments (.int n) = .ok enrollments)
    (formed : ∀ v ∈ rows, WellFormedCell v) (limits : ∀ v ∈ rows, CellWithinLimits v)
    (checked : checkCells (s.itemsOf book.id) enrollments [] rows = .ok cells)
    (differing : batchChanges s (.int u.id) cells = .ok changes) :
    ∀ c ∈ changes, Enterable s c.change := by
  intro c hc
  obtain ⟨cell, hcell, hchange⟩ := batchChanges_cells differing c hc
  obtain ⟨hitem, hmember, v, hv, -, hreason⟩ := checkCells_cells checked cell hcell
  obtain ⟨hmem, -⟩ := mem_itemsOf.mp hitem
  obtain ⟨m, hm, hid, -⟩ := isAmong_registered members hmember
  have hstorable : isStorable cell.enrollment = true := hid ▸ hs.enrollments m hm
  rw [hchange]
  exact {
    item := ⟨hs.items cell.item hmem, cell.item, hmem, rfl⟩
    enrollment := ⟨hstorable, m, hm, hid⟩
    actor := .inr ⟨u, hu, storable, rfl⟩
    reason := reason_encodable (formed v hv).reason (limits v hv).reason hreason }

section Batch

variable {u : User} {n : Int} (hk : Kept s) (hs : s.WithinLimits) (hu : u ∈ s.users)
  (registered : ctx.directory? = none) (place : r.classSection = .int n)
  (teaches : requireSectionTeacher (ctx.directory s) ⟨.int u.id, u.role⟩ (.int n) = .ok ())
  (formed : r.WellFormed) (limits : r.WithinLimits)

include hs registered place teaches formed limits

include hk in
lemma foreseen_batchDecision : Foreseen (upsertScores ctx ⟨.int u.id, u.role⟩ r s) := by
  have hn := (storable_of_teaches registered teaches).2
  obtain ⟨rows, hrows, hformed⟩ := formed.cells
  obtain ⟨enrollments, hmembers, hkeys⟩ := enrollments_isOk hn (s := s)
  have hdirectory : ctx.directory s = s.directory := by simp [Context.directory, registered]
  refine .bind (foreseen_readPositive (.inr ⟨n, place⟩)) fun m hm => ?_
  obtain rfl := readPositive_int (place ▸ hm)
  refine .bind (.of_ok teaches) fun _ _ => .bind (foreseen_existingBook hn) fun book _ => ?_
  refine .bind (foreseen_requireEditable book) fun _ _ => ?_
  rw [hrows, readItems_list, hdirectory, hmembers]
  refine .bind (.of_ok rfl) fun _ hread => .guard rfl fun _ => .bind (.lift rfl) fun _ hfound => ?_
  obtain rfl := Except.ok.inj hread
  obtain rfl := Except.ok.inj (lift_eq_ok.mp hfound)
  refine .ite (fun hnot => by simp [hkeys] at hnot) fun _ => ?_
  have hitems : ∀ i ∈ s.itemsOf book.id, SoundItem i := fun i hi => (hk.items i (mem_itemsOf.mp hi).1).1
  refine .bind (foreseen_checkCells hitems hformed (limits rows hrows)) fun cells hcells => ?_
  refine .bind (foreseen_checkVersion formed.expectedVersion) fun _ _ => ?_
  have hscores : ∀ c ∈ cells, InHundredths c.score := fun c hc => by
    obtain ⟨-, -, _, -, hscore, -⟩ := checkCells_cells hcells c hc
    exact checkScore_inHundredths hscore
  obtain ⟨changes, hchanges⟩ := batchChanges_isOk hk hs (.int u.id) hscores
  exact .bind (.lift hchanges) fun _ _ => .ite (fun _ => .pure _) fun _ => .pure _

include hu in
lemma foreseen_batchWrite {d : Decision BatchResult} (hd : upsertScores ctx ⟨.int u.id, u.role⟩ r s = .ok d) :
    Foreseen (d.apply s) := by
  have hself := (storable_of_teaches registered teaches).1
  obtain ⟨rows, hrows, hformed⟩ := formed.cells
  simp only [upsertScores, requireEditable, hrows, readItems_list, bind_eq_ok, when_eq_ok, exists_unit,
    guard_eq_ok, lift_eq_ok, Except.ok.injEq] at hd
  obtain ⟨m, hm, -, book, -, -, _, rfl, -, enrollments, hmembers, -, cells, hcells, -, changes, hchanges,
    hd⟩ := hd
  obtain rfl := readPositive_int (place ▸ hm)
  simp only [Context.directory, registered, Option.getD_none] at hmembers
  split_ifs at hd
  · rw [← pure_eq_ok.mp hd]
    exact .of_ok rfl
  · have hall := enterable_of_batch hs hu hself hmembers hformed (limits rows hrows) hcells hchanges
    obtain ⟨t, ht⟩ := applyBatch_isOk_iff.mpr fun c hc => (hall c hc).accepts
    rw [← pure_eq_ok.mp hd]
    refine .bind (.of_ok ht) fun t _ => ?_
    exact .bind ((fitting_changeBook _ _).foreseen rfl) fun _ _ => .pure _

include hk hu in
lemma foreseen_upsertScores : Foreseen ((upsertScores ctx ⟨.int u.id, u.role⟩ r).run s) :=
  foreseen_run (foreseen_batchDecision hk hs registered place teaches formed limits)
    fun _ => foreseen_batchWrite hs hu registered place teaches formed limits

end Batch

end Scores

end Gradebook

end Assessment
