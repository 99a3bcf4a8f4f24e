import Assessment.Proofs.Gradebook.Recording
import Assessment.Proofs.Number.Quotients

/-!
# A batch overrides scores

A batch of scores that is taken overrides the scores at the places of its cells and leaves all others. What
it changes is counted and logged cell by cell, and the order of its cells does not matter.
-/

namespace Assessment

open Access Number Request

/-- The score of an enrollment under an item. An entry that is missing has none. -/
def Store.scoreOf (s : Store) (item enrollment : Int) : Option ℚ :=
  Gradebook.scoreValue ((s.entryOf? item enrollment).bind (·.score))

namespace Gradebook

/-- A number with two places, a half going up. -/
def halfUp (x : ℚ) : ℚ := ⌊x * 100 + 1 / 2⌋ / 100

/-- What a value reads as for a score. -/
inductive ReadsAs (v : Value) : Option ℚ → Prop
  | nothing (absent : v.isNull = true) : ReadsAs v none
  | number {d : Decimal} (given : v.isNull = false) (read : Decimal.read? v.display = some d)
      (finite : d.isFinite = true) : ReadsAs v (some (halfUp d.value))

/-- The score of a cell as a number. -/
def ScoreCell.value (c : ScoreCell) : Option ℚ := c.score.map Decimal.value

/-- Does a cell have another score than there is at its place? -/
def ScoreCell.isNew (s : Store) (c : ScoreCell) : Bool := c.value != s.scoreOf c.item.id c.enrollment

/-- A row of a batch stands for a cell: it names the item and the enrollment, and it gives the score and, if
it has one, the reason. -/
structure StandsFor (items : List GradeItem) (v : Value) (c : ScoreCell) : Prop where
  known : c.item ∈ items
  item : readCellNumber (v.memberOrNull "grade_item_id") = .ok c.item.id
  enrollment : readCellNumber (v.memberOrNull "enrollment_id") = .ok c.enrollment
  score : ReadsAs (v.memberOrNull "score") c.value
  reason : reasonOr (v.memberOrNull "reason") manualReason = .ok c.reason

/-- The cells of a batch, entered by a caller into a book, override the scores at their places. Those that are
new are recorded one by one, and with them the book is touched; everything else stays as it is. -/
structure Overrides (ctx : Context) (caller : Caller) (book : GradeBook) (cells : List ScoreCell)
    (s t : Store) : Prop where
  score : ∀ c ∈ cells, t.scoreOf c.item.id c.enrollment = c.value
  elsewhere : ∀ item enrollment, (∀ c ∈ cells, c.place ≠ (item, enrollment)) →
    t.scoreOf item enrollment = s.scoreOf item enrollment
  log : ∃ rows, t.audits = s.audits ++ rows ∧
    List.Forall₂ (fun c r => Recorded ctx.now s t (c.change caller.id) r ∧ scoreValue r.newScore = c.value)
      (cells.filter (·.isNew s)) rows
  others : (t.entries.filter fun e => !cells.any fun c => c.isNew s && isAt c.item.id c.enrollment e) =
    s.entries.filter fun e => !cells.any fun c => c.isNew s && isAt c.item.id c.enrollment e
  books : t.books =
    if 0 < cells.countP (·.isNew s) then Table.modify book.id (touched ctx.now) s.books else s.books
  rest : t = { s with books := t.books, entries := t.entries, audits := t.audits }

/-- Two operations fare alike: both fail, or both succeed with the same answer; and they leave the same
scores and the same books. -/
structure Alike (x y : Except Fault (Option Value) × Session) : Prop where
  accepted : (∃ a, x.1 = .ok a) ↔ ∃ a, y.1 = .ok a
  answer : ∀ a b, x.1 = .ok a → y.1 = .ok b → a = b
  scores : ∀ item enrollment, x.2.store.scoreOf item enrollment = y.2.store.scoreOf item enrollment
  books : x.2.store.books = y.2.store.books

section Scores

variable {s t : Store} {c : ScoreCell}

lemma halfUp_of_rounded {d x : Decimal} (finite : d.isFinite = true) (h : d.toHundredths .halfUp = .ok x)
    (nonneg : 0 ≤ x.value) : x.value = halfUp d.value := by
  obtain ⟨sign, n, -, rfl⟩ := Decimal.toHundredths_finite finite h
  cases d with
  | nan | infinite => simp [Decimal.isFinite] at finite
  | finite s k e =>
    obtain ⟨rfl, hn⟩ := Decimal.toHundredths_halfUp h
    have hk := Decimal.magnitude_nonneg k e
    rw [Decimal.value_finite, Decimal.magnitude_hundredths] at nonneg ⊢
    rw [Decimal.value_finite, halfUp]
    cases sign with
    | false =>
      simp only [Bool.false_eq_true, if_false]
      rw [hn, natCast_floor_eq_intCast_floor (by positivity)]
    | true =>
      -- A negative number that rounds to no negative one is less than half a hundredth.
      simp only [if_true] at nonneg ⊢
      have hzero : n = 0 := by
        have hle : (n : ℚ) ≤ 0 := by linarith
        exact Nat.le_zero.mp (by exact_mod_cast hle)
      have hsmall : Decimal.magnitude k e * 100 + 1 / 2 < 1 := Nat.floor_eq_zero.mp (hn ▸ hzero)
      have hfloor : ⌊-Decimal.magnitude k e * 100 + 1 / 2⌋ = 0 :=
        Int.floor_eq_zero_iff.mpr ⟨by linarith, by linarith⟩
      rw [hzero, hfloor]
      norm_num

lemma reads_of_checkScore {i : GradeItem} {v : Value} {score : Option Decimal}
    (h : checkScore i v = .ok score) (nonneg : ∀ d, score = some d → 0 ≤ d.value) :
    ReadsAs v (score.map Decimal.value) := by
  simp only [checkScore, bind_eq_ok, readScore?] at h
  obtain ⟨found, hfound, h⟩ := h
  split_ifs at hfound with hnull
  · cases hfound
    cases h
    exact .nothing hnull
  · simp only [bind_eq_ok, lift_eq_ok, pure_eq_ok] at hfound
    obtain ⟨d, hd, x, hx, rfl⟩ := hfound
    simp only [bind_eq_ok, guard_eq_ok, pure_eq_ok] at h
    obtain ⟨_, -, _, -, -, rfl⟩ := h
    obtain ⟨hread, hfinite⟩ := readDecimal_eq_ok hd
    rw [Option.map_some, halfUp_of_rounded hfinite hx (nonneg x rfl)]
    exact .number (Bool.eq_false_iff.mpr hnull) hread hfinite

section Asking

variable {book : Int} {enrollments : List Value} {v : Value} (hr : InRange s) (hp : PositiveMaxima s)
  (h : Asks (s.itemsOf book) enrollments v c)

include hr hp h

lemma Asks.between : ∀ d, c.score = some d → Between 999999 d := by
  intro d hd
  obtain ⟨hitem, -⟩ := mem_itemsOf.mp (Table.mem_of_find? h.found).1
  obtain ⟨n, hle, hmax⟩ := hr.hundredths hp hitem
  obtain ⟨hnonneg, hwithin⟩ := checkScore_between hmax h.score d hd
  exact ⟨hnonneg, hwithin.mono hle⟩

lemma Asks.standsFor : StandsFor (s.itemsOf book) v c where
  known := (Table.mem_of_find? h.found).1
  item := h.item
  enrollment := h.enrollment
  score := reads_of_checkScore h.score fun d hd => (h.between hr hp d hd).1
  reason := h.reason

end Asking

lemma isNew_of_differs (hl : Logged s) {n : Nat} (within : ∀ d, c.score = some d → Within n d) {actor : Value}
    {b : Bool} (h : c.differs s actor = .ok b) : b = c.isNew s := by
  have readable : ∀ e, s.entryOf? c.item.id c.enrollment = some e → Readable e.score :=
    fun e he => hl.readable e (entryOf?_eq_some he).1
  cases b with
  | true => exact (bne_iff_ne.mpr (Ne.symm (value_ne_of_changes readable within h))).symm
  | false => exact (bne_eq_false_iff_eq.mpr (value_eq_of_unchanged readable within h).symm).symm

end Scores

section Batches

variable {P : Context → Service → Prop} {ctx : Context} {caller : Caller} {r : BatchRequest} {s t t' : Store}
  {book : GradeBook} {classSection : Int} {rows enrollments : List Value} {cells cells' : List ScoreCell}
  {changes : List BatchChange}

lemma changes_eq_new (hl : Logged s) {n : Nat} (within : ∀ c ∈ cells, ∀ d, c.score = some d → Within n d)
    {actor : Value} (h : batchChanges s actor cells = .ok changes) :
    changes.map (·.change) = (cells.filter (·.isNew s)).map (·.change actor) := by
  obtain ⟨p, hp, hchanges⟩ := batchChanges_eq_filter h
  rw [hchanges, List.filter_congr fun c hc => isNew_of_differs hl (within c hc) (hp c hc)]

section Records

variable (within : ∀ c ∈ cells, ∀ d, c.score = some d → Within 999999 d)
  (apart : cells.Pairwise fun c d => c.place ≠ d.place)
  (h : Records ctx.now s t ((cells.filter (·.isNew s)).map (·.change caller.id)))

include h

lemma scoreOf_of_records {item enrollment : Int}
    (elsewhere : ∀ c ∈ cells, c.isNew s = true → c.place ≠ (item, enrollment)) :
    t.scoreOf item enrollment = s.scoreOf item enrollment := by
  rw [Store.scoreOf, entryOf?_of_records h elsewhere, Store.scoreOf]

include within

lemma logged_of_records : ∃ rows, t.audits = s.audits ++ rows ∧
    List.Forall₂ (fun c r => Recorded ctx.now s t (c.change caller.id) r ∧ scoreValue r.newScore = c.value)
      (cells.filter (·.isNew s)) rows := by
  obtain ⟨rows, hlog, hrows⟩ := h.log
  have hwithin : ∀ c ∈ cells.filter (·.isNew s), ∀ d, c.score = some d → Within 999999 d :=
    fun c hc => within c (List.mem_filter.mp hc).1
  refine ⟨rows, hlog, ((List.forall₂_and_left _ _).mpr ⟨hwithin, List.forall₂_map_left_iff.mp hrows⟩).imp ?_⟩
  rintro c r ⟨hwithin, hrecorded⟩
  refine ⟨hrecorded, ?_⟩
  rw [hrecorded.new]
  exact (stored_score (by norm_num) hwithin).2

include apart

lemma scoreOf_cell {c : ScoreCell} (hc : c ∈ cells) : t.scoreOf c.item.id c.enrollment = c.value := by
  by_cases hnew : c.isNew s = true
  · obtain ⟨e, he, hscore⟩ := entryOf?_of_entered h hc hnew
    rw [Store.scoreOf, he, Option.bind_some, hscore]
    exact (stored_score (by norm_num) (within c hc)).2
  · have hsame : c.value = s.scoreOf c.item.id c.enrollment := by simpa [ScoreCell.isNew] using hnew
    rw [hsame, Store.scoreOf, entryOf?_of_left h apart hc hnew, Store.scoreOf]

lemma overrides_of_records (frame : t = { s with entries := t.entries, audits := t.audits }) :
    Overrides ctx caller book cells s { t with
      books := if 0 < cells.countP (·.isNew s) then Table.modify book.id (touched ctx.now) s.books
        else s.books } where
  score c hc := scoreOf_cell within apart h hc
  elsewhere item enrollment hplace := scoreOf_of_records h fun c hc _ => hplace c hc
  log := by
    obtain ⟨rows, hlog, hrows⟩ := logged_of_records within h
    exact ⟨rows, hlog, hrows.imp fun c r hr => ⟨hr.1.later rfl, hr.2⟩⟩
  others := by
    refine h.others _ fun change hchange e he => ?_
    obtain ⟨c, hc, rfl⟩ := List.mem_map.mp hchange
    obtain ⟨hc, hnew⟩ := List.mem_filter.mp hc
    refine List.any_eq_true.mpr ⟨c, hc, ?_⟩
    rw [hnew, Bool.true_and]
    exact he
  books := rfl
  rest := by
    rw [frame]

end Records

lemma Taken.records (h : Taken ctx caller r s classSection book enrollments rows cells changes t)
    (reachable : Reachable P s) : Records ctx.now s t (changes.map (·.change)) :=
  applyBatch_records (integrity_of_reachable reachable) (kept_of_reachable reachable).places h.entered
    (apart_of_batch h.checked h.differing)

/-- A batch that is taken overrides scores, and answers how many are new and the version that it makes. -/
lemma Taken.overrides (h : Taken ctx caller r s classSection book enrollments rows cells changes t)
    (reachable : Reachable P s) (hr : InRange s) :
    List.Forall₂ (StandsFor (s.itemsOf book.id)) rows cells ∧
      (concluded ctx book changes t).1 = ⟨cells.countP (·.isNew s),
        book.version + if 0 < cells.countP (·.isNew s) then 1 else 0⟩ ∧
      Overrides ctx caller book cells s (concluded ctx book changes t).2 := by
  have hk := kept_of_reachable reachable
  have hp : PositiveMaxima s := fun i hi => (hk.items i hi).1.maxScore
  obtain ⟨hasks, hapart⟩ := checkCells_iff.mp h.checked
  have within : ∀ c ∈ cells, ∀ d, c.score = some d → Within 999999 d := by
    intro c hc d hd
    obtain ⟨v, -, hv⟩ := exists_of_forall₂ hasks c hc
    exact (hv.between hr hp d hd).2
  have hchanges := changes_eq_new (logged_of_reachable reachable hr) within h.differing
  have hcount : changes.length = cells.countP (·.isNew s) := by
    rw [List.countP_eq_length_filter, ← List.length_map, hchanges, List.length_map]
  have hrecords : Records ctx.now s t ((cells.filter (·.isNew s)).map (·.change caller.id)) :=
    hchanges ▸ h.records reachable
  have hframe := applyBatch_frame h.entered
  have hbooks : t.books = s.books := by rw [hframe]
  have hoverrides : Overrides ctx caller book cells s _ := overrides_of_records within hapart hrecords hframe
  refine ⟨hasks.imp fun v c hv => hv.standsFor hr hp, ?_⟩
  rw [← hcount] at hoverrides ⊢
  rw [concluded]
  by_cases hempty : changes.isEmpty = true
  · have hzero : ¬0 < changes.length := by simpa using hempty
    rw [if_neg hzero, ← hbooks] at hoverrides
    rw [if_pos hempty, if_neg hzero, add_zero, List.isEmpty_iff_length_eq_zero.mp hempty]
    exact ⟨rfl, hoverrides⟩
  · have hpos : 0 < changes.length := by simpa [List.length_pos_iff] using hempty
    rw [if_pos hpos, ← hbooks] at hoverrides
    rw [if_neg hempty, if_pos hpos]
    exact ⟨rfl, hoverrides⟩

lemma run_upsertScores (ctx : Context) (caller : Caller) (r : BatchRequest) (s : Store) :
    (Call.upsertScores caller r).run ctx (.ofStore s) =
      match (upsertScores ctx caller r).run s with
      | .ok (a, t) => (.ok (some a.report), .ofStore t)
      | .error fault => (.error fault, .ofStore s) := by
  cases h : (upsertScores ctx caller r).run s with
  | error fault => exact Action.bind_of_error (Action.commit_of_error rfl h)
  | ok a => exact Action.bind_of_ok (Action.commit_of_ok rfl h)

lemma Overrides.perm (h : Overrides ctx caller book cells s t)
    (h' : Overrides ctx caller book cells' s t') (order : cells.Perm cells') :
    (∀ item enrollment, t.scoreOf item enrollment = t'.scoreOf item enrollment) ∧ t.books = t'.books := by
  constructor
  · intro item enrollment
    by_cases hcell : ∃ c ∈ cells, c.place = (item, enrollment)
    · obtain ⟨c, hc, hplace⟩ := hcell
      obtain ⟨rfl, rfl⟩ := Prod.mk.inj hplace
      rw [h.score c hc, h'.score c (order.mem_iff.mp hc)]
    · have hnone : ∀ c ∈ cells, c.place ≠ (item, enrollment) := fun c hc hplace => hcell ⟨c, hc, hplace⟩
      rw [h.elsewhere item enrollment hnone,
        h'.elsewhere item enrollment fun c hc => hnone c (order.mem_iff.mpr hc)]
  · rw [h.books, h'.books, order.countP_eq]

/-- A batch fares alike in every order of its rows. -/
lemma alike_of_perm {values : Value} {rows' : List Value} (reachable : Reachable P s) (hr : InRange s)
    (order : rows.Perm rows') (given : readItems r.cells = .ok rows) (given' : readItems values = .ok rows') :
    Alike ((Call.upsertScores caller r).run ctx (.ofStore s))
      ((Call.upsertScores caller { r with cells := values }).run ctx (.ofStore s)) := by
  rw [run_upsertScores, run_upsertScores]
  cases h : (upsertScores ctx caller r).run s with
  | error fault =>
    cases h' : (upsertScores ctx caller { r with cells := values }).run s with
    | error fault' => exact ⟨by simp, by simp, fun _ _ => rfl, rfl⟩
    | ok a =>
      obtain ⟨_, _, _, rows₁, _, _, _, taken, -⟩ := upsertScores_iff.mp h'
      obtain rfl : rows' = rows₁ := Except.ok.inj (given'.symm.trans taken.given)
      obtain ⟨_, _, _, -, taken⟩ := taken.perm order.symm given
      cases h.symm.trans taken.concludes
  | ok a =>
    obtain ⟨_, _, _, rows₁, _, _, _, taken, rfl⟩ := upsertScores_iff.mp h
    obtain rfl : rows = rows₁ := Except.ok.inj (given.symm.trans taken.given)
    obtain ⟨_, _, _, hcells, taken'⟩ := taken.perm order given'
    rw [taken'.concludes]
    obtain ⟨-, hanswer, hoverrides⟩ := taken.overrides reachable hr
    obtain ⟨-, hanswer', hoverrides'⟩ := taken'.overrides reachable hr
    obtain ⟨hscores, hbooks⟩ := hoverrides.perm hoverrides' hcells
    refine ⟨by simp, ?_, hscores, hbooks⟩
    rintro x y hx hy
    rw [← Except.ok.inj hx, ← Except.ok.inj hy, hanswer, hanswer', hcells.countP_eq]

end Batches

/-- In every store that can be reached and whose items have maxima of at most 9999.99, a batch of scores that
is taken has a row for each of its cells, at places apart; afterwards the score at the place of a cell is the
one that its row gives, rounded with a half going up, and everywhere else it is what it was. The batch answers
how many cells are new and the version, which rises by one if any is; each new cell is logged with the old
score, the new one, the caller and the reason, and nothing else changes. In every other order of its rows, a
batch is taken as well or refused as well, with the same answer, scores and books. -/
theorem batch_overrides_scores {P : Context → Service → Prop} {s : Store} (h : Reachable P s)
    (hr : ∀ i ∈ s.items, i.maxScore.toDecimal.value ≤ 9999.99) (ctx : Context) (caller : Caller)
    (r : BatchRequest) :
    (∀ data σ, (Call.upsertScores caller r).run ctx (.ofStore s) = (.ok data, σ) →
      ∃ classSection book rows cells,
        readPositive "Class section id" r.classSection = .ok classSection ∧
        s.bookOf? classSection = some book ∧ readItems r.cells = .ok rows ∧
        List.Forall₂ (StandsFor (s.itemsOf book.id)) rows cells ∧ (cells.map (·.place)).Nodup ∧
        Overrides ctx caller book cells s σ.store ∧
        data = some (BatchResult.report ⟨cells.countP (·.isNew s),
          book.version + if 0 < cells.countP (·.isNew s) then 1 else 0⟩)) ∧
    ∀ values rows rows', readItems r.cells = .ok rows → readItems values = .ok rows' → rows.Perm rows' →
      Alike ((Call.upsertScores caller r).run ctx (.ofStore s))
        ((Call.upsertScores caller { r with cells := values }).run ctx (.ofStore s)) := by
  refine ⟨fun data σ hrun => ?_, fun values rows rows' given given' order => ?_⟩
  · rw [run_upsertScores] at hrun
    cases hok : (upsertScores ctx caller r).run s with
    | error fault =>
      rw [hok] at hrun
      cases hrun
    | ok a =>
      rw [hok] at hrun
      cases hrun
      obtain ⟨classSection, book, _, rows, cells, _, _, taken, rfl⟩ := upsertScores_iff.mp hok
      obtain ⟨hrows, hanswer, hoverrides⟩ := taken.overrides h hr
      obtain ⟨-, -, hbook⟩ := existingBook_eq_ok taken.found
      have hnodup : (cells.map (·.place)).Nodup := List.pairwise_map.mpr (checkCells_iff.mp taken.checked).2
      exact ⟨classSection, book, rows, cells, taken.named, hbook, taken.given, hrows, hnodup, hoverrides,
        congrArg (fun a => some a.report) hanswer⟩
  · exact alike_of_perm h hr order given given'

/-- A row of a batch. -/
def scoreCell (item enrollment : Int) (score : Value) : Value :=
  .object [("grade_item_id", .int item), ("enrollment_id", .int enrollment), ("score", score)]

/-- The store after three scores are entered under two items. -/
def threeEntered : Store :=
  let teacher : Caller := ⟨.int 1, "TEACHER"⟩
  let item (name : String) : Service :=
    .call (.addItem teacher ⟨.int 1, .text name, .int 10, .null, .bool true, .null, .null⟩)
  (Scenario.State.start .standard).context.serve
    [item "Midterm", item "Final", .call (.upsertScores teacher ⟨.int 1,
      .list [scoreCell 1 1 (.int 7), scoreCell 1 2 (.int 5), scoreCell 2 1 (.int 3)], .null⟩)]
    (Scenario.State.start .standard).store

/-- A batch with a score that is rounded, one that stays, one that is cleared, and none where there is none. -/
def mixedRows : List Value :=
  [scoreCell 1 1 (.text "8.505"), scoreCell 1 2 (.text "5.004"), scoreCell 2 1 .null, scoreCell 2 2 .null]

theorem batch_overrides_scores_of_mixed :
    let ctx := (Scenario.State.start .standard).context
    let enter (rows : List Value) :=
      (Call.upsertScores ⟨.int 1, "TEACHER"⟩ ⟨.int 1, .list rows, .null⟩).run ctx (.ofStore threeEntered)
    ∃ σ, enter mixedRows = (.ok (some (BatchResult.report ⟨2, 5⟩)), σ) ∧ σ.store.scoreOf 1 1 = some 8.51 ∧
      Alike (enter mixedRows) (enter mixedRows.reverse) := by
  intro ctx enter
  have h : Reachable (fun _ _ => True) threeEntered := .serve (fun _ _ => trivial) _ _ _
  have hmax : ∀ i ∈ threeEntered.items, i.maxScore.toDecimal = .finite false 1000 (-2) := by
    decide +kernel
  have hr : ∀ i ∈ threeEntered.items, i.maxScore.toDecimal.value ≤ 9999.99 := by
    intro i hi
    rw [hmax i hi, Decimal.value_finite, Decimal.magnitude_hundredths]
    norm_num
  obtain ⟨hbatch, horder⟩ := batch_overrides_scores h hr ctx ⟨.int 1, "TEACHER"⟩
    ⟨.int 1, .list mixedRows, .null⟩
  have hdata : (enter mixedRows).1 = .ok (some (BatchResult.report ⟨2, 5⟩)) := by decide +kernel
  have hrun : enter mixedRows = (.ok (some (BatchResult.report ⟨2, 5⟩)), (enter mixedRows).2) :=
    Action.eq_of_answer hdata
  obtain ⟨_, _, rows, cells, -, -, hrows, hcells, -, hoverrides, -⟩ := hbatch _ _ hrun
  obtain rfl : mixedRows = rows := Except.ok.inj ((readItems_list mixedRows).symm.trans hrows)
  unfold mixedRows at hcells
  obtain ⟨c, rest, hfirst, -, rfl⟩ := List.forall₂_cons_left_iff.mp hcells
  have hitem : c.item.id = 1 := Except.ok.inj (hfirst.item.symm.trans rfl)
  have henrollment : c.enrollment = 1 := Except.ok.inj (hfirst.enrollment.symm.trans rfl)
  have hvalue : c.value = some 8.51 := by
    have hreads : ReadsAs (.text "8.505") c.value := hfirst.score
    generalize c.value = x at hreads
    cases hreads with
    | nothing absent => cases absent
    | number _ read _ =>
      have hread : Decimal.read? (Value.text "8.505").display = some (.finite false 8505 (-3)) := by
        decide +kernel
      rw [hread] at read
      cases read
      norm_num [halfUp, Decimal.value_finite, Decimal.magnitude]
  have hscore := hoverrides.score c (List.mem_cons_self ..)
  rw [hitem, henrollment, hvalue] at hscore
  exact ⟨_, hrun, hscore, horder (.list mixedRows.reverse) mixedRows _ (readItems_list _) (readItems_list _)
    (List.reverse_perm _).symm⟩

end Gradebook

end Assessment
