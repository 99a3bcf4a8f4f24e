import Assessment.Call
import Assessment.Proofs.Gradebook.Batches

/-!
# What is written into gradebooks

A book is opened, given items and scores, put up for approval, and decided on. Scores are entered one by
one, each with a row in the log; `withScore` is the store after one of them. A batch is `Taken` if it passes
its checks and the store takes each score that it changes.
-/

namespace Assessment.Gradebook

open Access Request

/-- The row of a book that is opened. -/
def opened (classSection : Int) (now : Time.Instant) (s : Store) : GradeBook :=
  ⟨Table.nextId s.books, classSection, .draft, 1, none, none, now, now⟩

/-- The store after a score is entered for an actor. -/
def withScore (c : ScoreChange) (actor : Option Int) (now : Time.Instant) (s : Store) : Store :=
  let entry := s.entryOf? c.item c.enrollment
  let changed := enter c actor now s.entries entry
  { s with
    entries := changed.2
    audits := s.audits ++
      [⟨Table.nextId s.audits, changed.1, actor, entry.bind (·.score), c.score.bind Amount.ofDecimal?,
        c.reason, now⟩] }

/-- The row of a request for approval. -/
def request (book teacher : Int) (message : Option String) (now : Time.Instant) (s : Store) : Approval :=
  ⟨Table.nextId s.approvals, book, .pending, teacher, now, message, none, none, none⟩

/-- The opening of a section's first book. -/
structure Opening (ctx : Context) (s s' : Store) : Prop where
  written : ∃ classSection, s.bookOf? classSection = none ∧
    (∃ c ∈ s.classSections, c.id = classSection) ∧
    s' = { s with books := s.books ++ [opened classSection ctx.now s] }

lemma Opening.frame {ctx : Context} {s s' : Store} (w : Opening ctx s s') :
    s' = { s with books := s'.books } := by
  obtain ⟨_, -, -, rfl⟩ := w
  rfl

/-- What a call on a gradebook writes. -/
inductive Write (ctx : Context) (s : Store) : Call → Store → Prop
  | item {caller : Caller} {r : ItemRequest} {item : CheckedItem} {book : GradeBook} {order : Cell}
      (checked : checkItem ctx caller r s = .ok item)
      (found : existingBook item.classSection s = .ok book)
      (editable : book.status.isEditable = true)
      (version : checkVersion book r.expectedVersion = .ok ())
      (fresh : (s.itemsOf book.id).any (fun i => nameKey i.name == Text.upper item.name) = false)
      (place : orderOf r.order (s.itemsOf book.id).length = .ok (some order)) :
      Write ctx s (.addItem caller r)
        { s with
          books := Table.modify book.id (touched ctx.now) s.books
          items := s.items ++
            [itemRow book.id item r.required.truthy ctx.now order (Table.nextId s.items)] }
  | batch {caller : Caller} {r : BatchRequest} {classSection : Int} {book : GradeBook}
      {enrollments rows : List Value} {cells : List ScoreCell} {changes : List BatchChange} {t : Store}
      (teacher : requireSectionTeacher (ctx.directory s) caller (.int classSection) = .ok ())
      (found : existingBook classSection s = .ok book)
      (editable : book.status.isEditable = true)
      (members : (ctx.directory s).enrollments (.int classSection) = .ok enrollments)
      (checked : checkCells (s.itemsOf book.id) enrollments [] rows = .ok cells)
      (version : checkVersion book r.expectedVersion = .ok ())
      (differing : batchChanges s caller.id cells = .ok changes) (some : changes ≠ [])
      (entered : applyBatch ctx.now changes s = .ok t)
      (named : readPositive "Class section id" r.classSection = .ok classSection) :
      Write ctx s (.upsertScores caller r)
        { t with books := Table.modify book.id (touched ctx.now) t.books }
  | request {caller : Caller} {classSection message expected : Value} {id teacher : Int}
      {book : GradeBook} {text : Option String} {enrollments : List Value}
      (self : requireSectionTeacher (ctx.directory s) caller (.int id) = .ok ())
      (found : existingBook id s = .ok book) (editable : book.status.isEditable = true)
      (version : checkVersion book expected = .ok ())
      (members : (ctx.directory s).enrollments (.int id) = .ok enrollments)
      (complete : missingFor s book.id enrollments = .ok [])
      (named : readPositive "Class section id" classSection = .ok id) :
      Write ctx s (.requestApproval caller classSection message expected)
        { s with
          books := Table.modify book.id (requested ctx.now) s.books
          approvals := s.approvals ++ [request book.id teacher text ctx.now s] }
  | decide {verdict : Verdict} {caller : Caller} {classSection message expected : Value} {id : Int}
      {book : GradeBook} {approval : Approval} {text : Option String} {column : Option Cell}
      {admin : Option Int}
      (self : requireAdministrator caller = .ok ())
      (found : existingBook id s = .ok book) (awaiting : book.status = .pendingApproval)
      (version : checkVersion book expected = .ok ())
      (latest : s.lastApproval? book.id = some approval) (pending : approval.outcome = .pending)
      (name : columnOf caller.id = .ok column) (known : reference column s.users = .ok admin)
      (named : readPositive "Class section id" classSection = .ok id) :
      Write ctx s (.decide verdict caller classSection message expected)
        { s with
          books := Table.modify book.id (judged verdict ctx.now) s.books
          approvals := Table.modify approval.id (answered verdict admin text ctx.now) s.approvals }

section Scores

variable {now : Time.Instant} {s s' : Store}

/-- The store takes a score from an actor: its columns can hold what the score refers to, and that is there. -/
structure Accepts (s : Store) (c : ScoreChange) (actor : Option Int) : Prop where
  storable : isStorable c.item = true ∧ isStorable c.enrollment = true
  reason : Text.hasEncoding c.reason = true
  item : ∃ i ∈ s.items, i.id = c.item
  enrollment : ∃ m ∈ s.enrollments, m.id = c.enrollment
  actor : ∃ column, columnOf c.actor = .ok column ∧ reference column s.users = .ok actor

lemma applyScore_iff {c : ScoreChange} : applyScore c now s = .ok ((), s') ↔
    ∃ actor, Accepts s c actor ∧ s' = withScore c actor now s := by
  simp only [applyScore, requireStorable, requireEncoding, bind_eq_ok, exists_unit, pure_eq_ok, when_eq_ok,
    requireRow_eq_ok, List.all_cons, List.all_nil, Bool.and_true, Bool.and_eq_true, Prod.mk.injEq, and_true,
    true_and]
  constructor
  · rintro ⟨hstorable, hreason, column, hcolumn, hitem, henrollment, actor, hactor, rfl⟩
    exact ⟨actor, ⟨hstorable, hreason, hitem, henrollment, column, hcolumn, hactor⟩, rfl⟩
  · rintro ⟨actor, ⟨hstorable, hreason, hitem, henrollment, column, hcolumn, hactor⟩, rfl⟩
    exact ⟨hstorable, hreason, column, hcolumn, hitem, henrollment, actor, hactor, rfl⟩

lemma applyScore_eq_ok {c : ScoreChange} {u : Unit} (h : applyScore c now s = .ok (u, s')) :
    ∃ actor, (∃ i ∈ s.items, i.id = c.item) ∧ (∃ e ∈ s.enrollments, e.id = c.enrollment) ∧
      s' = withScore c actor now s := by
  obtain ⟨actor, haccepts, hs⟩ := applyScore_iff.mp h
  exact ⟨actor, haccepts.item, haccepts.enrollment, hs⟩

lemma applyBatch_cons {c : BatchChange} {changes : List BatchChange} :
    applyBatch now (c :: changes) s = .ok s' ↔ ∃ actor, Accepts s c.change actor ∧
      applyBatch now changes (withScore c.change actor now s) = .ok s' := by
  rw [applyBatch]
  cases hc : applyScore c.change now s with
  | error violation =>
    have hrefuses : ∀ actor, ¬Accepts s c.change actor := fun actor h => by
      rw [applyScore_iff.mpr ⟨actor, h, rfl⟩] at hc
      cases hc
    cases violation <;> simp [hrefuses]
  | ok r =>
    obtain ⟨actor, haccepts, ht⟩ := applyScore_iff.mp hc
    constructor
    · exact fun h => ⟨actor, haccepts, ht ▸ h⟩
    · rintro ⟨actor', haccepts', h⟩
      rw [applyScore_iff.mpr ⟨actor', haccepts', rfl⟩] at hc
      rw [← Except.ok.inj hc]
      exact h

lemma applyBatch_isOk_iff {changes : List BatchChange} :
    (∃ t, applyBatch now changes s = .ok t) ↔ ∀ c ∈ changes, ∃ actor, Accepts s c.change actor := by
  induction changes generalizing s with
  | nil => exact ⟨fun _ => List.forall_mem_nil _, fun _ => ⟨s, rfl⟩⟩
  | cons c changes ih =>
    have hrest (actor : Option Int) : (∃ t, applyBatch now changes (withScore c.change actor now s) = .ok t) ↔
        ∀ d ∈ changes, ∃ actor, Accepts s d.change actor := by
      refine ih.trans (forall₂_congr fun d _ => exists_congr fun a => ?_)
      exact ⟨fun h => { h with }, fun h => { h with }⟩
    simp only [applyBatch_cons, List.forall_mem_cons]
    rw [exists_comm]
    simp only [exists_and_left, hrest, exists_and_right]

lemma applyBatch_induction {P : Store → Prop} {changes : List BatchChange}
    (h : applyBatch now changes s = .ok s') (start : P s)
    (step : ∀ t, P t → ∀ c ∈ changes, ∀ actor, (∃ i ∈ t.items, i.id = c.change.item) →
      P (withScore c.change actor now t)) : P s' := by
  induction changes generalizing s with
  | nil =>
    cases h
    exact start
  | cons c changes ih =>
    obtain ⟨actor, haccepts, h⟩ := applyBatch_cons.mp h
    have hnext := step s start c (List.mem_cons_self ..) actor haccepts.item
    exact ih h hnext fun u hu d hd => step u hu d (List.mem_cons_of_mem _ hd)

lemma withScore_frame (c : ScoreChange) (actor : Option Int) (s : Store) :
    withScore c actor now s = { s with
      entries := (withScore c actor now s).entries
      audits := (withScore c actor now s).audits } := rfl

lemma applyBatch_frame {changes : List BatchChange} (h : applyBatch now changes s = .ok s') :
    s' = { s with entries := s'.entries, audits := s'.audits } := by
  refine applyBatch_induction (P := fun t => t = { s with entries := t.entries, audits := t.audits })
    h rfl ?_
  intro t ht c _ actor _
  rw [withScore_frame, ht]

end Scores

lemma changeBook_eq_ok {seen : GradeBook} {f : GradeBook → GradeBook} {s s' : Store} {u : Unit} :
    changeBook seen f s = .ok (u, s') →
      s' = { s with books := Table.modify seen.id f s.books } := by
  intro h
  simp only [changeBook, when_eq_ok, Except.ok.injEq, Prod.mk.injEq] at h
  exact h.2.2.symm

lemma changeBook_of_mem {seen : GradeBook} {s : Store} (h : seen ∈ s.books) (f : GradeBook → GradeBook) :
    changeBook seen f s = .ok ((), { s with books := Table.modify seen.id f s.books }) := by
  have hany : (s.books.any fun b => b.id == seen.id && b.version == seen.version) = true :=
    List.any_eq_true.mpr ⟨seen, h, by simp⟩
  simp only [changeBook, if_pos hany]

lemma Write.frame {ctx : Context} {s s' : Store} {c : Call} (w : Write ctx s c s') :
    s' = { s with
      books := s'.books
      items := s'.items
      entries := s'.entries
      approvals := s'.approvals
      audits := s'.audits } := by
  cases w with
  | batch _ _ _ _ _ _ _ _ entered => rw [applyBatch_frame entered]
  | item | request | decide => rfl

section Operations

variable {ctx : Context} {caller : Caller} {s s' : Store}

lemma existingBook_eq_ok {classSection : Int} {book : GradeBook}
    (h : existingBook classSection s = .ok book) :
    book ∈ s.books ∧ book.classSection = classSection ∧ s.bookOf? classSection = some book := by
  simp only [existingBook, bind_eq_ok, exists_unit] at h
  obtain ⟨-, h⟩ := h
  cases hb : s.bookOf? classSection with
  | none => simp [hb] at h
  | some b =>
    simp only [hb, pure_eq_ok] at h
    subst h
    exact ⟨List.mem_of_find?_eq_some hb, by simpa using List.find?_some hb, rfl⟩

lemma checkItem_eq_ok {r : ItemRequest} {item : CheckedItem} (h : checkItem ctx caller r s = .ok item) :
    readPositive "Class section id" r.classSection = .ok item.classSection ∧
      checkName r.name = .ok item.name ∧ checkMaxScore r.maxScore = .ok item.maxScore ∧
      checkWeight r.weight = .ok item.weight := by
  simp only [checkItem, bind_eq_ok, exists_unit, pure_eq_ok] at h
  obtain ⟨id, hid, -, name, hname, maxScore, hmaxScore, weight, hweight, rfl⟩ := h
  exact ⟨hid, hname, hmaxScore, hweight⟩

lemma checkItem_taught {r : ItemRequest} {item : CheckedItem} (h : checkItem ctx caller r s = .ok item) :
    requireSectionTeacher (ctx.directory s) caller (.int item.classSection) = .ok () := by
  simp only [checkItem, bind_eq_ok, exists_unit, pure_eq_ok] at h
  obtain ⟨id, -, hteacher, _, -, _, -, _, -, rfl⟩ := h
  exact hteacher

lemma openBook_opens {classSection : Int} {b : GradeBook}
    (h : (openBook ctx classSection).run s = .ok (b, s')) :
    s' = s ∨ s.bookOf? classSection = none ∧ (∃ c ∈ s.classSections, c.id = classSection) ∧
      s' = { s with books := s.books ++ [opened classSection ctx.now s] } := by
  simp only [openBook, Transaction.run_eq_ok, bind_eq_ok, exists_unit] at h
  obtain ⟨d, ⟨-, hd⟩, h⟩ := h
  cases hb : s.bookOf? classSection with
  | some b =>
    simp only [hb, pure_eq_ok] at hd
    subst hd
    simp only [Decision.apply_keep, Prod.mk.injEq] at h
    exact .inl h.2.symm
  | none =>
    simp only [hb, pure_eq_ok] at hd
    subst hd
    simp only [Decision.apply_write] at h
    cases hi : insertBook classSection ctx.now s with
    | error violation => simp [hi, hb] at h; cases violation <;> simp at h
    | ok r =>
      simp only [hi, Except.ok.injEq] at h
      simp only [insertBook, bind_eq_ok, exists_unit, guard_eq_ok, pure_eq_ok] at hi
      obtain ⟨-, hrow, -, rfl⟩ := hi
      cases h
      exact .inr ⟨rfl, requireRow_eq_ok.mp hrow, rfl⟩

lemma openBook_run {classSection : Int} {b : GradeBook}
    (h : (openBook ctx classSection).run s = .ok (b, s')) : s' = s ∨ Opening ctx s s' :=
  (openBook_opens h).imp_right fun w => ⟨classSection, w⟩

lemma getOrCreate_run {classSection : Value} {b : GradeBook}
    (h : (getOrCreate ctx classSection).run s = .ok (b, s')) : s' = s ∨ Opening ctx s s' := by
  simp only [getOrCreate, Transaction.run_eq_ok, bind_eq_ok] at h
  obtain ⟨d, ⟨id, -, hd⟩, h⟩ := h
  exact openBook_run (Transaction.run_eq_ok.mpr ⟨d, hd, h⟩)

lemma enterItem_writes {item : CheckedItem} {r : ItemRequest} {a : ItemAdded}
    (checked : checkItem ctx caller r s = .ok item)
    (h : (enterItem ctx item r).run s = .ok (a, s')) : Write ctx s (.addItem caller r) s' := by
  simp only [enterItem, requireEditable, Transaction.run_eq_ok, bind_eq_ok, when_eq_ok, exists_unit,
    guard_eq_ok, pure_eq_ok] at h
  obtain ⟨_, ⟨book, hbook, heditable, hversion, hfresh, rfl⟩, h⟩ := h
  simp only [Decision.apply_write, bind_eq_ok, mapError_eq_ok, insertItem, pure_eq_ok] at h
  obtain ⟨⟨_, t⟩, ht, ⟨row, t'⟩, ⟨-, -, place, hplace, h⟩, hs⟩ := h
  rw [changeBook_eq_ok ht] at h
  cases place with
  | none => simp at h
  | some order =>
    simp only [pure_eq_ok, Prod.mk.injEq] at h hs
    obtain ⟨-, rfl⟩ := h
    rw [← hs.2]
    exact .item checked hbook heditable.1 hversion (by simpa using hfresh) hplace

/-- A batch of scores is taken: it passes all checks, and the store takes what it changes. -/
structure Taken (ctx : Context) (caller : Caller) (r : BatchRequest) (s : Store) (classSection : Int)
    (book : GradeBook) (enrollments rows : List Value) (cells : List ScoreCell) (changes : List BatchChange)
    (t : Store) : Prop where
  named : readPositive "Class section id" r.classSection = .ok classSection
  teacher : requireSectionTeacher (ctx.directory s) caller (.int classSection) = .ok ()
  found : existingBook classSection s = .ok book
  editable : book.status.isEditable = true
  given : readItems r.cells = .ok rows
  nonempty : rows.isEmpty = false
  members : (ctx.directory s).enrollments (.int classSection) = .ok enrollments
  keys : enrollments.all Value.isKey = true
  checked : checkCells (s.itemsOf book.id) enrollments [] rows = .ok cells
  version : checkVersion book r.expectedVersion = .ok ()
  differing : batchChanges s caller.id cells = .ok changes
  entered : applyBatch ctx.now changes s = .ok t

/-- What a batch answers whose changes have been entered, and the store that it leaves. -/
def concluded (ctx : Context) (book : GradeBook) (changes : List BatchChange) (t : Store) :
    BatchResult × Store :=
  if changes.isEmpty then (⟨0, book.version⟩, t)
  else (⟨changes.length, book.version + 1⟩,
    { t with books := Table.modify book.id (touched ctx.now) t.books })

lemma entries_concluded (book : GradeBook) (changes : List BatchChange) (t : Store) :
    (concluded ctx book changes t).2.entries = t.entries := by
  unfold concluded
  split <;> rfl

lemma Taken.concludes {r : BatchRequest} {id : Int} {book : GradeBook} {enrollments rows : List Value}
    {cells : List ScoreCell} {changes : List BatchChange} {t : Store}
    (h : Taken ctx caller r s id book enrollments rows cells changes t) :
    (upsertScores ctx caller r).run s = .ok (concluded ctx book changes t) := by
  have hbook : book ∈ t.books := by
    rw [applyBatch_frame h.entered]
    exact (existingBook_eq_ok h.found).1
  have decides {d : Decision BatchResult} (hd : (if changes.isEmpty then pure (.keep ⟨0, book.version⟩)
      else pure (.write fun s => do
        let s ← applyBatch ctx.now changes s
        let r ← (changeBook book (touched ctx.now) s).mapError (Violation.fault .gradebookChanged)
        return (⟨changes.length, book.version + 1⟩, r.2)) : Except Fault (Decision BatchResult)) = .ok d) :
      upsertScores ctx caller r s = .ok d := by
    simp only [upsertScores, requireEditable, bind_eq_ok, when_eq_ok, exists_unit, guard_eq_ok,
      lift_eq_ok, Bool.not_eq_true, Bool.not_eq_false']
    exact ⟨id, h.named, h.teacher, book, h.found, ⟨h.editable, trivial⟩, rows, h.given, h.nonempty,
      enrollments, h.members, h.keys, cells, h.checked, h.version, changes, h.differing, hd⟩
  by_cases hempty : changes.isEmpty = true
  · obtain rfl := List.isEmpty_iff.mp hempty
    cases h.entered
    exact Transaction.run_eq_ok.mpr ⟨_, decides (if_pos hempty), rfl⟩
  · refine Transaction.run_eq_ok.mpr ⟨_, decides (if_neg hempty), ?_⟩
    simp only [Decision.apply_write, h.entered, bind_eq_ok, mapError_eq_ok, pure_eq_ok, concluded,
      if_neg hempty]
    exact ⟨t, rfl, _, changeBook_of_mem hbook _, rfl⟩

/-- A batch of scores succeeds exactly if it is taken. -/
lemma upsertScores_iff {r : BatchRequest} {a : BatchResult × Store} :
    (upsertScores ctx caller r).run s = .ok a ↔
      ∃ classSection book enrollments rows cells changes t,
        Taken ctx caller r s classSection book enrollments rows cells changes t ∧
          a = concluded ctx book changes t := by
  constructor
  · intro h
    simp only [upsertScores, requireEditable, Transaction.run_eq_ok, bind_eq_ok, when_eq_ok, exists_unit,
      guard_eq_ok, lift_eq_ok, Bool.not_eq_true, Bool.not_eq_false'] at h
    obtain ⟨d, ⟨id, hid, hteacher, book, hbook, heditable, rows, hrows, hsome, enrollments, hmembers, hkeys,
      cells, hcells, hversion, changes, hchanges, hd⟩, h⟩ := h
    have taken (t : Store) (ht : applyBatch ctx.now changes s = .ok t) :
        Taken ctx caller r s id book enrollments rows cells changes t :=
      ⟨hid, hteacher, hbook, heditable.1, hrows, hsome, hmembers, hkeys, hcells, hversion, hchanges, ht⟩
    by_cases hempty : changes.isEmpty = true
    · rw [if_pos hempty, pure_eq_ok] at hd
      subst hd
      obtain rfl := List.isEmpty_iff.mp hempty
      exact ⟨id, book, enrollments, rows, cells, [], s, taken s rfl, (Decision.apply_keep.mp h).symm⟩
    · rw [if_neg hempty, pure_eq_ok] at hd
      subst hd
      simp only [Decision.apply_write, bind_eq_ok, mapError_eq_ok, pure_eq_ok] at h
      obtain ⟨t, ht, ⟨_, u⟩, hu, rfl⟩ := h
      refine ⟨id, book, enrollments, rows, cells, changes, t, taken t ht, ?_⟩
      rw [concluded, if_neg hempty, changeBook_eq_ok hu]
  · rintro ⟨_, _, _, _, _, _, _, h, rfl⟩
    exact h.concludes

/-- A batch that is taken is taken in every other order of its rows, too. -/
lemma Taken.perm {r : BatchRequest} {classSection : Int} {book : GradeBook}
    {enrollments rows rows' : List Value} {cells : List ScoreCell} {changes : List BatchChange} {t : Store}
    (h : Taken ctx caller r s classSection book enrollments rows cells changes t) (order : rows.Perm rows')
    {values : Value} (given : readItems values = .ok rows') :
    ∃ cells' changes' t', cells.Perm cells' ∧
      Taken ctx caller { r with cells := values } s classSection book enrollments rows' cells' changes' t' := by
  obtain ⟨cells', hchecked, hcells⟩ := checkCells_perm order h.checked
  obtain ⟨changes', hdiffering, hchanges⟩ := batchChanges_perm hcells h.differing
  have haccepts := applyBatch_isOk_iff.mp ⟨t, h.entered⟩
  obtain ⟨t', hentered⟩ : ∃ t', applyBatch ctx.now changes' s = .ok t' := by
    refine applyBatch_isOk_iff.mpr fun c hc => ?_
    obtain ⟨d, hd, hsame⟩ := List.mem_map.mp (hchanges.mem_iff.mpr (List.mem_map_of_mem hc))
    exact hsame ▸ haccepts d hd
  exact ⟨cells', changes', t', hcells, {
    h with
    given := given
    nonempty := order.isEmpty_eq ▸ h.nonempty
    checked := hchecked
    differing := hdiffering
    entered := hentered }⟩

lemma upsertScores_writes {r : BatchRequest} {a : BatchResult}
    (h : (upsertScores ctx caller r).run s = .ok (a, s')) :
    s' = s ∨ Write ctx s (.upsertScores caller r) s' := by
  obtain ⟨id, book, enrollments, rows, cells, changes, t, taken, ha⟩ := upsertScores_iff.mp h
  by_cases hempty : changes.isEmpty = true
  · obtain rfl := List.isEmpty_iff.mp hempty
    cases taken.entered
    exact .inl (Prod.mk.inj ha).2
  · rw [concluded, if_neg hempty] at ha
    rw [(Prod.mk.inj ha).2]
    exact .inr (.batch taken.teacher taken.found taken.editable taken.members taken.checked taken.version
      taken.differing (by simpa using hempty) taken.entered taken.named)

lemma openRequest_eq_ok {classSection message expected : Value} {a : Review}
    (h : (openRequest ctx caller classSection message expected).run s = .ok (a, s')) :
    ∃ id teacher book text enrollments,
      requireSectionTeacher (ctx.directory s) caller (.int id) = .ok () ∧
      existingBook id s = .ok book ∧ book.status.isEditable = true ∧
      checkVersion book expected = .ok () ∧
      (ctx.directory s).enrollments (.int id) = .ok enrollments ∧
      missingFor s book.id enrollments = .ok [] ∧
      readPositive "Class section id" classSection = .ok id ∧
      a = ⟨requested ctx.now book, request book.id teacher text ctx.now s⟩ ∧
      s' = { s with
        books := Table.modify book.id (requested ctx.now) s.books
        approvals := s.approvals ++ [request book.id teacher text ctx.now s] } := by
  simp only [openRequest, Transaction.run_eq_ok, bind_eq_ok, exists_unit, guard_eq_ok, lift_eq_ok,
    pure_eq_ok, Bool.not_eq_true', Bool.not_eq_false, List.isEmpty_iff] at h
  obtain ⟨_, ⟨id, hid, hself, text, -, book, hbook, heditable, hversion, enrollments, hmembers, _,
    hmissing, rfl, rfl⟩, h⟩ := h
  simp only [Decision.apply_change, insertRequest, bind_eq_ok, exists_unit, pure_eq_ok,
    Prod.mk.injEq] at h
  obtain ⟨⟨_, t⟩, ht, -, column, -, teacher, -, rfl, rfl⟩ := h
  rw [changeBook_eq_ok ht]
  exact ⟨id, teacher, book, text, enrollments, hself, hbook, heditable, hversion, hmembers, hmissing,
    hid, rfl, rfl⟩

lemma openRequest_writes {classSection message expected : Value} {a : Review}
    (h : (openRequest ctx caller classSection message expected).run s = .ok (a, s')) :
    Write ctx s (.requestApproval caller classSection message expected) s' := by
  obtain ⟨_, _, _, _, _, hself, hbook, heditable, hversion, hmembers, hmissing, hid, -, rfl⟩ :=
    openRequest_eq_ok h
  exact .request hself hbook heditable hversion hmembers hmissing hid

lemma decideRequest_eq_ok {verdict : Verdict} {classSection message expected : Value} {a : Review}
    (h : (decideRequest verdict ctx caller classSection message expected).run s = .ok (a, s')) :
    ∃ id book approval text column admin, requireAdministrator caller = .ok () ∧
      existingBook id s = .ok book ∧ book.status = .pendingApproval ∧
      checkVersion book expected = .ok () ∧ s.lastApproval? book.id = some approval ∧
      approval.outcome = .pending ∧ columnOf caller.id = .ok column ∧
      reference column s.users = .ok admin ∧
      readPositive "Class section id" classSection = .ok id ∧
      a = ⟨judged verdict ctx.now book, answered verdict admin text ctx.now approval⟩ ∧
      s' = { s with
        books := Table.modify book.id (judged verdict ctx.now) s.books
        approvals := Table.modify approval.id (answered verdict admin text ctx.now) s.approvals } := by
  simp only [decideRequest, Transaction.run_eq_ok, bind_eq_ok, exists_unit, guard_eq_ok, ne_eq,
    not_not] at h
  obtain ⟨d, ⟨hself, text, -, id, hid, book, hbook, hpending, hversion, hd⟩, h⟩ := h
  cases hlast : s.lastApproval? book.id with
  | none => simp [hlast] at hd
  | some approval =>
    simp only [hlast, guard_eq_ok, pure_eq_ok, not_not] at hd
    obtain ⟨houtcome, rfl⟩ := hd
    simp only [Decision.apply_write, answerRequest] at h
    cases hc : changeBook book (judged verdict ctx.now) s with
    | error violation => simp [hc] at h
    | ok r =>
      obtain ⟨_, t⟩ := r
      simp only [hc, bind_eq_ok, mapError_eq_ok, updateRequest, exists_unit, pure_eq_ok,
        Prod.mk.injEq] at h
      obtain ⟨⟨_, _⟩, ⟨-, column, hcolumn, admin, hadmin, rfl, rfl⟩, rfl, rfl⟩ := h
      rw [changeBook_eq_ok hc] at hadmin ⊢
      exact ⟨id, book, approval, text, column, admin, hself, hbook, hpending, hversion, hlast, houtcome,
        hcolumn, hadmin, hid, rfl, rfl⟩

lemma decideRequest_writes {verdict : Verdict} {classSection message expected : Value} {a : Review}
    (h : (decideRequest verdict ctx caller classSection message expected).run s = .ok (a, s')) :
    Write ctx s (.decide verdict caller classSection message expected) s' := by
  obtain ⟨_, _, _, _, _, _, hself, hbook, hpending, hversion, hlast, houtcome, hcolumn, hadmin, hid, -,
    rfl⟩ := decideRequest_eq_ok h
  exact .decide hself hbook hpending hversion hlast houtcome hcolumn hadmin hid

end Operations

end Assessment.Gradebook
