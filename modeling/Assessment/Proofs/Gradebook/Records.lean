import Assessment.Proofs.Gradebook.Review
import Assessment.Proofs.LooseValues
import Assessment.Proofs.Number.Amounts

/-!
# The record of a book

The record of a book is its row with its items, their entries, the log of those, and the requests for
its approval. A step changes the record of one book at most, and what it does to it depends on the
status of the book.
-/

namespace Assessment

/-- What belongs to a book. -/
structure BookRecord where
  row : Option GradeBook
  items : List GradeItem
  entries : List GradeEntry
  audits : List AuditRow
  requests : List Approval
  deriving DecidableEq

namespace Store

/-- Is an entry one under an item of a book? -/
def holdsEntry (s : Store) (book : Int) (e : GradeEntry) : Bool :=
  s.items.any fun i => i.book == book && i.id == e.item

/-- The entries of a book by number. -/
def entriesIn (s : Store) (book : Int) : List GradeEntry := s.entries.filter (s.holdsEntry book)

/-- The record of a book. -/
def bookRecord (s : Store) (book : Int) : BookRecord where
  row := Table.find? book s.books
  items := s.items.filter (·.book == book)
  entries := s.entriesIn book
  audits := s.audits.filter fun a => (s.entriesIn book).any (·.id == a.entry)
  requests := s.requestsOf book

end Store

/-- Does an operation decide on a book? -/
def Service.decides : Service → Bool
  | .call (.decide ..) => true
  | _ => false

namespace Gradebook

open Table

/-- Scores are entered for the items of a book, and its version rises, but nothing else changes, and
no score is taken back. -/
structure Corrects (r r' : BookRecord) : Prop where
  row : ∀ b, r.row = some b → ∃ version updatedAt, r'.row = some { b with version, updatedAt }
  items : r'.items = r.items
  requests : r'.requests = r.requests
  scored : ∀ e ∈ r.entries, e.score.isSome → ∃ e' ∈ r'.entries,
    e'.id = e.id ∧ e'.item = e.item ∧ e'.enrollment = e.enrollment ∧ e'.score.isSome

lemma Corrects.trans {r r' r'' : BookRecord} (h : Corrects r r') (h' : Corrects r' r'') :
    Corrects r r'' := by
  refine ⟨fun b hb => ?_, h'.items.trans h.items, h'.requests.trans h.requests, fun e he hs => ?_⟩
  · obtain ⟨_, _, hrow⟩ := h.row b hb
    obtain ⟨version, updatedAt, hrow'⟩ := h'.row _ hrow
    exact ⟨version, updatedAt, hrow'⟩
  · obtain ⟨e', he', hid, hitem, henrollment, hs'⟩ := h.scored e he hs
    obtain ⟨e'', he'', hid', hitem', henrollment', hs''⟩ := h'.scored e' he' hs'
    exact ⟨e'', he'', hid'.trans hid, hitem'.trans hitem, henrollment'.trans henrollment, hs''⟩

section Scores

variable {c : ScoreChange} {actor : Option Int} {now : Time.Instant} {s : Store} {book : Int}

lemma holdsEntry_iff {e : GradeEntry} :
    s.holdsEntry book e = true ↔ ∃ i ∈ s.items, i.book = book ∧ i.id = e.item := by
  simp [Store.holdsEntry]

lemma not_holdsEntry (hi : Integrity s) {i : GradeItem} (hmem : i ∈ s.items) (hid : i.id = c.item)
    (hne : i.book ≠ book) {e : GradeEntry} (he : e.item = c.item) : ¬s.holdsEntry book e = true := by
  intro h
  obtain ⟨j, hj, hbook, hje⟩ := holdsEntry_iff.mp h
  rw [hi.items.eq_of_id_eq hj hmem (hje.trans (he.trans hid.symm))] at hbook
  exact hne hbook

lemma entriesIn_withScore (hi : Integrity s) {i : GradeItem} (hmem : i ∈ s.items)
    (hid : i.id = c.item) (hne : i.book ≠ book) :
    (withScore c actor now s).entriesIn book = s.entriesIn book := by
  change (withScore c actor now s).entries.filter (s.holdsEntry book) = s.entriesIn book
  cases h : s.entryOf? c.item c.enrollment with
  | none =>
    rw [entries_withScore_of_none h, List.filter_append,
      List.filter_cons_of_neg (not_holdsEntry hi hmem hid hne rfl), List.filter_nil, List.append_nil]
    rfl
  | some e =>
    obtain ⟨he, hitem, -⟩ := entryOf?_eq_some h
    have hkept : (modify e.id (entered c actor now) s.entries).filter (s.holdsEntry book) =
        modify e.id (entered c actor now) (s.entriesIn book) := filter_modify fun _ => rfl
    rw [entries_withScore_of_some h, hkept]
    refine modify_eq_self fun x hx hxe => ?_
    obtain ⟨hx, hown⟩ := List.mem_filter.mp hx
    rw [hi.entries.eq_of_id_eq hx he hxe] at hown
    exact not_holdsEntry hi hmem hid hne hitem hown

lemma log_withScore (hi : Integrity s) {i : GradeItem} (hmem : i ∈ s.items) (hid : i.id = c.item)
    (hne : i.book ≠ book) :
    (withScore c actor now s).audits.filter (fun a => (s.entriesIn book).any (·.id == a.entry)) =
      s.audits.filter fun a => (s.entriesIn book).any (·.id == a.entry) := by
  obtain ⟨e, he, hitem, -, haudits⟩ := audits_withScore c actor now s
  have hlog : ¬(s.entriesIn book).any (·.id == e.id) = true := by
    intro h
    rw [← entriesIn_withScore hi hmem hid hne] at h
    obtain ⟨x, hx, hxe⟩ := List.any_eq_true.mp h
    obtain ⟨hx, hown⟩ := List.mem_filter.mp hx
    have hn : Numbered (withScore c actor now s).entries := (hi.withScore ⟨i, hmem, hid⟩).entries
    rw [hn.eq_of_id_eq hx he (beq_iff_eq.mp hxe)] at hown
    exact not_holdsEntry hi hmem hid hne hitem hown
  rw [haudits, List.filter_append, List.append_right_eq_self]
  exact List.filter_eq_nil_iff.mpr fun a ha => by rwa [List.mem_singleton.mp ha]

lemma bookRecord_withScore (hi : Integrity s) {i : GradeItem} (hmem : i ∈ s.items)
    (hid : i.id = c.item) (hne : i.book ≠ book) :
    (withScore c actor now s).bookRecord book = s.bookRecord book := by
  unfold Store.bookRecord
  rw [entriesIn_withScore hi hmem hid hne, log_withScore hi hmem hid hne]
  rfl

lemma corrects_withScore (present : (c.score.bind Amount.ofDecimal?).isSome) :
    Corrects (s.bookRecord book) ((withScore c actor now s).bookRecord book) := by
  refine ⟨fun b hb => ⟨b.version, b.updatedAt, hb⟩, rfl, rfl, fun e he hs => ?_⟩
  obtain ⟨he, hown⟩ := List.mem_filter.mp he
  suffices h : ∃ e' ∈ (withScore c actor now s).entries,
      e'.id = e.id ∧ e'.item = e.item ∧ e'.enrollment = e.enrollment ∧ e'.score.isSome by
    obtain ⟨e', he', hid, hitem, hrest⟩ := h
    refine ⟨e', List.mem_filter.mpr ⟨he', ?_⟩, hid, hitem, hrest⟩
    rw [holdsEntry_iff] at hown ⊢
    rwa [hitem]
  cases h : s.entryOf? c.item c.enrollment with
  | none =>
    rw [entries_withScore_of_none h]
    exact ⟨e, List.mem_append_left _ he, rfl, rfl, rfl, hs⟩
  | some x =>
    rw [entries_withScore_of_some h]
    refine ⟨_, List.mem_map_of_mem he, ?_⟩
    by_cases hx : Row.id e = x.id
    · rw [if_pos hx]
      exact ⟨rfl, rfl, rfl, present⟩
    · rw [if_neg hx]
      exact ⟨rfl, rfl, rfl, hs⟩

end Scores

section Posting

variable {score maxPoints : Option Number.Decimal} {itemMax d : Number.Decimal}

open Number

/-- How a score comes out on the scale of an item: as nothing, cut to the maximum, or rounded. -/
inductive Scaled (itemMax : Decimal) : Decimal → Prop
  | nothing : Scaled itemMax .zeroHundredths
  | cut {value d : Decimal} (exceeds : itemMax.less value = .ok true)
      (rounded : itemMax.toHundredths .halfEven = .ok d) : Scaled itemMax d
  | rounded {given d : Decimal} (rounded : given.toHundredths .halfUp = .ok d)
      (low : d.less .zero = .ok false) (high : itemMax.less d = .ok false) : Scaled itemMax d

lemma scale_scaled (h : scale score maxPoints itemMax = .ok d) : Scaled itemMax d := by
  unfold scale at h
  split at h
  · split_ifs at h
    · exact Except.ok.inj h ▸ .nothing
    · simp only [project, bind_eq_ok] at h
      obtain ⟨none, -, h⟩ := h
      split_ifs at h
      · exact Except.ok.inj h ▸ .nothing
      · simp only [bind_eq_ok] at h
        obtain ⟨share, -, scaled, -, value, hvalue, negative, hlow, h⟩ := h
        split_ifs at h with hnegative
        · exact Except.ok.inj h ▸ .nothing
        · obtain ⟨more, hhigh, h⟩ := bind_eq_ok.mp h
          split_ifs at h with hmore
          · exact .cut (hmore ▸ hhigh) h
          · obtain rfl := pure_eq_ok.mp h
            rw [Bool.not_eq_true] at hnegative hmore
            exact .rounded hvalue (hnegative ▸ hlow) (hmore ▸ hhigh)
  · exact Except.ok.inj h ▸ .nothing

lemma scale_eq_ok (h : scale score maxPoints itemMax = .ok d) : ∃ s c, d = .finite s c (-2) := by
  cases scale_scaled h with
  | nothing => exact ⟨false, 0, rfl⟩
  | cut exceeds rounded =>
    rcases Decimal.toHundredths_eq_ok rounded with ⟨s, c, -, hd⟩ | ⟨s, payload, hnan, -⟩
    · exact ⟨s, c, hd⟩
    · exact absurd hnan (Decimal.less_eq_ok exceeds s false payload).1
  | rounded rounded low => exact Decimal.hundredths_of_less rounded low

end Posting

section Books

variable {s : Store} {b : GradeBook} {book : Int} {f : GradeBook → GradeBook}

lemma bookRecord_changeBook (hf : KeepsPlace f) (id : Int) :
    ({ s with books := modify id f s.books } : Store).bookRecord book =
      { s.bookRecord book with
        row := (find? book s.books).map fun x => if x.id = id then f x else x } := by
  unfold Store.bookRecord
  rw [find?_modify hf.id]
  rfl

lemma bookRecord_changeBook_self (hf : KeepsPlace f) (hn : Numbered s.books) (hb : b ∈ s.books) :
    ({ s with books := modify b.id f s.books } : Store).bookRecord b.id =
      { s.bookRecord b.id with row := some (f b) } := by
  have hfind : find? b.id s.books = some b := find?_of_mem hn hb
  rw [bookRecord_changeBook hf, hfind]
  simp

lemma bookRecord_changeBook_of_ne (hf : KeepsPlace f) {id : Int} (hne : book ≠ id) :
    ({ s with books := modify id f s.books } : Store).bookRecord book = s.bookRecord book := by
  rw [bookRecord_changeBook hf]
  cases h : find? book s.books with
  | none => simp [Store.bookRecord, h]
  | some x =>
    have hid : x.id = book := (mem_of_find? h).2
    simp [Store.bookRecord, h, hid, hne]

lemma bookRecord_review_self (hf : KeepsPlace f) (hn : Numbered s.books) (hb : b ∈ s.books)
    (rows : List Approval) :
    ({ s with books := modify b.id f s.books, approvals := rows } : Store).bookRecord b.id =
      { s.bookRecord b.id with row := some (f b), requests := rows.filter (·.book == b.id) } :=
  congrArg (fun r : BookRecord => { r with requests := rows.filter (·.book == b.id) })
    (bookRecord_changeBook_self hf hn hb)

lemma bookRecord_review_of_ne (hf : KeepsPlace f) {id : Int} (hne : book ≠ id) {rows : List Approval}
    (hrows : rows.filter (·.book == book) = s.requestsOf book) :
    ({ s with books := modify id f s.books, approvals := rows } : Store).bookRecord book =
      s.bookRecord book := by
  refine (congrArg (fun r : BookRecord => { r with requests := rows.filter (·.book == book) })
    (bookRecord_changeBook_of_ne hf hne)).trans ?_
  rw [hrows]
  rfl

lemma bookRecord_opening {ctx : Context} {s' : Store} (w : Opening ctx s s') (hb : b ∈ s.books) :
    s'.bookRecord b.id = s.bookRecord b.id := by
  obtain ⟨classSection, -, -, rfl⟩ := w
  have hrow : find? b.id (s.books ++ [opened classSection ctx.now s]) = find? b.id s.books :=
    find?_concat hb _
  unfold Store.bookRecord
  rw [hrow]
  rfl

lemma bookRecord_concatItem {i : GradeItem} (hne : i.book ≠ book) :
    ({ s with items := s.items ++ [i] } : Store).bookRecord book = s.bookRecord book := by
  have hitems : (s.items ++ [i]).filter (·.book == book) = s.items.filter (·.book == book) := by
    simp [hne]
  have hholds : Store.holdsEntry { s with items := s.items ++ [i] } book = s.holdsEntry book := by
    funext e
    simp [Store.holdsEntry, hne]
  unfold Store.bookRecord Store.entriesIn
  rw [hitems, hholds]
  rfl

end Books

/-- What a step does to the record of a book that it changes. -/
inductive Change (ctx : Context) (s s' : Store) (b : GradeBook) (op : Service) : Prop
  | edit (editable : b.status.isEditable = true)
      (row : (s'.bookRecord b.id).row = some (touched ctx.now b))
  | request (editable : b.status.isEditable = true)
      (record : s'.bookRecord b.id =
        { s.bookRecord b.id with
          row := some (requested ctx.now b)
          requests := s'.requestsOf b.id })
      (complete : ∃ enrollments, (ctx.directory s).enrollments (.int b.classSection) = .ok enrollments ∧
        missingFor s b.id enrollments = .ok [])
  | decide (verdict : Verdict) (decides : op.decides = true) (awaiting : b.status = .pendingApproval)
      (record : s'.bookRecord b.id =
        { s.bookRecord b.id with
          row := some (judged verdict ctx.now b)
          requests := s'.requestsOf b.id })
  | post (posts : op.poster?.isSome) (open' : b.status.syncBar? ctx.settings.lateCorrections.truthy = none)
      (corrects : Corrects (s.bookRecord b.id) (s'.bookRecord b.id))

section Steps

variable {ctx : Context} {s s' : Store} {op : Service} {b : GradeBook}

lemma corrects_touched (hi : Integrity s) (hb : b ∈ s.books) (now : Time.Instant) :
    Corrects (s.bookRecord b.id) { s.bookRecord b.id with row := some (touched now b) } := by
  refine ⟨fun c hc => ?_, rfl, rfl, fun e he hs => ⟨e, he, rfl, rfl, rfl, hs⟩⟩
  have hfind : find? b.id s.books = some b := find?_of_mem hi.books hb
  obtain rfl : b = c := Option.some.inj (hfind.symm.trans hc)
  exact ⟨b.version + 1, now, rfl⟩

lemma bookRecord_batch {changes : List BatchChange} {now : Time.Instant} {book : Int}
    (hi : Integrity s) (hitems : ∀ c ∈ changes, ∃ i ∈ s.items, i.book ≠ book ∧ i.id = c.change.item)
    (h : applyBatch now changes s = .ok s') : s'.bookRecord book = s.bookRecord book := by
  have hall : Integrity s' ∧ s'.items = s.items ∧ s'.bookRecord book = s.bookRecord book := by
    refine applyBatch_induction (P := fun t => Integrity t ∧ t.items = s.items ∧
      t.bookRecord book = s.bookRecord book) h ⟨hi, rfl, rfl⟩ ?_
    rintro t ⟨ht, hsame, hrecord⟩ c hc actor known
    obtain ⟨i, hmem, hne, hid⟩ := hitems c hc
    rw [← hsame] at hmem
    exact ⟨ht.withScore known, hsame, (bookRecord_withScore ht hmem hid hne).trans hrecord⟩
  exact hall.2.2

lemma same_or_other (hi : Integrity s) {c : GradeBook} (hb : b ∈ s.books) (hc : c ∈ s.books) :
    b = c ∨ b.id ≠ c.id :=
  or_iff_not_imp_right.mpr fun h => hi.books.eq_of_id_eq hb hc (not_not.mp h)

lemma Write.bookRecord (hi : Integrity s) (hb : b ∈ s.books) {c : Call} (w : Write ctx s c s') :
    s'.bookRecord b.id = s.bookRecord b.id ∨ Change ctx s s' b (.call c) := by
  cases w with
  | @item _ r item book order checked found editable =>
    have hbook := (existingBook_eq_ok found).1
    have hf := keepsPlace_touched ctx.now
    rcases same_or_other hi hb hbook with rfl | hne
    · refine .inr (.edit editable ?_)
      exact congrArg BookRecord.row (bookRecord_changeBook_self hf hi.books hb)
    · exact .inl ((bookRecord_changeBook_of_ne hf hne).trans (bookRecord_concatItem (Ne.symm hne)))
  | @batch _ _ _ book _ _ _ changes t teacher found editable members checked version differing _ entered =>
    have hbook := (existingBook_eq_ok found).1
    have hf := keepsPlace_touched ctx.now
    have hbooks : t.books = s.books := by rw [applyBatch_frame entered]
    rcases same_or_other hi hb hbook with rfl | hne
    · refine .inr (.edit editable ?_)
      exact congrArg BookRecord.row
        (bookRecord_changeBook_self hf (hbooks ▸ hi.books) (hbooks ▸ hb))
    · refine .inl ((bookRecord_changeBook_of_ne hf hne).trans (bookRecord_batch hi ?_ entered))
      intro c hc
      obtain ⟨i, hi, hbook, hid⟩ := changes_items checked differing c hc
      exact ⟨i, hi, hbook ▸ Ne.symm hne, hid⟩
  | @request _ _ _ _ id _ book text _ self found editable version members complete =>
    obtain ⟨hbook, hsection, -⟩ := existingBook_eq_ok found
    have hf := keepsPlace_requested ctx.now
    rcases same_or_other hi hb hbook with rfl | hne
    · refine .inr (.request editable (bookRecord_review_self hf hi.books hb _) ?_)
      exact ⟨_, hsection ▸ members, complete⟩
    · refine .inl (bookRecord_review_of_ne hf hne ?_)
      simp [Store.requestsOf, Gradebook.request, Ne.symm hne]
  | @decide verdict _ _ _ _ _ book r _ _ _ self found awaiting version latest =>
    have hbook := (existingBook_eq_ok found).1
    have hf := keepsPlace_judged verdict ctx.now
    rcases same_or_other hi hb hbook with rfl | hne
    · exact .inr (.decide verdict rfl awaiting (bookRecord_review_self hf hi.books hb _))
    · rw [lastApproval?_eq hi] at latest
      obtain ⟨hr, hrbook⟩ := List.mem_filter.mp (List.mem_of_getLast? latest)
      have hne' : r.book ≠ b.id := by
        rw [beq_iff_eq.mp hrbook]
        exact Ne.symm hne
      exact .inl (bookRecord_review_of_ne hf hne (requestsOf_answered_of_ne hi hr hne' _ _ _ _))

lemma Posting.bookRecord (hi : Integrity s) (hb : b ∈ s.books) {poster : Access.Caller}
    (posts : op.poster? = some poster) (w : Sync.Posting ctx poster s s') :
    s'.bookRecord b.id = s.bookRecord b.id ∨ Change ctx s s' b op := by
  cases w with
  | @post a book item score reason actor found submitted manages open' placed scaled differs =>
    obtain ⟨hexisting, hbar⟩ := Sync.postableBook_eq_ok open'
    obtain ⟨hitem, hitembook⟩ := Sync.postableItem_eq_ok placed
    have hbook := (existingBook_eq_ok hexisting).1
    have hf := keepsPlace_touched ctx.now
    rcases same_or_other hi hb hbook with rfl | hne
    · refine .inr (.post (by simp [posts]) hbar (Corrects.trans ?_ (corrects_withScore ?_)))
      · rw [bookRecord_changeBook_self hf hi.books hb]
        exact corrects_touched hi hb ctx.now
      · obtain ⟨negative, coefficient, rfl⟩ := scale_eq_ok scaled
        exact Amount.ofDecimal?_isSome ..
    · refine .inl (Eq.trans ?_ (bookRecord_changeBook_of_ne hf hne))
      exact bookRecord_withScore (hi.changeBook _ hf) hitem rfl (hitembook ▸ Ne.symm hne)

lemma Step.bookRecord (hi : Integrity s) (hb : b ∈ s.books) (w : Step ctx s op s') :
    s'.bookRecord b.id = s.bookRecord b.id ∨ Change ctx s s' b op := by
  cases w with
  | quiz w | attempt w | queueing _ w =>
    rw [w.frame]
    exact .inl rfl
  | opening _ w => exact .inl (bookRecord_opening w hb)
  | book w => exact Write.bookRecord hi hb w
  | posting posts w => exact Posting.bookRecord hi hb posts w

end Steps

end Gradebook

end Assessment
