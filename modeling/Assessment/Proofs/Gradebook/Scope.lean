import Assessment.Proofs.Failures
import Assessment.Proofs.Permissions

/-!
# How far calls on gradebooks reach

A call that changes a gradebook is made by someone whom it is open to: the section's teacher edits the book
and asks for approval, an administrator decides, and both may view it and post scores into it. The call
shows in the gradebook of that section alone.
-/

namespace Assessment

open Access Table

namespace Store

/-- A store without some entries and their log. -/
def withoutEntries (p : GradeEntry → Bool) (s : Store) : Store :=
  { s with
    entries := s.entries.filter fun e => !p e
    audits := s.audits.filter fun a => !has a.entry (s.entries.filter p) }

/-- Is a number the one of the book of a section? -/
def isBookOf (classSection : Int) (s : Store) (book : Int) : Bool :=
  has book (s.books.filter (·.classSection == classSection))

/-- Is a number the one of an item in the book of a section? -/
def isItemOf (classSection : Int) (s : Store) (item : Int) : Bool :=
  has item (s.items.filter fun i => s.isBookOf classSection i.book)

/-- A store without the gradebook of a section: its book, with the requests for approval and the items, and
the entries under these with their log. -/
def withoutBookOf (classSection : Int) (s : Store) : Store :=
  { s.withoutEntries fun e => s.isItemOf classSection e.item with
    books := s.books.filter fun b => !(b.classSection == classSection)
    items := s.items.filter fun i => !s.isBookOf classSection i.book
    approvals := s.approvals.filter fun a => !s.isBookOf classSection a.book }

end Store

/-- Who makes a call that edits the gradebook of a section, and the section that the call names. -/
def Call.edited? : Call → Option (Caller × Value)
  | addItem caller r => some (caller, r.classSection)
  | upsertScores caller r => some (caller, r.classSection)
  | requestApproval caller classSection _ _ => some (caller, classSection)
  | _ => none

namespace Gradebook

open Request

/-- A call may change the gradebook of a section. Opening a book is open to everyone, and the program posts
scores itself. -/
inductive Permitted (ctx : Context) (s : Store) (id : Int) : Call → Prop
  | editing {c : Call} {caller : Caller} {v : Value} (edited : c.edited? = some (caller, v))
      (named : readPositive "Class section id" v = .ok id) (role : caller.actsAs .teacher = true)
      (teaches : Teaches ctx s caller id) : Permitted ctx s id c
  | deciding {verdict : Verdict} {caller : Caller} {v message expected : Value}
      (named : readPositive "Class section id" v = .ok id) (role : caller.actsAs .admin = true) :
      Permitted ctx s id (.decide verdict caller v message expected)
  | viewing {caller : Caller} {v : Value} (named : readPositive "Class section id" v = .ok id)
      (manages : Manages ctx s caller id) : Permitted ctx s id (.viewBook caller v)
  | posting {r : Sync.PostRequest} {a : Attempt} (found : a ∈ s.attempts) (section' : a.classSection = id)
      (named : readPositive "Attempt id" r.attempt = .ok a.id)
      (manages : r.poster.id = .null ∨ Manages ctx s r.poster id) : Permitted ctx s id (.postScore r)
  | opening {v : Value} (named : readPositive "Class section id" v = .ok id) : Permitted ctx s id (.openBook v)

section Rest

variable {s : Store} {p q : GradeEntry → Bool} {b : GradeBook} {classSection : Int}

lemma withoutEntries_congr (h : ∀ e ∈ s.entries, p e = q e) : s.withoutEntries p = s.withoutEntries q := by
  have hentries : s.entries.filter (fun e => !p e) = s.entries.filter fun e => !q e :=
    List.filter_congr fun e he => congrArg (!·) (h e he)
  unfold Store.withoutEntries
  rw [hentries, List.filter_congr h]

lemma withoutEntries_withScore (hi : Integrity s) {c : ScoreChange} {actor : Option Int}
    {now : Time.Instant} (hp : ∀ e, p (entered c actor now e) = p e)
    (own : ∀ e, e.item = c.item → e.enrollment = c.enrollment → p e = true) :
    (withScore c actor now s).withoutEntries p = s.withoutEntries p := by
  obtain ⟨e, he, hitem, henrollment, haudits⟩ := audits_withScore c actor now s
  have hsame : ((withScore c actor now s).entries.filter fun x => !p x) =
        (s.entries.filter fun x => !p x) ∧
      ∀ a ∈ s.audits, has a.entry ((withScore c actor now s).entries.filter p) =
        has a.entry (s.entries.filter p) := by
    cases h : s.entryOf? c.item c.enrollment with
    | none =>
      rw [entries_withScore_of_none h]
      have hfirst : p (firstEntry c actor now s) = true := own _ rfl rfl
      refine ⟨filter_not_append (by simpa using hfirst), fun a ha => ?_⟩
      have hne : Row.id (firstEntry c actor now s) ≠ a.entry := Ne.symm (hi.auditEntry.ne_nextId ha)
      rw [List.filter_append, List.filter_cons_of_pos hfirst, List.filter_nil]
      exact has_concat_of_ne hne
    | some x =>
      obtain ⟨hx, hxi, hxe⟩ := entryOf?_eq_some h
      have hown := own x hxi hxe
      rw [entries_withScore_of_some h]
      refine ⟨filter_not_modify hi.entries hx hown ((hp x).trans hown), fun a _ => ?_⟩
      rw [filter_modify hp]
      exact has_modify fun _ => rfl
  have hnew : has e.id ((withScore c actor now s).entries.filter p) = true :=
    has_iff.mpr ⟨e, List.mem_filter.mpr ⟨he, own e hitem henrollment⟩, rfl⟩
  have hlog : ((withScore c actor now s).audits.filter fun a =>
      !has a.entry ((withScore c actor now s).entries.filter p)) =
        s.audits.filter fun a => !has a.entry (s.entries.filter p) := by
    rw [haudits, filter_not_append (by simpa using hnew)]
    exact List.filter_congr fun a ha => congrArg (!·) (hsame.2 a ha)
  unfold Store.withoutEntries
  rw [hlog, hsame.1]
  rfl

lemma isBookOf_of_mem (hb : b ∈ s.books) (section' : b.classSection = classSection) :
    s.isBookOf classSection b.id = true :=
  has_iff.mpr ⟨b, List.mem_filter.mpr ⟨hb, beq_iff_eq.mpr section'⟩, rfl⟩

lemma isItemOf_of_mem (hb : b ∈ s.books) (section' : b.classSection = classSection) {i : GradeItem}
    (hi : i ∈ s.items) (held : i.book = b.id) : s.isItemOf classSection i.id = true :=
  has_iff.mpr ⟨i, List.mem_filter.mpr ⟨hi, held ▸ isBookOf_of_mem hb section'⟩, rfl⟩

lemma withoutBookOf_changeBook (hi : Integrity s) (hb : b ∈ s.books) {f : GradeBook → GradeBook}
    (hf : KeepsPlace f) :
    ({ s with books := modify b.id f s.books } : Store).withoutBookOf b.classSection =
      s.withoutBookOf b.classSection := by
  have hsame : ({ s with books := modify b.id f s.books } : Store).isBookOf b.classSection =
      s.isBookOf b.classSection := by
    funext n
    unfold Store.isBookOf
    rw [filter_modify (f := f) fun x => by rw [hf.classSection]]
    exact has_modify hf.id
  have hbooks : ((modify b.id f s.books).filter fun x => !(x.classSection == b.classSection)) =
      s.books.filter fun x => !(x.classSection == b.classSection) :=
    filter_not_modify hi.books hb (beq_self_eq_true _) (by simp [hf.classSection])
  unfold Store.withoutBookOf Store.isItemOf
  rw [hsame, hbooks]
  rfl

lemma withoutBookOf_concatItem (hi : Integrity s) (hb : b ∈ s.books) {i : GradeItem} (held : i.book = b.id)
    (new : i.id = nextId s.items) :
    ({ s with items := s.items ++ [i] } : Store).withoutBookOf b.classSection =
      s.withoutBookOf b.classSection := by
  let t : Store := { s with items := s.items ++ [i] }
  have hheld : s.isBookOf b.classSection i.book = true := held ▸ isBookOf_of_mem hb rfl
  have hitems : (t.items.filter fun x => !s.isBookOf b.classSection x.book) =
      s.items.filter fun x => !s.isBookOf b.classSection x.book :=
    filter_not_append (by simpa using hheld)
  have hentries : s.withoutEntries (fun e => t.isItemOf b.classSection e.item) =
      s.withoutEntries fun e => s.isItemOf b.classSection e.item := by
    refine withoutEntries_congr fun e he => ?_
    have hne : Row.id i ≠ e.item := new.trans_ne (Ne.symm (hi.entryItem.ne_nextId he))
    have hconcat : (t.items.filter fun x => s.isBookOf b.classSection x.book) =
        (s.items.filter fun x => s.isBookOf b.classSection x.book) ++ [i] := by
      simp [t, hheld]
    unfold Store.isItemOf
    exact (congrArg (has e.item) hconcat).trans (has_concat_of_ne hne)
  exact congrArg₂ (fun (u : Store) rows => { u with
    books := s.books.filter fun x => !(x.classSection == b.classSection)
    items := rows
    approvals := s.approvals.filter fun a => !s.isBookOf b.classSection a.book }) hentries hitems

lemma withoutBookOf_item (hi : Integrity s) (hb : b ∈ s.books) {i : GradeItem} (held : i.book = b.id)
    (new : i.id = nextId s.items) (now : Time.Instant) :
    ({ s with books := modify b.id (touched now) s.books, items := s.items ++ [i] } : Store).withoutBookOf
      b.classSection = s.withoutBookOf b.classSection :=
  (withoutBookOf_changeBook (hi.item new ⟨b, hb, held.symm⟩) hb (keepsPlace_touched now)).trans
    (withoutBookOf_concatItem hi hb held new)

lemma withoutBookOf_approvals {rows : List Approval}
    (h : (rows.filter fun a => !s.isBookOf classSection a.book) =
      s.approvals.filter fun a => !s.isBookOf classSection a.book) :
    ({ s with approvals := rows } : Store).withoutBookOf classSection = s.withoutBookOf classSection :=
  congrArg (fun rows => { s.withoutBookOf classSection with approvals := rows }) h

lemma withoutBookOf_withScore (hi : Integrity s) (hb : b ∈ s.books) {i : GradeItem} (hmem : i ∈ s.items)
    (held : i.book = b.id) {c : ScoreChange} (named : i.id = c.item) (actor : Option Int)
    (now : Time.Instant) :
    (withScore c actor now s).withoutBookOf b.classSection = s.withoutBookOf b.classSection := by
  have hentries : (withScore c actor now s).withoutEntries (fun e => s.isItemOf b.classSection e.item) =
      s.withoutEntries fun e => s.isItemOf b.classSection e.item := by
    refine withoutEntries_withScore hi (fun _ => rfl) fun e hitem _ => ?_
    rw [hitem, ← named]
    exact isItemOf_of_mem hb rfl hmem held
  exact congrArg (fun u : Store => { u with
    books := s.books.filter fun x => !(x.classSection == b.classSection)
    items := s.items.filter fun i => !s.isBookOf b.classSection i.book
    approvals := s.approvals.filter fun a => !s.isBookOf b.classSection a.book }) hentries

lemma withoutBookOf_batch (hi : Integrity s) (hb : b ∈ s.books) {changes : List BatchChange} {now : Time.Instant}
    {t : Store} (h : applyBatch now changes s = .ok t)
    (inBook : ∀ c ∈ changes, ∃ i ∈ s.items, i.book = b.id ∧ i.id = c.change.item) :
    t.withoutBookOf b.classSection = s.withoutBookOf b.classSection := by
  let P (t : Store) : Prop := Integrity t ∧ t.books = s.books ∧ t.items = s.items ∧
    t.withoutBookOf b.classSection = s.withoutBookOf b.classSection
  have hentered : P t := by
    refine applyBatch_induction (P := P) h ⟨hi, rfl, rfl, rfl⟩ ?_
    rintro u ⟨hu, hbooks, hitems, hrest⟩ c hc actor known
    obtain ⟨i, hi', held, hid⟩ := inBook c hc
    refine ⟨hu.withScore known, hbooks, hitems, Eq.trans ?_ hrest⟩
    exact withoutBookOf_withScore hu (hbooks ▸ hb) (hitems ▸ hi') held hid actor now
  exact hentered.2.2.2

lemma Opens.withoutBookOf {ctx : Context} {s' : Store} (hi : Integrity s) (w : Opens ctx classSection s s') :
    s'.withoutBookOf classSection = s.withoutBookOf classSection := by
  obtain ⟨-, -, rfl⟩ := w
  let b := opened classSection ctx.now s
  let t : Store := { s with books := s.books ++ [b] }
  have hbooks : (t.books.filter fun x => !(x.classSection == classSection)) =
      s.books.filter fun x => !(x.classSection == classSection) := filter_not_append (by simp [b, opened])
  have hsame {n : Int} (hn : n ≠ nextId s.books) : t.isBookOf classSection n = s.isBookOf classSection n := by
    have hconcat : t.books.filter (·.classSection == classSection) =
        s.books.filter (·.classSection == classSection) ++ [b] := by simp [t, b, opened]
    unfold Store.isBookOf
    rw [hconcat]
    exact has_concat_of_ne (Ne.symm hn)
  have hitem (x : GradeItem) (hx : x ∈ s.items) :
      t.isBookOf classSection x.book = s.isBookOf classSection x.book := hsame (hi.itemBook.ne_nextId hx)
  have hentries : (fun e : GradeEntry => t.isItemOf classSection e.item) =
      fun e => s.isItemOf classSection e.item := by
    funext e
    exact congrArg (has e.item) (List.filter_congr hitem)
  have hitems : (s.items.filter fun x => !t.isBookOf classSection x.book) =
      s.items.filter fun x => !s.isBookOf classSection x.book :=
    List.filter_congr fun x hx => congrArg (!·) (hitem x hx)
  have happrovals : (s.approvals.filter fun a => !t.isBookOf classSection a.book) =
      s.approvals.filter fun a => !s.isBookOf classSection a.book :=
    List.filter_congr fun a ha => congrArg (!·) (hsame (hi.approvalBook.ne_nextId ha))
  unfold Store.withoutBookOf
  rw [hbooks, hentries, hitems, happrovals]
  rfl

end Rest

section Calls

variable {ctx : Context} {s s' : Store}

/-- What a write of a gradebook shows: its call was open to the caller, and nothing but the gradebook has
changed. -/
lemma Write.scope (hi : Integrity s) {c : Call} (w : Write ctx s c s') :
    ∃ id, Permitted ctx s id c ∧ s'.withoutBookOf id = s.withoutBookOf id := by
  cases w with
  | item checked found =>
    obtain ⟨role, teaches⟩ := requireSectionTeacher_eq_ok (checkItem_taught checked)
    obtain ⟨hb, section', -⟩ := existingBook_eq_ok found
    refine ⟨_, .editing rfl (checkItem_eq_ok checked).1 role teaches, ?_⟩
    rw [← section']
    exact withoutBookOf_item hi hb rfl rfl ctx.now
  | @batch _ _ _ book _ _ _ changes t teacher found _ _ checked _ differing _ entered named =>
    obtain ⟨role, teaches⟩ := requireSectionTeacher_eq_ok teacher
    obtain ⟨hb, rfl, -⟩ := existingBook_eq_ok found
    refine ⟨_, .editing rfl named role teaches, ?_⟩
    have hb' : book ∈ t.books := by
      rw [applyBatch_frame entered]
      exact hb
    exact (withoutBookOf_changeBook (hi.batch entered) hb' (keepsPlace_touched _)).trans
      (withoutBookOf_batch hi hb entered (changes_items checked differing))
  | request self found _ _ _ _ named =>
    obtain ⟨role, teaches⟩ := requireSectionTeacher_eq_ok self
    obtain ⟨hb, rfl, -⟩ := existingBook_eq_ok found
    refine ⟨_, .editing rfl named role teaches, ?_⟩
    refine (withoutBookOf_changeBook (hi.request rfl ⟨_, hb, rfl⟩) hb (keepsPlace_requested _)).trans ?_
    have hown := isBookOf_of_mem hb rfl
    exact withoutBookOf_approvals (filter_not_append (by simpa [Gradebook.request] using hown))
  | decide self found _ _ latest _ _ _ named =>
    obtain ⟨hb, rfl, -⟩ := existingBook_eq_ok found
    rw [lastApproval?_eq hi] at latest
    obtain ⟨hr, hrbook⟩ := List.mem_filter.mp (List.mem_of_getLast? latest)
    refine ⟨_, .deciding named (requireAdministrator_eq_ok self), ?_⟩
    refine (withoutBookOf_changeBook (hi.answer _ _ _ _ _) hb (keepsPlace_judged _ _)).trans ?_
    have hown := isBookOf_of_mem hb rfl
    rw [← beq_iff_eq.mp hrbook] at hown
    exact withoutBookOf_approvals (filter_not_modify hi.approvals hr hown hown)

/-- A call has changed nothing, or the gradebook of one section, which was open to it. -/
def Scoped (ctx : Context) (c : Call) (s s' : Store) : Prop :=
  s' = s ∨ ∃ id, Permitted ctx s id c ∧ s'.withoutBookOf id = s.withoutBookOf id

lemma Scoped.of_write {c : Call} (hi : Integrity s) (w : s' = s ∨ Write ctx s c s') :
    Scoped ctx c s s' := w.imp_right (Write.scope hi)

lemma getOrCreate_scoped (classSection : Value) :
    (Action.commit (getOrCreate ctx classSection)).Ensures fun s _ s' =>
      Integrity s → Scoped ctx (.openBook classSection) s s' := by
  refine .commit (fun s b s' h hi => ?_) fun _ _ _ _ => .inl rfl
  simp only [getOrCreate, Transaction.run_eq_ok, bind_eq_ok] at h
  obtain ⟨d, ⟨id, named, hd⟩, h⟩ := h
  exact (openBook_opens (Transaction.run_eq_ok.mpr ⟨d, hd, h⟩)).imp_right fun w =>
    ⟨id, .opening named, Opens.withoutBookOf hi w⟩

lemma detail_scoped (caller : Caller) (classSection : Value) :
    (Gradebook.detail ctx caller classSection).Ensures fun s _ s' =>
      Integrity s → Scoped ctx (.viewBook caller classSection) s s' := by
  refine .read_bind (fun ⟨id, all⟩ => ?_) fun _ _ _ _ => .inl rfl
  refine .ite (fun hall => ?_) fun _ => ?_
  · refine .followed (W := fun s s' => seesAll ctx caller classSection s = .ok (id, all) → Integrity s →
      Scoped ctx (.viewBook caller classSection) s s')
      (.commit (fun s b s' h hsees hi => ?_) fun _ _ _ _ _ => .inl rfl) fun _ => .read _
    simp only [seesAll, bind_eq_ok, pure_eq_ok, Prod.mk.injEq] at hsees
    obtain ⟨_, named, manages, hmanages, rfl, rfl⟩ := hsees
    subst hall
    exact (openBook_opens h).imp_right fun w =>
      ⟨_, .viewing named (canManage_eq_ok hmanages), Opens.withoutBookOf hi w⟩
  · exact .ite (fun _ => .read fun _ _ _ => .inl rfl) fun _ => .throw fun _ _ _ => .inl rfl

lemma addItem_scoped (caller : Caller) (r : ItemRequest) :
    (Gradebook.addItem ctx caller r).Ensures fun s _ s' =>
      Integrity s → Scoped ctx (.addItem caller r) s s' := by
  refine (addItem_does caller r).mono fun s _ s' hadds hi => ?_
  rcases hadds with hsame | ⟨item, t, hchecked, hopened, hadded⟩
  · exact .inl hsame
  · obtain ⟨role, teaches⟩ := requireSectionTeacher_eq_ok (checkItem_taught hchecked)
    have permitted : Permitted ctx s item.classSection (.addItem caller r) :=
      .editing rfl (checkItem_eq_ok hchecked).1 role teaches
    have ht : Integrity t ∧ t.withoutBookOf item.classSection = s.withoutBookOf item.classSection := by
      rcases hopened with rfl | w
      · exact ⟨hi, rfl⟩
      · exact ⟨hi.opening ⟨_, w⟩, Opens.withoutBookOf hi w⟩
    rcases hadded with rfl | ⟨-, hchecked', w⟩
    · exact .inr ⟨_, permitted, ht.2⟩
    · cases w with
      | item checked found =>
        obtain rfl := Except.ok.inj (hchecked'.symm.trans checked)
        obtain ⟨hb, section', -⟩ := existingBook_eq_ok found
        refine .inr ⟨_, permitted, Eq.trans ?_ ht.2⟩
        rw [← section']
        exact withoutBookOf_item ht.1 hb rfl rfl ctx.now

end Calls

end Gradebook

end Assessment
