import Assessment.Proofs.Gradebook.Versions

/-!
# No lost updates

A call that edits or reviews a book may name the version that its caller has seen. Such a call succeeds
only while the book has that version, so it fails once the book has changed.
-/

namespace Assessment

open Request

/-- The section and the version that a call on a book names. -/
def Call.named? : Call → Option (Value × Value)
  | addItem _ r => some (r.classSection, r.expectedVersion)
  | upsertScores _ r => some (r.classSection, r.expectedVersion)
  | requestApproval _ classSection _ expected => some (classSection, expected)
  | decide _ _ classSection _ expected => some (classSection, expected)
  | _ => none

/-- A value gives a number: it is there, and it reads as that number if it reads as one. -/
def Gives (label : String) (v : Value) (n : Int) : Prop :=
  v.isNull = false ∧ ∀ m, readPositive label v = .ok m → m = n

lemma gives_int (label : String) (n : Int) : Gives label (.int n) n := by
  refine ⟨rfl, fun m h => ?_⟩
  have hread : readPositive label (.int n) =
      if 0 < n then .ok n else .error (.refused (.notPositive label)) := rfl
  rw [hread, when_eq_ok] at h
  exact (Except.ok.inj h.2).symm

namespace Gradebook

open Assessment.Action Table

/-- A section names a book, and a version is none or the one that the book has. -/
def Current (s : Store) (classSection expected : Value) : Prop :=
  ∃ id book, readPositive "Class section id" classSection = .ok id ∧ existingBook id s = .ok book ∧
    checkVersion book expected = .ok ()

section Checks

variable {ctx : Context} {caller : Access.Caller} {s s' : Store}

lemma eq_of_section (hi : Integrity s) {b c : GradeBook} (hb : b ∈ s.books) (hc : c ∈ s.books)
    (h : b.classSection = c.classSection) : b = c := by
  have hnodup : (s.books.map (·.classSection)).Nodup := List.pairwise_map.mpr hi.sections
  exact List.inj_on_of_nodup_map hnodup hb hc h

lemma not_current (hi : Integrity s) {b : GradeBook} (hb : b ∈ s.books) {classSection expected : Value}
    (place : Gives "Class section id" classSection b.classSection) {version : Int}
    (seen : Gives "Expected version" expected version) (moved : b.version ≠ version) :
    ¬Current s classSection expected := by
  rintro ⟨id, book, hid, hbook, hversion⟩
  obtain ⟨hmem, hsection, -⟩ := existingBook_eq_ok hbook
  obtain rfl : book = b := eq_of_section hi hmem hb (hsection.trans (place.2 id hid))
  simp only [checkVersion, seen.1, Bool.not_false, if_true, bind_eq_ok] at hversion
  obtain ⟨m, hm, hversion⟩ := hversion
  rw [seen.2 m hm, if_pos (Ne.symm moved)] at hversion
  exact throw_ne_ok hversion

lemma upsertScores_current {r : BatchRequest} {a : BatchResult × Store}
    (h : (upsertScores ctx caller r).run s = .ok a) : Current s r.classSection r.expectedVersion := by
  obtain ⟨id, book, _, _, _, _, _, taken, -⟩ := upsertScores_iff.mp h
  exact ⟨id, book, taken.named, taken.found, taken.version⟩

lemma openRequest_current {classSection message expected : Value} {a : Review × Store}
    (h : (openRequest ctx caller classSection message expected).run s = .ok a) :
    Current s classSection expected := by
  simp only [openRequest, Transaction.run_eq_ok, bind_eq_ok, exists_unit, guard_eq_ok] at h
  obtain ⟨_, ⟨id, hid, -, text, -, book, hbook, -, hversion, -⟩, -⟩ := h
  exact ⟨id, book, hid, hbook, hversion⟩

lemma decideRequest_current {verdict : Verdict} {classSection message expected : Value}
    {a : Review × Store}
    (h : (decideRequest verdict ctx caller classSection message expected).run s = .ok a) :
    Current s classSection expected := by
  simp only [decideRequest, Transaction.run_eq_ok, bind_eq_ok, exists_unit, guard_eq_ok] at h
  obtain ⟨_, ⟨-, text, -, id, hid, book, hbook, -, hversion, -⟩, -⟩ := h
  exact ⟨id, book, hid, hbook, hversion⟩

lemma enterItem_current {item : CheckedItem} {r : ItemRequest} {a : ItemAdded × Store}
    (section' : readPositive "Class section id" r.classSection = .ok item.classSection)
    (h : (enterItem ctx item r).run s = .ok a) : Current s r.classSection r.expectedVersion := by
  simp only [enterItem, Transaction.run_eq_ok, bind_eq_ok, exists_unit, guard_eq_ok] at h
  obtain ⟨_, ⟨book, hbook, -, hversion, -⟩, -⟩ := h
  exact ⟨_, book, section', hbook, hversion⟩

end Checks

section Calls

variable {ctx : Context} {α β : Type} {classSection expected : Value}

/-- A success has met a present version in a store whose books are the same. -/
def Meets (classSection expected : Value) (s : Store) (r : Except Fault α) (_ : Store) : Prop :=
  ∀ a, r = .ok a → ∃ t, Spares s t ∧ Current t classSection expected

lemma meets_error (s t : Store) (fault : Fault) :
    Meets classSection expected s (.error fault : Except Fault α) t := fun _ h => by cases h

lemma meets_commit {t : Transaction α}
    (h : ∀ s a, t.run s = .ok a → Current s classSection expected) :
    (Action.commit t).Ensures (Meets classSection expected) :=
  .commit (fun s a s' ha _ _ => ⟨s, Spares.refl s, h s (a, s') ha⟩) fun s fault _ => meets_error s s fault

lemma meets_bind {x : Action α} {f : α → Action β} (hx : x.Ensures (Meets classSection expected))
    (hf : ∀ a, (f a).Takes fun _ _ => False) : (x >>= f).Ensures (Meets classSection expected) := by
  exact .bind hx (fun a s hs => ⟨(hf a s hs).1, fun t ht b _ => ht a rfl⟩)
    fun s fault t _ => meets_error s t fault

lemma addItem_meets (caller : Access.Caller) (r : ItemRequest) :
    (Gradebook.addItem ctx caller r).Ensures (Meets r.classSection r.expectedVersion) := by
  refine .read_bind (fun item => ?_) fun s fault _ => meets_error s s fault
  refine .bind (Q := fun s _ t => t = s ∨ Opening ctx s t)
    (.commit (fun s b t => openBook_run) fun _ _ _ => .inl rfl) (fun _ => .commit ?_ ?_) ?_
  · intro t a u h s hopened hchecked _ _
    exact ⟨t, spares_of_opened hopened, enterItem_current (checkItem_eq_ok hchecked).1 h⟩
  · exact fun t fault _ s _ _ => meets_error s t fault
  · exact fun s fault t _ _ => meets_error s t fault

lemma call_meets (ctx : Context) (c : Call) (names : c.named? = some (classSection, expected)) :
    (c.run ctx).Ensures (Meets classSection expected) := by
  cases c with
  | addItem caller r =>
    cases names
    exact meets_bind (addItem_meets caller r) fun _ => .read _
  | upsertScores =>
    cases names
    exact meets_bind (meets_commit fun _ _ h => upsertScores_current h) fun _ => .read _
  | requestApproval =>
    cases names
    exact meets_bind (meets_bind (meets_commit fun _ _ h => openRequest_current h) fun _ =>
      .bind (.send _) fun _ => .pure _) fun _ => .read _
  | decide =>
    cases names
    exact meets_bind (meets_bind (meets_commit fun _ _ h => decideRequest_current h) fun _ =>
      .bind (.send _) fun _ => .pure _) fun _ => .read _
  | _ => cases names

lemma failed_spares (c : Call) (other : ∀ caller quiz now, c ≠ .startAttempt caller quiz now) (s : Store)
    (fails : ∃ fault, (c.run ctx (.ofStore s)).1 = .error fault) :
    Spares s ((Service.call c).after ctx s) := by
  have hfails : ¬Yields (c.run ctx (.ofStore s)).1 := by
    rintro ⟨data, hdata⟩
    obtain ⟨fault, hfault⟩ := fails
    rw [hfault] at hdata
    cases hdata
  have hafter : (Service.call c).after ctx s = (c.run ctx (.ofStore s)).2.store :=
    congrArg Session.store (answer_session c _)
  rw [hafter]
  rcases Call.keepsStore ctx c with hkeeps | ⟨caller, quiz, now, rfl⟩ | ⟨caller, r, rfl⟩
  · exact spares_of_eq ((hkeeps (.ofStore s) rfl).2 hfails)
  · exact absurd rfl (other caller quiz now)
  · rcases (addItem_ensures caller r (.ofStore s) rfl).2 hfails with hsame | ⟨id, -, hopens⟩
    · exact spares_of_eq hsame
    · exact Opening.spares ⟨id, hopens⟩

lemma stale_call_fails {s : Store} (hi : Integrity s) {b : GradeBook} (hb : b ∈ s.books) (c : Call)
    (names : c.named? = some (classSection, expected))
    (place : Gives "Class section id" classSection b.classSection) {version : Int}
    (seen : Gives "Expected version" expected version) (moved : b.version ≠ version) :
    (∃ f, (c.answer ctx (.ofStore s)).1 = some (.failure f)) ∧
      ((Service.call c).after ctx s).bookRecord b.id = s.bookRecord b.id := by
  have hmeets := (call_meets ctx c names (.ofStore s) rfl).2
  have hfails : ∃ fault, (c.run ctx (.ofStore s)).1 = .error fault := by
    cases hr : (c.run ctx (.ofStore s)).1 with
    | error fault => exact ⟨fault, rfl⟩
    | ok data =>
      -- The version was checked in a store whose books are those of the start.
      obtain ⟨t, hspares, hcurrent⟩ := hmeets data hr
      obtain ⟨b', hrow, hsection, hversion, -⟩ := (hspares hi).books b hb
      have hmoved : b'.version ≠ version := by simpa [hversion] using moved
      rw [← hsection] at place
      exact absurd hcurrent (not_current (hspares hi).integrity (mem_of_row hrow).1 place seen hmoved)
  refine ⟨?_, ?_⟩
  · obtain ⟨fault, hfault⟩ := hfails
    exact ⟨fault.failure, answer_of_error hfault⟩
  · have other : ∀ caller quiz now, c ≠ .startAttempt caller quiz now := by
      rintro caller quiz now rfl
      cases names
    obtain ⟨_, -, -, -, hsame⟩ := (failed_spares c other s hfails hi).books b hb
    exact hsame rfl

end Calls

section Runs

variable {P : Context → Service → Prop} {s t : Store}

lemma service_raises (hi : Integrity s) (ctx : Context) (op : Service) :
    ∃ n, Raises n s (op.after ctx s) := by
  by_cases hpass : ∃ now limit, op = .processPending now limit
  · obtain ⟨now, limit, rfl⟩ := hpass
    exact ⟨_, pass_raises ctx now limit hi⟩
  · obtain ⟨n, -, h⟩ := service_once op (fun now limit hop => hpass ⟨now, limit, hop⟩) s hi
    exact ⟨n, h⟩

lemma run_raises (hi : Integrity s) (h : Run P s t) : ∃ n, Raises n s t := by
  induction h with
  | done => exact ⟨0, raises_zero hi hi fun _ _ => rfl⟩
  | next _ ctx op _ ih =>
    obtain ⟨m, hm⟩ := ih
    obtain ⟨n, hn⟩ := service_raises hm.integrity ctx op
    exact ⟨m + n, hm.trans hn⟩

lemma moved_of_change (hi : Integrity s) {b : GradeBook} (hb : b ∈ s.books) (h : Run P s t)
    {ctx : Context} {op : Service} (changed : (op.after ctx t).bookRecord b.id ≠ t.bookRecord b.id)
    {u : Store} (h' : Run P (op.after ctx t) u) :
    Integrity u ∧ ∃ b' ∈ u.books, b'.id = b.id ∧ b'.classSection = b.classSection ∧
      b.version < b'.version := by
  obtain ⟨l, hl⟩ := run_raises hi h
  obtain ⟨m, hm⟩ := service_raises hl.integrity ctx op
  obtain ⟨n, hn⟩ := run_raises hm.integrity h'
  obtain ⟨c, hrow, -, -, -⟩ := hl.books b hb
  obtain ⟨hc, hid⟩ := mem_of_row hrow
  -- The operation has raised the version, or it would have kept the record.
  have hraised : m b.id ≠ 0 := by
    intro hzero
    obtain ⟨_, -, -, -, hsame⟩ := hm.books c hc
    rw [hid] at hsame
    exact changed (hsame hzero)
  have hall := (hl.trans hm).trans hn
  obtain ⟨b', hrow', hsection, hversion, -⟩ := hall.books b hb
  refine ⟨hall.integrity, b', (mem_of_row hrow').1, (mem_of_row hrow').2, hsection, ?_⟩
  simp only [Pi.add_apply] at hversion
  omega

end Runs

/-- The version of a book tells two of its records apart that are one operation away from each other. -/
def Counts (b : GradeBook) (r r' : BookRecord) : Prop :=
  ∃ b', r'.row = some b' ∧ (b'.version = b.version ↔ r' = r) ∧ (r' ≠ r → b'.version = b.version + 1)

lemma counts_of_once {s s' : Store} (hi : Integrity s) {b : GradeBook} (hb : b ∈ s.books)
    (h : RaisesOnce s s') : Counts b (s.bookRecord b.id) (s'.bookRecord b.id) := by
  obtain ⟨n, hn, hraises⟩ := h hi
  obtain ⟨b', hrow, -, hversion, hsame⟩ := hraises.books b hb
  have hone := hn b.id
  refine ⟨b', hrow, ⟨fun hv => hsame (by omega), fun hr => ?_⟩, fun hne => ?_⟩
  · rw [hr, row_eq hi hb] at hrow
    rw [Option.some.inj hrow]
  · have hzero : n b.id ≠ 0 := fun hzero => hne (hsame hzero)
    omega

/-- In every store that can be reached: an operation other than a pass changes the record of a book
exactly if it raises the version, and then by one; a pass raises it by the number of its posts that change
a score of the book; and after a run in which the book has changed, every call that names the version
from before fails and leaves the record of the book as it is. -/
theorem versions_count_changes {P : Context → Service → Prop} {s : Store} {b : GradeBook}
    (h : Reachable P s) (hb : b ∈ s.books) :
    (∀ (ctx : Context) (op : Service), (∀ now limit, op ≠ .processPending now limit) →
      Counts b (s.bookRecord b.id) ((op.after ctx s).bookRecord b.id)) ∧
    (∀ (ctx : Context) (now limit : Value),
      ∃ b', (((Service.processPending now limit).after ctx s).bookRecord b.id).row = some b' ∧
        b'.version = b.version + raisesBy s (Sync.passPosts ctx now limit s) b.id) ∧
    ∀ (ctx : Context) (op : Service) (t u : Store), Run P s t →
      (op.after ctx t).bookRecord b.id ≠ t.bookRecord b.id → Run P (op.after ctx t) u →
      ∀ (ctx' : Context) (c : Call) (classSection expected : Value),
        c.named? = some (classSection, expected) →
        Gives "Class section id" classSection b.classSection →
        Gives "Expected version" expected b.version →
        (∃ f, (c.answer ctx' (.ofStore u)).1 = some (.failure f)) ∧
          ((Service.call c).after ctx' u).bookRecord b.id = u.bookRecord b.id := by
  have hi := integrity_of_reachable h
  refine ⟨?_, ?_, ?_⟩
  · exact fun ctx op single => counts_of_once hi hb (service_once op single s)
  · intro ctx now limit
    obtain ⟨b', hrow, -, hversion, -⟩ := (pass_raises ctx now limit hi).books b hb
    exact ⟨b', hrow, hversion⟩
  · intro ctx op t u hbefore hchanged hafter ctx' c classSection expected names place seen
    obtain ⟨hu, b', hb', hid, hsection, hlater⟩ := moved_of_change hi hb hbefore hchanged hafter
    rw [← hsection] at place
    rw [← hid]
    exact stale_call_fails hu hb' c names place seen (ne_of_gt hlater)

/-- A batch with one score for the only item, seen in the second version of the book. -/
def batchSeen : Call :=
  .upsertScores ⟨.int 1, "TEACHER"⟩ ⟨.int 1,
    .list [.object [("grade_item_id", .int 1), ("enrollment_id", .int 1), ("score", .int 7)]], .int 2⟩

theorem versions_count_changes_of_two_batches :
    let start := Scenario.State.start .standard
    let s := start.context.serve
      [.call (.addItem ⟨.int 1, "TEACHER"⟩
        ⟨.int 1, .text "Midterm", .int 10, .null, .bool true, .null, .null⟩)] start.store
    let t := (Service.call batchSeen).after start.context s
    ∃ b ∈ s.books, b.version = 2 ∧ (∃ c ∈ t.books, c.id = b.id ∧ c.version = 3) ∧
      (∃ f, (batchSeen.answer start.context (.ofStore t)).1 = some (.failure f)) ∧
      ((Service.call batchSeen).after start.context t).bookRecord b.id = t.bookRecord b.id := by
  intro start s t
  have h : Reachable (fun _ _ => True) s := .serve (fun _ _ => trivial) _ _ _
  have hb : ∃ b ∈ s.books, b.version = 2 ∧ b.classSection = 1 ∧ (∃ c ∈ t.books, c.id = b.id ∧ c.version = 3) ∧
      t.bookRecord b.id ≠ s.bookRecord b.id := by
    decide +kernel
  obtain ⟨b, hb, hversion, hsection, hnext, hchanged⟩ := hb
  obtain ⟨-, -, hstale⟩ := versions_count_changes h hb
  have place : Gives "Class section id" (.int 1) b.classSection := by
    rw [hsection]
    exact gives_int _ 1
  have seen : Gives "Expected version" (.int 2) b.version := by
    rw [hversion]
    exact gives_int _ 2
  obtain ⟨hfails, hkept⟩ := hstale start.context (.call batchSeen) s t .done hchanged .done start.context
    batchSeen _ _ rfl place seen
  exact ⟨b, hb, hversion, hnext, hfails, hkept⟩

end Gradebook

end Assessment
