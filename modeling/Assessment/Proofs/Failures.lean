import Assessment.Call.Operation
import Assessment.Proofs.Gradebook.Records
import Assessment.Proofs.Sync.Posts

/-!
# Calls that fail

A call that fails leaves all tables as they were. Two calls commit more than one transaction before they
answer: adding an item, which opens the section's book first, and starting an attempt, which shows the
attempt after it is recorded. The first may leave the book behind; the second is not treated here.
-/

namespace Assessment

open Access Assessment.Action Gradebook Sync

section Calls

variable {ctx : Context} {α : Type}

/-- Does a call yield data? -/
def Yields (r : Except Fault (Option Value)) : Prop := ∃ data, r = .ok (some data)

/-- A call that yields no data leaves the store as it was. -/
def Call.KeepsStore (ctx : Context) (c : Call) : Prop :=
  (c.run ctx).Ensures fun s r s' => ¬Yields r → s' = s

lemma reported_ensures {a : Action α} (h : a.RollsBack) (report : Store → α → Value) :
    (Call.reported a report).Ensures fun s r s' => ¬Yields r → s' = s := by
  refine .bind h (fun x => .read fun t s _ hfails => ?_) fun s fault t hkept _ => hkept fault rfl
  exact absurd ⟨report t x, rfl⟩ hfails

lemma announced_rollsBack (t : Transaction α) (signal : α → Signal) :
    (do
      let r ← Action.commit t
      Action.send (signal r)
      return r : Action α).RollsBack :=
  (RollsBack.commit t).followed fun _ => (Succeeds.send _).bind fun _ => .pure _

lemma submit_rollsBack (caller : Caller) (attempt answers now timeout : Value) :
    (Attempting.submit (onSubmitted ctx) ctx caller attempt answers now timeout).RollsBack :=
  (RollsBack.commit _).followed fun _ =>
    (Succeeds.send _).bind fun _ => (Succeeds.attempt (onSubmitted_takes _)).bind fun _ => .pure _

lemma detail_rollsBack (caller : Caller) (classSection : Value) :
    (Gradebook.detail ctx caller classSection).RollsBack :=
  RollsBack.read_bind fun _ =>
    .ite ((RollsBack.commit _).followed fun _ => .read _) (.ite (.read _) (.throw _))

lemma postScore_keepsStore (r : PostRequest) : (Call.postScore r).KeepsStore ctx := by
  refine .bind (post_ensures r) (fun p => .pure fun t s hdone hfails => ?_) fun _ _ _ hdone _ => hdone
  cases p with
  | none => exact hdone
  | some p => exact absurd ⟨p.report, rfl⟩ hfails

/-- All calls but two leave the store as it was when they fail. -/
theorem Call.keepsStore (ctx : Context) (c : Call) :
    c.KeepsStore ctx ∨ (∃ caller quiz now, c = .startAttempt caller quiz now) ∨
      ∃ caller r, c = .addItem caller r := by
  cases c with
  | startAttempt caller quiz now => exact .inr (.inl ⟨caller, quiz, now, rfl⟩)
  | addItem caller r => exact .inr (.inr ⟨caller, r, rfl⟩)
  | getQuestions | listForTeacher | listPublished | viewAttempt =>
    exact .inl (reported_ensures (.read _) _)
  | createDraft | addQuestion | updateQuestion | deleteQuestion | deleteQuiz | close | openBook
    | upsertScores => exact .inl (reported_ensures (.commit _) _)
  | publish | requestApproval | decide => exact .inl (reported_ensures (announced_rollsBack _ _) _)
  | submitAttempt => exact .inl (reported_ensures (submit_rollsBack _ _ _ _ _) _)
  | viewBook => exact .inl (reported_ensures (detail_rollsBack _ _) _)
  | postScore r => exact .inl (postScore_keepsStore r)

/-- A new book of a section that had none. -/
def Opens (ctx : Context) (classSection : Int) (s s' : Store) : Prop :=
  s.bookOf? classSection = none ∧ (∃ c ∈ s.classSections, c.id = classSection) ∧
    s' = { s with books := s.books ++ [opened classSection ctx.now s] }

lemma checkItem_opened {caller : Caller} {r : ItemRequest} {s t : Store} (h : t = s ∨ Opening ctx s t) :
    checkItem ctx caller r t = checkItem ctx caller r s := by
  rcases h with rfl | w
  · rfl
  · rw [w.frame]
    rfl

lemma addItem_does (caller : Caller) (r : ItemRequest) :
    (Gradebook.addItem ctx caller r).Ensures fun s result s' => s' = s ∨ ∃ item t,
      checkItem ctx caller r s = .ok item ∧ (t = s ∨ Opens ctx item.classSection s t) ∧
        (s' = t ∨ (∃ a, result = .ok a) ∧ checkItem ctx caller r t = .ok item ∧
          Gradebook.Write ctx t (.addItem caller r) s') := by
  refine .read_bind (fun item => ?_) fun _ _ _ => .inl rfl
  refine .bind (Q := fun s _ t => t = s ∨ Opens ctx item.classSection s t)
    (.commit (fun _ _ _ => openBook_opens) fun _ _ _ => .inl rfl) (fun _ => .commit ?_ ?_) ?_
  · intro t a u h s hopened hchecked
    have hchecked' : checkItem ctx caller r t = .ok item :=
      (checkItem_opened (hopened.imp_right fun w => ⟨_, w⟩)).trans hchecked
    exact .inr ⟨item, t, hchecked, hopened, .inr ⟨⟨a, rfl⟩, hchecked', enterItem_writes hchecked' h⟩⟩
  · exact fun t _ _ s hopened hchecked => .inr ⟨item, t, hchecked, hopened, .inl rfl⟩
  · exact fun s _ t hopened hchecked => .inr ⟨item, t, hchecked, hopened, .inl rfl⟩

/-- An item that is refused may leave the book that was opened for it. -/
lemma addItem_ensures (caller : Caller) (r : ItemRequest) :
    ((Call.addItem caller r).run ctx).Ensures fun s result s' => ¬Yields result →
      s' = s ∨ ∃ id, Request.readPositive "Class section id" r.classSection = .ok id ∧
        Opens ctx id s s' := by
  refine .bind (addItem_does caller r) (fun x => .read fun t s _ hfails => ?_) fun s fault t hadds _ => ?_
  · exact absurd ⟨x.report, rfl⟩ hfails
  · rcases hadds with hsame | ⟨item, t, hchecked, hopened, rfl | ⟨⟨_, hok⟩, -⟩⟩
    · exact .inl hsame
    · exact hopened.imp_right fun h => ⟨_, (checkItem_eq_ok hchecked).1, h⟩
    · cases hok

end Calls

section Operations

open Table

/-- The store after an operation that no other writer interferes with. -/
def Operation.after (op : Operation) (ctx : Context) (args : Arguments) (s : Store) : Store :=
  (op.answer ctx args (.ofStore s)).2.store

/-- The answer of such an operation. -/
def Operation.outcome? (op : Operation) (ctx : Context) (args : Arguments) (s : Store) :
    Option Outcome := (op.answer ctx args (.ofStore s)).1

variable {P : Context → Service → Prop} {ctx : Context} {s : Store}

lemma bookRecord_opened (hi : Integrity s) (classSection : Int) (now : Time.Instant) :
    let b := opened classSection now s
    ({ s with books := s.books ++ [b] } : Store).bookRecord b.id = ⟨some b, [], [], [], []⟩ := by
  intro b
  have hnumbered : Numbered (s.books ++ [b]) := hi.books.concat rfl
  have hrow : find? b.id (s.books ++ [b]) = some b :=
    find?_of_mem hnumbered (List.mem_append_right _ (List.mem_singleton_self b))
  have hitems : ∀ i ∈ s.items, i.book ≠ b.id := fun i => hi.itemBook.ne_nextId
  have hrequests : ∀ a ∈ s.approvals, a.book ≠ b.id := fun a => hi.approvalBook.ne_nextId
  have hentries : s.entriesIn b.id = [] := by
    refine List.filter_eq_nil_iff.mpr fun e _ hown => ?_
    obtain ⟨i, hmem, hbook, -⟩ := holdsEntry_iff.mp hown
    exact hitems i hmem hbook
  have haudits : s.audits.filter (fun a => (s.entriesIn b.id).any (·.id == a.entry)) = [] := by
    rw [hentries]
    simp
  simp only [Store.bookRecord, BookRecord.mk.injEq]
  refine ⟨hrow, ?_, hentries, haudits, ?_⟩
  · simpa using hitems
  · simpa [Store.requestsOf] using hrequests

lemma not_yields {c : Call} {t : Session} (h : ∀ data, (c.answer ctx t).1 ≠ some (.success data)) :
    ¬Yields (c.run ctx t).1 := by
  rintro ⟨data, hdata⟩
  exact h data (answer_of_ok hdata)

lemma addItem_argument {args : Arguments} {arg : String → Value}
    (h : Arguments.bind Operation.addItem.required Operation.addItem.optional args = .ok arg) :
    arg "class_section_id" = (KeyedList.get? "class_section_id" args).getD .null := by
  simp only [Arguments.bind, unless_eq_ok, Except.ok.injEq] at h
  obtain ⟨-, -, rfl⟩ := h
  have hnone : KeyedList.get? "class_section_id" Operation.addItem.optional = none := by decide
  simp [hnone]

/-- In every store that can be reached, an operation other than a start that does not succeed leaves all
tables as they were. Adding an item may have opened the book of a section that had none; that book is an
empty draft in its first version. -/
theorem failed_operation_keeps_store (h : Reachable P s) (ctx : Context) {op : Operation}
    (other : op ≠ .startAttempt) (args : Arguments)
    (fails : ∀ data, op.outcome? ctx args s ≠ some (.success data)) :
    op.after ctx args s = s ∨ op = .addItem ∧ ∃ b : GradeBook,
      Request.readPositive "Class section id"
        ((KeyedList.get? "class_section_id" args).getD .null) = .ok b.classSection ∧
      s.bookOf? b.classSection = none ∧
      op.after ctx args s = { s with books := s.books ++ [b] } ∧
      b.status = .draft ∧ b.version = 1 ∧
      (op.after ctx args s).bookRecord b.id = ⟨some b, [], [], [], []⟩ := by
  unfold Operation.outcome? Operation.answer at fails
  unfold Operation.after Operation.answer
  cases hbind : Arguments.bind op.required op.optional args with
  | error defect => exact .inl rfl
  | ok arg =>
    simp only [hbind] at fails ⊢
    have hfails := not_yields fails
    rw [answer_session]
    rcases Call.keepsStore ctx (op.call (op.callerOf arg) arg) with hkeeps | hstart | hadds
    · exact .inl ((hkeeps (.ofStore s) rfl).2 hfails)
    · obtain ⟨caller, quiz, now, hcall⟩ := hstart
      cases op <;> simp [Operation.call] at hcall other
    · obtain ⟨caller, r, hcall⟩ := hadds
      obtain rfl : op = .addItem := by cases op <;> simp [Operation.call] at hcall ⊢
      rcases (addItem_ensures _ _ (.ofStore s) rfl).2 hfails with hsame | ⟨id, hid, hnone, -, hopened⟩
      · exact .inl hsame
      · refine .inr ⟨rfl, opened id ctx.now s, ?_, hnone, hopened, rfl, rfl, ?_⟩
        · rw [← addItem_argument hbind]
          exact hid
        · exact (congrArg (fun t : Store => t.bookRecord (opened id ctx.now s).id) hopened).trans
            (bookRecord_opened (integrity_of_reachable h) id ctx.now)

end Operations

/-- An item that names a version which the section's book, opened for the item, does not have. -/
def untimelyItem : Arguments :=
  [("teacher_id", .int 1), ("role", .text "TEACHER"), ("class_section_id", .int 1),
    ("name", .text "Midterm"), ("max_score", .int 10), ("expected_version", .int 7)]

theorem failed_operation_keeps_store_of_untimely_item :
    let start := Scenario.State.start .standard
    let after := Operation.addItem.after start.context untimelyItem start.store
    (∃ f, Operation.addItem.outcome? start.context untimelyItem start.store = some (.failure f) ∧
      f.kind = .conflict) ∧
    ∃ b, after = { start.store with books := [b] } ∧ b.classSection = 1 ∧ b.status = .draft ∧
      after.bookRecord b.id = ⟨some b, [], [], [], []⟩ := by
  intro start after
  have h : Reachable (fun _ _ => True) start.store := ⟨_, _, _, .done⟩
  have hfails : ∃ f, Operation.addItem.outcome? start.context untimelyItem start.store =
      some (.failure f) ∧ f.kind = .conflict := ⟨_, rfl, rfl⟩
  refine ⟨hfails, ?_⟩
  obtain ⟨f, hf, -⟩ := hfails
  have other : Operation.addItem ≠ .startAttempt := by decide
  rcases failed_operation_keeps_store h start.context other untimelyItem (by simp [hf]) with
    hsame | ⟨-, b, hsection, -, hopened, hdraft, -, hrecord⟩
  · exact absurd hsame (by decide +kernel)
  · exact ⟨b, hopened, (Except.ok.inj hsection).symm, hdraft, hrecord⟩

end Assessment
