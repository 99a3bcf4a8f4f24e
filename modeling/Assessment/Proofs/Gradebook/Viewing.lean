import Assessment.Proofs.Gradebook.Snapshot
import Assessment.Proofs.Sorting

/-!
# What a student sees of a gradebook

A student is shown a section's book with its items and the entries of the own enrollment, and only once the
book is published or locked. Nothing else in the store plays a part in the answer.
-/

namespace Assessment.Gradebook

open Access Request

variable {ctx : Context} {caller : Caller} {classSection : Value} {id : Int} {s t : Store}

/-- The entries of a caller's own enrollment in a section. -/
def ownEntries (ctx : Context) (caller : Caller) (classSection : Int) (s : Store) :
    Except Fault (List GradeEntry) := do
  let enrollment ← requireEnrollment (ctx.directory s) caller (.int classSection)
  let own ← (enrollment.probe : Except Defect Probe)
  return s.entries.filter fun e => own.findsWhole e.enrollment

/-- Two stores agree on the registration of a section and on the row of its book. -/
structure SameSection (classSection : Int) (s t : Store) : Prop where
  classSections : s.classSections = t.classSections
  enrollments : s.enrollments = t.enrollments
  book : s.bookOf? classSection = t.bookOf? classSection

/-- Two stores agree on the items of a book and on the entries of a caller's own enrollment. -/
structure SameGrades (ctx : Context) (caller : Caller) (b : GradeBook) (s t : Store) : Prop where
  items : s.items.filter (·.book == b.id) = t.items.filter (·.book == b.id)
  entries : ownEntries ctx caller b.classSection s = ownEntries ctx caller b.classSection t

lemma ranks_entries : Ranks fun a b : GradeEntry =>
    a.enrollment < b.enrollment || (a.enrollment == b.enrollment && a.item ≤ b.item) := by
  constructor <;>
    (intros; simp only [Bool.or_eq_true, Bool.and_eq_true, decide_eq_true_eq, beq_iff_eq] at *; omega)

lemma filter_entriesOf_congr {book : Int} {own : GradeEntry → Bool}
    (items : s.items.filter (·.book == book) = t.items.filter (·.book == book))
    (entries : s.entries.filter own = t.entries.filter own) :
    (entriesOf s book).filter own = (entriesOf t book).filter own := by
  unfold entriesOf
  dsimp only
  rw [filter_sortBy ranks_entries, filter_sortBy ranks_entries, items, List.filter_comm own, entries,
    List.filter_comm own]

lemma studentDetail_congr (same : SameSection id s t)
    (shown : ∀ b, s.bookOf? id = some b → b.status = .published ∨ b.status = .locked →
      SameGrades ctx caller b s t) :
    studentDetail ctx caller id s = studentDetail ctx caller id t := by
  have hdirectory : ctx.directory s = ctx.directory t := by
    unfold Context.directory Store.directory
    rw [same.classSections, same.enrollments]
  unfold studentDetail existingBook
  rw [hdirectory, ← same.book]
  cases henrolled : requireEnrollment (ctx.directory t) caller (.int id) with
  | error fault => rfl
  | ok enrollment =>
    cases hstorable : queryWith [id] with
    | error fault => rfl
    | ok =>
      cases hb : s.bookOf? id with
      | none => rfl
      | some b =>
        have hid : b.classSection = id := by simpa using List.find?_some hb
        dsimp only [bind, Except.bind, pure, Except.pure]
        by_cases hvisible : b.status.isVisible = true
        · obtain ⟨hitems, hown⟩ := shown b hb (by simpa [BookStatus.isVisible] using hvisible)
          have hbooks : s.itemsOf b.id = t.itemsOf b.id := congrArg (Store.inOrder GradeItem.order) hitems
          simp only [ownEntries, hdirectory, hid, henrolled] at hown
          dsimp only [bind, Except.bind, pure, Except.pure] at hown
          cases hprobe : (liftM enrollment.probe : Except Fault Probe) with
          | error fault => rfl
          | ok own =>
            rw [hprobe] at hown
            have hentries := filter_entriesOf_congr hitems (Except.ok.inj hown)
            simp only [ownDetail, hbooks, hentries]
        · have hhidden : (!b.status.isVisible) = true := by simpa using hvisible
          rw [if_pos hhidden, if_pos hhidden]
          rfl

lemma detail_of_student (ctx : Context) (student : caller.actsAs .student = true)
    (named : readPositive "Class section id" classSection = .ok id) (σ : Session) :
    detail ctx caller classSection σ = (studentDetail ctx caller id σ.store, σ) := by
  have hrole : Role.ofText? caller.role = some .student := by simpa [Caller.actsAs] using student
  have hsees : seesAll ctx caller classSection σ.store = .ok (id, false) := by
    simp [seesAll, named, canManage, isSectionTeacher, Caller.actsAs, hrole]
  have hread : Action.read (seesAll ctx caller classSection) σ = (.ok (id, false), σ) :=
    Action.read_eq_ok.mpr ⟨hsees, rfl⟩
  unfold detail
  rw [Action.bind_of_ok hread]
  simp only [Bool.false_eq_true, if_false, if_pos student]
  rfl

/-- How a student who views a book is answered. -/
def viewed : Except Fault BookDetail → Outcome
  | .ok d => .success d.report
  | .error fault => .failure fault.failure

lemma viewBook_of_student (student : caller.actsAs .student = true)
    (named : readPositive "Class section id" classSection = .ok id) (s : Store) :
    (Call.viewBook caller classSection).answer ctx (.ofStore s) =
      (some (viewed (studentDetail ctx caller id s)), .ofStore s) := by
  have hdetail := detail_of_student ctx student named (.ofStore s)
  have hrun : (Call.viewBook caller classSection).run ctx (.ofStore s) =
      ((studentDetail ctx caller id s).map fun d => some d.report, .ofStore s) := by
    cases hd : studentDetail ctx caller id s with
    | ok d =>
      exact Action.bind_of_ok (hdetail.trans (Prod.ext hd rfl))
    | error fault => exact Action.bind_of_error (hdetail.trans (Prod.ext hd rfl))
  unfold Call.answer
  rw [hrun]
  cases studentDetail ctx caller id s <;> rfl

/-- A student who views the book of a section is answered by the registration, the row of the book, its items
and the entries of the own enrollment; nothing else in the store plays a part. While the book is neither
published nor locked, not even its items and the own entries do. Viewing changes nothing. -/
theorem student_view_is_own (ctx : Context) (student : caller.actsAs .student = true)
    (named : readPositive "Class section id" classSection = .ok id) (same : SameSection id s t)
    (shown : ∀ b, s.bookOf? id = some b → b.status = .published ∨ b.status = .locked →
      SameGrades ctx caller b s t) :
    ∃ outcome, (Call.viewBook caller classSection).answer ctx (.ofStore s) =
        (some outcome, .ofStore s) ∧
      (Call.viewBook caller classSection).answer ctx (.ofStore t) = (some outcome, .ofStore t) := by
  refine ⟨_, viewBook_of_student student named s, ?_⟩
  rw [studentDetail_congr same shown]
  exact viewBook_of_student student named t

/-- The store after the scores of two students are approved. -/
def scoredAndApproved : Store :=
  (Scenario.State.start .standard).context.serve
    [.call (.decide .approve ⟨.int 3, "ADMIN"⟩ (.int 1) .null .null)] scoredAndRequested

/-- A student sees the own score though another one's is taken away with the log and the requests; and before
the approval it makes no difference that there are no scores at all. -/
theorem student_view_is_own_of_scored :
    let ctx := (Scenario.State.start .standard).context
    let c := Call.viewBook ⟨.int 4, "STUDENT"⟩ (.int 1)
    let s := scoredAndApproved
    let s' := { s with entries := s.entries.filter (·.enrollment == 1), audits := [], approvals := [] }
    let t := scoredAndRequested
    let t' := { t with items := [], entries := [] }
    (s ≠ s' ∧ ∃ outcome, c.answer ctx (.ofStore s) = (some outcome, .ofStore s) ∧
        c.answer ctx (.ofStore s') = (some outcome, .ofStore s') ∧ outcome.isSuccess = true) ∧
      t ≠ t' ∧ ∃ outcome, c.answer ctx (.ofStore t) = (some outcome, .ofStore t) ∧
        c.answer ctx (.ofStore t') = (some outcome, .ofStore t') ∧ outcome.isSuccess = false := by
  intro ctx c s s' t t'
  have student : (⟨.int 4, "STUDENT"⟩ : Caller).actsAs .student = true := by decide
  have named : readPositive "Class section id" (.int 1) = .ok 1 := by decide
  have hchanged : s ≠ s' ∧ t ≠ t' := by decide +kernel
  have hsuccess : (c.answer ctx (.ofStore s)).1.any Outcome.isSuccess = true ∧
      (c.answer ctx (.ofStore t)).1.any Outcome.isSuccess = false := by decide +kernel
  have hown : ownEntries ctx ⟨.int 4, "STUDENT"⟩ 1 s = ownEntries ctx ⟨.int 4, "STUDENT"⟩ 1 s' := by
    decide +kernel
  -- What holds of any store is stated for any, so that these two are not computed.
  have hitems (u : Store) (entries : List GradeEntry) (book : Int) :
      u.items.filter (·.book == book) =
        ({ u with entries, audits := [], approvals := [] } : Store).items.filter (·.book == book) := rfl
  have hgrades : ∀ b, s.bookOf? 1 = some b → SameGrades ctx ⟨.int 4, "STUDENT"⟩ b s s' := by
    intro b hb
    have hid : b.classSection = 1 := by simpa using List.find?_some hb
    exact ⟨hitems s _ b.id, by rw [hid, hown]⟩
  have hbook (u : Store) (b : GradeBook) (h : u.bookOf? 1 = some b) : b ∈ u.books :=
    List.mem_of_find?_eq_some h
  have hhidden : ∀ b ∈ t.books, b.status ≠ .published ∧ b.status ≠ .locked := by decide +kernel
  have hsame (u : Store) (entries : List GradeEntry) :
      SameSection 1 u { u with entries, audits := [], approvals := [] } := ⟨rfl, rfl, rfl⟩
  have hsame' (u : Store) : SameSection 1 u { u with items := [], entries := [] } := ⟨rfl, rfl, rfl⟩
  obtain ⟨shown, hs, hs'⟩ := student_view_is_own ctx student named (hsame s _)
    fun b hb _ => hgrades b hb
  obtain ⟨hidden, ht, ht'⟩ := student_view_is_own ctx student named (hsame' t)
    fun b hb hvisible => absurd hvisible (not_or.mpr (hhidden b (hbook t b hb)))
  rw [hs, ht] at hsuccess
  exact ⟨⟨hchanged.1, shown, hs, hs', hsuccess.1⟩, hchanged.2, hidden, ht, ht', hsuccess.2⟩

end Assessment.Gradebook
