import Assessment.Proofs.Gradebook.Answering
import Assessment.Proofs.Sync.Results

/-!
# A score is posted once

A post that succeeds leaves the score of the attempt, on the scale of its item, in the entry of its
enrollment, and touches nothing else but the log of that entry and the version of the book. What is read
from the entry is the very score that was posted, so that posting it again changes nothing.
-/

namespace Assessment.Sync

open Access Gradebook Number Request Table

/-- Two stores differ at most in the entry of an enrollment under an item, in what is logged of that entry,
and in the version and the time of the last change of a book. -/
structure Confined (book item enrollment : Int) (s s' : Store) : Prop where
  tables : s' = { s with books := s'.books, entries := s'.entries, audits := s'.audits }
  book : s'.books = s.books ∨ ∃ now, s'.books = modify book (touched now) s.books
  entries : s'.entries.filter (fun e => !isAt item enrollment e) =
    s.entries.filter fun e => !isAt item enrollment e
  audits : ∃ rows, s'.audits = s.audits ++ rows ∧
    ∀ r ∈ rows, ∃ e, s'.entryOf? item enrollment = some e ∧ r.entry = e.id

/-- A further request to post the score of an attempt: its caller may post it, and neither its reason nor
its time allowance keeps it from that. -/
structure Again (ctx : Context) (s : Store) (a : Attempt) (r : PostRequest) : Prop where
  named : readPositive "Attempt id" r.attempt = .ok a.id
  manages : requirePoster ctx r.poster a.classSection s = .ok ()
  reads : ∃ text, reasonOr r.reason syncReason = .ok text
  timely : ∃ deadline, readDeadline? ctx.now r.timeout = .ok deadline ∧ isExpired ctx.now deadline = false

section Values

lemma sameScore_of_value {a : Option Amount} {d : Decimal} {n : Nat} (hn : n < 10 ^ 28)
    (readable : Readable a) (within : Within n d) (h : scoreValue a = some d.value) :
    sameScore (a.map Amount.toDecimal) (some d) = .ok true := by
  obtain ⟨x, rfl, hvalue⟩ := Option.map_eq_some_iff.mp h
  obtain ⟨s, m, hx⟩ := readable x rfl
  obtain ⟨t, k, hk, rfl⟩ := within
  rw [hx] at hvalue
  have hmagnitude : m = k := by
    have habs := congrArg abs hvalue
    rw [Decimal.abs_value_finite, Decimal.abs_value_finite, Decimal.magnitude_hundredths,
      Decimal.magnitude_hundredths] at habs
    have hcast : (m : ℚ) = k := by linarith
    exact_mod_cast hcast
  obtain ⟨l, hl⟩ := rounds_hundredths (hmagnitude ▸ hk.trans_lt hn) s .halfEven
  obtain ⟨r, hr⟩ := rounds_hundredths (hk.trans_lt hn) t .halfEven
  have hsame : l.sameValue r = true := by
    rw [Decimal.toHundredths_hundredths hl, Decimal.toHundredths_hundredths hr, Decimal.sameValue_finite,
      hvalue]
  simp [sameScore, hx, hl, hr, hsame]

end Values

section Congruence

variable {ctx : Context} {s : Store} {a : Attempt} {book : GradeBook} {item : GradeItem} {score : Decimal}

lemma Postable.later (h : Postable ctx s a book item score) (t : Time.Instant) :
    Postable { ctx with now := t } s a book item score := ⟨h.found, h.open', h.placed, h.scaled⟩

lemma target_changed (ctx : Context) (s : Store) {f : GradeBook → GradeBook} (hf : KeepsPlace f) (id : Int)
    (classSection quiz : Value) :
    target ctx classSection quiz { s with books := modify id f s.books } =
      target ctx classSection quiz s := by
  unfold target
  cases ctx.item? with
  | some item => rfl
  | none =>
    cases classSection.probe with
    | error defect => rfl
    | ok key =>
      have hfind : (modify id f s.books).find? (fun b => key.findsWhole b.classSection) =
          (s.books.find? fun b => key.findsWhole b.classSection).map
            fun b => if b.id = id then f b else b :=
        search_modify_of_same fun b => by rw [hf.classSection]
      have hnamed (b : GradeBook) :
          namedTarget? { s with books := modify id f s.books } (if b.id = id then f b else b).id quiz =
            namedTarget? s b.id quiz := by
        by_cases hid : b.id = id
        · rw [if_pos hid, hf.id]
          rfl
        · rw [if_neg hid]
          rfl
      dsimp only [bind, Except.bind, pure, Except.pure]
      rw [hfind, Option.bind_map]
      simp only [Function.comp_def, hnamed]

lemma existingBook_modify {f : GradeBook → GradeBook} (hf : KeepsPlace f) (id classSection : Int) (s : Store) :
    existingBook classSection { s with books := modify id f s.books } =
      (fun b => if b.id = id then f b else b) <$> existingBook classSection s := by
  have hfind : Store.bookOf? { s with books := modify id f s.books } classSection =
      (s.bookOf? classSection).map fun b => if b.id = id then f b else b :=
    search_modify_of_same fun b => by rw [hf.classSection]
  unfold existingBook
  rw [hfind]
  cases queryWith [classSection] <;> cases s.bookOf? classSection <;> rfl

lemma existingBook_changed {f : GradeBook → GradeBook} (hf : KeepsPlace f) {classSection : Int}
    (h : existingBook classSection s = .ok book) :
    existingBook classSection { s with books := modify book.id f s.books } = .ok (f book) := by
  rw [existingBook_modify hf, h]
  exact congrArg Except.ok (if_pos rfl)

lemma Postable.entered (h : Postable ctx s a book item score) (c : ScoreChange) (actor : Option Int)
    (now : Time.Instant) :
    Postable ctx (withScore c actor now { s with books := modify book.id (touched now) s.books }) a
      (touched now book) item score := by
  refine ⟨h.found, ?_, ?_, h.scaled⟩
  · obtain ⟨hfound, hbar⟩ := postableBook_eq_ok h.open'
    have hbook := existingBook_changed (keepsPlace_touched now) hfound
    change postableBook ctx a.classSection { s with books := modify book.id (touched now) s.books } = _
    simp [postableBook, hbook, touched, hbar]
  · have hplaced := h.placed
    have htarget := target_changed ctx s (keepsPlace_touched now) book.id (.int a.classSection)
      (.int a.quiz)
    change postableItem ctx (touched now book) a.classSection a.quiz
      { s with books := modify book.id (touched now) s.books } = _
    unfold postableItem at hplaced ⊢
    rw [htarget]
    exact hplaced

end Congruence

section Posts

variable {ctx : Context} {s s' : Store} {a : Attempt} {book : GradeBook} {item : GradeItem}
  {score : Decimal} {text : String} {poster : Value}

lemma confined_withScore (hi : Gradebook.Integrity s) (c : ScoreChange) (actor : Option Int)
    (now : Time.Instant) (book : Int) :
    Confined book c.item c.enrollment s
      (withScore c actor now { s with books := modify book (touched now) s.books }) := by
  have hbooks := hi.changeBook book (keepsPlace_touched now)
  refine ⟨rfl, .inr ⟨now, rfl⟩, others_withScore hbooks c, [scoreRow c actor now _],
    audits_withScore_eq c actor _, fun r hr => ?_⟩
  obtain ⟨e, he, hid, -⟩ := entryOf?_withScore c actor now
    { s with books := modify book (touched now) s.books }
  exact ⟨e, he, by rw [List.mem_singleton.mp hr, hid]; rfl⟩

lemma confined_refl (book item enrollment : Int) (s : Store) : Confined book item enrollment s s :=
  ⟨rfl, .inl rfl, rfl, [], (List.append_nil _).symm, List.forall_mem_nil _⟩

lemma Settles.settled (h : Postable ctx s a book item score) {changed : Bool}
    (settles : Settles ctx s a book item score changed s') (hk : Kept s) (hi : Gradebook.Integrity s) {n : Nat}
    (hn : n < 2 ^ 52) (within : Within n score) :
    Confined book.id item.id a.enrollment s s' ∧ (∃ book', Postable ctx s' a book' item score) ∧
      ∃ e, s'.entryOf? item.id a.enrollment = some e ∧ Readable e.score ∧
        scoreValue e.score = some score.value := by
  cases settles with
  | same unchanged =>
    refine ⟨confined_refl .., ⟨book, h⟩, ?_⟩
    cases he : s.entryOf? item.id a.enrollment with
    | none => simp [he, ScoreChange.changes] at unchanged
    | some e =>
      have readable : Readable e.score := fun _ hx => ⟨false, hk.read_score (entryOf?_eq_some he).1 hx⟩
      rw [he] at unchanged
      simp only [ScoreChange.changes, bind_eq_ok, pure_eq_ok, Bool.not_eq_false'] at unchanged
      obtain ⟨same, hsame, rfl⟩ := unchanged
      exact ⟨e, rfl, readable, value_eq_of_sameScore readable within hsame⟩
  | entered poster text actor =>
    let c : ScoreChange := ⟨item.id, a.enrollment, some score, poster, text⟩
    refine ⟨confined_withScore hi c actor ctx.now book.id, ⟨_, h.entered c actor ctx.now⟩, ?_⟩
    obtain ⟨e, he, -, hscore⟩ := entryOf?_withScore c actor ctx.now
      { s with books := modify book.id (touched ctx.now) s.books }
    obtain ⟨readable, value⟩ := within.stored hn
    have hstored : e.score = Amount.ofDecimal? score := hscore
    exact ⟨e, he, hstored ▸ readable, hstored ▸ value⟩

/-- A score that its entry has already is posted again without a change. -/
lemma post_again (h : Postable ctx s a book item score) {n : Nat} (hn : n < 10 ^ 28) (within : Within n score)
    {e : GradeEntry} (he : s.entryOf? item.id a.enrollment = some e) (readable : Readable e.score)
    (value : scoreValue e.score = some score.value)
    (retries : ∃ n, readSetting ctx.settings.conflictRetries = .ok n ∧ 0 ≤ n) {t : Time.Instant}
    {r : PostRequest} (again : Again { ctx with now := t } s a r) :
    post { ctx with now := t } r (.ofStore s) =
      (.ok (some ⟨a.id, item.id, a.enrollment, score, false⟩), .ofStore s) := by
  obtain ⟨text, hreads⟩ := again.reads
  obtain ⟨deadline, hdeadline, htimely⟩ := again.timely
  have reads : Reads { ctx with now := t } r a.id deadline := ⟨again.named, hdeadline, retries⟩
  have same : ScoreChange.changes ⟨item.id, a.enrollment, some score, r.poster.id, text⟩
      (s.entryOf? item.id a.enrollment) = .ok false := by
    rw [he]
    simp [ScoreChange.changes, sameScore_of_value hn readable within value]
  exact post_of_ok reads rfl (postOnce_same (h.later t) again.manages hreads htimely same)

end Posts

section Runs

variable {P : Context → Service → Prop} {s : Store}

/-- A post that succeeds has found a submitted attempt, a book and an item for it. If the maximum of the item
has at most four digits before the point, the entry of the attempt's enrollment under the item then has the
score of the attempt on the scale of the item; nothing else has changed but the log of that entry and the
version and the time of the book; and whoever may post the score of the attempt again, for whatever reason
and at whatever time, succeeds and changes nothing. -/
theorem posting_is_idempotent (h : Reachable P s) {ctx : Context} {r : PostRequest} {p : Posted}
    {σ : Session} (posted : post ctx r (.ofStore s) = (.ok (some p), σ)) :
    ∃ a ∈ s.attempts, ∃ book item score, readPositive "Attempt id" r.attempt = .ok a.id ∧
      Postable ctx s a book item score ∧ p = ⟨a.id, item.id, a.enrollment, score, p.changed⟩ ∧
      (item.maxScore.toDecimal.value ≤ 9999.99 →
        (∃ e, σ.store.entryOf? item.id a.enrollment = some e ∧ scoreValue e.score = some score.value) ∧
        Confined book.id item.id a.enrollment s σ.store ∧
        ∀ t r', Again { ctx with now := t } σ.store a r' →
          post { ctx with now := t } r' (.ofStore σ.store) =
            (.ok (some { p with changed := false }), .ofStore σ.store)) := by
  obtain ⟨attempt, deadline, reads, hrun, -⟩ := post_eq_some rfl posted
  obtain ⟨a, book, item, score, hid, hpostable, -, hp, settles⟩ := postOnce_eq_ok hrun
  obtain ⟨hmem, -, -⟩ := submittedAttempt_eq_ok hpostable.found
  obtain ⟨hitem, -⟩ := postableItem_eq_ok hpostable.placed
  have hk := kept_of_reachable h
  obtain ⟨n, -, hmax⟩ := (hk.items item hitem).1.maxScore
  refine ⟨a, hmem, book, item, score, hid ▸ reads.attempt, hpostable, hp, fun bound => ?_⟩
  have hn : n ≤ 999999 := hundredths_le_of_value (hmax ▸ bound)
  have within : Within n score := (scale_between (hmax ▸ hpostable.scaled)).2
  obtain ⟨confined, ⟨book', hpostable'⟩, e, he, readable, value⟩ :=
    settles.settled hpostable hk (integrity_of_reachable h) (by omega) within
  refine ⟨⟨e, he, value⟩, confined, fun t r' again => ?_⟩
  rw [post_again hpostable' (by omega) within he readable value reads.retries again, hp]

end Runs

/-- The store after a teacher enters a score by hand where the score of a quiz belongs. -/
def enteredByHand : Store :=
  let teacher : Caller := ⟨.int 1, "TEACHER"⟩
  (Scenario.State.start .standard).context.serve
    [.call (.addItem teacher ⟨.int 1, .text "Quiz:1", .int 20, .null, .bool true, .null, .null⟩),
      .call (.upsertScores teacher ⟨.int 1,
        .list [.object [("grade_item_id", .int 1), ("enrollment_id", .int 1), ("score", .text "8.505")]],
        .null⟩)] Attempting.begunAndSubmitted

/-- The teacher posts the score of the quiz in place of the one that was entered by hand, and later on the
program posts it again. -/
theorem posting_is_idempotent_of_entered_by_hand :
    let ctx := (Scenario.State.start .standard).context
    let s := enteredByHand
    ∃ p σ, post ctx ⟨.int 1, ⟨.int 1, "TEACHER"⟩, .text "Quiz counts", .null⟩ (.ofStore s) = (.ok (some p), σ) ∧
      p = ⟨1, 1, 1, .finite false 200 (-2), true⟩ ∧
      (∃ e, σ.store.entryOf? 1 1 = some e ∧ scoreValue e.score = some p.score.value) ∧
      post { ctx with now := ⟨ctx.now.micros + 1⟩ } ⟨.int 1, program, .null, .null⟩ (.ofStore σ.store) =
        (.ok (some { p with changed := false }), .ofStore σ.store) := by
  intro ctx s
  have hbegun : Reachable (fun _ _ => True) Attempting.begunAndSubmitted := .serve (fun _ _ => trivial) _ _ _
  have h : Reachable (fun _ _ => True) s := hbegun.run (.serve fun _ _ => trivial)
  let r : PostRequest := ⟨.int 1, ⟨.int 1, "TEACHER"⟩, .text "Quiz counts", .null⟩
  let p : Posted := ⟨1, 1, 1, .finite false 200 (-2), true⟩
  have hposts : (post ctx r (.ofStore s)).1 = .ok (some p) := by decide +kernel
  have posted : post ctx r (.ofStore s) = (.ok (some p), (post ctx r (.ofStore s)).2) :=
    Action.eq_of_answer hposts
  have hmaxima : ∀ i ∈ s.items, i.maxScore.toDecimal = .finite false 2000 (-2) := by decide +kernel
  obtain ⟨a, -, book, item, score, hnamed, hpostable, hp, hsettled⟩ := posting_is_idempotent h posted
  obtain ⟨hitem, -⟩ := postableItem_eq_ok hpostable.placed
  have bound : item.maxScore.toDecimal.value ≤ 9999.99 := by
    rw [hmaxima item hitem, Decimal.value_finite, Decimal.magnitude_hundredths]
    norm_num
  obtain ⟨hentry, -, hagain⟩ := hsettled bound
  obtain ⟨-, hid, henrollment, hscore, -⟩ := Posted.mk.inj hp
  rw [← hid, ← henrollment, ← hscore] at hentry
  exact ⟨p, _, posted, rfl, hentry, hagain _ _ ⟨hnamed, rfl, ⟨syncReason, by decide⟩, ⟨none, rfl, rfl⟩⟩⟩

end Assessment.Sync
