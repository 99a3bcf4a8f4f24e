import Assessment.Proofs.Attempt.Projections
import Assessment.Proofs.Sync.Idempotence

/-!
# Which scores gradebooks take

The score of a submitted attempt is awaited when the book of its section is edited still and has an item for
the quiz; then a post enters it. A post is barred when there is no book, when the book is closed to it, or
when it has no such item; then a post is refused for that reason.
-/

namespace Assessment

namespace Attempting

/-- What a score is posted by can be looked up: the numbers of the section and of the enrollment are such as
tables work on, and the enrollment is there. -/
structure Located (s : Store) (a : Attempt) : Prop where
  classSection : isStorable a.classSection = true
  enrollment : isStorable a.enrollment = true
  enrolled : ∃ e ∈ s.enrollments, e.id = a.enrollment

/-- All attempts are located, and so are those that will begin. -/
structure AllLocated (s : Store) : Prop where
  quizzes : ∀ q ∈ s.quizzes, isStorable q.classSection = true
  attempts : ∀ a ∈ s.attempts, Located s a

section Steps

variable {ctx : Context} {s s' : Store} {op : Service}

lemma AllLocated.write (h : AllLocated s) {c : Call} (w : Write ctx s c s') : AllLocated s' := by
  cases w with
  | start found _ _ _ _ place _ known =>
    refine ⟨h.quizzes, List.forall_mem_append.mpr ⟨fun a ha => ?_, List.forall_mem_singleton.mpr ?_⟩⟩
    · exact { h.attempts a ha with }
    · exact ⟨h.quizzes _ found, Value.storable_of_column place, known⟩
  | submit =>
    refine ⟨h.quizzes, fun a ha => ?_⟩
    obtain ⟨x, hx, rfl⟩ := List.mem_map.mp ha
    split_ifs
    all_goals exact { h.attempts x hx with }

lemma classSection_of_write (h : ∀ q ∈ s.quizzes, isStorable q.classSection = true) {c : Call}
    (w : Quiz.Write ctx s c s') : ∀ q ∈ s'.quizzes, isStorable q.classSection = true := by
  have modified (id : Int) {f : Quiz → Quiz} (hf : ∀ q, (f q).classSection = q.classSection) :
      ∀ q ∈ Table.modify id f s.quizzes, isStorable q.classSection = true := by
    intro q hq
    obtain ⟨x, hx, rfl⟩ := List.mem_map.mp hq
    by_cases hid : Row.id x = id <;> simp [hid, hf, h x hx]
  cases w with
  | draft _ _ storable => exact List.forall_mem_append.mpr ⟨h, List.forall_mem_singleton.mpr storable⟩
  | ask | rephrase | strike => exact h
  | discard => exact fun q hq => h q (List.mem_filter.mp hq).1
  | publish | close => exact modified _ fun _ => rfl

lemma AllLocated.step (h : AllLocated s) (w : Step ctx s op s') : AllLocated s' := by
  cases w with
  | quiz w =>
    refine ⟨classSection_of_write h.quizzes w, fun a ha => ?_⟩
    rw [w.frame] at ha
    obtain ⟨classSection, enrollment, enrolled⟩ := h.attempts a ha
    exact ⟨classSection, enrollment, by rw [w.frame]; exact enrolled⟩
  | attempt w => exact h.write w
  | book w | opening _ w | posting _ w | queueing _ w =>
    rw [w.frame]
    exact ⟨h.quizzes, fun a ha => { h.attempts a ha with }⟩

end Steps

end Attempting

namespace Sync

open Access Attempting Gradebook Number Request

/-- The score of an attempt is awaited by an item of a book that is edited still. The item has a number that a
table can hold, and its maximum at most four digits before the point. -/
structure Awaited (s : Store) (a : Attempt) (book : GradeBook) (item : GradeItem) : Prop where
  found : s.bookOf? a.classSection = some book
  editable : book.status.isEditable = true
  named : namedTarget? s book.id (.int a.quiz) = some item
  storable : isStorable item.id = true
  small : item.maxScore.toDecimal.value ≤ 9999.99

/-- Why the score of an attempt is not posted, unless published books take late corrections. -/
inductive Barred (s : Store) (a : Attempt) : Refusal → Prop
  | missing (absent : s.bookOf? a.classSection = none) : Barred s a .gradebookMissing
  | closed {book : GradeBook} {bar : SyncBar} (found : s.bookOf? a.classSection = some book)
      (closed : book.status.syncBar? false = some bar) : Barred s a (.syncBarred bar)
  | unmapped {book : GradeBook} (found : s.bookOf? a.classSection = some book)
      (admits : book.status.syncBar? false = none)
      (unnamed : namedTarget? s book.id (.int a.quiz) = none) : Barred s a .itemUnmapped

section Targets

variable {ctx : Context} {s : Store} {a : Attempt} {book : GradeBook} {item : GradeItem}

lemma target_eq (standard : ctx.item? = none) {n : Int} (storable : isStorable n = true) (quiz : Value) :
    target ctx (.int n) quiz s =
      .ok (.ofInt? (((s.bookOf? n).bind fun b => namedTarget? s b.id quiz).map (·.id))) := by
  have hfind : (s.books.find? fun b => (Probe.cell (.whole n)).findsWhole b.classSection) = s.bookOf? n := by
    simp only [Probe.findsWhole_whole]
    rfl
  rw [← hfind]
  simp only [target, standard, Value.probe_of_storable storable]
  rfl

lemma namedTarget?_eq_some {book : Int} {quiz : Value} (h : namedTarget? s book quiz = some item) :
    item ∈ s.items ∧ item.book = book := by
  have named {name : String} (h : itemNamed? s book name = some item) :
      item ∈ s.items ∧ item.book = book := by
    obtain ⟨hmem, hbook⟩ := List.mem_filter.mp (List.mem_of_find?_eq_some h)
    exact ⟨hmem, beq_iff_eq.mp hbook⟩
  unfold namedTarget? at h
  cases hown : itemNamed? s book (quizItemName quiz) with
  | some i =>
    rw [hown] at h
    exact named (hown.trans h)
  | none =>
    rw [hown] at h
    exact named h

lemma targetItem?_of_mem (hn : Table.Numbered s.items) (hi : item ∈ s.items)
    (storable : isStorable item.id = true) : targetItem? (.int item.id) s = .ok (some item) := by
  have hpos : 0 < item.id := hn.positive item hi
  have hfind : Table.find? item.id s.items = some item := Table.find?_of_mem hn hi
  have htruthy : (Value.int item.id).truthy = true := by simpa [Value.truthy] using hpos.ne'
  rw [← Probe.find?_whole] at hfind
  simp only [targetItem?, if_pos htruthy, Value.keyProbe_of_storable storable]
  exact congrArg Except.ok hfind

lemma existingBook_of_found (storable : isStorable a.classSection = true)
    (found : s.bookOf? a.classSection = some book) : existingBook a.classSection s = .ok book := by
  simp [existingBook, queryWith, storable, found]

lemma syncBar?_of_editable {status : BookStatus} (h : status.isEditable = true) (late : Bool) :
    status.syncBar? late = none := by
  cases status <;> simp_all [BookStatus.isEditable, BookStatus.syncBar?, BookStatus.isVisible]

lemma Awaited.postable (h : Awaited s a book item) (standard : ctx.item? = none)
    (found : submittedAttempt a.id s = .ok a) (located : Located s a) (hn : Table.Numbered s.items)
    {score : Decimal} (scaled : scale (a.score.map Amount.toDecimal) (a.maxScore.map Amount.toDecimal)
      item.maxScore.toDecimal = .ok score) : Postable ctx s a book item score := by
  obtain ⟨hmem, hbook⟩ := namedTarget?_eq_some h.named
  refine ⟨found, ?_, ?_, scaled⟩
  · simp [postableBook, existingBook_of_found located.classSection h.found, syncBar?_of_editable h.editable]
  · have htarget : target ctx (.int a.classSection) (.int a.quiz) s = .ok (.int item.id) := by
      rw [target_eq standard located.classSection, h.found, Option.bind_some, h.named]
      rfl
    simp [postableItem, htarget, targetItem?_of_mem hn hmem h.storable, hbook]

lemma Barred.refuses {r : Refusal} (h : Barred s a r) (standard : ctx.item? = none)
    (late : ctx.settings.lateCorrections.truthy = false) (found : submittedAttempt a.id s = .ok a)
    (storable : isStorable a.classSection = true) (reason : Value) (deadline : Option Time.Instant) :
    (postOnce ctx a.id program reason deadline).run s = .error (.refused r) := by
  have manages : requirePoster ctx program a.classSection s = .ok () := rfl
  simp only [Transaction.run, postOnce, found, manages, bind, Except.bind]
  cases h with
  | missing absent =>
    have hbook : postableBook ctx a.classSection s = .error (.refused .gradebookMissing) := by
      simp only [postableBook, existingBook, queryWith, List.all_cons, storable, absent, bind, Except.bind]
      rfl
    rw [hbook]
  | @closed _ bar hfound closed =>
    have hbook : postableBook ctx a.classSection s = .error (.refused (.syncBarred bar)) := by
      simp only [postableBook, existingBook_of_found storable hfound, late, closed, bind, Except.bind]
      rfl
    rw [hbook]
  | @unmapped book hfound admits unnamed =>
    have hbook : postableBook ctx a.classSection s = .ok book := by
      simp [postableBook, existingBook_of_found storable hfound, late, admits]
    have htarget : target ctx (.int a.classSection) (.int a.quiz) s = .ok .null := by
      rw [target_eq standard storable, hfound, Option.bind_some, unnamed]
      rfl
    have hitem : postableItem ctx book a.classSection a.quiz s = .error (.refused .itemUnmapped) := by
      simp only [postableItem, htarget]
      rfl
    simp only [hbook, hitem]

end Targets

section Scores

variable {ctx : Context} {s : Store} {a : Attempt} {book : GradeBook} {item : GradeItem} {score : Decimal}

lemma changes_of_small (hk : Gradebook.Kept s) (hi : Gradebook.Integrity s) (hmem : item ∈ s.items) {n : Nat}
    (hn : n < 10 ^ 28) (hmax : item.maxScore.toDecimal = .finite false n (-2)) (within : Within n score)
    (enrollment : Int) (poster : Value) (text : String) :
    ∃ differs, ScoreChange.changes ⟨item.id, enrollment, some score, poster, text⟩
      (s.entryOf? item.id enrollment) = .ok differs := by
  have hscore : InHundredths (some score) := fun d hd => by
    obtain ⟨sign, k, hk, rfl⟩ := within
    exact ⟨sign, k, hk.trans_lt hn, (Option.some.inj hd).symm⟩
  cases he : s.entryOf? item.id enrollment with
  | none => exact ⟨_, rfl⟩
  | some e =>
    obtain ⟨hmem', hitem, -⟩ := entryOf?_eq_some he
    have hentry : InHundredths (e.score.map Amount.toDecimal) := fun d hd => by
      obtain ⟨x, hx, rfl⟩ := Option.map_eq_some_iff.mp hd
      obtain ⟨i, hmemi, hid, hstored⟩ := hk.scores e hmem'
      obtain ⟨k, m, hle, hread, hmaxi⟩ := hstored x hx
      rw [hi.items.eq_of_id_eq hmemi hmem (hid.trans hitem), hmax] at hmaxi
      obtain rfl : n = m := by injection hmaxi
      exact ⟨false, k, hle.trans_lt hn, hread⟩
    obtain ⟨same, hsame⟩ := sameScore_isOk hentry hscore
    exact ⟨!same, by simp [ScoreChange.changes, hsame]⟩

/-- A score that can be posted is posted by the program at once. -/
lemma postOnce_settles (h : Postable ctx s a book item score) (located : Located s a)
    (storable : isStorable item.id = true)
    (compared : ∃ differs, ScoreChange.changes ⟨item.id, a.enrollment, some score, program.id, syncReason⟩
      (s.entryOf? item.id a.enrollment) = .ok differs) :
    ∃ changed s', (postOnce ctx a.id program .null none).run s =
        .ok (⟨a.id, item.id, a.enrollment, score, changed⟩, s') ∧
      Settles ctx s a book item score changed s' := by
  have reads : reasonOr .null syncReason = .ok syncReason := rfl
  have manages : requirePoster ctx program a.classSection s = .ok () := rfl
  obtain ⟨_ | _, hdiffers⟩ := compared
  · exact ⟨false, s, postOnce_same h manages reads rfl hdiffers, .same hdiffers⟩
  · let c : ScoreChange := ⟨item.id, a.enrollment, some score, program.id, syncReason⟩
    let t : Store := { s with books := Table.modify book.id (touched ctx.now) s.books }
    obtain ⟨hitem, -⟩ := postableItem_eq_ok h.placed
    obtain ⟨hbook, -⟩ := existingBook_eq_ok (postableBook_eq_ok h.open').1
    have henter : Enterable t c := {
      item := ⟨storable, item, hitem, rfl⟩
      enrollment := ⟨located.enrollment, located.enrolled⟩
      actor := .inl rfl
      reason := show Text.hasEncoding syncReason = true by decide }
    obtain ⟨actor, haccepts⟩ := henter.accepts
    have happlied : applyScore c ctx.now t = .ok ((), withScore c actor ctx.now t) :=
      applyScore_iff.mpr ⟨actor, haccepts, rfl⟩
    have hchanged : changeBook book (touched ctx.now) s = .ok ((), t) := changeBook_of_mem hbook _
    refine ⟨true, withScore c actor ctx.now t, ?_, .entered program.id syncReason actor⟩
    refine Transaction.run_eq_ok.mpr ⟨_, by
      simp [postOnce, h.found, manages, h.open', h.placed, h.scaled, reads, hdiffers, isExpired]; rfl, ?_⟩
    rw [Decision.apply_change]
    simp [enterPosted, hchanged, c, t, happlied]

end Scores

end Sync

end Assessment
