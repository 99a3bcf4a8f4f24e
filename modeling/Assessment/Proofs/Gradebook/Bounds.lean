import Assessment.Proofs.Attempt.Scores
import Assessment.Proofs.Gradebook.Log
import Assessment.Proofs.Number.Order

/-!
# Gradebooks stay within their bounds

A section has one book, its items have names of their own, positive maxima and weights of at most one,
and an enrollment has one entry under an item, with a score from zero to the maximum. A score is compared
with the maximum that is read from the store, before it is stored itself; storing keeps the order, so the
stored score is within the maximum, too.
-/

namespace Assessment.Gradebook

open Number Table

/-- The item has a name, a positive maximum and, if any, a weight of at most one. -/
structure SoundItem (i : GradeItem) : Prop where
  named : nameKey i.name ≠ ""
  maxScore : ∃ n, 0 < n ∧ i.maxScore.toDecimal = .finite false n (-2)
  weight : ∀ a, i.weight = some a → ∃ n, n ≤ 10000 ∧ a.toWeight = .finite false n (-4)

/-- The entry is under an item whose maximum its score, if any, does not pass. -/
def WithinMaximum (items : List GradeItem) (e : GradeEntry) : Prop :=
  ∃ i ∈ items, i.id = e.item ∧ ∀ a, e.score = some a →
    ∃ k n, k ≤ n ∧ a.toDecimal = .finite false k (-2) ∧ i.maxScore.toDecimal = .finite false n (-2)

/-- The enrollment of the entry is one in the section that the book of its item belongs to. -/
def InSection (s : Store) (e : GradeEntry) : Prop :=
  ∃ i ∈ s.items, i.id = e.item ∧ ∃ b ∈ s.books, b.id = i.book ∧
    ∃ m ∈ s.enrollments, m.id = e.enrollment ∧ m.classSection = b.classSection

/-- The gradebooks of a store are sound. -/
structure Sound (s : Store) : Prop where
  sections : (s.books.map (·.classSection)).Nodup
  items : ∀ i ∈ s.items, SoundItem i
  names : s.items.Pairwise fun i j => i.book = j.book → nameKey i.name ≠ nameKey j.name
  places : (s.entries.map fun e => (e.item, e.enrollment)).Nodup
  scores : ∀ e ∈ s.entries, WithinMaximum s.items e

section Items

lemma checkName_eq_ok {v : Value} {name : String} (h : checkName v = .ok name) :
    Text.trim name = name ∧ name ≠ "" := by
  simp only [checkName, bind_eq_ok, guard_eq_ok, pure_eq_ok] at h
  obtain ⟨t, ht, hpresent, -, rfl⟩ := h
  exact ⟨readTrimmed_eq_ok ht, by simpa using hpresent⟩

lemma checkWeight_eq_ok {v : Value} {d : Decimal} (h : checkWeight v = .ok (some d)) :
    ∃ s c e, d = .finite s c e ∧ (s = true → c = 0) ∧ Decimal.magnitude c e ≤ 1 := by
  unfold checkWeight at h
  split_ifs at h
  · cases h
  · cases hread : Decimal.read? v.display with
    | none => simp [hread] at h
    | some x =>
      simp only [hread, bind_eq_ok, lift_eq_ok, guard_eq_ok, pure_eq_ok, Option.some_inj] at h
      obtain ⟨hfinite, below, hbelow, hlow, above, habove, hhigh, rfl⟩ := h
      cases x with
      | nan | infinite => simp [Decimal.isFinite] at hfinite
      | finite s c e =>
        rw [Decimal.zero, Decimal.less_finite, Except.ok.injEq] at hbelow
        rw [Decimal.ofInt, Decimal.less_finite, ← Decimal.ofInt, Decimal.value_ofInt,
          Except.ok.injEq] at habove
        rw [← hbelow, decide_eq_true_eq, not_lt] at hlow
        rw [← habove, decide_eq_true_eq, not_lt] at hhigh
        have hnonneg : 0 ≤ (Decimal.finite s c e).value := by simpa [Decimal.value_finite] using hlow
        obtain ⟨hsign, hvalue⟩ := Decimal.value_of_nonneg hnonneg
        exact ⟨s, c, e, rfl, hsign, by simpa [hvalue] using hhigh⟩

section Added

variable {s : Store} {i : GradeItem}

lemma Added.nameKey_eq (h : Added s i) : nameKey i.name = Text.upper i.name := by
  obtain ⟨_, hname⟩ := h.name
  rw [nameKey, (checkName_eq_ok hname).1]

lemma Added.sound (h : Added s i) : SoundItem i where
  named := by
    obtain ⟨_, hname⟩ := h.name
    rw [h.nameKey_eq]
    exact Text.upper_ne_empty (checkName_eq_ok hname).2
  maxScore := by
    obtain ⟨n, hpos, hlt, hstored⟩ := h.maximum
    exact Amount.toDecimal_pos hpos hlt hstored
  weight a ha := by
    obtain ⟨v, d, hchecked, hweight⟩ := h.weight
    cases d with
    | none => simp [hweight] at ha
    | some d =>
      obtain ⟨sign, c, e, rfl, hsign, hle⟩ := checkWeight_eq_ok hchecked
      rw [hweight, Option.bind_some, Amount.ofDecimal?_unsigned hsign] at ha
      exact Amount.weight_le_one hle ha

lemma Added.isStored (h : Added s i) : i.maxScore.IsStored := by
  obtain ⟨n, -, hlt, hstored⟩ := h.maximum
  exact ⟨n, hlt, hstored⟩

end Added

end Items

section Scores

variable {s : Store} {c : ScoreChange} {now : Time.Instant}

lemma Between.stored {a : Amount} (ha : a.IsStored) {n : Nat} (hread : a.toDecimal = .finite false n (-2))
    {d : Decimal} (h : Between n d) : ∃ b k, Amount.ofDecimal? d = some b ∧ k ≤ n ∧
      b.toDecimal = .finite false k (-2) := by
  obtain ⟨hnonneg, sign, k, hle, rfl⟩ := h
  rw [Amount.ofDecimal?_unsigned (Decimal.value_of_nonneg hnonneg).1]
  exact ha.read_le hread hle

lemma places_withScore (actor : Option Int)
    (h : (s.entries.map fun e => (e.item, e.enrollment)).Nodup) :
    ((withScore c actor now s).entries.map fun e => (e.item, e.enrollment)).Nodup := by
  cases hfound : s.entryOf? c.item c.enrollment with
  | none =>
    rw [entries_withScore_of_none hfound, List.map_append]
    refine List.Nodup.append h (List.nodup_singleton _) (List.disjoint_singleton.mpr fun hmem => ?_)
    obtain ⟨e, he, hplace⟩ := List.mem_map.mp hmem
    obtain ⟨hitem, henrollment⟩ := Prod.mk.inj hplace
    have := List.find?_eq_none.mp hfound e he
    rw [hitem, henrollment] at this
    simp [firstEntry, entered] at this
  | some e =>
    have hsame : (modify e.id (entered c actor now) s.entries).map (fun e => (e.item, e.enrollment)) =
        s.entries.map fun e => (e.item, e.enrollment) := map_modify fun _ => rfl
    rw [entries_withScore_of_some hfound, hsame]
    exact h

end Scores

/-- A score that an operation may enter under an item of a book: it is within the range of the item, and
it is for an enrollment in the section of the book. -/
structure Admits (ctx : Context) (s : Store) (c : ScoreChange) (i : GradeItem) (b : GradeBook) : Prop where
  item : i ∈ s.items
  named : i.id = c.item
  book : b ∈ s.books
  owned : b.id = i.book
  range : ∀ n, i.maxScore.toDecimal = .finite false n (-2) → ∀ d, c.score = some d → Between n d
  enrolled : ctx.directory? = none → Attempting.Kept s →
    ∃ m ∈ s.enrollments, m.id = c.enrollment ∧ m.classSection = b.classSection

/-- Where an entry comes from: it was there, or it has a score that is admitted. -/
inductive Origin (ctx : Context) (s : Store) (e : GradeEntry) : Prop
  | kept (there : e ∈ s.entries)
  | entered {c : ScoreChange} {i : GradeItem} {b : GradeBook} (admitted : Admits ctx s c i b)
      (item : e.item = c.item) (enrollment : e.enrollment = c.enrollment)
      (score : e.score = c.score.bind Amount.ofDecimal?)

section Steps

variable {ctx : Context} {s s' : Store} {op : Service}

lemma origin_withScore {t : Store} (hi : Integrity t) (h : ∀ e ∈ t.entries, Origin ctx s e)
    {c : ScoreChange} {i : GradeItem} {b : GradeBook} (admitted : Admits ctx s c i b) (actor : Option Int) :
    ∀ e ∈ (withScore c actor ctx.now t).entries, Origin ctx s e := by
  intro e he
  rcases mem_entries_withScore hi he with ⟨he, -⟩ | ⟨-, hscore, -, -, hitem, henrollment⟩
  · exact h e he
  · exact .entered admitted hitem henrollment hscore

lemma isAmong_registered {classSection enrollment : Int} {enrollments : List Value}
    (members : s.directory.enrollments (.int classSection) = .ok enrollments)
    (h : (Value.int enrollment).isAmong enrollments = true) :
    ∃ m ∈ s.enrollments, m.id = enrollment ∧ m.classSection = classSection := by
  obtain ⟨v, hv, hsame⟩ := List.any_eq_true.mp h
  obtain ⟨m, hm, hsection, rfl⟩ := Access.Directory.enrollments_tabled members hv
  obtain ⟨e, he, hmember⟩ := List.mem_filterMap.mp hm
  unfold Enrollment.membership? at hmember
  split_ifs at hmember
  obtain rfl := Option.some.inj hmember
  exact ⟨e, he, (Value.same_int.mp hsame).symm, hsection⟩

lemma admits_of_batch {classSection : Int} {book : GradeBook} {actor : Value}
    {enrollments rows : List Value} {cells : List ScoreCell} {changes : List BatchChange}
    (found : existingBook classSection s = .ok book)
    (members : (ctx.directory s).enrollments (.int classSection) = .ok enrollments)
    (checked : checkCells (s.itemsOf book.id) enrollments [] rows = .ok cells)
    (differing : batchChanges s actor cells = .ok changes) :
    ∀ c ∈ changes, ∃ i b, Admits ctx s c.change i b := by
  intro c hc
  obtain ⟨hbook, hsection, -⟩ := existingBook_eq_ok found
  obtain ⟨cell, hcell, hchange⟩ := batchChanges_cells differing c hc
  obtain ⟨hitem, hmember, v, -, hscore, -⟩ := checkCells_cells checked cell hcell
  obtain ⟨hmem, hof⟩ := mem_itemsOf.mp hitem
  rw [hchange]
  refine ⟨cell.item, book, hmem, rfl, hbook, hof.symm, fun n hmax => checkScore_between hmax hscore, ?_⟩
  intro registered _
  simp only [Context.directory, registered, Option.getD_none] at members
  obtain ⟨m, hm, hid, hin⟩ := isAmong_registered members hmember
  exact ⟨m, hm, hid, hin.trans hsection.symm⟩

lemma admits_of_post {a : Attempt} {book : GradeBook} {item : GradeItem} {score : Decimal}
    {poster : Value} {reason : String} (found : a ∈ s.attempts)
    (open' : Sync.postableBook ctx a.classSection s = .ok book)
    (placed : Sync.postableItem ctx book a.classSection a.quiz s = .ok item)
    (scaled : scale (a.score.map Amount.toDecimal) (a.maxScore.map Amount.toDecimal)
      item.maxScore.toDecimal = .ok score) :
    Admits ctx s ⟨item.id, a.enrollment, some score, poster, reason⟩ item book := by
  obtain ⟨hbook, hsection, -⟩ := existingBook_eq_ok (Sync.postableBook_eq_ok open').1
  obtain ⟨hitem, hof⟩ := Sync.postableItem_eq_ok placed
  refine ⟨hitem, rfl, hbook, hof.symm, fun n hmax d hd => ?_, fun _ hkept => ?_⟩
  · rw [← Option.some.inj hd]
    exact scale_between (hmax ▸ scaled)
  · -- The attempt was begun by a student who is enrolled in the section.
    obtain ⟨q, -, hadmitted, -⟩ := hkept.stands a found
    obtain ⟨m, hm, hid, -, hin, -⟩ := hadmitted.enrolled
    exact ⟨m, hm, hid, (hin.trans hadmitted.classSection.symm).trans hsection.symm⟩

/-- Every entry after a step is one from before, or it has a score that the step admits. -/
lemma origin_of_step (hi : Integrity s) (w : Step ctx s op s') : ∀ e ∈ s'.entries, Origin ctx s e := by
  intro e he
  cases w with
  | quiz w | attempt w | queueing _ w | opening _ w =>
    rw [w.frame] at he
    exact .kept he
  | book w =>
    cases w with
    | item | request | decide => exact .kept he
    | @batch _ _ _ _ _ _ _ changes t _ found _ members checked _ differing _ entered =>
      have hall : Integrity t ∧ ∀ e ∈ t.entries, Origin ctx s e := by
        refine applyBatch_induction (P := fun t => Integrity t ∧ ∀ e ∈ t.entries, Origin ctx s e) entered
          ⟨hi, fun _ => .kept⟩ ?_
        rintro u ⟨hu, hentries⟩ c hc actor known
        obtain ⟨i, b, hadmits⟩ := admits_of_batch found members checked differing c hc
        exact ⟨hu.withScore known, origin_withScore hu hentries hadmits actor⟩
      exact hall.2 e he
  | @posting _ poster _ _ w =>
    cases w with
    | @post a book item score reason actor found _ _ open' placed scaled =>
      have hbooks := hi.changeBook book.id (keepsPlace_touched ctx.now)
      have hadmits : Admits ctx s ⟨item.id, a.enrollment, some score, poster.id, reason⟩ item book :=
        admits_of_post found open' placed scaled
      exact origin_withScore hbooks (fun _ he => Origin.kept (s := s) he) hadmits actor e he

lemma places_of_step (h : (s.entries.map fun e => (e.item, e.enrollment)).Nodup) (w : Step ctx s op s') :
    (s'.entries.map fun e => (e.item, e.enrollment)).Nodup := by
  cases w with
  | quiz w | attempt w | queueing _ w | opening _ w =>
    rw [w.frame]
    exact h
  | book w =>
    cases w with
    | item | request | decide => exact h
    | @batch _ _ _ _ _ _ _ _ t _ _ _ _ _ _ _ _ entered =>
      have hbatch : (t.entries.map fun e => (e.item, e.enrollment)).Nodup :=
        applyBatch_induction (P := fun t => (t.entries.map fun e => (e.item, e.enrollment)).Nodup) entered h
          fun u hu c _ actor _ => places_withScore actor hu
      exact hbatch
  | posting _ w =>
    cases w with
    | post => exact places_withScore _ h

lemma book_of_step (w : Step ctx s op s') {b : GradeBook} (hb : b ∈ s.books) :
    ∃ b' ∈ s'.books, b'.id = b.id ∧ b'.classSection = b.classSection := by
  have changed (id : Int) {f : GradeBook → GradeBook} (hf : KeepsPlace f) :
      ∃ b' ∈ modify id f s.books, b'.id = b.id ∧ b'.classSection = b.classSection := by
    refine ⟨_, List.mem_map_of_mem hb, ?_⟩
    by_cases h : Row.id b = id <;> simp [h, hf.id, hf.classSection]
  cases w with
  | quiz w | attempt w | queueing _ w =>
    rw [w.frame]
    exact ⟨b, hb, rfl, rfl⟩
  | opening _ w =>
    obtain ⟨_, -, -, rfl⟩ := w
    exact ⟨b, List.mem_append_left _ hb, rfl, rfl⟩
  | book w =>
    cases w with
    | item => exact changed _ (keepsPlace_touched _)
    | batch _ _ _ _ _ _ _ _ entered =>
      rw [applyBatch_frame entered]
      exact changed _ (keepsPlace_touched _)
    | request => exact changed _ (keepsPlace_requested _)
    | decide => exact changed _ (keepsPlace_judged _ _)
  | posting _ w =>
    cases w with
    | post => exact changed _ (keepsPlace_touched _)

lemma mem_items_of_step (w : Step ctx s op s') {i : GradeItem} (hi : i ∈ s.items) : i ∈ s'.items := by
  rcases items_of_step w with hitems | ⟨_, -, hitems⟩
  · exact hitems ▸ hi
  · exact hitems ▸ List.mem_append_left _ hi

end Steps

/-- Everything that is kept of the items and the entries. -/
structure Kept (s : Store) : Prop where
  items : ∀ i ∈ s.items, SoundItem i ∧ i.maxScore.IsStored
  names : s.items.Pairwise fun i j => i.book = j.book → nameKey i.name ≠ nameKey j.name
  places : (s.entries.map fun e => (e.item, e.enrollment)).Nodup
  scores : ∀ e ∈ s.entries, WithinMaximum s.items e

section Invariants

variable {ctx : Context} {s s' : Store} {op : Service}

lemma names_of_step (h : s.items.Pairwise fun i j => i.book = j.book → nameKey i.name ≠ nameKey j.name)
    (w : Step ctx s op s') :
    s'.items.Pairwise fun i j => i.book = j.book → nameKey i.name ≠ nameKey j.name := by
  rcases items_of_step w with hitems | ⟨i, hadded, hitems⟩
  · exact hitems ▸ h
  · rw [hitems]
    refine List.pairwise_append.mpr ⟨h, List.pairwise_singleton .., fun j hj k hk => ?_⟩
    rw [List.mem_singleton.mp hk, hadded.nameKey_eq]
    exact hadded.fresh j hj

lemma Kept.read_score (h : Kept s) {e : GradeEntry} (he : e ∈ s.entries) {a : Amount} (ha : e.score = some a) :
    ∃ k, a.toDecimal = .finite false k (-2) := by
  obtain ⟨_, -, -, hstored⟩ := h.scores e he
  obtain ⟨k, -, -, hread, -⟩ := hstored a ha
  exact ⟨k, hread⟩

lemma Kept.withinMaximum (h : Kept s) {e : GradeEntry} (ho : Origin ctx s e) : WithinMaximum s.items e := by
  cases ho with
  | kept there => exact h.scores e there
  | @entered c i b admitted item _ score =>
    obtain ⟨⟨-, ⟨n, -, hmax⟩, -⟩, hstored⟩ := h.items i admitted.item
    refine ⟨i, admitted.item, admitted.named.trans item.symm, fun a ha => ?_⟩
    rw [score] at ha
    obtain ⟨d, hd, ha⟩ := Option.bind_eq_some_iff.mp ha
    obtain ⟨b, k, hb, hle, hread⟩ := (admitted.range n hmax d hd).stored hstored hmax
    obtain rfl := Option.some.inj (hb.symm.trans ha)
    exact ⟨k, n, hle, hread, hmax⟩

lemma Kept.step (h : Kept s) (hi : Integrity s) (w : Step ctx s op s') : Kept s' where
  items := by
    rcases items_of_step w with hitems | ⟨i, hadded, hitems⟩
    · exact hitems ▸ h.items
    · intro j hj
      rcases List.mem_append.mp (hitems ▸ hj) with hj | hj
      · exact h.items j hj
      · rw [List.mem_singleton.mp hj]
        exact ⟨hadded.sound, hadded.isStored⟩
  names := names_of_step h.names w
  places := places_of_step h.places w
  scores e he := by
    obtain ⟨i, hmem, hrest⟩ := h.withinMaximum (origin_of_step hi w e he)
    exact ⟨i, mem_items_of_step w hmem, hrest⟩

/-- The entries are for enrollments in the sections that their books belong to. -/
def AllInSection (s : Store) : Prop := ∀ e ∈ s.entries, InSection s e

lemma AllInSection.step (h : AllInSection s) (hi : Integrity s) (hk : Attempting.Kept s)
    (registered : ctx.directory? = none) (w : Step ctx s op s') : AllInSection s' := by
  intro e he
  have hbefore : InSection s e := by
    cases origin_of_step hi w e he with
    | kept there => exact h e there
    | @entered c i b admitted item enrollment _ =>
      obtain ⟨m, hm, hid, hsection⟩ := admitted.enrolled registered hk
      exact ⟨i, admitted.item, admitted.named.trans item.symm, b, admitted.book, admitted.owned, m, hm,
        hid.trans enrollment.symm, hsection⟩
  obtain ⟨i, hmem, hof, b, hb, howned, m, hm, hid, hsection⟩ := hbefore
  obtain ⟨b', hb', hsame, hsection'⟩ := book_of_step w hb
  refine ⟨i, mem_items_of_step w hmem, hof, b', hb', hsame.trans howned, m, ?_, hid,
    hsection.trans hsection'.symm⟩
  rw [w.registration.2.2]
  exact hm

end Invariants

section Runs

variable {P : Context → Service → Prop} {s : Store}

lemma kept_of_reachable (h : Reachable P s) : Kept s :=
  integrity_invariant h
    (fun _ _ _ => ⟨List.forall_mem_nil _, .nil, .nil, List.forall_mem_nil _⟩)
    fun _ _ _ _ _ hi ht w => ht.step hi w

lemma allInSection_of_reachable (h : Reachable P s)
    (registered : ∀ ctx op, P ctx op → ctx.directory? = none) : AllInSection s := by
  have hall : Quiz.Integrity s ∧ Attempting.Kept s ∧ AllInSection s := by
    refine integrity_invariant (I := fun s => Quiz.Integrity s ∧ Attempting.Kept s ∧ AllInSection s) h
      (fun users sections enrollments => ?_) ?_
    · have hstart : Reachable P (.ofSchool users sections enrollments) := ⟨_, _, _, .done⟩
      exact ⟨Quiz.integrity_ofSchool .., Attempting.kept_of_reachable hstart registered,
        List.forall_mem_nil _⟩
    · rintro ctx op t t' hop hi ⟨hq, hk, ht⟩ w
      have hctx := registered ctx op hop
      exact ⟨hq.step w, hk.step hq hctx w, ht.step hi hk hctx w⟩
  exact hall.2.2

/-- In every store that can be reached a section has at most one gradebook; the items of a book have names,
which differ even without blanks around them and in upper case, positive maxima, and weights, if any, from
zero to one; and there is at most one entry under an item for an enrollment, whose score, if any, is
between zero and the maximum of the item as both are read from the store. When enrollments are looked up in
the registration tables, that of an entry is one in the section that the book of the item belongs to. -/
theorem gradebooks_stay_sound (h : Reachable P s) :
    Sound s ∧ ((∀ ctx op, P ctx op → ctx.directory? = none) → ∀ e ∈ s.entries, InSection s e) := by
  have hk := kept_of_reachable h
  refine ⟨⟨?_, fun i hi => (hk.items i hi).1, hk.names, hk.places, hk.scores⟩, allInSection_of_reachable h⟩
  exact List.pairwise_map.mpr (integrity_of_reachable h).sections

end Runs

/-- The store after a score is entered under one item and the score of an attempt is posted under
another one. -/
def enteredAndPosted : Store :=
  let teacher : Access.Caller := ⟨.int 1, "TEACHER"⟩
  let item (name : String) (maxScore weight : Value) : Service :=
    .call (.addItem teacher ⟨.int 1, .text name, maxScore, weight, .bool true, .null, .null⟩)
  (Scenario.State.start .standard).context.serve
    [item " Midterm " (.text "8.505") (.text "0.25"), item "quiz:1" (.int 20) .null,
      .call (.upsertScores teacher ⟨.int 1,
        .list [.object [("grade_item_id", .int 1), ("enrollment_id", .int 1), ("score", .text "8.505")]],
        .null⟩),
      .syncNow (.int 1)] Attempting.begunAndSubmitted

theorem gradebooks_stay_sound_of_posted :
    let s := enteredAndPosted
    s.entries.map (fun e => (e.item, e.score.map Amount.toDecimal)) =
        [(1, some (.finite false 851 (-2))), (2, some (.finite false 200 (-2)))] ∧
      Sound s ∧ ∀ e ∈ s.entries, InSection s e := by
  intro s
  have hbegun : Reachable (fun ctx _ => ctx.directory? = none) Attempting.begunAndSubmitted :=
    .serve (fun _ _ => rfl) _ _ _
  have h : Reachable (fun ctx _ => ctx.directory? = none) s := hbegun.run (.serve fun _ _ => rfl)
  obtain ⟨hsound, hsections⟩ := gradebooks_stay_sound h
  exact ⟨by decide +kernel, hsound, hsections fun _ _ registered => registered⟩

end Assessment.Gradebook
