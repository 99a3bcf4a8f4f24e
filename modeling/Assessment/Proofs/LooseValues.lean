import Assessment.Access.Permission
import Assessment.Proofs.Number.Values
import Assessment.Store.Basic
import Assessment.Store.Transaction

/-!
# Integers among loose values

An integer is the same value as an integer only if it is that integer, and a query for an integer finds
it alone. What is stored as an integer is found by a query as that integer or not at all.
-/

namespace Assessment

open Number

namespace Value

@[simp]
lemma same_int {m n : Int} : (int m).same (int n) = true ↔ m = n := by
  have h : (int m).same (int n) = (Decimal.ofInt m).sameValue (Decimal.ofInt n) := by
    simp only [same, sameAtom, number?]
  rw [h, Decimal.sameValue_ofInt]

lemma probe_int {n : Int} {p : Probe} (h : (int n).probe = .ok p) (m : Int) :
    p.findsWhole m = true ↔ m = n := by
  simp only [probe, sought, cell?, bind_eq_ok, when_eq_ok, pure_eq_ok, Except.ok.injEq] at h
  obtain ⟨_, ⟨-, rfl⟩, rfl⟩ := h
  simp [Probe.ofCell?, Probe.findsWhole, Probe.finds, Cell.numeric]

lemma probe_of_storable {n : Int} (h : isStorable n = true) : (int n).probe = .ok (.cell (.whole n)) := by
  simp only [probe, sought, cell?, if_pos h]
  rfl

lemma keyProbe_of_storable {n : Int} (h : isStorable n = true) (column : String) :
    (int n).keyProbe column = .ok (.cell (.whole n)) := by
  simp only [keyProbe, isKey, numericCell?, cell?, if_pos h]
  rfl

lemma storable_of_probe {n : Int} {p : Probe} (h : (int n).probe = .ok p) : isStorable n = true := by
  simp only [probe, sought, cell?, bind_eq_ok, when_eq_ok] at h
  obtain ⟨_, ⟨hn, -⟩, -⟩ := h
  exact hn

/-- What a query finds is what a column holds for the same value. -/
lemma probe_of_column {v : Value} {n : Int} (hc : columnOf v = .ok (some (.whole n))) {p : Probe}
    (hp : v.probe = .ok p) {m : Int} (hm : p.findsWhole m = true) : m = n := by
  simp only [columnOf, numericCell?, mapError_eq_ok, bind_eq_ok, pure_eq_ok] at hc
  obtain ⟨held, hheld, hn⟩ := hc
  -- What has a cell of its own is looked for by that cell.
  have hcell (hsought : v.sought = v.cell?)
      (hprobe : v.probe = (do return .ofCell? ((← v.sought).map Cell.numeric))) : m = n := by
    simp only [hprobe, hsought, hheld, bind_eq_ok, pure_eq_ok, Except.ok.injEq] at hp
    obtain ⟨_, rfl, rfl⟩ := hp
    rw [hn] at hm
    simpa [Probe.ofCell?, Probe.findsWhole, Probe.finds] using hm
  cases v with
  | null =>
    obtain rfl : none = held := Except.ok.inj hheld
    cases hn
  | decimal | list | object => cases hheld
  | moment | date =>
    obtain rfl : Probe.nothing = p := Except.ok.inj hp
    cases hm
  | bool | int | float | text => exact hcell rfl rfl

lemma columnOf_int {m n : Int} (h : columnOf (int m) = .ok (some (.whole n))) : m = n := by
  simp only [columnOf, numericCell?, cell?, mapError_eq_ok, bind_eq_ok, pure_eq_ok, when_eq_ok,
    Except.ok.injEq] at h
  obtain ⟨_, ⟨-, rfl⟩, h⟩ := h
  simpa [Cell.numeric] using h

lemma storable_of_ofFloat {x : Binary64} {n : Int} (h : Cell.ofFloat x = .whole n) : isStorable n = true := by
  unfold Cell.ofFloat at h
  split at h
  · dsimp only at h
    split_ifs at h with hwhole
    simp only [Bool.and_eq_true] at hwhole
    exact Cell.whole.inj h ▸ hwhole.1.2
  · cases h

lemma storable_of_ofText {s : String} {n : Int} (h : Cell.ofText s = .whole n) : isStorable n = true := by
  unfold Cell.ofText at h
  dsimp only at h
  split at h
  · split_ifs at h with hstorable
    · exact Cell.whole.inj h ▸ hstorable
    · exact storable_of_ofFloat h
  · split at h
    · exact storable_of_ofFloat h
    · cases h

lemma storable_of_column {v : Value} {n : Int} (h : columnOf v = .ok (some (.whole n))) :
    isStorable n = true := by
  simp only [columnOf, numericCell?, mapError_eq_ok, bind_eq_ok, pure_eq_ok] at h
  obtain ⟨held, hheld, hn⟩ := h
  obtain ⟨cell, rfl, hcell⟩ := Option.map_eq_some_iff.mp hn
  cases cell with
  | fractional x => exact storable_of_ofFloat hcell
  | text s => exact storable_of_ofText hcell
  | whole m =>
    obtain rfl : m = n := Cell.whole.inj hcell
    cases v with
    | bool b => cases b <;> (cases hheld; decide)
    | int k =>
      simp only [cell?, when_eq_ok, Except.ok.injEq, Option.some.injEq, Cell.whole.injEq] at hheld
      exact hheld.2 ▸ hheld.1
    | float x => cases x <;> cases hheld
    | text s =>
      simp only [cell?, when_eq_ok] at hheld
      cases hheld.2
    | null | moment | date | decimal | list | object => cases hheld

end Value

lemma Probe.findsWhole_whole (m n : Int) : (Probe.cell (.whole m)).findsWhole n = (n == m) := by
  rw [Bool.eq_iff_iff]
  simp [findsWhole, finds]

lemma Probe.find?_whole {α : Type} [Row α] (n : Int) (rows : List α) :
    (Probe.cell (.whole n)).find? rows = Table.find? n rows := by
  simp only [Probe.find?, findsWhole_whole]
  rfl

namespace Access.Directory

lemma mem_enrollments_tabled {teachings : List Teaching} {memberships : List Membership}
    {classSection : Int} {found : List Value}
    (h : (tabled teachings memberships).enrollments (.int classSection) = .ok found) {m : Membership}
    (hm : m ∈ memberships) (hs : m.classSection = classSection) : .int m.enrollment ∈ found := by
  simp only [enrollments, bind_eq_ok, pure_eq_ok] at h
  obtain ⟨probe, hprobe, rfl⟩ := h
  refine List.mem_map.mpr ⟨m, List.mem_filter.mpr ⟨hm, ?_⟩, rfl⟩
  exact (Value.probe_int hprobe _).mpr hs

lemma enrollments_tabled {teachings : List Teaching} {memberships : List Membership}
    {classSection : Int} {found : List Value}
    (h : (tabled teachings memberships).enrollments (.int classSection) = .ok found) {v : Value}
    (hv : v ∈ found) : ∃ m ∈ memberships, m.classSection = classSection ∧ v = .int m.enrollment := by
  simp only [enrollments, bind_eq_ok, pure_eq_ok] at h
  obtain ⟨probe, hprobe, rfl⟩ := h
  obtain ⟨m, hm, rfl⟩ := List.mem_map.mp hv
  obtain ⟨hm, hfinds⟩ := List.mem_filter.mp hm
  exact ⟨m, hm, (Value.probe_int hprobe _).mp hfinds, rfl⟩

lemma enrollment_tabled {teachings : List Teaching} {memberships : List Membership} {student : Value}
    {classSection : Int} {found : Value}
    (h : (tabled teachings memberships).enrollment student (.int classSection) = .ok found)
    (present : found.isNull = false) :
    ∃ m ∈ memberships, m.classSection = classSection ∧ found = .int m.enrollment ∧
      ∃ p, student.probe = .ok p ∧ p.findsWhole m.student = true := by
  simp only [enrollment, bind_eq_ok, pure_eq_ok] at h
  obtain ⟨p, hp, place, hplace, rfl⟩ := h
  cases hf : memberships.find? fun m => p.findsWhole m.student && place.findsWhole m.classSection with
  | none =>
    rw [hf] at present
    cases present
  | some m =>
    have hm := List.find?_some hf
    rw [Bool.and_eq_true, Value.probe_int hplace] at hm
    exact ⟨m, List.mem_of_find?_eq_some hf, hm.2, rfl, p, hp, hm.1⟩

end Access.Directory

lemma enrollment_registered {s : Store} {student : Value} {classSection : Int} {found : Value}
    (h : s.directory.enrollment student (.int classSection) = .ok found) (present : found.isNull = false) :
    ∃ e ∈ s.enrollments, found = .int e.id ∧ e.classSection = classSection ∧ e.status = .enrolled ∧
      ∃ p, student.probe = .ok p ∧ p.findsWhole e.student = true := by
  obtain ⟨m, hm, hsection, rfl, hfinds⟩ := Access.Directory.enrollment_tabled h present
  obtain ⟨e, he, hmember⟩ := List.mem_filterMap.mp hm
  unfold Enrollment.membership? at hmember
  split_ifs at hmember with hstatus
  obtain rfl := Option.some.inj hmember
  exact ⟨e, he, rfl, hsection, hstatus, hfinds⟩

lemma requireEnrolledStudent_eq_ok {d : Access.Directory} {caller : Access.Caller} {classSection : Value}
    {enrolled : Value} (h : Access.requireEnrolledStudent d caller classSection = .ok enrolled) :
    caller.actsAs .student = true ∧ d.enrollment caller.id classSection = .ok enrolled ∧
      enrolled.isNull = false := by
  simp only [Access.requireEnrolledStudent, Access.requireEnrollment, bind_eq_ok, guard_eq_ok,
    lift_eq_ok, pure_eq_ok, Bool.not_eq_true', Bool.not_eq_false] at h
  obtain ⟨hrole, found, hfound, hpresent, rfl⟩ := h
  exact ⟨hrole, hfound, Bool.not_eq_true _ ▸ hpresent⟩

lemma requireEnrolledStudent_registered {s : Store} {caller : Access.Caller} {classSection : Int}
    {enrolled : Value}
    (h : Access.requireEnrolledStudent s.directory caller (.int classSection) = .ok enrolled)
    {student enrollment : Int} (self : columnOf caller.id = .ok (some (.whole student)))
    (place : columnOf enrolled = .ok (some (.whole enrollment))) :
    ∃ e ∈ s.enrollments, e.id = enrollment ∧ e.student = student ∧ e.classSection = classSection ∧
      e.status = .enrolled := by
  obtain ⟨-, hfound, hpresent⟩ := requireEnrolledStudent_eq_ok h
  obtain ⟨e, he, rfl, hsection, hstatus, p, hp, hfinds⟩ := enrollment_registered hfound hpresent
  exact ⟨e, he, Value.columnOf_int place, Value.probe_of_column self hp hfinds, hsection, hstatus⟩

end Assessment
