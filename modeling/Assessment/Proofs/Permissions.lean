import Assessment.Context
import Assessment.Proofs.LooseValues

/-!
# What permissions show

A permission that is given shows the role that the caller acts in, and what the registration tables have of
the caller and the section: that the section is taught by the caller, or that the caller is enrolled in it.
A directory in the place of the tables is taken at its word.
-/

namespace Assessment.Access

open Request

/-- The registration tables know the caller by the number of a user. -/
def Caller.Is (c : Caller) (user : Int) : Prop := ∃ p, c.id.probe = .ok p ∧ p.findsWhole user = true

/-- The caller teaches a section: it is there, and its teacher is the caller. A section without a teacher is
taught by a caller without a number. -/
def Teaches (ctx : Context) (s : Store) (c : Caller) (classSection : Int) : Prop :=
  match ctx.directory? with
  | some d => d.teaches c.id (.int classSection) = .ok true
  | none => ∃ x ∈ s.classSections, x.id = classSection ∧
      ((∃ user, x.teacher = some user ∧ c.Is user) ∨ x.teacher = none ∧ c.id = .null)

/-- The caller is an administrator, or the teacher of a section who acts as one. -/
def Manages (ctx : Context) (s : Store) (c : Caller) (classSection : Int) : Prop :=
  c.actsAs .admin = true ∨ c.actsAs .teacher = true ∧ Teaches ctx s c classSection

/-- The caller is enrolled in a section by an enrollment that is active. -/
def Attends (ctx : Context) (s : Store) (c : Caller) (classSection enrollment : Int) : Prop :=
  match ctx.directory? with
  | some d => ∃ v, d.enrollment c.id (.int classSection) = .ok v ∧
      columnOf v = .ok (some (.whole enrollment))
  | none => ∃ e ∈ s.enrollments, e.id = enrollment ∧ e.classSection = classSection ∧
      e.status = .enrolled ∧ c.Is e.student

variable {ctx : Context} {s : Store} {c : Caller} {classSection : Int}

lemma eq_null_of_probe {v : Value} (h : v.probe = .ok .absent) : v = .null := by
  cases v with
  | null => rfl
  | moment | date => cases h
  | bool | int | float | decimal | text | list | object =>
    simp only [Value.probe, bind_eq_ok, pure_eq_ok] at h
    obtain ⟨cell, -, h⟩ := h
    cases cell <;> cases h

lemma teaches_tabled {teachings : List Teaching} {memberships : List Membership} {teacher : Value}
    (h : (Directory.tabled teachings memberships).teaches teacher (.int classSection) = .ok true) :
    ∃ t ∈ teachings, t.classSection = classSection ∧
      ∃ p, teacher.probe = .ok p ∧ p.finds (t.teacher.map Cell.whole) = true := by
  simp only [Directory.teaches, bind_eq_ok, pure_eq_ok, List.any_eq_true, Bool.and_eq_true] at h
  obtain ⟨place, hplace, p, hp, t, ht, hsection, hteacher⟩ := h
  exact ⟨t, ht, (Value.probe_int hplace _).mp hsection, p, hp, hteacher⟩

lemma teaches_of_directory (h : (ctx.directory s).teaches c.id (.int classSection) = .ok true) :
    Teaches ctx s c classSection := by
  unfold Teaches
  cases hd : ctx.directory? with
  | some d =>
    rw [Context.directory, hd] at h
    exact h
  | none =>
    rw [Context.directory, hd] at h
    obtain ⟨t, ht, hsection, p, hp, hfinds⟩ := teaches_tabled h
    obtain ⟨x, hx, rfl⟩ := List.mem_map.mp ht
    refine ⟨x, hx, hsection, ?_⟩
    cases hteacher : x.teacher with
    | some user =>
      rw [hteacher] at hfinds
      exact .inl ⟨user, rfl, p, hp, hfinds⟩
    | none =>
      rw [hteacher] at hfinds
      have habsent : p = .absent := by cases p <;> simp [Probe.finds] at hfinds ⊢
      exact .inr ⟨rfl, eq_null_of_probe (habsent ▸ hp)⟩

lemma isSectionTeacher_eq_ok
    (h : isSectionTeacher (ctx.directory s) c (.int classSection) = .ok true) :
    c.actsAs .teacher = true ∧ Teaches ctx s c classSection := by
  unfold isSectionTeacher at h
  split_ifs at h with hrole
  · exact ⟨hrole, teaches_of_directory (mapError_eq_ok.mp h)⟩
  · cases h

lemma requireSectionTeacher_eq_ok
    (h : requireSectionTeacher (ctx.directory s) c (.int classSection) = .ok ()) :
    c.actsAs .teacher = true ∧ Teaches ctx s c classSection := by
  simp only [requireSectionTeacher, bind_eq_ok] at h
  obtain ⟨teaches, hteaches, h⟩ := h
  cases teaches with
  | true => exact isSectionTeacher_eq_ok hteaches
  | false => cases h

lemma canManage_eq_ok (h : canManage (ctx.directory s) c (.int classSection) = .ok true) :
    Manages ctx s c classSection := by
  unfold canManage at h
  split_ifs at h with hrole
  · exact .inl hrole
  · exact .inr (isSectionTeacher_eq_ok h)

lemma requireAdministrator_eq_ok (h : requireAdministrator c = .ok ()) : c.actsAs .admin = true := by
  unfold requireAdministrator at h
  split_ifs at h with hrole
  exact hrole

lemma attends_of_enrolled {enrolled : Value} {enrollment : Int}
    (h : requireEnrolledStudent (ctx.directory s) c (.int classSection) = .ok enrolled)
    (place : columnOf enrolled = .ok (some (.whole enrollment))) :
    c.actsAs .student = true ∧ Attends ctx s c classSection enrollment := by
  obtain ⟨hrole, hfound, hpresent⟩ := requireEnrolledStudent_eq_ok h
  refine ⟨hrole, ?_⟩
  unfold Attends
  cases hd : ctx.directory? with
  | some d =>
    rw [Context.directory, hd] at hfound
    exact ⟨enrolled, hfound, place⟩
  | none =>
    rw [Context.directory, hd] at hfound
    obtain ⟨e, he, rfl, hsection, hstatus, hfinds⟩ := enrollment_registered hfound hpresent
    exact ⟨e, he, Value.columnOf_int place, hsection, hstatus, hfinds⟩

end Assessment.Access
