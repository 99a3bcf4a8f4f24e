import Assessment.Context

/-!
# The state of a scenario

A scenario begins on a fixed morning in a small school without any assessments.
-/

namespace Assessment.Scenario

open Assessment.Time

/-- When every scenario begins. -/
def morning : Instant := .ofDateTime ⟨2026, 3, 2⟩ 9 0 0

def users : List User :=
  [⟨1, "TEACHER", true⟩, ⟨2, "TEACHER", true⟩, ⟨3, "ADMIN", true⟩, ⟨4, "STUDENT", true⟩,
    ⟨5, "STUDENT", true⟩, ⟨6, "STUDENT", true⟩, ⟨7, "STUDENT", true⟩, ⟨8, "STUDENT", true⟩,
    ⟨9, "STUDENT", false⟩, ⟨10, "teacher", true⟩, ⟨11, "GUEST", true⟩]

def classSections : List ClassSection := [⟨1, some 1⟩, ⟨2, some 2⟩, ⟨3, some 10⟩, ⟨4, none⟩]

def enrollments : List Enrollment :=
  [⟨1, 4, 1, .enrolled⟩, ⟨2, 5, 1, .enrolled⟩, ⟨3, 7, 1, .dropped⟩, ⟨4, 8, 1, .pending⟩,
    ⟨5, 4, 2, .enrolled⟩, ⟨6, 9, 2, .enrolled⟩]

/-- The store and everything else that a scenario can change. -/
structure State where
  store : Store
  context : Context
  deriving Repr

/-- How deep the body of a request may nest: there is room for a thousand levels, and some are taken by
what answers the request. -/
def nesting : Nat := 976

/-- The state in which a scenario with some settings begins. -/
def State.start (settings : Settings) : State where
  store := .ofSchool users classSections enrollments
  context := { now := morning, settings, directory? := none, item? := none, nesting }

end Assessment.Scenario
