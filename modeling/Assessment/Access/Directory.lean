import Assessment.Probe

/-!
# The directory of sections and enrollments

The directory says who teaches a section and who is enrolled in it. It is read from the registration
tables, by queries, or given as lists, whose entries are compared as values.
-/

namespace Assessment.Access

/-- A section and its teacher. -/
structure Teaching where
  classSection : Int
  teacher : Option Int
  deriving DecidableEq, Repr

/-- An active enrollment of a student in a section. -/
structure Membership where
  enrollment : Int
  student : Int
  classSection : Int
  deriving DecidableEq, Repr

/-- A section and its teacher as lists give them. -/
structure ListedTeaching where
  classSection : Value
  teacher : Value
  deriving DecidableEq, Repr

/-- An active enrollment as lists give it. -/
structure ListedMembership where
  enrollment : Value
  student : Value
  classSection : Value
  deriving DecidableEq, Repr

inductive Directory where
  /-- From tables, by number. -/
  | tabled (teachings : List Teaching) (memberships : List Membership)
  /-- From lists, in their own order. -/
  | listed (teachings : List ListedTeaching) (memberships : List ListedMembership)
  deriving DecidableEq, Repr

namespace Directory

/-- The enrollment of a student in a section; the absent value if there is none. -/
def enrollment (d : Directory) (student classSection : Value) : Except Defect Value :=
  match d with
  | tabled _ memberships => do
    let student ← student.probe
    let classSection ← classSection.probe
    let found := memberships.find? fun m =>
      student.findsWhole m.student && classSection.findsWhole m.classSection
    return .ofInt? (found.map (·.enrollment))
  | listed _ memberships =>
    let found := memberships.find? fun m =>
      m.student.same student && m.classSection.same classSection
    .ok ((found.map (·.enrollment)).getD .null)

/-- The enrollments in a section in order. -/
def enrollments (d : Directory) (classSection : Value) : Except Defect (List Value) :=
  match d with
  | tabled _ memberships => do
    let classSection ← classSection.probe
    let found := memberships.filter fun m => classSection.findsWhole m.classSection
    return found.map fun m => .int m.enrollment
  | listed _ memberships =>
    Value.inOrder ((memberships.filter (·.classSection.same classSection)).map (·.enrollment))

def teaches (d : Directory) (teacher classSection : Value) : Except Defect Bool :=
  match d with
  | tabled teachings _ => do
    let classSection ← classSection.probe
    let teacher ← teacher.probe
    return teachings.any fun t =>
      classSection.findsWhole t.classSection && teacher.finds (t.teacher.map Cell.whole)
  | listed teachings _ =>
    .ok (teachings.any fun t => t.classSection.same classSection && t.teacher.same teacher)

/-- The sections that a teacher teaches in order. -/
def taught (d : Directory) (teacher : Value) : Except Defect (List Value) :=
  match d with
  | tabled teachings _ => do
    let teacher ← teacher.probe
    let found := teachings.filter fun t => teacher.finds (t.teacher.map Cell.whole)
    return found.map fun t => .int t.classSection
  | listed teachings _ =>
    Value.inOrder ((teachings.filter (·.teacher.same teacher)).map (·.classSection))

end Directory

end Assessment.Access
