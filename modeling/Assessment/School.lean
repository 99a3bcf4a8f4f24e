import Assessment.Access.Directory
import Assessment.Store.Table

/-!
# The school

Users, class sections and enrollments belong to registration; the assessments only read them.
-/

namespace Assessment

/-- A user with the role that is written for it. -/
structure User where
  id : Int
  role : String
  enabled : Bool
  deriving DecidableEq, Repr

/-- A class section and its teacher. -/
structure ClassSection where
  id : Int
  teacher : Option Int
  deriving DecidableEq, Repr

/-- How far an enrollment has come. -/
inductive EnrollmentStatus where
  | enrolled
  | pending
  | dropped
  /-- A status that means nothing here. -/
  | other (name : String)
  deriving DecidableEq, Repr

/-- A student's enrollment in a section. -/
structure Enrollment where
  id : Int
  student : Int
  classSection : Int
  status : EnrollmentStatus
  deriving DecidableEq, Repr

instance : Row User := ⟨User.id⟩

instance : Row ClassSection := ⟨ClassSection.id⟩

instance : Row Enrollment := ⟨Enrollment.id⟩

namespace EnrollmentStatus

def name : EnrollmentStatus → String
  | enrolled => "ENROLLED"
  | pending => "PENDING"
  | dropped => "DROPPED"
  | other name => name

def ofName (s : String) : EnrollmentStatus :=
  ([enrolled, pending, dropped].find? (·.name == s)).getD (.other s)

end EnrollmentStatus

/-- Only enrollments that are active count for the directory. -/
def Enrollment.membership? (e : Enrollment) : Option Access.Membership :=
  if e.status = .enrolled then some ⟨e.id, e.student, e.classSection⟩ else none

end Assessment
