import Assessment.Access.Directory
import Assessment.Access.Role
import Assessment.Refusal
import Assessment.Request

/-!
# Permissions

Who may do what: the teacher of a section, an administrator, a student who is enrolled.
-/

namespace Assessment.Access

open Assessment.Request

/-- The caller is the section's teacher and acts as one. -/
def isSectionTeacher (d : Directory) (c : Caller) (classSection : Value) : Except Fault Bool :=
  if c.actsAs .teacher then (d.teaches c.id classSection).mapError .crashed else .ok false

def requireSectionTeacher (d : Directory) (c : Caller) (classSection : Value) :
    Except Fault Unit := do
  if !(← isSectionTeacher d c classSection) then throw (.refused .notSectionTeacher)

def requireAdministrator (c : Caller) : Except Fault Unit :=
  if c.actsAs .admin then .ok () else .error (.refused .notAdministrator)

/-- The enrollment of the caller in the section. -/
def requireEnrollment (d : Directory) (c : Caller) (classSection : Value) : Except Fault Value := do
  let enrollment ← (d.enrollment c.id classSection : Except Defect Value)
  if enrollment.isNull then throw (.refused .notEnrolled)
  return enrollment

/-- Only students who are enrolled in the section. -/
def requireEnrolledStudent (d : Directory) (c : Caller) (classSection : Value) :
    Except Fault Value := do
  if !c.actsAs .student then throw (.refused .notStudent)
  requireEnrollment d c classSection

/-- Administrators and the section's teacher. -/
def canManage (d : Directory) (c : Caller) (classSection : Value) : Except Fault Bool :=
  if c.actsAs .admin then .ok true else isSectionTeacher d c classSection

end Assessment.Access
