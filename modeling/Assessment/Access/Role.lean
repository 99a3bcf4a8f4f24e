import Assessment.Text.Blank
import Assessment.Text.UpperCase
import Assessment.Value.Display

/-!
# Roles

Roles are written in any case and with blanks around them; a text that names no role is no role.
-/

namespace Assessment.Access

open Assessment.Text

/-- What a caller may be. -/
inductive Role where
  | admin
  | teacher
  | student
  deriving DecidableEq, Repr

namespace Role

def name : Role → String
  | admin => "ADMIN"
  | teacher => "TEACHER"
  | student => "STUDENT"

def ofText? (s : String) : Option Role :=
  [admin, teacher, student].find? (·.name == upper (trim s))

/-- The text that a loose value gives for a role; an empty value gives none. -/
def textOf (v : Value) : String := if v.truthy then v.display else ""

/-- The name of the role that a text names, or nothing. -/
def normalize (s : String) : String := ((ofText? s).map name).getD ""

end Role

/-- Who calls: what is given as the user's number, and the role that the call is made in. -/
structure Caller where
  id : Value
  role : String
  deriving DecidableEq, Repr

def Caller.actsAs (c : Caller) (role : Role) : Bool := Role.ofText? c.role == some role

end Assessment.Access
