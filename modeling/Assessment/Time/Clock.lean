import Assessment.Time.Instant

/-!
# Clocks

A clock stands at an instant until it is moved. A clock that was never set shows no time and cannot be
moved.
-/

namespace Assessment.Time

structure Clock where
  now : Option Instant
  deriving DecidableEq, Repr

namespace Clock

def after (c : Clock) (d : Duration) : Except Defect Instant :=
  match c.now with
  | some t => t.add d
  | none => .error .wrongKind

def advance (c : Clock) (d : Duration) : Except Defect Clock := return ⟨some (← c.after d)⟩

def hasReached (c : Clock) (deadline : Option Instant) : Bool :=
  deadline.any fun d => c.now.any (d ≤ ·)

end Clock

end Assessment.Time
