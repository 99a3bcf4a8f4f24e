/-!
# Defects

A defect is a fault of the call rather than an answer of the domain: a value of a kind that the
operation cannot work on, or a number that it cannot hold.
-/

namespace Assessment

/-- What a computation could not do with what it was given. -/
inductive Defect where
  /-- A value of the wrong kind. -/
  | wrongKind
  /-- A value of the right kind that does not read as what is needed. -/
  | unreadable
  /-- A number or a time outside the range that can be held. -/
  | outOfRange
  /-- A decimal operation without a defined result, or one that needs too many digits. -/
  | undefinedArithmetic
  /-- A decimal result that is too large. -/
  | arithmeticOverflow
  /-- A value that lacks the member that is asked of it. -/
  | missingMember
  /-- A name that a table does not hold. -/
  | missingKey
  /-- A text that has no encoding. -/
  | noEncoding
  /-- A value that is not what a column of the store holds. -/
  | unfitForColumn
  /-- A value of a kind that the store does not know. -/
  | unknownToStore
  /-- A key that does not name one row. -/
  | badKey
  /-- A change of a column that the table does not have. -/
  | unknownColumn
  /-- A store that refused to work for a reason that a retry does not mend. -/
  | storeUnusable
  /-- A change that would leave a reference without its row, or a column without its value. -/
  | constraintBroken
  /-- Any other failure of the surroundings. -/
  | broken
  deriving DecidableEq, Repr

end Assessment
