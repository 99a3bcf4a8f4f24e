import Assessment.Notice
import Assessment.Refusal
import Assessment.Text.UpperCase

/-!
# Settling a commit

What becomes of a commit that the store does not take. Losing to another writer is a conflict, and so
is a store that stays busy; everything else is passed on.
-/

namespace Assessment

inductive CommitFailure where
  /-- A row that may not be there twice, or a reference without its row. -/
  | constraint
  /-- A row that has changed since it was read. -/
  | stale
  /-- A store that does not work, in its own words. -/
  | unusable (words : String)
  | other
  deriving DecidableEq, Repr

/-- A commit after it is settled: whether it was rolled back, and what is reported. -/
structure Settlement where
  rolledBack : Bool
  problem : Option (Except Defect Notice)

namespace Settlement

def occurs (part : List Char) : List Char → Bool
  | [] => part.isEmpty
  | c :: rest => part.isPrefixOf (c :: rest) || occurs part rest

/-- Do the words of a store say that another writer holds it? -/
def reportsBusy (words : String) : Bool :=
  let words := (Text.lowerLatin words).toList
  occurs "database is locked".toList words || occurs "database is busy".toList words

/-- The conflict that is reported, with a reason if there is one. -/
def conflict (message reason : Value) : Except Defect Notice :=
  Notice.ofKind .conflict [("message", message), ("reason", reason)]

/-- The message of a conflict for which none is given. -/
def standardMessage : Value := .text Refusal.recordChanged.message

def ofCommit (message reason : Value) : Option CommitFailure → Settlement
  | none => ⟨false, none⟩
  | some .constraint | some .stale => ⟨true, some (conflict message reason)⟩
  | some (.unusable words) =>
    ⟨true, some (if reportsBusy words then
        conflict (.text "The database is busy. Please retry.") reason
      else .error .storeUnusable)⟩
  | some .other => ⟨false, some (.error .broken)⟩

end Settlement

end Assessment
