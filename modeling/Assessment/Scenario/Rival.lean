import Assessment.Attempting
import Assessment.Gradebook.Entry
import Assessment.Scenario.State
import Assessment.Sync.Queue

/-!
# Other writers

Another writer may commit a change after an operation has read the store and before it first writes.
-/

namespace Assessment.Scenario

inductive Rival where
  | bumpVersion (classSection : Int)
  | createBook (classSection : Int)
  | insertAttempt (quiz student enrollment classSection : Int)
  | insertJob (attempt : Int)
  | submitAttempt (attempt : Int)
  deriving DecidableEq, Repr

namespace Rival

def bumped (classSection : Int) (b : GradeBook) : GradeBook :=
  if b.classSection = classSection then { b with version := b.version + 1 } else b

/-- A change of the store, unless the store does not take it. -/
def orKeep {α : Type} (change : Change α) (s : Store) : Store :=
  match change s with
  | .ok (_, s) => s
  | .error _ => s

/-- Adds an attempt without a seed. -/
def insertAttemptRow (quiz student enrollment classSection : Int) : Change Attempt := fun s =>
  let row := Attempt.begin quiz student enrollment classSection morning (fun _ => none)
    (Table.nextId s.attempts)
  if s.attempts.any fun a => a.quiz == quiz && a.student == student then .error .constraint
  else .ok (row, { s with attempts := s.attempts ++ [row] })

/-- What the store is after the other writer's commit. -/
def apply : Rival → Store → Store
  | bumpVersion classSection, s => { s with books := s.books.map (bumped classSection) }
  | createBook classSection, s => orKeep (Gradebook.insertBook classSection morning) s
  | insertAttempt quiz student enrollment classSection, s =>
    orKeep (insertAttemptRow quiz student enrollment classSection) s
  | insertJob attempt, s => orKeep (Sync.insertJob (.int attempt) morning) s
  | submitAttempt attempt, s =>
    { s with attempts := Table.modify attempt (fun a => { a with status := .submitted }) s.attempts }

end Rival

end Assessment.Scenario
