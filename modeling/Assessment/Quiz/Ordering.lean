import Assessment.Defect
import Assessment.Random.Shuffle
import Assessment.Value.Display

/-!
# The order of questions and options in an attempt

Each attempt has a seed of its own, and each question within it a further one, so that the order of a
question's options does not depend on the order of the questions.
-/

namespace Assessment.Quiz

def attemptSeed (attempt : Value) : String := "attempt:" ++ attempt.display

/-- A seed has an encoding, of which the order is made. -/
def requireSeed (seed : String) : Except Defect Unit :=
  if Text.hasEncoding seed then .ok () else .error .noEncoding

/-- The questions of an attempt in the order in which they are shown. -/
def orderQuestions {α : Type} (seed : String) (shuffled : Bool) (questions : List α) : List α :=
  if shuffled then Random.shuffle seed questions else questions

/-- The seed of a question within an attempt. -/
def questionSeed (seed : String) (question : Value) : String := seed ++ ":q" ++ question.display

/-- The options of a question in the order in which they are shown. -/
def orderOptions {α : Type} (seed : String) (question : Value) (shuffled : Bool)
    (options : List α) : List α :=
  if shuffled then Random.shuffle (questionSeed seed question) options else options

end Assessment.Quiz
