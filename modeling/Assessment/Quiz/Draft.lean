import Assessment.Number.Decimal.Arithmetic
import Assessment.Quiz.Basic
import Assessment.Request
import Assessment.Text.UpperCase
import Assessment.Value.Equality

/-!
# Checking what authors write

A question, a total and a window are checked before they enter a quiz. What passes is trimmed, rounded
to two places, and fit for publication.
-/

namespace Assessment.Quiz

open Assessment.Number Assessment.Request

/-- A question that has passed all checks. -/
structure CheckedQuestion where
  text : String
  kind : Kind
  points : Decimal
  options : List (String × Bool)
  deriving DecidableEq, Repr

/-- The flags that say which options are correct. -/
def CheckedQuestion.correct (q : CheckedQuestion) : List Bool := q.options.map (·.2)

/-- A question as an author writes it. -/
structure QuestionRequest where
  text : Value
  kind : Value
  points : Value
  options : Value

/-- One option as an author writes it: its text without blanks around it, and whether it is correct.
What is not an object has no text. -/
def readOption (v : Value) : String × Bool :=
  let text := ((v.member? "answer_text").orElse fun _ => v.member? "text").getD .null
  let correct := (v.member? "is_correct").getD (.bool false)
  (if text.isNull then "" else Text.trim text.display, correct.truthy)

/-- Points are a number greater than zero after rounding to two places. -/
def checkPoints (v : Value) : Except Fault Decimal := do
  let points ← readDecimal "Points" v
  let points ← (points.toHundredths .halfEven : Except Defect Decimal)
  if ← (points.atMost .zero : Except Defect Bool) then throw (.refused .pointsNotPositive)
  return points

/-- The text of every option is present and not too long. -/
def checkOptionTexts : List (String × Bool) → Except Fault Unit
  | [] => .ok ()
  | (text, _) :: rest =>
    if text.isEmpty then .error (.refused .optionTextMissing)
    else if maxOptionLength < text.length then .error (.refused .optionTextTooLong)
    else checkOptionTexts rest

/-- Checks a question against the kinds that are allowed. -/
def checkQuestion (kinds : List Kind) (q : QuestionRequest) : Except Fault CheckedQuestion := do
  let text ← readTrimmed q.text
  if text.isEmpty then throw (.refused .questionTextMissing)
  let kind : Kind := ⟨Text.upper (← readTrimmed q.kind)⟩
  if !kinds.contains kind then
    throw (.refused (.questionKindUnknown (kinds.map (·.name))))
  let points ← checkPoints q.points
  let options := (← readItems q.options).map readOption
  checkOptionTexts options
  match optionProblem? kind (options.map (·.2)) with
  | some problem => throw (.refused (.optionsUnsound problem))
  | none => return ⟨text, kind, points, options⟩

/-- A total is one of those allowed, which may allow that there is none. -/
def checkTotal (allowed : List Value) (v : Value) : Except Fault (Option Int) := do
  let total ← tryInteger v
  if (Value.ofInt? total).isAmong allowed then return total
  else throw (.refused (.totalNotAllowed (allowed.map Value.display)))

end Assessment.Quiz
