import Assessment.Gradebook.Basic
import Assessment.Quiz.Basic
import Assessment.Request
import Assessment.Schema.Body

/-!
# The request bodies

What the bodies of the requests hold, one after the other.
-/

namespace Assessment.Schema

/-- A text from one character up to a number of them. -/
def someText (high : Nat) : Kind := .text (some 1) (some high)

def anyText : Kind := .text none none

/-- A text of at most a number of characters. -/
def shortText (high : Nat) : Kind := .text none (some high)

def optionFields : Fields :=
  [.required "text" (someText Quiz.maxOptionLength),
    .withDefault "is_correct" .boolean (.bool false)]

def selectionFields : Fields :=
  [.required "question_id" .integer, .optional "selected_answer_id" .integer]

def cellFields : Fields :=
  [.required "grade_item_id" .integer, .required "enrollment_id" .integer,
    ⟨"score", .decimal, none, true⟩,
    .optional "reason" (shortText Request.maxMessageLength)]

def windowFields : Fields := [.optional "start_at" .moment, .optional "end_at" .moment]

def quizBody : Body where
  fields :=
    [.required "class_section_id" .strictInteger,
      .required "title" (someText Quiz.maxTitleLength),
      .optional "description" anyText, .required "total_questions" .integer,
      .optional "time_limit_minutes" .integer,
      .withDefault "shuffle_questions" .boolean (.bool false),
      .withDefault "shuffle_answers" .boolean (.bool false)] ++ windowFields
  list? := none

def questionBody : Body where
  fields :=
    [.required "text" anyText, .withDefault "question_type" anyText (.text "MCQ"),
      .required "points" .decimal]
  list? := some ⟨"answers", optionFields, none⟩

def publishBody : Body := ⟨windowFields, none⟩

def submissionBody : Body := ⟨[], some ⟨"answers", selectionFields, some (.list [])⟩⟩

def scoresBody : Body where
  fields := [.optional "expected_version" .integer]
  list? := some ⟨"scores", cellFields, none⟩

def itemBody : Body where
  fields :=
    [.required "name" (someText Gradebook.maxNameLength), .required "max_score" .decimal,
      .optional "weight" .decimal, .withDefault "is_required" .boolean (.bool true),
      .optional "sort_order" .integer, .optional "expected_version" .integer]
  list? := none

def reviewBody : Body where
  fields :=
    [.optional "message" (shortText Request.maxMessageLength),
      .optional "expected_version" .integer]
  list? := none

end Assessment.Schema
