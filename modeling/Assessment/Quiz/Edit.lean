import Assessment.Quiz.Draft
import Assessment.Store.Transaction

/-!
# Changes of quizzes

What authoring and the lifecycle change in the store. Each change touches one quiz with its questions
and their options.
-/

namespace Assessment.Quiz

open Assessment.Time

/-- A quiz that is drafted, before it has a number. -/
structure NewQuiz where
  classSection : Int
  author : Value
  title : String
  description : Option String
  total : Option Int
  timeLimit : Option Int
  shuffleQuestions : Bool
  shuffleOptions : Bool
  startAt : Option Instant
  endAt : Option Instant
  createdAt : Instant

def NewQuiz.row (q : NewQuiz) (author total id : Int) : Quiz where
  id
  classSection := q.classSection
  author
  title := q.title
  description := q.description
  total
  timeLimit := q.timeLimit.map .whole
  shuffleQuestions := q.shuffleQuestions
  shuffleOptions := q.shuffleOptions
  startAt := q.startAt
  endAt := q.endAt
  status := .draft
  publishedAt := none
  closedAt := none
  createdAt := q.createdAt

def insertQuiz (q : NewQuiz) : Change Quiz := fun s => do
  requireStorable (q.classSection :: (q.total.toList ++ q.timeLimit.toList))
  requireEncoding (q.title :: q.description.toList)
  let author ← columnOf q.author
  requireRow q.classSection s.classSections
  let author ← requiredReference author s.users
  match q.total with
  | none => throw .constraint
  | some total =>
    let row := q.row author total (Table.nextId s.quizzes)
    return (row, { s with quizzes := s.quizzes ++ [row] })

/-- The rows of a question's options, before they have numbers. -/
def optionRows (question : Int) (options : List (String × Bool)) : List (Int → AnswerOption) :=
  options.map fun (text, correct) id => ⟨id, question, text, correct⟩

/-- The amount that checked points are stored as. -/
def storedPoints (q : CheckedQuestion) : Amount := (Amount.ofDecimal? q.points).getD .zero

/-- The texts of a question and its options. -/
def textsOf (q : CheckedQuestion) : List String := q.text :: q.kind.name :: q.options.map (·.1)

/-- Adds a question with its options at a position. -/
def insertQuestion (quiz : Int) (order : Int) (q : CheckedQuestion) : Change Question := fun s => do
  requireEncoding (textsOf q)
  requireRow quiz s.quizzes
  let row : Question :=
    ⟨Table.nextId s.questions, quiz, q.text, q.kind, storedPoints q, .whole order⟩
  return (row, { s with
    questions := s.questions ++ [row]
    options := Table.append s.options (optionRows row.id q.options) })

/-- A question with new text, kind and points; number and position stay. -/
def withContent (q : CheckedQuestion) (row : Question) : Question :=
  { row with text := q.text, kind := q.kind, points := storedPoints q }

/-- Is an option of this question selected in some attempt? -/
def hasSelectedOption (s : Store) (question : Int) : Bool :=
  s.options.any fun o => o.question == question && s.selections.any (·.selected == some o.id)

/-- Gives a question new content. Its new options take their numbers before the old ones are removed. -/
def replaceQuestion (question : Int) (q : CheckedQuestion) : Change Unit := fun s => do
  requireEncoding (textsOf q)
  if hasSelectedOption s question then throw .constraint
  let old := s.options.filter (·.question == question)
  let all := Table.append s.options (optionRows question q.options)
  return ((), { s with
    questions := Table.modify question (withContent q) s.questions
    options := all.filter fun o => !(old.map (·.id)).contains o.id })

/-- A question at its place in a list of questions, counted from one. -/
def placed (ordered : List Question) (q : Question) : Question :=
  match ordered.findIdx? (·.id == q.id) with
  | some i => { q with order := .whole (i + 1 : Nat) }
  | none => q

/-- Removes a question with its options and numbers the remaining ones from one on. -/
def removeQuestion (question : Question) : Change Nat := fun s =>
  if hasSelectedOption s question.id || s.selections.any (·.question == question.id) then
    .error .constraint
  else
    let remaining := (s.questionsOf question.quiz).filter (·.id != question.id)
    .ok (remaining.length, { s with
      questions := (Table.remove question.id s.questions).map (placed remaining)
      options := s.options.filter (·.question != question.id) })

/-- Removes a quiz with its questions and their options. -/
def removeQuiz (quiz : Int) : Change Unit := fun s =>
  if s.attempts.any (·.quiz == quiz) then .error .constraint
  else
    let questions := (s.questions.filter (·.quiz == quiz)).map (·.id)
    .ok ((), { s with
      quizzes := Table.remove quiz s.quizzes
      questions := s.questions.filter (·.quiz != quiz)
      options := s.options.filter fun o => !questions.contains o.question })

def changeQuiz (quiz : Int) (f : Quiz → Quiz) : Change Unit := fun s =>
  .ok ((), { s with quizzes := Table.modify quiz f s.quizzes })

end Assessment.Quiz
