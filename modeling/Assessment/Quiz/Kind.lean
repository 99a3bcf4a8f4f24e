import Assessment.Refusal

/-!
# Kinds of questions and their options

A question is sound when it has at least two options of which exactly one is correct, and a
true/false question has exactly two.
-/

namespace Assessment.Quiz

/-- The kind of a question, by its written name. -/
structure Kind where
  name : String
  deriving DecidableEq, Repr

/-- One of several options is correct. -/
def Kind.multipleChoice : Kind := ⟨"MCQ"⟩

/-- One of two options is correct. -/
def Kind.trueFalse : Kind := ⟨"TRUE_FALSE"⟩

def Kind.all : List Kind := [.multipleChoice, .trueFalse]

/-- What is wrong with a question's options, given which of them are marked correct. -/
def optionProblem? (kind : Kind) (correct : List Bool) : Option OptionProblem :=
  if correct.length < 2 then some .tooFew
  else if kind = .trueFalse ∧ correct.length ≠ 2 then some .notTwo
  else if correct.count true ≠ 1 then some .notOneCorrect
  else none

end Assessment.Quiz
