import Assessment.Number.Decimal.Arithmetic
import Assessment.Value.Coercion

/-!
# Scores on the scale of a grade item

The score of a quiz is projected onto the scale of the item that it is entered under, rounded to two
places, and kept between zero and the item's maximum.
-/

namespace Assessment.Gradebook

open Assessment.Number

/-- `score / maxPoints · itemMax` to two places, a half going up, between zero and `itemMax`. No points
to be had give no score. -/
def project (score maxPoints itemMax : Decimal) : Except Defect Decimal := do
  if ← maxPoints.atMost .zero then return .zeroHundredths
  let share ← score.div maxPoints
  let scaled ← share.mul itemMax
  let value ← scaled.toHundredths .halfUp
  if ← value.less .zero then return .zeroHundredths
  if ← itemMax.less value then itemMax.toHundredths .halfEven
  else return value

/-- The projection of a score that may be absent. -/
def scale (score maxPoints : Option Decimal) (itemMax : Decimal) : Except Defect Decimal :=
  match score, maxPoints with
  | some s, some p => if s.isZero || p.isZero then .ok .zeroHundredths else project s p itemMax
  | _, _ => .ok .zeroHundredths

/-- The projection of a score given by loose values. -/
def scaleValues (score maxPoints itemMax : Value) : Except Defect Decimal := do
  let itemMax ← itemMax.toDecimal
  if !score.truthy || !maxPoints.truthy then return .zeroHundredths
  let maxPoints ← maxPoints.toDecimal
  if ← maxPoints.atMost .zero then return .zeroHundredths
  project (← score.toDecimal) maxPoints itemMax

/-- Are two scores the same at two places? Absent scores are the same as each other only. -/
def sameScore (left right : Option Decimal) : Except Defect Bool :=
  match left, right with
  | some l, some r => do
    let l ← l.toHundredths .halfEven
    let r ← r.toHundredths .halfEven
    return l.sameValue r
  | none, none => .ok true
  | _, _ => .ok false

/-- Are two scores given by loose values the same at two places? -/
def sameScoreValues (left right : Value) : Except Defect Bool :=
  if left.isNull || right.isNull then .ok (left.isNull && right.isNull)
  else do
    let l ← (← left.toDecimal).toHundredths .halfEven
    let r ← (← right.toDecimal).toHundredths .halfEven
    return l.sameValue r

end Assessment.Gradebook
