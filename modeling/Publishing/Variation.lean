/-!
# Variation

The values of a property may differ from culture to culture, from segment to
segment, both, or neither.
-/

namespace Publishing

/-- The dimensions along which values vary. -/
inductive Variation where
  /-- One value, whatever the culture and the segment. -/
  | nothing
  | culture
  | segment
  | cultureAndSegment
deriving DecidableEq, Inhabited

namespace Variation

/-- The variation along the dimensions that are switched on. -/
def ofFlags : (byCulture bySegment : Bool) → Variation
  | false, false => .nothing
  | true, false => .culture
  | false, true => .segment
  | true, true => .cultureAndSegment

/-- Whether values differ between cultures. -/
def byCulture : Variation → Bool
  | .culture | .cultureAndSegment => true
  | .nothing | .segment => false

/-- Whether values differ between segments. -/
def bySegment : Variation → Bool
  | .segment | .cultureAndSegment => true
  | .nothing | .culture => false

/-- Whether there is one value only. -/
def isNothing (v : Variation) : Bool :=
  decide (v = .nothing)

@[simp] theorem ofFlags_byCulture_bySegment (v : Variation) : ofFlags v.byCulture v.bySegment = v := by
  cases v <;> rfl

@[simp] theorem byCulture_ofFlags (c s : Bool) : (ofFlags c s).byCulture = c := by
  cases c <;> cases s <;> rfl

@[simp] theorem bySegment_ofFlags (c s : Bool) : (ofFlags c s).bySegment = s := by
  cases c <;> cases s <;> rfl

end Variation

/-- A culture and a segment, each of which may be left open. -/
@[ext] structure Variant where
  culture : Option String := none
  segment : Option String := none
deriving DecidableEq

end Publishing
