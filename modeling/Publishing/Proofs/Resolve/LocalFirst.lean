import Publishing.Resolve.Resolver

/-!
# The own value first

Reading comes down to three selections, of which the first that is no miss counts:
the value of the property's own, what the policy selects, and what is stored for
"no value".  `readProperty_eq`, `readElement_eq` and `readContent_fst` say so at the
three levels, so that two ways of reading can be compared part by part.
-/

namespace Publishing

namespace Selection

/-- A selection, or another one in place of a miss. -/
def or : Selection → Selection → Selection
  | .miss, other => other
  | .stored value, _ => .stored value
  | .callerDefault, _ => .callerDefault
  | .unsupported mode level, _ => .unsupported mode level

end Selection

namespace Resolver

variable (r : Resolver) (requested : Variant) (policy : Policy)

/-- The own value is what is stored, if it counts. -/
theorem ownValue?_eq_filter (n : Node) (name : String) (node : Option NodeId) :
    r.ownValue? n name node requested =
      (r.ownStored? n name node requested).filter Json.isPresent := by
  unfold ownValue? ownStored?
  cases n.property? name with
  | none => rfl
  | some p => rfl

theorem readProperty_eq (p : Property) :
    r.readProperty p requested policy =
      (Selection.ofOption (p.value? (r.variant p.type.variation none requested))).or
        ((r.selectProperty p requested policy).or
          (.ofOption (p.stored? (r.variant p.type.variation none requested)))) := by
  simp only [readProperty]
  cases p.value? (r.variant p.type.variation none requested) with
  | some value => rfl
  | none => cases r.selectProperty p requested policy <;> rfl

theorem readElement_eq (n : Node) (name : String) :
    r.readElement n name requested policy =
      (Selection.ofOption (r.ownValue? n name none requested)).or
        ((r.selectElement n name requested policy).or
          (.ofOption (r.ownStored? n name none requested))) := by
  unfold readElement
  cases r.ownValue? n name none requested with
  | some value => rfl
  | none => cases r.selectElement n name requested policy <;> rfl

theorem readContent_fst (n : Node) (name : String) :
    (r.readContent n name requested policy).1 =
      (Selection.ofOption (r.ownValue? n name (some n.id) requested)).or
        ((r.selectContent n name requested policy).1.or
          (.ofOption (r.unsetStored? (r.selectContent n name requested policy).2.unset
            requested))) := by
  unfold readContent
  cases r.ownValue? n name (some n.id) requested with
  | some value => rfl
  | none =>
      rcases r.selectContent n name requested policy with ⟨s, trail⟩
      cases s <;> rfl

/-- A value of the node's own is read without a step. -/
theorem readContent_snd (n : Node) (name : String) :
    (r.readContent n name requested policy).2 =
      if (r.ownValue? n name (some n.id) requested).isSome then 0
      else (r.selectContent n name requested policy).2.steps := by
  unfold readContent
  cases r.ownValue? n name (some n.id) requested with
  | some value => rfl
  | none =>
      rcases r.selectContent n name requested policy with ⟨s, trail⟩
      cases s <;> rfl

end Resolver

end Publishing
