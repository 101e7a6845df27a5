import Mathlib.Data.List.TakeWhile
import Publishing.Proofs.Tree
import Publishing.Resolve.Resolver

/-!
# What a walk up the tree finds

A walk reads the nodes above its start in order, so what it brings back can be
said of the list of these nodes: `ascendWithin_found` and `ascendWithin_unset`.
Where the walk finds nothing, the property it notes is simply the first one
there is (`Acyclic.ascend_unset_of_miss`).

Its steps are those along the list too: `Ascent.along` is the walk on a list, and
`Acyclic.ascend_eq_along` says that the walk up a tree is the one on the nodes
above its start, however many steps it is allowed.
-/

namespace Publishing

/-- The value that is offered, if one is. -/
def Offer.value? : Offer → Option Json
  | .value v => some v
  | .unset _ | .nothing => none

/-- The property without a value that is offered, if one is. -/
def Offer.unset? : Offer → Option Unset
  | .unset u => some u
  | .value _ | .nothing => none

variable {context : Option RenderContext} {name : String}

theorem Resolver.ownUnset?_eq_some {n : Node} {u : Unset}
    (hu : Resolver.ownUnset? n name = some u) :
    ∃ type property, n.type.property? name = some type ∧ n.property? name = some property ∧
      u = ⟨n.id, property⟩ := by
  obtain ⟨type, htype, hown⟩ := Option.bind_eq_some_iff.mp hu
  obtain ⟨property, hproperty, rfl⟩ := Option.map_eq_some_iff.mp hown
  exact ⟨type, property, htype, hproperty, rfl⟩

/-- A node offers the value of its property in the variant of the context. -/
theorem Node.offer_value?_of_property {n : Node} {type : PropertyType} {property : Property}
    (htype : n.type.property? name = some type) (hown : n.property? name = some property) :
    (n.offer context name).value? =
      property.value? (type.variation.variantIn context (some n.id) {}) := by
  unfold Node.offer
  rw [htype, hown]
  cases h : property.value? (type.variation.variantIn context (some n.id) {}) with
  | none => simp [h, Offer.value?]
  | some v => simp [h, Offer.value?]

/-- A node that offers no value offers its own property, if its type defines one. -/
theorem Node.offer_unset?_of_no_value {n : Node}
    (hnone : (n.offer context name).value? = none) :
    (n.offer context name).unset? = Resolver.ownUnset? n name := by
  unfold Node.offer Resolver.ownUnset? at *
  cases htype : n.type.property? name with
  | none => rfl
  | some type =>
      cases hown : n.property? name with
      | none => rfl
      | some property =>
          simp only [htype, hown] at hnone ⊢
          cases hvalue : property.value? (type.variation.variantIn context (some n.id) {}) with
          | none => rfl
          | some v => simp [hvalue, Offer.value?] at hnone

namespace Tree

variable {t : Tree}

/-- **A walk finds the nearest value.** -/
theorem ascendWithin_found (k : Nat) (n : Node) :
    (t.ascendWithin context name k n).found =
      (t.ancestorsWithin k n).findSome? fun a => (a.offer context name).value? := by
  induction k generalizing n with
  | zero => rfl
  | succ k ih =>
      unfold ascendWithin ancestorsWithin
      cases t.parent? n with
      | none => rfl
      | some p =>
          rw [List.findSome?_cons]
          cases hoffer : p.offer context name with
          | value v => simp only [hoffer, Offer.value?]
          | unset u => simpa only [hoffer, Offer.value?] using ih p
          | nothing => simpa only [hoffer, Offer.value?] using ih p

/-- **A walk notes the first property without a value** among those it meets before
it finds one. -/
theorem ascendWithin_unset (k : Nat) (n : Node) :
    (t.ascendWithin context name k n).unset =
      ((t.ancestorsWithin k n).takeWhile fun a => (a.offer context name).value?.isNone).findSome?
        fun a => (a.offer context name).unset? := by
  induction k generalizing n with
  | zero => rfl
  | succ k ih =>
      unfold ascendWithin ancestorsWithin
      cases t.parent? n with
      | none => rfl
      | some p =>
          rw [List.takeWhile_cons]
          cases hoffer : p.offer context name with
          | value v => simp [hoffer, Offer.value?]
          | unset u => simp [hoffer, Offer.value?, Offer.unset?]
          | nothing => simpa [hoffer, Offer.value?, Offer.unset?] using ih p

theorem Acyclic.ascend_found (h : t.Acyclic) (n : Node) :
    (t.ascend context name n).found =
      (t.ancestors n).findSome? fun a => (a.offer context name).value? := by
  rw [ascend, ascendWithin_found, h.ancestorsWithin_eq (by omega)]

/-- A walk that finds nothing notes the first property there is. -/
theorem Acyclic.ascend_unset_of_miss (h : t.Acyclic) {n : Node}
    (hmiss : (t.ascend context name n).found = none) :
    (t.ascend context name n).unset =
      (t.ancestors n).findSome? fun a => Resolver.ownUnset? a name := by
  have hnone : ∀ a ∈ t.ancestors n, (a.offer context name).value? = none := by
    rwa [h.ascend_found, List.findSome?_eq_none_iff] at hmiss
  -- No node stops the walk, so it looks at all of them.
  have hall : (t.ancestors n).takeWhile (fun a => (a.offer context name).value?.isNone) =
      t.ancestors n :=
    List.takeWhile_eq_self_iff.mpr fun a ha => by rw [hnone a ha]; rfl
  have hsame : (t.ancestors n).map (fun a => (a.offer context name).unset?) =
      (t.ancestors n).map fun a => Resolver.ownUnset? a name :=
    List.map_congr_left fun a ha => Node.offer_unset?_of_no_value (hnone a ha)
  have hfirst := congrArg (List.findSome? id) hsame
  rw [List.findSome?_map, List.findSome?_map] at hfirst
  rw [ascend, ascendWithin_unset, h.ancestorsWithin_eq (by omega), hall]
  exact hfirst

end Tree

/-! ## The walk on a list -/

/-- A walk along nodes, nearest first, with a last step that finds no parent. -/
def Ascent.along (context : Option RenderContext) (name : String) : List Node → Ascent
  | [] => { steps := 1 }
  | p :: above =>
    match p.offer context name with
    | .value v => { found := some v, steps := 1 }
    | .unset u =>
      let further := along context name above
      { found := further.found, unset := some u, steps := further.steps + 1 }
    | .nothing =>
      let further := along context name above
      { further with steps := further.steps + 1 }

namespace Tree

variable {t : Tree} {n : Node}

theorem Lineage.ascendWithin_eq {as : List Node} (h : t.Lineage n as) {k : Nat}
    (hk : as.length < k) : t.ascendWithin context name k n = Ascent.along context name as := by
  induction h generalizing k with
  | top hnone =>
      obtain ⟨k, rfl⟩ : ∃ i, k = i + 1 := ⟨k - 1, by omega⟩
      rw [ascendWithin, hnone]
      rfl
  | @step n p above hstep _ ih =>
      obtain ⟨k, rfl⟩ : ∃ i, k = i + 1 := ⟨k - 1, by omega⟩
      have habove := ih (Nat.lt_of_succ_lt_succ hk)
      unfold StepUp at hstep
      cases hoffer : p.offer context name with
      | value v => simp only [ascendWithin, hstep, hoffer, Ascent.along]
      | unset u => simp only [ascendWithin, hstep, hoffer, habove, Ascent.along]
      | nothing => simp only [ascendWithin, hstep, hoffer, habove, Ascent.along]

/-- **The walk up a tree is the walk on the nodes above its start.** -/
theorem Acyclic.ascend_eq_along (h : t.Acyclic) (n : Node) :
    t.ascend context name n = Ascent.along context name (t.ancestors n) := by
  have hlength : (t.ancestors n).length ≤ t.size := h.length_ancestorsWithin_le t.size n
  exact (h.lineage_ancestors n).ascendWithin_eq (by omega)

end Tree

end Publishing
