import Publishing.Proofs.Resolve.NearestAncestor

/-!
# What the reported property holds

A run of a policy on a node reports a property as having no value: the node's own,
or else the first one noted on the way up.  The walk notes a property only after
it has looked and found no value.  The node's own property is reported without a
look, as if the caller had looked before.

* `Node.LacksIn` is what a report says of a node, for a culture and a segment;
  `Node.HoldsIn` is what it should not be made of.
* `Tree.lacks_of_ascendWithin`: what a walk notes is so.
* `unset_tryContent_lacks`: so is what a run reports, unless the node's own property
  holds a value.
* `danishTitle_reported`: a page whose own title is reported although it has one.
-/

namespace Publishing

namespace Node

/-- The node's type defines the name, and the node has the property `u` under it,
without a value for what was requested. -/
def LacksIn (a : Node) (context : Option RenderContext) (requested : Variant) (name : String)
    (u : Unset) : Prop :=
  ∃ type property, a.type.property? name = some type ∧ a.property? name = some property ∧
    property.hasValue (type.variation.variantIn context (some a.id) requested) = false ∧
      u = ⟨a.id, property⟩

/-- As `LacksIn`, but the property `u` has a value for what was requested. -/
def HoldsIn (a : Node) (context : Option RenderContext) (requested : Variant) (name : String)
    (u : Unset) : Prop :=
  ∃ type property, a.type.property? name = some type ∧ a.property? name = some property ∧
    property.hasValue (type.variation.variantIn context (some a.id) requested) = true ∧
      u = ⟨a.id, property⟩

/-- On the way up a node is asked for nothing special. -/
theorem lacksIn_open_iff {a : Node} {context : Option RenderContext} {name : String}
    {u : Unset} : a.LacksIn context {} name u ↔ a.Lacks context name u :=
  Iff.rfl

end Node

/-- **What a walk notes is so**: some node that it meets lacks a value in the culture of
the context and its own segment. -/
theorem Tree.lacks_of_ascendWithin {t : Tree} {context : Option RenderContext} {name : String}
    {k : Nat} {n : Node} {u : Unset} (hu : (t.ascendWithin context name k n).unset = some u) :
    ∃ a ∈ t.ancestorsWithin k n, a.Lacks context name u := by
  rw [ascendWithin_unset] at hu
  obtain ⟨a, ha, hoffer⟩ := List.exists_of_findSome?_eq_some hu
  refine ⟨a, List.takeWhile_subset _ ha, Node.offer_eq_unset_iff.mp ?_⟩
  cases h : a.offer context name <;> simp_all [Offer.unset?]

namespace Resolver

variable {α ε : Type} {r : Resolver} {n : Node} {name : String} {u : Unset}

/-- The node's own property is reported whether it lacks a value or holds one. -/
theorem ownUnset?_eq_some_iff (context : Option RenderContext) (requested : Variant) :
    ownUnset? n name = some u ↔
      n.LacksIn context requested name u ∨ n.HoldsIn context requested name u := by
  constructor
  · intro hu
    obtain ⟨type, property, htype, hproperty, rfl⟩ := ownUnset?_eq_some hu
    cases hvalue : property.hasValue (type.variation.variantIn context (some n.id) requested) with
    | false => exact .inl ⟨type, property, htype, hproperty, hvalue, rfl⟩
    | true => exact .inr ⟨type, property, htype, hproperty, hvalue, rfl⟩
  · rintro (⟨type, property, htype, hproperty, _, rfl⟩ | ⟨type, property, htype, hproperty, _, rfl⟩)
    all_goals simp [ownUnset?, htype, hproperty]

/-- **A report is so, unless the node's own property holds a value.**  On a tree
without cycles, whatever the policy and however its run ends, the property reported
as having no value has none: either it is the node's own, for what was requested,
or that of a node above, in the culture of the context and that node's own
segment.  The exception is a property of the node's own that has a value for what
was requested: it is reported all the same. -/
theorem unset_tryContent_lacks (hacyclic : r.tree.Acyclic) (n : Node) (name : String)
    (q : Request α ε) :
    ∃ as, r.tree.Lineage n as ∧
      (∀ u, (r.tryContent n name q).2.unset = some u →
        ¬ n.HoldsIn r.context q.variant name u →
        n.LacksIn r.context q.variant name u ∨ ∃ a ∈ as, a.LacksIn r.context {} name u) ∧
      ∀ u, n.HoldsIn r.context q.variant name u →
        (r.tryContent n name q).2.unset = some u := by
  refine ⟨r.tree.ancestors n, hacyclic.lineage_ancestors n, ?_, ?_⟩
  · intro u hu hnot
    rw [unset_tryContent] at hu
    cases hown : ownUnset? n name with
    | some v =>
        obtain rfl : v = u := by simpa [hown] using hu
        exact .inl (((ownUnset?_eq_some_iff r.context q.variant).mp hown).resolve_right hnot)
    | none =>
        -- Only a walk can have noted anything, and it has looked.
        rw [hown, Option.none_or, noted] at hu
        split at hu
        · obtain ⟨a, ha, hlacks⟩ := Tree.lacks_of_ascendWithin hu
          rw [hacyclic.ancestorsWithin_eq (by omega)] at ha
          exact .inr ⟨a, ha, Node.lacksIn_open_iff.mpr hlacks⟩
        · cases hu
  · intro u hholds
    rw [unset_tryContent, (ownUnset?_eq_some_iff r.context q.variant).mpr (.inr hholds)]
    rfl

/-- The contact page has no title, and it is that of the home page that is reported. -/
theorem unset_tryContent_lacks_contactPage :
    englishSite.tree.Acyclic ∧
      ¬ contactPage.HoldsIn englishSite.context { culture := some "da-DK" } "title"
        ⟨home.id, danishTitle⟩ ∧
      (englishSite.tryContent contactPage "title"
        (.raw { culture := some "da-DK" } (.single .ancestors) none)).2.unset =
          some ⟨home.id, danishTitle⟩ ∧
      home.LacksIn englishSite.context {} "title" ⟨home.id, danishTitle⟩ := by
  have hreport : (englishSite.tryContent contactPage "title"
      (.raw { culture := some "da-DK" } (.single .ancestors) none)).2.unset =
        some ⟨home.id, danishTitle⟩ := by
    obtain ⟨hnothing, hunset⟩ := selectContent_of_miss (selectContent_contactPage
      { culture := some "da-DK" })
    exact hunset.trans (by rw [noted_of_miss acyclic_englishSite hnothing]; rfl)
  have hnot : ∀ u, ¬ contactPage.HoldsIn englishSite.context { culture := some "da-DK" }
      "title" u := by
    rintro u ⟨type, _, htype, _⟩
    cases htype
  have hown : ∀ u, ¬ contactPage.LacksIn englishSite.context { culture := some "da-DK" }
      "title" u := by
    rintro u ⟨type, _, htype, _⟩
    cases htype
  have hlineage : englishSite.tree.Lineage contactPage [home] := .step rfl (.top rfl)
  obtain ⟨as, has, hso, _⟩ := unset_tryContent_lacks acyclic_englishSite contactPage "title"
    (.raw { culture := some "da-DK" } (.single .ancestors) none)
  obtain rfl := has.unique hlineage
  obtain ⟨a, ha, hlacks⟩ := (hso _ hreport (hnot _)).resolve_left (hown _)
  obtain rfl := List.mem_singleton.mp ha
  exact ⟨acyclic_englishSite, hnot _, hreport, hlacks⟩

/-- Asked for Danish, the home page has a title, and it is reported as having none. -/
theorem danishTitle_reported :
    englishSite.tree.Acyclic ∧
      (englishSite.tryContent home "title"
        (.raw { culture := some "da-DK" } Policy.empty none)).2.unset =
          some ⟨home.id, danishTitle⟩ ∧
      home.HoldsIn englishSite.context { culture := some "da-DK" } "title"
        ⟨home.id, danishTitle⟩ := by
  refine ⟨acyclic_englishSite, rfl, danishTitle.type, danishTitle, rfl, rfl, ?_, rfl⟩
  have hvariant : danishTitle.type.variation.variantIn englishSite.context (some home.id)
      { culture := some "da-DK" } = { culture := some "da-DK" } := rfl
  have hstored : danishTitle.stored? { culture := some "da-DK" } = some (.str "Hej") := by
    simp [danishTitle, Property.stored?, Variant.agree]
  simp [hvariant, Property.hasValue, Property.value?, hstored, Json.isPresent]

end Resolver

end Publishing
