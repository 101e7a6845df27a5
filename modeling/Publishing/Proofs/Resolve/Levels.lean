import Publishing.Proofs.RenderContext
import Publishing.Proofs.Culture
import Publishing.Proofs.Resolve.Decisive
import Publishing.Proofs.Resolve.LocalFirst

/-!
# The three levels agree

The same property can be read on its own, as that of an element, or as that of a
node in the tree.  There are three obstacles to reading the same value.

* **Variants.**  A node may have a segment of its own; `variantIn_eq_of_no_override`
  rules this out.
* **Modes.**  Only walking up tells the levels apart, as
  `contentSelection_eq_attemptFlat` and `attemptFlat_eq` say mode by mode, and
  `firstHit_congr` carries this to policies.
* **Misses.**  A node notes its own property, which is the one that an element goes
  back to: `unset_selectContent`.

`levels_agree` puts this together.
-/

namespace Publishing

/-! ## Nodes in their place -/

/-- Every property stands under its own name. -/
def ByName (stored : Std.ExtTreeMap String Property) : Prop :=
  ∀ (name : String) (p : Property), stored[name]? = some p → p.name = name

theorem ByName.insert {stored : Std.ExtTreeMap String Property} (h : ByName stored)
    (p : Property) : ByName (stored.insert p.name p) := by
  intro name q hq
  rw [Std.ExtTreeMap.getElem?_insert] at hq
  split at hq
  · next heq =>
    obtain rfl := Option.some.inj hq
    exact Std.LawfulEqOrd.eq_of_compare heq
  · exact h name q hq

theorem ByName.insertMany {stored : Std.ExtTreeMap String Property} (h : ByName stored)
    (ps : List Property) : ByName (stored.insertMany (ps.map fun p => (p.name, p))) := by
  induction ps generalizing stored with
  | nil => simpa using h
  | cons p rest ih =>
      rw [List.map_cons, Std.ExtTreeMap.insertMany_cons]
      exact ih (h.insert p)

namespace Node

/-- A node that a draft became in its place. -/
def Placed (n : Node) : Prop :=
  ∃ (d : Draft) (parent : Option NodeId) (path : Path), n = d.place parent path

theorem Placed.byName {n : Node} (h : n.Placed) : ByName n.properties := by
  obtain ⟨d, parent, path, rfl⟩ := h
  have hempty : ByName ∅ := by simp [ByName]
  rw [Draft.place, Std.ExtTreeMap.ofList_eq_insertMany_empty]
  exact hempty.insertMany d.properties

end Node

/-- A context that has no segment for a node singles it out in no way. -/
theorem Variation.variantIn_eq_of_no_override {context : Option RenderContext} {id : NodeId}
    (h : ∀ c ∈ context, c.nodeSegments[id]? = none) (v : Variation) (requested : Variant) :
    v.variantIn context (some id) requested = v.variantIn context none requested := by
  have hidle : v.Idle ⟨context, none, requested⟩ ⟨context, some id, requested⟩ :=
    .node _ (some id) fun _ c hc => by simpa [RenderContext.ownSegment?] using h c hc
  exact Inquiry.variant_eq_iff_alike.mpr hidle.alike

namespace Resolver

variable {r : Resolver} {n : Node} {name : String} {type : PropertyType} {p : Property}
  {requested v : Variant} {policy : Policy} {m : Mode}

/-! ## Policies that do not walk up -/

theorem attemptFlat_eq (hm : m ≠ .ancestors) (level level' : Level)
    (lookup : Variant → Option Json) (v : Variant) :
    r.attemptFlat level lookup v m = r.attemptFlat level' lookup v m := by
  cases m with
  | ancestors => exact absurd rfl hm
  | none => rfl
  | defaultValue => rfl
  | language => rfl
  | defaultLanguage => rfl

theorem contentSelection_eq_attemptFlat (hm : m ≠ .ancestors) (type : PropertyType) (v : Variant) :
    r.contentSelection n name (some type) v m = r.attemptFlat .element (n.value? name) v m := by
  cases m with
  | ancestors => exact absurd rfl hm
  | none => rfl
  | defaultValue => rfl
  | language => rfl
  | defaultLanguage => rfl

section

variable (htype : n.type.property? name = some type) (hflat : .ancestors ∉ policy.modes)

include htype hflat

theorem selectContent_fst_eq_selectElement
    (hvariant : r.variant type.variation (some n.id) requested =
      r.variant type.variation none requested) :
    (r.selectContent n name requested policy).1 = r.selectElement n name requested policy := by
  have hmode : ∀ m ∈ policy.modes, m ≠ .ancestors := fun m hm heq => hflat (heq ▸ hm)
  have helement : r.selectElement n name requested policy =
      r.selectFlat .element (n.value? name) (r.variant type.variation none requested) policy := by
    rw [selectElement, htype]
  have hcontent : r.contentVariant n name requested = r.variant type.variation none requested := by
    rw [contentVariant, htype, ← hvariant]
  rw [helement, selectFlat_eq_firstHit, selectContent, htype, hcontent,
    tryModes_fst_eq_firstHit _ (fst_attemptContent _ _)]
  exact firstHit_congr fun m hm => contentSelection_eq_attemptFlat (hmode m hm) type _

theorem selectElement_eq_selectProperty (hp : n.property? name = some p)
    (hvary : p.type.variation = type.variation) :
    r.selectElement n name requested policy = r.selectProperty p requested policy := by
  have hmode : ∀ m ∈ policy.modes, m ≠ .ancestors := fun m hm heq => hflat (heq ▸ hm)
  have hlookup : n.value? name = p.value? := by
    funext v
    rw [Node.value?, hp, Option.bind_some]
  simp only [selectElement, htype, selectProperty, hvary, hlookup, selectFlat_eq_firstHit]
  exact firstHit_congr fun m hm => attemptFlat_eq (hmode m hm) _ _ _ _

/-- Without a walk a node notes its own property and no other. -/
theorem unset_selectContent :
    (r.selectContent n name requested policy).2.unset =
      (n.property? name).map fun p => ⟨n.id, p⟩ := by
  have hnoted : ∀ k, r.noted n name (policy.modes.take k) = none := fun k =>
    if_neg fun hmem => hflat (List.mem_of_mem_take hmem)
  have hown : ownUnset? n name = (n.property? name).map fun p => ⟨n.id, p⟩ := by
    rw [ownUnset?, htype, Option.bind_some]
  rw [selectContent, unset_tryModes, hnoted, Option.or_none, hown]

end

/-! ## Reading -/

theorem ownValue?_of_property (hp : n.property? name = some p) :
    r.ownValue? n name none requested = p.value? (r.variant p.type.variation none requested) := by
  rw [ownValue?, hp, Option.bind_some]

theorem ownStored?_of_property (hp : n.property? name = some p) :
    r.ownStored? n name none requested = p.stored? (r.variant p.type.variation none requested) := by
  rw [ownStored?, hp, Option.bind_some]

theorem readContent_fst_eq_readElement (htype : n.type.property? name = some type)
    (hflat : .ancestors ∉ policy.modes)
    (hvariant : ∀ v : Variation, r.variant v (some n.id) requested = r.variant v none requested) :
    (r.readContent n name requested policy).1 = r.readElement n name requested policy := by
  have hvalue : r.ownValue? n name (some n.id) requested = r.ownValue? n name none requested := by
    simp only [ownValue?, hvariant]
  have hstored : r.unsetStored? (r.selectContent n name requested policy).2.unset requested =
      r.ownStored? n name none requested := by
    rw [unset_selectContent htype hflat, unsetStored?, ownStored?, Option.bind_map]
    simp only [Function.comp_def, hvariant]
  rw [readContent_fst, readElement_eq, hvalue, hstored,
    selectContent_fst_eq_selectElement htype hflat (hvariant type.variation)]

theorem readElement_eq_readProperty (htype : n.type.property? name = some type)
    (hflat : .ancestors ∉ policy.modes) (hp : n.property? name = some p)
    (hvary : p.type.variation = type.variation) :
    r.readElement n name requested policy = r.readProperty p requested policy := by
  rw [readElement_eq, readProperty_eq, ownValue?_of_property hp, ownStored?_of_property hp,
    selectElement_eq_selectProperty htype hflat hp hvary]

/-- **The three levels agree.**  Let the type of a node define a name, with the variation
of the property that the node has under it, if any, and let the context have no segment
for the node.  Then whatever is asked with a policy that does not walk up is answered
alike for the node, for the element and for the property. -/
theorem levels_agree {α ε : Type} (hn : n.Placed) (htype : n.type.property? name = some type)
    (hvary : ∀ p, n.property? name = some p → p.type.variation = type.variation)
    (hown : ∀ c ∈ r.context, c.nodeSegments[n.id]? = none) (q : Request α ε)
    (hflat : .ancestors ∉ q.policy.modes) :
    (r.tryContent n name q).1 = r.tryElement n name q ∧
      (r.content n name q).1 = r.element n name q ∧
      ∀ p, n.property? name = some p →
        r.tryElement n name q = r.tryProperty p q ∧ r.element n name q = r.property p q := by
  have hvariant : ∀ v : Variation, r.variant v (some n.id) q.variant = r.variant v none q.variant :=
    fun v => v.variantIn_eq_of_no_override hown q.variant
  refine ⟨?_, ?_, fun p hp => ⟨?_, ?_⟩⟩
  · simp only [tryContent, tryElement]
    rw [selectContent_fst_eq_selectElement htype hflat (hvariant type.variation)]
  · simp only [content, element]
    rw [readContent_fst_eq_readElement htype hflat hvariant]
  · rw [tryElement, tryProperty, hn.byName name p hp,
      selectElement_eq_selectProperty htype hflat hp (hvary p hp)]
  · rw [element, property, hn.byName name p hp,
      readElement_eq_readProperty htype hflat hp (hvary p hp)]

/-! ### A title in Danish -/

theorem stored?_danishTitle :
    danishTitle.stored? { culture := some "DA-dk" } = some (.str "Hej") := by
  have hfold : Culture.fold "da-DK" = Culture.fold "DA-dk" := by
    rw [Culture.fold_eq_iff]
    decide
  simp [danishTitle, Property.stored?, Variant.agree, hfold]

theorem readProperty_danishTitle (r : Resolver) (policy : Policy) :
    r.readProperty danishTitle { culture := some "DA-dk" } policy = .stored (.str "Hej") := by
  have hvariant : r.variant danishTitle.type.variation none { culture := some "DA-dk" } =
      { culture := some "DA-dk" } := rfl
  rw [readProperty_eq, hvariant, Property.value?, stored?_danishTitle]
  rfl

theorem placed_home : home.Placed :=
  ⟨⟨home.id, home.type, [danishTitle], true⟩, none, home.path, rfl⟩

/-- The home page that is in Danish only has one title, however it is asked for. -/
theorem levels_agree_home :
    home.Placed ∧ home.type.property? "title" = some danishTitle.type ∧
      home.property? "title" = some danishTitle ∧
      (∀ c ∈ englishSite.context, c.nodeSegments[home.id]? = none) ∧
      (.ancestors ∉ (Policy.single .language).modes) ∧
      (englishSite.tryContent home "title"
        (.raw { culture := some "DA-dk" } (.single .language) none)).1 =
          englishSite.tryProperty danishTitle
            (.raw { culture := some "DA-dk" } (.single .language) none) ∧
      (englishSite.content home "title"
        (.raw { culture := some "DA-dk" } (.single .language) none)).1 =
          .ok (some (.str "Hej")) := by
  have hp : home.property? "title" = some danishTitle := rfl
  have hvary : ∀ p, home.property? "title" = some p →
      p.type.variation = danishTitle.type.variation := by
    intro p hp'
    obtain rfl := Option.some.inj (hp.symm.trans hp')
    rfl
  have hown : ∀ c ∈ englishSite.context, c.nodeSegments[home.id]? = none := by
    simp [englishSite]
  have hflat : .ancestors ∉ (Policy.single .language).modes := by simp [Policy.single]
  obtain ⟨htry, hcontent, hproperty⟩ := levels_agree placed_home rfl hvary hown
    (.raw { culture := some "DA-dk" } (.single .language) none) hflat
  refine ⟨placed_home, rfl, hp, hown, hflat, htry.trans (hproperty _ hp).1, ?_⟩
  rw [hcontent, (hproperty _ hp).2, property, Request.raw, readProperty_danishTitle]
  rfl

end Resolver

end Publishing
