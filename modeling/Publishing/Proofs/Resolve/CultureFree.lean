import Publishing.Proofs.Resolve.LanguageFallback
import Publishing.Proofs.Resolve.NearestAncestor
import Publishing.Proofs.Resolve.SideBySide

/-!
# Where no culture counts

If nothing that has a part in an answer varies by culture, then the answer does not
depend on the culture requested, on the culture of the context, or on the languages
there are.  There are four ways in which a culture might matter.

* **Language modes.**  Without a culture both of them miss
  (`inStep_of_no_culture`).  A name that the node's type does not define is looked up
  as it was requested, with the culture; but then the node must have no property
  under it (`inStep_of_no_value`).
* **Variants.**  `UpToCulture.variant_eq` shows that the culture is dropped.
* **Walks.**  `UpToCulture.offer_inStep` goes node by node.
* **Misses.**  A property noted on the way is one that does not vary by culture
  either, and `Unset.Stays` remembers this.

`answers_eq_of_cultureFree` is the result for all six ways to ask.
-/

namespace Publishing

/-- What the type of a node defines under a name does not vary by culture, and neither
does the property that the node has under it. -/
structure Node.CultureFree (n : Node) (name : String) : Prop where
  type : ∀ type, n.type.property? name = some type → type.variation.byCulture = false
  property : ∀ p, n.property? name = some p → p.type.variation.byCulture = false

/-- Two resolvers show the same tree, and every node in the same segment.  Their
languages may differ, and so may the cultures of their contexts. -/
structure Resolver.UpToCulture (r r' : Resolver) : Prop where
  tree : r'.tree = r.tree
  segments : ∀ node, (r'.context.bind fun c => c.segmentAt node) =
    r.context.bind fun c => c.segmentAt node

/-- The request with another culture, or with none. -/
def Request.inCulture {α ε : Type} (q : Request α ε) (culture : Option String) : Request α ε :=
  { q with variant := { q.variant with culture := culture } }

/-- The same property without a value on both sides, and one that does not vary by
culture. -/
def Unset.Stays (u u' : Unset) : Prop :=
  u' = u ∧ u.property.type.variation.byCulture = false

/-! ## Language modes that miss -/

namespace Languages

variable {ls ls' : Languages} {lookup lookup' : Variant → Option Json} {v v' : Variant}

theorem askedFor_of_no_culture (hv : v.culture = none) : askedFor v = none := by
  rw [askedFor, hv, Option.filter_none]

theorem inStep_of_no_culture (hv : v.culture = none) (hv' : v'.culture = none) :
    ls.InStep ls' lookup lookup' v v' := by
  have hasked : askedFor v = none := askedFor_of_no_culture hv
  have hasked' : askedFor v' = none := askedFor_of_no_culture hv'
  constructor
  · simp [inChain, hasked, hasked']
  · simp [inDefault, hasked, hasked']

theorem inChain_of_no_value (h : ∀ v, lookup v = none) (ls : Languages) (v : Variant) :
    ls.inChain lookup v = none := by
  rw [Option.eq_none_iff_forall_ne_some]
  intro value hvalue
  obtain ⟨l, _, hfirst⟩ := inChain_eq_some_iff_chain.mp hvalue
  obtain ⟨t, _, hread⟩ := List.exists_of_findSome?_eq_some hfirst
  obtain ⟨hlookup, _⟩ := readIn_eq_some_iff.mp hread
  exact absurd ((h _).symm.trans hlookup) (by simp)

theorem inDefault_of_no_value (h : ∀ v, lookup v = none) (ls : Languages) (v : Variant) :
    ls.inDefault lookup v = none := by
  have hread : ∀ culture, readIn lookup v culture = none := fun culture => by
    rw [readIn, h, Option.filter_none]
  simp [inDefault, hread]

theorem inStep_of_no_value (h : ∀ v, lookup v = none) : ls.InStep ls' lookup lookup v v' := by
  constructor
  · rw [inChain_of_no_value h, inChain_of_no_value h]
  · rw [inDefault_of_no_value h, inDefault_of_no_value h]

end Languages

namespace Resolver

variable {r r' : Resolver} {n a : Node} {name : String} {requested requested' : Variant}
  {v : Variation} {policy : Policy}

/-! ## Languages play no part -/

theorem culture_variant_of_byCulture (hv : v.byCulture = false) (node : Option NodeId) :
    (r.variant v node requested).culture = none := by
  simp [variant, Variation.variantIn, hv]

theorem languages_inStep_of_byCulture {lookup : Variant → Option Json} (hv : v.byCulture = false)
    (node : Option NodeId) : r.languages.InStep r'.languages lookup lookup
      (r.variant v node requested) (r'.variant v node requested') :=
  Languages.inStep_of_no_culture (culture_variant_of_byCulture hv node)
    (culture_variant_of_byCulture hv node)

theorem contentVariant_inStep (hfree : n.CultureFree name)
    (hdefined : n.type.defines name = true ∨ n.property? name = none) :
    r.languages.InStep r'.languages (n.value? name) (n.value? name)
      (r.contentVariant n name requested) (r'.contentVariant n name requested') := by
  unfold contentVariant
  cases htype : n.type.property? name with
  | some type => exact languages_inStep_of_byCulture (hfree.type type htype) (some n.id)
  | none =>
      -- The variant is the one requested, so it is up to the property to be missing.
      have hproperty : n.property? name = none := by
        rcases hdefined with hdefines | hnone
        · simp [ContentType.defines, htype] at hdefines
        · exact hnone
      exact Languages.inStep_of_no_value fun v => by rw [Node.value?, hproperty, Option.bind_none]

theorem selectElement_of_cultureFree (hfree : n.CultureFree name) :
    r'.selectElement n name requested' policy = r.selectElement n name requested policy := by
  unfold selectElement
  cases htype : n.type.property? name with
  | none => rfl
  | some type =>
      exact selectFlat_inStep (languages_inStep_of_byCulture (hfree.type type htype) none)
        .element policy

theorem selectProperty_of_byCulture {p : Property} (hp : p.type.variation.byCulture = false) :
    r'.selectProperty p requested' policy = r.selectProperty p requested policy :=
  selectFlat_inStep (languages_inStep_of_byCulture hp none) .property policy

/-! ## Segments are the same -/

namespace UpToCulture

variable (h : r.UpToCulture r')

include h

theorem variant_eq (hv : v.byCulture = false) (hsegment : requested'.segment = requested.segment)
    (node : Option NodeId) : r'.variant v node requested' = r.variant v node requested := by
  ext1
  · rw [culture_variant_of_byCulture hv, culture_variant_of_byCulture hv]
  · simp only [variant, Variation.variantIn, hsegment, h.segments node]

theorem offer_inStep (hfree : a.CultureFree name) :
    (a.offer r.context name).InStep Unset.Stays (a.offer r'.context name) := by
  unfold Node.offer
  cases htype : a.type.property? name with
  | none => exact .nothing
  | some type =>
      cases hown : a.property? name with
      | none => exact .nothing
      | some property =>
          have hvariant : type.variation.variantIn r'.context (some a.id) {} =
              type.variation.variantIn r.context (some a.id) {} :=
            h.variant_eq (hfree.type type htype) rfl (some a.id)
          simp only [hvariant]
          cases property.value? (type.variation.variantIn r.context (some a.id) {}) with
          | some value => exact .value value
          | none => exact .unset ⟨rfl, hfree.property property hown⟩

theorem ascend_inStep (hacyclic : r.tree.Acyclic)
    (hfree : ∀ a, Relation.TransGen r.tree.StepUp n a → a.CultureFree name) :
    (r.tree.ascend r.context name n).InStep Unset.Stays (r'.tree.ascend r'.context name n) := by
  have hoffers : ∀ a ∈ r.tree.ancestors n,
      (a.offer r.context name).InStep Unset.Stays (a.offer r'.context name) :=
    fun a ha => h.offer_inStep (hfree a (Tree.above_of_mem_ancestorsWithin ha))
  rw [h.tree, hacyclic.ascend_eq_along, hacyclic.ascend_eq_along]
  exact Ascent.along_inStep (List.forall₂_same.mpr hoffers)

theorem nodeInStep (hacyclic : r.tree.Acyclic)
    (hfree : ∀ a, Relation.ReflTransGen r.tree.StepUp n a → a.CultureFree name)
    (hdefined : n.type.defines name = true ∨ n.property? name = none) :
    NodeInStep Unset.Stays r r' n n name requested requested' where
  defines := rfl
  languages := contentVariant_inStep (hfree n .refl) hdefined
  walk := h.ascend_inStep hacyclic fun a ha => hfree a ha.to_reflTransGen
  own := by
    cases hown : ownUnset? n name with
    | none => exact .none
    | some u =>
        obtain ⟨type, property, _, hproperty, rfl⟩ := ownUnset?_eq_some hown
        exact .some ⟨rfl, (hfree n .refl).property property hproperty⟩

theorem ownStored?_eq (hfree : n.CultureFree name)
    (hsegment : requested'.segment = requested.segment) (node : Option NodeId) :
    r'.ownStored? n name node requested' = r.ownStored? n name node requested := by
  unfold ownStored?
  cases hp : n.property? name with
  | none => rfl
  | some p => rw [Option.bind_some, Option.bind_some, h.variant_eq (hfree.property p hp) hsegment]

theorem unsetStored?_eq (hsegment : requested'.segment = requested.segment) {u u' : Unset}
    (hu : u.Stays u') : r'.unsetStored? (some u') requested' = r.unsetStored? (some u) requested := by
  obtain ⟨rfl, hvary⟩ := hu
  rw [unsetStored?, unsetStored?, Option.bind_some, Option.bind_some,
    h.variant_eq hvary hsegment]

end UpToCulture

/-- Notes that stay are the same notes. -/
theorem trail_eq_of_stays {trail trail' : Trail} (h : trail.InStep Unset.Stays trail') :
    trail' = trail := by
  obtain ⟨unset, steps⟩ := trail
  obtain ⟨unset', steps'⟩ := trail'
  obtain ⟨hunset, rfl⟩ := h
  cases hunset with
  | none => rfl
  | some hstays => rw [hstays.1]

/-- **Where no culture counts.**  Take two resolvers that differ in languages and in the
culture of the context only, and two requests that differ in the culture only.

* A property that does not vary by culture is answered alike.
* So is a name on an element, if neither its type nor its property varies by culture
  there.
* So is a name on a node of a tree without cycles, if this holds of the node and of
  all that lie above it, and if the node's type defines the name or the node has no
  property under it. -/
theorem answers_eq_of_cultureFree {α ε : Type} {r r' : Resolver} (h : r.UpToCulture r')
    (q : Request α ε) (culture : Option String) :
    (∀ p : Property, p.type.variation.byCulture = false →
      r'.property p (q.inCulture culture) = r.property p q ∧
        r'.tryProperty p (q.inCulture culture) = r.tryProperty p q) ∧
    (∀ (n : Node) (name : String), n.CultureFree name →
      r'.element n name (q.inCulture culture) = r.element n name q ∧
        r'.tryElement n name (q.inCulture culture) = r.tryElement n name q) ∧
    (r.tree.Acyclic → ∀ (n : Node) (name : String),
      (∀ a, Relation.ReflTransGen r.tree.StepUp n a → a.CultureFree name) →
      (n.type.defines name = true ∨ n.property? name = none) →
      r'.content n name (q.inCulture culture) = r.content n name q ∧
        r'.tryContent n name (q.inCulture culture) = r.tryContent n name q) := by
  have hsegment : (q.inCulture culture).variant.segment = q.variant.segment := rfl
  refine ⟨fun p hp => ⟨?_, ?_⟩, fun n name hfree => ⟨?_, ?_⟩,
    fun hacyclic n name hfree hdefined => ?_⟩
  · have hstored : p.stored? (r'.variant p.type.variation none (q.inCulture culture).variant) =
        p.stored? (r.variant p.type.variation none q.variant) :=
      congrArg p.stored? (h.variant_eq hp hsegment none)
    exact congrArg (q.value p.name) (readProperty_inStep hstored (selectProperty_of_byCulture hp))
  · exact congrArg (q.resolution p.name) (selectProperty_of_byCulture hp)
  · have hown : r'.ownStored? n name none (q.inCulture culture).variant =
        r.ownStored? n name none q.variant := h.ownStored?_eq hfree hsegment none
    exact congrArg (q.value name) (readElement_inStep hown (selectElement_of_cultureFree hfree))
  · exact congrArg (q.resolution name) (selectElement_of_cultureFree hfree)
  · have hnode : NodeInStep Unset.Stays r r' n n name q.variant (q.inCulture culture).variant :=
      h.nodeInStep hacyclic hfree hdefined
    have hread : r'.readContent n name (q.inCulture culture).variant q.policy =
        r.readContent n name q.variant q.policy :=
      readContent_inStep hnode (h.ownStored?_eq (hfree n .refl) hsegment (some n.id))
        (fun _ _ => h.unsetStored?_eq hsegment) q.policy
    obtain ⟨hselect, htrail⟩ := selectContent_inStep hnode q.policy
    constructor
    · exact congrArg (fun read => (q.value name read.1, read.2)) hread
    · exact congrArg₂ Prod.mk (congrArg (q.resolution name) hselect) (trail_eq_of_stays htrail)

/-! ### The news in Danish -/

/-- The site with the news, with languages and in Danish. -/
def danishNewsSite : Resolver :=
  { newsSite with
    languages := Languages.nordic
    context := newsSite.context.map fun c => { c with culture := some "da-DK" } }

theorem upToCulture_newsSite : newsSite.UpToCulture danishNewsSite :=
  ⟨rfl, fun _ => rfl⟩

theorem cultureFree_above_article {a : Node}
    (h : Relation.ReflTransGen newsSite.tree.StepUp article a) : a.CultureFree "tags" := by
  have htop : newsSite.tree.parent? frontPage = none := rfl
  have hfree : ∀ (m : Node) (p : Property), m.type.property? "tags" = some p.type →
      m.property? "tags" = some p → p.type.variation.byCulture = false → m.CultureFree "tags" := by
    intro m p htype hown hvary
    constructor
    · intro type htype'
      obtain rfl := Option.some.inj (htype.symm.trans htype')
      exact hvary
    · intro property hown'
      obtain rfl := Option.some.inj (hown.symm.trans hown')
      exact hvary
  rcases Relation.ReflTransGen.cases_head h with rfl | ⟨b, hb, h⟩
  · exact ⟨nofun, nofun⟩
  obtain rfl : news = b := Option.some.inj hb
  rcases Relation.ReflTransGen.cases_head h with rfl | ⟨b, hb, h⟩
  · exact hfree news noTags rfl rfl rfl
  obtain rfl : frontPage = b := Option.some.inj hb
  rcases Relation.ReflTransGen.cases_head h with rfl | ⟨b, hb, _⟩
  · exact hfree frontPage vipTags rfl rfl rfl
  · exact absurd (htop.symm.trans hb) (by simp)

/-- An article takes the tags of the front page in Danish too. -/
theorem answers_eq_of_cultureFree_article :
    newsSite.UpToCulture danishNewsSite ∧ vipTags.type.variation.byCulture = false ∧
      newsSite.tree.Acyclic ∧
      (∀ a, Relation.ReflTransGen newsSite.tree.StepUp article a → a.CultureFree "tags") ∧
      article.property? "tags" = none ∧
      danishNewsSite.property vipTags
        (.raw { culture := some "da-DK", segment := some "vip" } .empty none) =
          .ok (some (.arr [.str "home"])) ∧
      (danishNewsSite.content article "tags"
        (.raw { culture := some "da-DK" } (.single .ancestors) none)).1 =
          .ok (some (.arr [.str "home"])) := by
  have hmissing : article.property? "tags" = none := rfl
  obtain ⟨hproperty, _, _⟩ := answers_eq_of_cultureFree upToCulture_newsSite
    (.raw { segment := some "vip" } .empty none) (some "da-DK")
  obtain ⟨_, _, hcontent⟩ := answers_eq_of_cultureFree upToCulture_newsSite
    (.raw {} (.single .ancestors) none) (some "da-DK")
  have hsame := hcontent acyclic_newsSite article "tags" (fun _ => cultureFree_above_article)
    (.inr hmissing)
  refine ⟨upToCulture_newsSite, rfl, acyclic_newsSite, fun _ => cultureFree_above_article,
    hmissing, ?_, ?_⟩
  · exact (hproperty vipTags rfl).1
  · exact congrArg Prod.fst hsame.1

end Resolver

end Publishing
