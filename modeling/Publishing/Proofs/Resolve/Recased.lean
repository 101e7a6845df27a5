import Publishing.Proofs.Recased
import Publishing.Proofs.Resolve.LanguageFallback
import Publishing.Proofs.Resolve.Levels
import Publishing.Proofs.Resolve.NearestAncestor
import Publishing.Proofs.Resolve.SideBySide

/-!
# Culture codes in another case

If culture codes change in case only, in the request, in the context, in the languages
and in what was written to the properties, then no answer changes.  The two sites are
run side by side.

* `Variation.variantIn_agree`: the variants that are looked up agree.
* `Languages.Recased.inStep`: the two language modes read alike.  There must be no
  choice of a default language for that.
* `Node.Recased.offer_inStep` and `Resolver.Recased.ascend_inStep`: so do the walks,
  and they note properties that are the same but for their case.
* `Resolver.Recased.nodeInStep` collects this for a node, and `answers_eq_of_recased`
  is the result for all six ways to ask.
-/

namespace Publishing

/-- The same languages, in the same context, with the same tree. -/
structure Resolver.Recased (r r' : Resolver) : Prop where
  languages : r.languages.Recased r'.languages
  context : Option.Rel RenderContext.Recased r.context r'.context
  tree : r.tree.Recased r'.tree

/-- The same property without a value, of the same node. -/
structure Unset.Recased (u u' : Unset) : Prop where
  owner : u'.owner = u.owner
  property : u.property.Recased u'.property

/-! ## Variants -/

theorem RenderContext.Recased.segmentAt {c c' : RenderContext} (h : c.Recased c')
    (node : Option NodeId) : c'.segmentAt node = c.segmentAt node := by
  rw [RenderContext.segmentAt, RenderContext.segmentAt, ownSegment?, ownSegment?, h.nodeSegments,
    h.segment]

/-- **The variants looked up agree**, if those requested do. -/
theorem Variation.variantIn_agree {context context' : Option RenderContext}
    (hcontext : Option.Rel RenderContext.Recased context context') {requested requested' : Variant}
    (h : requested.agree requested' = true) (v : Variation) (node : Option NodeId) :
    (v.variantIn context node requested).agree (v.variantIn context' node requested') = true := by
  obtain ⟨hculture, hsegment⟩ := Variant.agree_iff.mp h
  have hcultures : (context.bind RenderContext.culture).map Culture.fold =
      (context'.bind RenderContext.culture).map Culture.fold := by
    cases hcontext with
    | none => rfl
    | some hc => exact Culture.sameCode_iff.mp hc.culture
  have hsegments : (context.bind fun c => c.segmentAt node) =
      context'.bind fun c => c.segmentAt node := by
    cases hcontext with
    | none => rfl
    | some hc => exact (hc.segmentAt node).symm
  refine Variant.agree_iff.mpr ⟨?_, ?_⟩
  · simp only [variantIn]
    split
    · rw [Option.map_or, Option.map_or, hculture, hcultures]
    · rfl
  · simp only [variantIn, hsegment, hsegments]

/-! ## Languages -/

namespace Languages

variable {ls ls' : Languages} {lookup lookup' : Variant → Option Json} {v v' : Variant}

theorem askedFor_sameCode (hv : v.agree v' = true) :
    Culture.SameCode (askedFor v) (askedFor v') := by
  have hculture : Culture.SameCode v.culture v'.culture :=
    Culture.sameCode_iff.mpr (Variant.agree_iff.mp hv).1
  have hblank : ∀ code code' : String, Culture.fold code' = Culture.fold code →
      (!Text.isBlank code') = !Text.isBlank code := by
    intro code code' hcode
    rw [Culture.isBlank_congr hcode]
  exact rel_filter hculture hblank

theorem readIn_eq (hlookup : ∀ v v', v.agree v' = true → lookup' v' = lookup v)
    (hv : v.agree v' = true) {code code' : String} (hcode : Culture.fold code' = Culture.fold code) :
    readIn lookup' v' code' = readIn lookup v code := by
  have hsegment : v.segment = v'.segment := (Variant.agree_iff.mp hv).2
  have hagree : ({ v with culture := some code } : Variant).agree
      { v' with culture := some code' } = true :=
    Variant.agree_iff.mpr ⟨congrArg some hcode.symm, hsegment⟩
  rw [readIn, readIn, hlookup _ _ hagree]

/-- **The language modes read alike.** -/
theorem Recased.inStep (h : ls.Recased ls') (hone : ls.OneDefault)
    (hlookup : ∀ v v', v.agree v' = true → lookup' v' = lookup v) (hv : v.agree v' = true) :
    ls.InStep ls' lookup lookup' v v' := by
  constructor
  · refine bind_eq_of_rel (askedFor_sameCode hv) fun culture culture' hculture => ?_
    refine bind_eq_of_rel (h.findsAlike culture culture' hculture) fun l l' hl => ?_
    exact findSome?_eq_of_forall₂ (fun _ _ ht => readIn_eq hlookup hv ht.isoCode)
      (h.findsAlike.chain hl)
  · refine bind_eq_of_rel (askedFor_sameCode hv) fun culture culture' hculture => ?_
    refine bind_eq_of_rel (h.defaultIsoCode? hone) fun code code' hcode => ?_
    have hagree : Culture.agree culture' code' = Culture.agree culture code := by
      rw [Culture.agree, Culture.agree, hculture, hcode]
    rw [hagree, readIn_eq hlookup hv hcode]

end Languages

/-! ## Walks -/

theorem Node.Recased.offer_inStep {a a' : Node} {context context' : Option RenderContext}
    {name : String} (h : a.Recased a') (hcontext : Option.Rel RenderContext.Recased context context') :
    (a.offer context name).InStep Unset.Recased (a'.offer context' name) := by
  have hproperty := h.properties name
  unfold Node.offer
  rw [h.type, h.id]
  generalize a.property? name = p, a'.property? name = p' at hproperty
  cases a.type.property? name with
  | none => exact .nothing
  | some type =>
      cases hproperty with
      | none => exact .nothing
      | @some p p' hp =>
          have hagree := type.variation.variantIn_agree hcontext (Variant.agree_refl {}) (some a.id)
          simp only [hp.value? hagree]
          cases p.value? (type.variation.variantIn context (some a.id) {}) with
          | some value => exact .value value
          | none => exact .unset ⟨rfl, hp⟩

namespace Resolver

variable {r r' : Resolver} {n n' : Node} {name : String} {requested requested' : Variant}
  {p p' : Property} {policy : Policy}

namespace Recased

variable (h : r.Recased r')

include h

theorem ascend_inStep (hacyclic : r.tree.Acyclic) (hn : n.Recased n') :
    (r.tree.ascend r.context name n).InStep Unset.Recased (r'.tree.ascend r'.context name n') := by
  have hacyclic' : r'.tree.Acyclic := h.tree.acyclic hacyclic
  obtain ⟨as', hlineage, hsame⟩ := h.tree.lineage hn (hacyclic.lineage_ancestors n)
  obtain rfl : r'.tree.ancestors n' = as' := (hacyclic'.lineage_ancestors n').unique hlineage
  rw [hacyclic.ascend_eq_along, hacyclic'.ascend_eq_along]
  exact Ascent.along_inStep (hsame.imp fun _ _ ha => ha.offer_inStep h.context)

/-! ## Nodes -/

theorem variant_agree (hrequested : requested.agree requested' = true) (v : Variation)
    (node : Option NodeId) :
    (r.variant v node requested).agree (r'.variant v node requested') = true :=
  v.variantIn_agree h.context hrequested node

theorem contentVariant_agree (hn : n.Recased n') (hrequested : requested.agree requested' = true) :
    (r.contentVariant n name requested).agree (r'.contentVariant n' name requested') = true := by
  unfold contentVariant
  rw [hn.type, hn.id]
  cases n.type.property? name with
  | none => exact hrequested
  | some type => exact h.variant_agree hrequested type.variation (some n.id)

theorem nodeInStep (hone : r.languages.OneDefault) (hacyclic : r.tree.Acyclic)
    (hn : n.Recased n') (hrequested : requested.agree requested' = true) :
    NodeInStep Unset.Recased r r' n n' name requested requested' where
  defines := by rw [hn.type]
  languages := h.languages.inStep hone (fun _ _ => hn.value? name)
    (h.contentVariant_agree hn hrequested)
  walk := h.ascend_inStep hacyclic hn
  own := by
    have hproperty := hn.properties name
    unfold ownUnset?
    rw [hn.type, hn.id]
    generalize n.property? name = p, n'.property? name = p' at hproperty
    cases n.type.property? name with
    | none => exact .none
    | some type =>
        cases hproperty with
        | none => exact .none
        | some hp => exact .some ⟨rfl, hp⟩

theorem stored?_eq (hp : p.Recased p') (hrequested : requested.agree requested' = true)
    (node : Option NodeId) :
    p'.stored? (r'.variant p'.type.variation node requested') =
      p.stored? (r.variant p.type.variation node requested) := by
  rw [hp.type]
  exact hp.stored? (h.variant_agree hrequested p.type.variation node)

theorem ownStored?_eq (hn : n.Recased n') (hrequested : requested.agree requested' = true)
    (node : Option NodeId) :
    r'.ownStored? n' name node requested' = r.ownStored? n name node requested :=
  bind_eq_of_rel (hn.properties name) fun _ _ hp => h.stored?_eq hp hrequested node

/-! ## Selecting -/

theorem selectProperty_eq (hone : r.languages.OneDefault) (hp : p.Recased p')
    (hrequested : requested.agree requested' = true) :
    r'.selectProperty p' requested' policy = r.selectProperty p requested policy := by
  unfold selectProperty
  rw [hp.type]
  exact selectFlat_inStep (h.languages.inStep hone (fun _ _ => hp.value?)
    (h.variant_agree hrequested p.type.variation none)) .property policy

theorem selectElement_eq (hone : r.languages.OneDefault) (hn : n.Recased n')
    (hrequested : requested.agree requested' = true) :
    r'.selectElement n' name requested' policy = r.selectElement n name requested policy := by
  unfold selectElement
  rw [hn.type]
  cases n.type.property? name with
  | none => rfl
  | some type =>
      exact selectFlat_inStep (h.languages.inStep hone (fun _ _ => hn.value? name)
        (h.variant_agree hrequested type.variation none)) .element policy

theorem unsetStored?_eq (hrequested : requested.agree requested' = true) {u u' : Unset}
    (hu : u.Recased u') :
    r'.unsetStored? (some u') requested' = r.unsetStored? (some u) requested := by
  rw [unsetStored?, unsetStored?, Option.bind_some, Option.bind_some, hu.owner]
  exact h.stored?_eq hu.property hrequested (some u.owner)

end Recased

theorem owner_eq_of_inStep {trail trail' : Trail} (h : trail.InStep Unset.Recased trail') :
    trail'.unset.map Unset.owner = trail.unset.map Unset.owner := by
  obtain ⟨unset, steps⟩ := trail
  obtain ⟨unset', steps'⟩ := trail'
  obtain ⟨hunset, _⟩ := h
  cases hunset with
  | none => rfl
  | some hu => exact congrArg some hu.owner

/-- **Culture codes count up to case.**  Let culture codes change in case only: in the
languages, of which at most one is the default language, in the context, in what was
written to the properties, and in the request.  Then whatever is asked is answered as
before, and on a node of a tree without cycles the property reported as having no
value belongs to the same node. -/
theorem answers_eq_of_recased {α ε : Type} {r r' : Resolver} (h : r.Recased r')
    (hone : r.languages.OneDefault) (hacyclic : r.tree.Acyclic) (q : Request α ε) {asked : Variant}
    (hasked : q.variant.agree asked = true) :
    (∀ p p' : Property, p.Recased p' →
      r'.property p' { q with variant := asked } = r.property p q ∧
        r'.tryProperty p' { q with variant := asked } = r.tryProperty p q) ∧
    ∀ (n n' : Node) (name : String), n.Recased n' →
      (r'.element n' name { q with variant := asked } = r.element n name q ∧
        r'.tryElement n' name { q with variant := asked } = r.tryElement n name q) ∧
      r'.content n' name { q with variant := asked } = r.content n name q ∧
        (r'.tryContent n' name { q with variant := asked }).1 = (r.tryContent n name q).1 ∧
        (r'.tryContent n' name { q with variant := asked }).2.unset.map Unset.owner =
          (r.tryContent n name q).2.unset.map Unset.owner := by
  refine ⟨fun p p' hp => ?_, fun n n' name hn => ?_⟩
  · have hname : p'.name = p.name := congrArg PropertyType.name hp.type
    constructor
    · exact congrArg₂ q.value hname (readProperty_inStep (h.stored?_eq hp hasked none)
        (h.selectProperty_eq hone hp hasked))
    · exact congrArg₂ q.resolution hname (h.selectProperty_eq hone hp hasked)
  · have hnode : NodeInStep Unset.Recased r r' n n' name q.variant asked :=
      h.nodeInStep hone hacyclic hn hasked
    have hown : r'.ownStored? n' name (some n'.id) asked =
        r.ownStored? n name (some n.id) q.variant := by
      rw [hn.id, h.ownStored?_eq hn hasked]
    have hread : r'.readContent n' name asked q.policy =
        r.readContent n name q.variant q.policy :=
      readContent_inStep hnode hown (fun _ _ => h.unsetStored?_eq hasked) q.policy
    obtain ⟨hselect, htrail⟩ := selectContent_inStep hnode q.policy
    refine ⟨⟨?_, ?_⟩, ?_, ?_, owner_eq_of_inStep htrail⟩
    · exact congrArg (q.value name) (readElement_inStep (h.ownStored?_eq hn hasked none)
        (h.selectElement_eq hone hn hasked))
    · exact congrArg (q.resolution name) (h.selectElement_eq hone hn hasked)
    · exact congrArg (fun read => (q.value name read.1, read.2)) hread
    · exact congrArg (q.resolution name) hselect

/-! ### A site that shouts

The site that is half translated, with languages, and once more with its codes in
another case. -/

def english : Language where
  isoCode := "en-US"
  isDefault := true

def nordicSite : Resolver :=
  { englishSite with languages := Languages.nordic.add english }

def shoutedTitle : Property :=
  { danishTitle with writes := [({ culture := some "DA-DK" }, .str "Hej")] }

def shoutedHome : Node :=
  (⟨home.id, home.type, [shoutedTitle], true⟩ : Draft).place none home.path

def shoutedSite : Resolver where
  languages := ((Languages.empty.add
    { Languages.danish with isoCode := "DA-DK", fallbackIsoCode := some "NB-NO" }).add
    { Languages.norwegian with isoCode := "NB-NO", fallbackIsoCode := some "DA-DK" }).add
    { english with isoCode := "EN-US" }
  context := some { culture := some "EN-US" }
  tree := (Tree.empty.put shoutedHome).put contactPage

theorem recased_languages : nordicSite.languages.Recased shoutedSite.languages := by
  have hdanish : Culture.fold "DA-DK" = Culture.fold "da-DK" :=
    Culture.fold_eq_iff.mpr (by decide)
  have hlink : Culture.fold "DA-DK" = Culture.fold "DA-dk" := Culture.fold_eq_iff.mpr (by decide)
  have hnorwegian : Culture.fold "NB-NO" = Culture.fold "nb-NO" :=
    Culture.fold_eq_iff.mpr (by decide)
  have henglish : Culture.fold "EN-US" = Culture.fold "en-US" :=
    Culture.fold_eq_iff.mpr (by decide)
  exact .add (.add (.add .empty ⟨hdanish, rfl, .some hnorwegian⟩) ⟨hnorwegian, rfl, .some hlink⟩)
    ⟨henglish, rfl, .none⟩

theorem recased_title : danishTitle.Recased shoutedTitle := by
  have hdanish : Culture.fold "da-DK" = Culture.fold "DA-DK" :=
    Culture.fold_eq_iff.mpr (by decide)
  have hagree : ({ culture := some "da-DK" } : Variant).agree { culture := some "DA-DK" } = true :=
    Variant.agree_iff.mpr ⟨congrArg some hdanish, rfl⟩
  exact ⟨rfl, .cons ⟨hagree, rfl⟩ .nil⟩

theorem recased_home : home.Recased shoutedHome := by
  have hdraft : Draft.Recased ⟨home.id, home.type, [danishTitle], true⟩
      ⟨home.id, home.type, [shoutedTitle], true⟩ := ⟨rfl, rfl, .cons recased_title .nil, rfl⟩
  exact hdraft.place none home.path

theorem recased_nordicSite : nordicSite.Recased shoutedSite := by
  have henglish : Culture.fold "EN-US" = Culture.fold "en-US" :=
    Culture.fold_eq_iff.mpr (by decide)
  have hcontact : contactPage.Recased contactPage :=
    ⟨rfl, rfl, rfl, fun name => by simp [Node.property?, contactPage], rfl⟩
  exact ⟨recased_languages, .some ⟨.some henglish, rfl, rfl⟩,
    (Tree.recased_empty.put recased_home).put hcontact⟩

theorem oneDefault_nordicSite : nordicSite.languages.OneDefault := by
  have honly : ∀ l ∈ nordicSite.languages.toList, l.isDefault = true → l = english := by
    intro l hl hdefault
    rcases Languages.mem_toList_add hl with rfl | hl
    · rfl
    rcases Languages.mem_toList_add hl with rfl | hl
    · cases hdefault
    rcases Languages.mem_toList_add hl with rfl | hl
    · cases hdefault
    · simp [Languages.mem_toList_iff, Languages.find?, Languages.empty] at hl
  intro l hl m hm hlDefault hmDefault
  rw [honly l hl hlDefault, honly m hm hmDefault]

/-- The title in Danish, asked for in yet another case. -/
theorem answers_eq_of_recased_home :
    nordicSite.Recased shoutedSite ∧ nordicSite.languages.OneDefault ∧ nordicSite.tree.Acyclic ∧
      ({ culture := some "DA-dk" } : Variant).agree { culture := some "dA-dK" } = true ∧
      danishTitle.Recased shoutedTitle ∧ home.Recased shoutedHome ∧
      shoutedSite.property shoutedTitle
        (.raw { culture := some "dA-dK" } (.single .language) none) = .ok (some (.str "Hej")) ∧
      shoutedSite.content shoutedHome "title"
        (.raw { culture := some "dA-dK" } (.single .language) none) =
          nordicSite.content home "title"
            (.raw { culture := some "DA-dk" } (.single .language) none) := by
  have hfold : Culture.fold "DA-dk" = Culture.fold "dA-dK" := Culture.fold_eq_iff.mpr (by decide)
  have hasked : ({ culture := some "DA-dk" } : Variant).agree { culture := some "dA-dK" } = true :=
    Variant.agree_iff.mpr ⟨congrArg some hfold, rfl⟩
  obtain ⟨hproperty, hnode⟩ := answers_eq_of_recased recased_nordicSite oneDefault_nordicSite
    acyclic_englishSite (.raw { culture := some "DA-dk" } (.single .language) none) hasked
  refine ⟨recased_nordicSite, oneDefault_nordicSite, acyclic_englishSite, hasked, recased_title,
    recased_home, ?_, ?_⟩
  · have hbefore : nordicSite.property danishTitle
        (.raw { culture := some "DA-dk" } (.single .language) none) = .ok (some (.str "Hej")) := by
      rw [property, Request.raw, readProperty_danishTitle]
      rfl
    exact (hproperty _ _ recased_title).1.trans hbefore
  · exact (hnode _ _ "title" recased_home).2.1

end Resolver

end Publishing
