import Publishing.Proofs.Resolve.Decisive

/-!
# The nearest ancestor with a value

A policy of nothing but going up the tree is a search through the lineage of the
node.  An ancestor counts if its type defines the name and it has a property
under it; whether that property has a value is asked in the variant of the
ancestor's type, in the culture of the context and the ancestor's own segment.

* `Provides` and `Lacks` are the two ways to count, and `offer_eq_value_iff` and
  `offer_eq_unset_iff` say that the walk asks for them.
* `NearestValue` and `FirstLack` are what the search is for, said of the lineage.
* `tryContent_ancestors` is the search; what was requested plays no part in it.
-/

namespace Publishing

/-! ## What an ancestor counts for -/

namespace Node

variable {a : Node} {context : Option RenderContext} {name : String}

/-- The node's type defines the name, the node has a property under it, and this has a
value in the variant of the type. -/
def Provides (a : Node) (context : Option RenderContext) (name : String) (v : Json) : Prop :=
  ∃ type property, a.type.property? name = some type ∧ a.property? name = some property ∧
    property.value? (type.variation.variantIn context (some a.id) {}) = some v

/-- As `Provides`, but the property `u` has no value in that variant. -/
def Lacks (a : Node) (context : Option RenderContext) (name : String) (u : Unset) : Prop :=
  ∃ type property, a.type.property? name = some type ∧ a.property? name = some property ∧
    property.hasValue (type.variation.variantIn context (some a.id) {}) = false ∧
      u = ⟨a.id, property⟩

theorem offer_eq_value_iff {v : Json} :
    a.offer context name = .value v ↔ a.Provides context name v := by
  unfold offer Provides
  cases htype : a.type.property? name with
  | none => simp
  | some type =>
      cases hown : a.property? name with
      | none => simp
      | some property =>
          cases hvalue : property.value? (type.variation.variantIn context (some a.id) {}) with
          | none => simp [hvalue]
          | some w => simp [hvalue]

theorem offer_eq_unset_iff {u : Unset} :
    a.offer context name = .unset u ↔ a.Lacks context name u := by
  unfold offer Lacks
  cases htype : a.type.property? name with
  | none => simp
  | some type =>
      cases hown : a.property? name with
      | none => simp
      | some property =>
          cases hvalue : property.value? (type.variation.variantIn context (some a.id) {}) with
          | none => simpa [hvalue, Property.hasValue] using eq_comm
          | some w => simp [hvalue, Property.hasValue]

theorem offer_value?_eq_some_iff {v : Json} :
    (a.offer context name).value? = some v ↔ a.Provides context name v := by
  rw [← offer_eq_value_iff]
  cases a.offer context name <;> simp [Offer.value?]

theorem offer_eq_nothing_iff :
    a.offer context name = .nothing ↔
      (∀ v, ¬ a.Provides context name v) ∧ ∀ u, ¬ a.Lacks context name u := by
  simp only [← offer_eq_value_iff, ← offer_eq_unset_iff]
  cases a.offer context name <;> simp

end Node

/-! ## The search -/

variable {context : Option RenderContext} {name : String} {as : List Node}

/-- The value `v` of the first node that provides one. -/
def NearestValue (context : Option RenderContext) (name : String) (as : List Node) (v : Json) :
    Prop :=
  ∃ below a above, as = below ++ a :: above ∧ a.Provides context name v ∧
    ∀ b ∈ below, ∀ w, ¬ b.Provides context name w

/-- The property `u` of the first node that lacks a value, if no node before it
provides one. -/
def FirstLack (context : Option RenderContext) (name : String) (as : List Node) (u : Unset) :
    Prop :=
  ∃ below a above, as = below ++ a :: above ∧ a.Lacks context name u ∧
    ∀ b ∈ below, (∀ w, ¬ b.Provides context name w) ∧ ∀ w, ¬ b.Lacks context name w

theorem findSome?_offer_eq_some_iff {v : Json} :
    as.findSome? (fun a => (a.offer context name).value?) = some v ↔
      NearestValue context name as v := by
  simp only [List.findSome?_eq_some_iff, Node.offer_value?_eq_some_iff, NearestValue,
    Option.eq_none_iff_forall_ne_some, ne_eq]

theorem findSome?_offer_eq_none_iff :
    as.findSome? (fun a => (a.offer context name).value?) = none ↔
      ∀ a ∈ as, ∀ v, ¬ a.Provides context name v := by
  rw [List.findSome?_eq_none_iff]
  simp only [Option.eq_none_iff_forall_ne_some, ne_eq, Node.offer_value?_eq_some_iff]

theorem firstLack_cons_iff {p : Node} {u : Unset} :
    FirstLack context name (p :: as) u ↔
      p.offer context name = .unset u ∨
        p.offer context name = .nothing ∧ FirstLack context name as u := by
  rw [Node.offer_eq_unset_iff, Node.offer_eq_nothing_iff]
  constructor
  · rintro ⟨below, a, above, hsplit, hlacks, hbelow⟩
    cases below with
    | nil =>
        obtain ⟨rfl, _⟩ := List.cons.inj hsplit
        exact .inl hlacks
    | cons b below =>
        obtain ⟨rfl, rfl⟩ := List.cons.inj hsplit
        exact .inr ⟨hbelow p (List.mem_cons_self ..), below, a, above, rfl, hlacks,
          fun b hb => hbelow b (List.mem_cons_of_mem _ hb)⟩
  · rintro (hlacks | ⟨hnothing, below, a, above, rfl, hlacks, hbelow⟩)
    · exact ⟨[], p, as, rfl, hlacks, by simp⟩
    · refine ⟨p :: below, a, above, rfl, hlacks, fun b hb => ?_⟩
      rcases List.mem_cons.mp hb with rfl | hb
      · exact hnothing
      · exact hbelow b hb

theorem Ascent.unset_along_iff {u : Unset} :
    (Ascent.along context name as).unset = some u ↔ FirstLack context name as u := by
  induction as with
  | nil => simp [Ascent.along, FirstLack]
  | cons p above ih =>
      rw [firstLack_cons_iff, Ascent.along]
      cases p.offer context name with
      | value v => simp
      | unset w => simp
      | nothing => simp [ih]

namespace Resolver

variable {α ε : Type} {r : Resolver}

theorem tryContent_only_ancestors (r : Resolver) (n : Node) (name : String) (q : Request α ε) :
    r.tryContent n name (q.only .ancestors) =
      (q.resolution name (.ofOption (r.tree.ascend r.context name n).found),
        ⟨(ownUnset? n name).or (r.tree.ascend r.context name n).unset,
          0 + (r.tree.ascend r.context name n).steps⟩) := by
  simp only [tryContent, selectContent, Request.only, Policy.single, tryModes, attemptContent]
  cases (r.tree.ascend r.context name n).found <;> rfl

/-- **Going up the tree finds the nearest ancestor with a value.**  On a tree without
cycles, with nothing but going up for a policy, the answer is the value of the first
ancestor that provides one, and a miss if none does.  If the node has no property of
its own that its type defines, the property reported as having no value is that of
the first ancestor that lacks one, up to the hit.  No requested culture or segment
makes a difference. -/
theorem tryContent_ancestors (hacyclic : r.tree.Acyclic) (n : Node) (name : String)
    (q : Request α ε) :
    ∃ as, r.tree.Lineage n as ∧
      (∀ v, NearestValue r.context name as v →
        (r.tryContent n name (q.only .ancestors)).1 = (convert q.read name v).map .found) ∧
      ((∀ a ∈ as, ∀ v, ¬ a.Provides r.context name v) →
        (r.tryContent n name (q.only .ancestors)).1 = .ok .notFound) ∧
      (ownUnset? n name = none → ∀ u,
        (r.tryContent n name (q.only .ancestors)).2.unset = some u ↔
          FirstLack r.context name as u) ∧
      ∀ requested, r.tryContent n name ({ q with variant := requested }.only .ancestors) =
        r.tryContent n name (q.only .ancestors) := by
  refine ⟨r.tree.ancestors n, hacyclic.lineage_ancestors n, ?_, ?_, ?_, ?_⟩
  · intro v hnearest
    rw [tryContent_only_ancestors, hacyclic.ascend_found,
      findSome?_offer_eq_some_iff.mpr hnearest]
    rfl
  · intro hnone
    rw [tryContent_only_ancestors, hacyclic.ascend_found, findSome?_offer_eq_none_iff.mpr hnone]
    rfl
  · intro hown u
    rw [tryContent_only_ancestors, hown, Option.none_or, hacyclic.ascend_eq_along,
      Ascent.unset_along_iff]
  · intro requested
    rw [tryContent_only_ancestors, tryContent_only_ancestors]
    rfl

/-! ### A site with its tags at the top

The front page has tags for VIPs and is shown in that segment.  The news page
under it has its own tags, which do not vary, and none are set; pages under the news
have no tags by type. -/

def vipTags : Property where
  type := ⟨"tags", .segment⟩
  writes := [({ segment := some "vip" }, .arr [.str "home"])]

def noTags : Property where
  type := ⟨"tags", .nothing⟩
  writes := [({}, .arr [])]

def frontPage : Node where
  id := ⟨11, by decide⟩
  parent := none
  path := ⟨"-1,11", by decide⟩
  type := ⟨"site", .segment, .ofList [("tags", vipTags.type)]⟩
  properties := .ofList [("tags", vipTags)]
  published := true

def news : Node where
  id := ⟨12, by decide⟩
  parent := some frontPage.id
  path := ⟨"-1,11,12", by decide⟩
  type := ⟨"news", .nothing, .ofList [("tags", noTags.type)]⟩
  properties := .ofList [("tags", noTags)]
  published := true

def article : Node where
  id := ⟨13, by decide⟩
  parent := some news.id
  path := ⟨"-1,11,12,13", by decide⟩
  type := ⟨"page", .nothing, ∅⟩
  properties := ∅
  published := true

def newsSite : Resolver where
  context := some (({ } : RenderContext).withNodeSegment frontPage.id "vip")
  tree := ((Tree.empty.put frontPage).put news).put article

theorem acyclic_newsSite : newsSite.tree.Acyclic :=
  (((Tree.ascending_empty.put rfl).put rfl).put rfl).acyclic

theorem lineage_article : newsSite.tree.Lineage article [news, frontPage] :=
  .step rfl (.step rfl (.top rfl))

theorem lacks_news : news.Lacks newsSite.context "tags" ⟨news.id, noTags⟩ :=
  ⟨noTags.type, noTags, rfl, rfl, rfl, rfl⟩

theorem not_provides_news (v : Json) : ¬ news.Provides newsSite.context "tags" v := by
  rintro ⟨type, property, htype, hown, hvalue⟩
  obtain rfl : noTags.type = type := Option.some.inj htype
  obtain rfl : noTags = property := Option.some.inj hown
  cases hvalue

theorem provides_frontPage :
    frontPage.Provides newsSite.context "tags" (.arr [.str "home"]) :=
  ⟨vipTags.type, vipTags, rfl, rfl, rfl⟩

theorem not_provides_title {a : Node} (ha : a ∈ [news, frontPage]) (v : Json) :
    ¬ a.Provides newsSite.context "title" v := by
  rintro ⟨type, _, htype, _⟩
  simp only [List.mem_cons, List.not_mem_nil, or_false] at ha
  rcases ha with rfl | rfl
  · cases htype
  · cases htype

/-- An article takes the tags of the front page, passing over those of the news; a
title it does not find. -/
theorem tryContent_ancestors_article :
    newsSite.tree.Acyclic ∧ ownUnset? article "tags" = none ∧
      (newsSite.tryContent article "tags"
        (.raw { culture := some "da-DK" } (.single .ancestors) none)).1 =
          .ok (.found (some (.arr [.str "home"]))) ∧
      (newsSite.tryContent article "tags"
        (.raw { culture := some "da-DK" } (.single .ancestors) none)).2.unset =
          some ⟨news.id, noTags⟩ ∧
      (newsSite.tryContent article "title"
        (.raw { culture := some "da-DK" } (.single .ancestors) none)).1 = .ok .notFound := by
  have hown : ownUnset? article "tags" = none := rfl
  have hbelow : ∀ b ∈ [news], ∀ w, ¬ b.Provides newsSite.context "tags" w := by
    intro b hb
    obtain rfl := List.mem_singleton.mp hb
    exact not_provides_news
  let q : Request Json Mismatch := .raw { culture := some "da-DK" } (.single .ancestors) none
  obtain ⟨as, has, hhit, _, hunset, _⟩ := tryContent_ancestors acyclic_newsSite article "tags" q
  obtain rfl := has.unique lineage_article
  obtain ⟨bs, hbs, _, hmiss, _⟩ := tryContent_ancestors acyclic_newsSite article "title" q
  obtain rfl := hbs.unique lineage_article
  refine ⟨acyclic_newsSite, hown, ?_, ?_, ?_⟩
  · exact hhit _ ⟨[news], frontPage, [], rfl, provides_frontPage, hbelow⟩
  · exact (hunset hown _).mpr ⟨[], news, [frontPage], rfl, lacks_news, by simp⟩
  · exact hmiss fun a => not_provides_title

end Resolver

end Publishing
