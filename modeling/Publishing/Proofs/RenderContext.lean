import Mathlib.Logic.Relation
import Publishing.RenderContext

/-!
# What a variant is made of

A variant is worked out from a context, a node and what was requested, which together
are an `Inquiry`.  Two relations list where its parts come from, in order of precedence.

* `Inquiry.GivesCulture`: the culture requested, or else that of the context.
* `Inquiry.GivesSegment`: the segment requested, or else the node's own, or else that
  of the context.

An empty text is a value like any other; only one that is missing is filled in.

## Strategy

`variant_eq_iff_alike` says that a variant is determined by what is given along the
dimensions in use, and determines it.  Three consequences follow.

* **Settling.**  A variant gives what the inquiry gave that it was worked out for, so
  nothing is left to fill in (`alike_settled`).
* **Fetching on demand.**  The context may be left out unless a dimension in use was
  left open (`alike_fetched`).
* **Idle changes.**  `Variation.Idle` lists, one change at a time, what has no part in a
  variant: dimensions not in use, the segments of other nodes, and what the context has
  for a dimension that is filled already.  One such change keeps what is given
  (`Idle.alike`), and so does any history of them (`variant_eq_of_eqvGen`).
-/

namespace Publishing

/-- What a variant is worked out from: a context, the node that the values belong to,
and what was requested. -/
structure Inquiry where
  context : Option RenderContext := none
  node : Option NodeId := none
  requested : Variant := {}

namespace Inquiry

/-- The variant to look up, for values of a given variation. -/
def variant (a : Inquiry) (v : Variation) : Variant :=
  v.variantIn a.context a.node a.requested

/-- The culture that the context has to fill in. -/
def ambientCulture (a : Inquiry) : Option String :=
  a.context.bind RenderContext.culture

/-- The segment that the context has to fill in for the node. -/
def ambientSegment (a : Inquiry) : Option String :=
  a.context.bind fun c => c.segmentAt a.node

/-- The culture that an inquiry gives: the one requested, or else that of the context. -/
inductive GivesCulture (a : Inquiry) : String → Prop
  | requested {culture : String} (h : a.requested.culture = some culture) : GivesCulture a culture
  | ambient {c : RenderContext} {culture : String} (hopen : a.requested.culture = none)
      (hcontext : a.context = some c) (h : c.culture = some culture) : GivesCulture a culture

/-- The segment that an inquiry gives: the one requested, or else the node's own, or
else that of the context. -/
inductive GivesSegment (a : Inquiry) : String → Prop
  | requested {segment : String} (h : a.requested.segment = some segment) : GivesSegment a segment
  | own {c : RenderContext} {id : NodeId} {segment : String}
      (hopen : a.requested.segment = none) (hcontext : a.context = some c)
      (hnode : a.node = some id) (h : c.nodeSegments[id]? = some segment) : GivesSegment a segment
  | ambient {c : RenderContext} {segment : String} (hopen : a.requested.segment = none)
      (hcontext : a.context = some c) (hown : ∀ id ∈ a.node, c.nodeSegments[id]? = none)
      (h : c.segment = some segment) : GivesSegment a segment

end Inquiry

namespace Variation

/-- Two inquiries give the same along the dimensions in use. -/
structure Alike (v : Variation) (a b : Inquiry) : Prop where
  culture : v.byCulture = true → ∀ culture, a.GivesCulture culture ↔ b.GivesCulture culture
  segment : v.bySegment = true → ∀ segment, a.GivesSegment segment ↔ b.GivesSegment segment

/-- The culture is in use and was left open. -/
def CultureOpen (v : Variation) (a : Inquiry) : Prop :=
  v.byCulture = true ∧ a.requested.culture = none

/-- The segment is in use and was left open. -/
def SegmentOpen (v : Variation) (a : Inquiry) : Prop :=
  v.bySegment = true ∧ a.requested.segment = none

instance (v : Variation) (a : Inquiry) : Decidable (v.CultureOpen a) :=
  inferInstanceAs (Decidable (_ ∧ _))

instance (v : Variation) (a : Inquiry) : Decidable (v.SegmentOpen a) :=
  inferInstanceAs (Decidable (_ ∧ _))

/-- A change to one thing that has no part in the variant. -/
inductive Idle (v : Variation) : Inquiry → Inquiry → Prop
  /-- The culture requested, where the values do not vary by culture. -/
  | unusedCulture (a : Inquiry) (culture : Option String) (h : v.byCulture = false) :
      Idle v a { a with requested := { a.requested with culture := culture } }
  /-- The segment requested, where the values do not vary by segment. -/
  | unusedSegment (a : Inquiry) (segment : Option String) (h : v.bySegment = false) :
      Idle v a { a with requested := { a.requested with segment := segment } }
  /-- The culture of the context, unless it fills in for the one requested. -/
  | ambientCulture (a : Inquiry) {c : RenderContext} (culture : Option String)
      (hcontext : a.context = some c) (h : ¬ v.CultureOpen a) :
      Idle v a { a with context := some { c with culture := culture } }
  /-- The segment of the context, unless it fills in for the node's own. -/
  | ambientSegment (a : Inquiry) {c : RenderContext} (segment : Option String)
      (hcontext : a.context = some c) (h : v.SegmentOpen a → c.ownSegment? a.node ≠ none) :
      Idle v a { a with context := some { c with segment := segment } }
  /-- The segment of a node, unless it is this one's and fills in for the one requested. -/
  | nodeSegment (a : Inquiry) {c : RenderContext} (id : NodeId) (segment : String)
      (hcontext : a.context = some c) (h : v.SegmentOpen a → a.node ≠ some id) :
      Idle v a { a with context := some (c.withNodeSegment id segment) }
  /-- The node, unless that changes which segment of a node's own fills in. -/
  | node (a : Inquiry) (node : Option NodeId)
      (h : v.SegmentOpen a → ∀ c ∈ a.context, c.ownSegment? node = c.ownSegment? a.node) :
      Idle v a { a with node := node }
  /-- A context with nothing in it, in place of none. -/
  | emptyContext (a : Inquiry) (hcontext : a.context = none) :
      Idle v a { a with context := some {} }

end Variation

/-! ## Segments of a node's own -/

namespace RenderContext

variable {c : RenderContext} {node : Option NodeId} {id : NodeId} {segment : String}

theorem ownSegment?_eq_some_iff :
    c.ownSegment? node = some segment ↔ ∃ id, node = some id ∧ c.nodeSegments[id]? = some segment :=
  Option.bind_eq_some_iff

theorem ownSegment?_eq_none_iff :
    c.ownSegment? node = none ↔ ∀ id ∈ node, c.nodeSegments[id]? = none :=
  Option.bind_eq_none_iff

theorem ownSegment?_withNodeSegment_of_ne (h : node ≠ some id) :
    (c.withNodeSegment id segment).ownSegment? node = c.ownSegment? node := by
  cases node with
  | none => rfl
  | some other =>
      have hne : id ≠ other := fun heq => h (heq ▸ rfl)
      simp [ownSegment?, withNodeSegment, Std.ExtTreeMap.getElem?_insert, hne]

theorem segmentAt_eq_some_iff :
    c.segmentAt node = some segment ↔
      (∃ id, node = some id ∧ c.nodeSegments[id]? = some segment) ∨
        (∀ id ∈ node, c.nodeSegments[id]? = none) ∧ c.segment = some segment := by
  rw [segmentAt, Option.or_eq_some_iff, ownSegment?_eq_some_iff, ownSegment?_eq_none_iff]

theorem segmentAt_congr {c' : RenderContext} {node' : Option NodeId}
    (hown : c'.ownSegment? node' = c.ownSegment? node)
    (hsegment : c.ownSegment? node = none → c'.segment = c.segment) :
    c'.segmentAt node' = c.segmentAt node := by
  rw [segmentAt, segmentAt, hown]
  cases h : c.ownSegment? node with
  | none => rw [hsegment h]
  | some own => rfl

end RenderContext

/-! ## What an inquiry gives -/

namespace Inquiry

variable {a b : Inquiry} {v : Variation} {culture segment : String}

theorem ambientCulture_eq_some_iff :
    a.ambientCulture = some culture ↔ ∃ c, a.context = some c ∧ c.culture = some culture :=
  Option.bind_eq_some_iff

theorem ambientSegment_eq_some_iff :
    a.ambientSegment = some segment ↔ ∃ c, a.context = some c ∧ c.segmentAt a.node = some segment :=
  Option.bind_eq_some_iff

theorem ambientCulture_of_context {c : RenderContext} (h : a.context = some c) :
    a.ambientCulture = c.culture := by
  rw [ambientCulture, h, Option.bind_some]

theorem ambientSegment_of_context {c : RenderContext} (h : a.context = some c) :
    a.ambientSegment = c.segmentAt a.node := by
  rw [ambientSegment, h, Option.bind_some]

theorem givesCulture_iff :
    a.GivesCulture culture ↔ a.requested.culture.or a.ambientCulture = some culture := by
  rw [Option.or_eq_some_iff, ambientCulture_eq_some_iff]
  constructor
  · rintro (h | ⟨hopen, hcontext, h⟩)
    · exact .inl h
    · exact .inr ⟨hopen, _, hcontext, h⟩
  · rintro (h | ⟨hopen, c, hcontext, h⟩)
    · exact .requested h
    · exact .ambient hopen hcontext h

theorem givesSegment_iff :
    a.GivesSegment segment ↔ a.requested.segment.or a.ambientSegment = some segment := by
  rw [Option.or_eq_some_iff, ambientSegment_eq_some_iff]
  constructor
  · rintro (h | ⟨hopen, hcontext, hnode, h⟩ | ⟨hopen, hcontext, hown, h⟩)
    · exact .inl h
    · exact .inr ⟨hopen, _, hcontext, RenderContext.segmentAt_eq_some_iff.mpr (.inl ⟨_, hnode, h⟩)⟩
    · exact .inr ⟨hopen, _, hcontext, RenderContext.segmentAt_eq_some_iff.mpr (.inr ⟨hown, h⟩)⟩
  · rintro (h | ⟨hopen, c, hcontext, hat⟩)
    · exact .requested h
    · rcases RenderContext.segmentAt_eq_some_iff.mp hat with ⟨id, hnode, h⟩ | ⟨hown, h⟩
      · exact .own hopen hcontext hnode h
      · exact .ambient hopen hcontext hown h

theorem culture_variant_eq_some_iff :
    (a.variant v).culture = some culture ↔ v.byCulture = true ∧ a.GivesCulture culture := by
  rw [givesCulture_iff, variant, Variation.variantIn]
  cases v.byCulture <;> simp [ambientCulture]

theorem segment_variant_eq_some_iff :
    (a.variant v).segment = some segment ↔ v.bySegment = true ∧ a.GivesSegment segment := by
  rw [givesSegment_iff, variant, Variation.variantIn]
  cases v.bySegment <;> simp [ambientSegment]

/-- **A variant is determined by what is given** along the dimensions in use, and
determines it. -/
theorem variant_eq_iff_alike : b.variant v = a.variant v ↔ v.Alike a b := by
  constructor
  · intro heq
    constructor
    · intro hv culture
      have hculture : v.byCulture = true ∧ a.GivesCulture culture ↔
          v.byCulture = true ∧ b.GivesCulture culture := by
        rw [← culture_variant_eq_some_iff, ← culture_variant_eq_some_iff, heq]
      simpa [hv] using hculture
    · intro hv segment
      have hsegment : v.bySegment = true ∧ a.GivesSegment segment ↔
          v.bySegment = true ∧ b.GivesSegment segment := by
        rw [← segment_variant_eq_some_iff, ← segment_variant_eq_some_iff, heq]
      simpa [hv] using hsegment
  · intro h
    ext x
    · rw [culture_variant_eq_some_iff, culture_variant_eq_some_iff]
      exact and_congr_right fun hv => (h.culture hv x).symm
    · rw [segment_variant_eq_some_iff, segment_variant_eq_some_iff]
      exact and_congr_right fun hv => (h.segment hv x).symm

/-! ## Inquiries that give the same -/

theorem alike_of_filled
    (hculture : v.byCulture = true →
      b.requested.culture.or b.ambientCulture = a.requested.culture.or a.ambientCulture)
    (hsegment : v.bySegment = true →
      b.requested.segment.or b.ambientSegment = a.requested.segment.or a.ambientSegment) :
    v.Alike a b where
  culture hv x := by rw [givesCulture_iff, givesCulture_iff, hculture hv]
  segment hv x := by rw [givesSegment_iff, givesSegment_iff, hsegment hv]

/-- What the context has counts only for what was left open. -/
theorem alike_of_ambient (hrequested : b.requested = a.requested)
    (hculture : v.CultureOpen a → b.ambientCulture = a.ambientCulture)
    (hsegment : v.SegmentOpen a → b.ambientSegment = a.ambientSegment) : v.Alike a b := by
  apply alike_of_filled
  · intro hv
    rw [hrequested]
    cases hopen : a.requested.culture with
    | none => rw [hculture ⟨hv, hopen⟩]
    | some culture => rfl
  · intro hv
    rw [hrequested]
    cases hopen : a.requested.segment with
    | none => rw [hsegment ⟨hv, hopen⟩]
    | some segment => rfl

/-- The inquiry with its variant for a request. -/
def settled (a : Inquiry) (v : Variation) : Inquiry :=
  { a with requested := a.variant v }

/-- The inquiry with a context only if one is needed. -/
def fetched (a : Inquiry) (v : Variation) : Inquiry :=
  { a with context := if v.CultureOpen a ∨ v.SegmentOpen a then a.context else none }

/-- Asking twice fills in no more than asking once. -/
theorem or_or_self (requested ambient : Option String) :
    (requested.or ambient).or ambient = requested.or ambient :=
  calc (requested.or ambient).or ambient
      = requested.or (ambient.or ambient) := Option.or_assoc
    _ = requested.or ambient := by rw [Option.or_self]

theorem alike_settled (a : Inquiry) (v : Variation) : v.Alike a (a.settled v) := by
  -- The context stays, so what it could not fill in the first time stays open.
  apply alike_of_filled
  · intro hv
    have hfilled : (a.settled v).requested.culture = a.requested.culture.or a.ambientCulture :=
      if_pos hv
    rw [hfilled]
    exact or_or_self _ a.ambientCulture
  · intro hv
    have hfilled : (a.settled v).requested.segment = a.requested.segment.or a.ambientSegment :=
      if_pos hv
    rw [hfilled]
    exact or_or_self _ a.ambientSegment

theorem context_fetched (h : v.CultureOpen a ∨ v.SegmentOpen a) :
    (a.fetched v).context = a.context :=
  if_pos h

theorem alike_fetched (a : Inquiry) (v : Variation) : v.Alike a (a.fetched v) := by
  refine alike_of_ambient (b := a.fetched v) rfl (fun hopen => ?_) fun hopen => ?_
  · rw [ambientCulture, ambientCulture, context_fetched (.inl hopen)]
  · rw [ambientSegment, ambientSegment, context_fetched (.inr hopen)]
    rfl

end Inquiry

/-! ## Idle changes -/

namespace Variation

open Inquiry

variable {v : Variation} {a b : Inquiry}

/-- **An idle change keeps what is given.** -/
theorem Idle.alike (h : v.Idle a b) : v.Alike a b := by
  cases h with
  | unusedCulture culture hunused =>
      refine alike_of_filled (fun hv => ?_) fun _ => rfl
      exact absurd (hunused.symm.trans hv) Bool.false_ne_true
  | unusedSegment segment hunused =>
      refine alike_of_filled (fun _ => rfl) fun hv => ?_
      exact absurd (hunused.symm.trans hv) Bool.false_ne_true
  | ambientCulture culture hcontext hfilled =>
      refine alike_of_ambient rfl (fun hopen => absurd hopen hfilled) fun _ => ?_
      rw [ambientSegment_of_context hcontext]
      exact RenderContext.segmentAt_congr rfl fun _ => rfl
  | ambientSegment segment hcontext hown =>
      refine alike_of_ambient rfl (fun _ => ?_) fun hopen => ?_
      · exact (ambientCulture_of_context hcontext).symm
      · rw [ambientSegment_of_context hcontext]
        -- The node's own segment comes first, and it is not the one that changes.
        exact RenderContext.segmentAt_congr rfl fun hnone => absurd hnone (hown hopen)
  | nodeSegment id segment hcontext hother =>
      refine alike_of_ambient rfl (fun _ => ?_) fun hopen => ?_
      · exact (ambientCulture_of_context hcontext).symm
      · rw [ambientSegment_of_context hcontext]
        exact RenderContext.segmentAt_congr
          (RenderContext.ownSegment?_withNodeSegment_of_ne (hother hopen)) fun _ => rfl
  | node node hown =>
      refine alike_of_ambient rfl (fun _ => rfl) fun hopen => ?_
      cases hcontext : a.context with
      | none => simp [Inquiry.ambientSegment, hcontext]
      | some c =>
          simp only [Inquiry.ambientSegment, hcontext, Option.bind_some]
          exact RenderContext.segmentAt_congr (hown hopen c hcontext) fun _ => rfl
  | emptyContext hcontext =>
      refine alike_of_ambient rfl (fun _ => ?_) fun _ => ?_
      · simp [Inquiry.ambientCulture, hcontext]
      · simp [Inquiry.ambientSegment, hcontext, RenderContext.segmentAt, RenderContext.ownSegment?]

/-- **A history of idle changes**, made and taken back in any order, keeps the variant. -/
theorem variant_eq_of_eqvGen (h : Relation.EqvGen v.Idle a b) : b.variant v = a.variant v := by
  -- Being alike is an equation between variants, so a change can be taken back.
  induction h with
  | rel a b hidle => exact variant_eq_iff_alike.mpr hidle.alike
  | refl a => rfl
  | symm a b _ ih => exact ih.symm
  | trans a b c _ _ ihab ihbc => exact ihbc.trans ihab

end Variation

namespace Inquiry

/-- **A variant is settled by what is given.**  Asking with the variant again makes no
difference.  Two inquiries lead to the same variant exactly if they give the same along
the dimensions in use.  So nothing idle has an influence, and the context need not be
there unless a dimension in use was left open. -/
theorem variant_settled_by_given (v : Variation) (a : Inquiry) :
    v.variantIn a.context a.node (a.variant v) = a.variant v ∧
      (∀ b : Inquiry, b.variant v = a.variant v ↔ v.Alike a b) ∧
      (∀ b : Inquiry, Relation.EqvGen v.Idle a b → b.variant v = a.variant v) ∧
      (a.fetched v).variant v = a.variant v := by
  refine ⟨?_, ?_, ?_, ?_⟩
  · exact variant_eq_iff_alike.mpr (alike_settled a v)
  · exact fun b => variant_eq_iff_alike
  · exact fun b hidle => Variation.variant_eq_of_eqvGen hidle
  · exact variant_eq_iff_alike.mpr (alike_fetched a v)

/-! ### A page with a segment of its own

One page is shown to VIPs where others are shown to members, and it is asked for in an
empty culture.  The Danish site has a segment for the page of the staff, and none for
other pages. -/

def vipPageId : NodeId :=
  ⟨31, by decide⟩

def staffPageId : NodeId :=
  ⟨32, by decide⟩

def memberSite : RenderContext :=
  ({ culture := some "en-US", segment := some "members" } : RenderContext).withNodeSegment
    vipPageId "vip"

def staffSite : RenderContext :=
  memberSite.withNodeSegment staffPageId "staff"

def danishStaffSite : RenderContext :=
  { staffSite with culture := some "da-DK", segment := none }

def vipPage (site : RenderContext) : Inquiry where
  context := some site
  node := some vipPageId
  requested := { culture := some "" }

theorem idle_vipPage : Relation.EqvGen (Variation.Idle .cultureAndSegment) (vipPage memberSite)
    (vipPage danishStaffSite) := by
  have hstaff : Variation.Idle .cultureAndSegment (vipPage memberSite) (vipPage staffSite) :=
    .nodeSegment _ staffPageId "staff" rfl fun _ => by decide
  have hnobody : Variation.Idle .cultureAndSegment (vipPage staffSite)
      (vipPage { staffSite with segment := none }) := by
    refine .ambientSegment _ none rfl fun _ => ?_
    have hown : staffSite.ownSegment? (vipPage staffSite).node = some "vip" := rfl
    simp [hown]
  have hdanish : Variation.Idle .cultureAndSegment (vipPage { staffSite with segment := none })
      (vipPage danishStaffSite) :=
    .ambientCulture (vipPage { staffSite with segment := none }) (some "da-DK") rfl (by decide)
  exact .trans _ _ _ (.rel _ _ hstaff) (.trans _ _ _ (.rel _ _ hnobody) (.rel _ _ hdanish))

/-- What one site has and the other has not is not seen on the page. -/
theorem variant_settled_by_given_vipPage :
    Relation.EqvGen (Variation.Idle .cultureAndSegment) (vipPage memberSite)
        (vipPage danishStaffSite) ∧
      (vipPage memberSite).variant .cultureAndSegment = ⟨some "", some "vip"⟩ ∧
      (vipPage danishStaffSite).variant .cultureAndSegment = ⟨some "", some "vip"⟩ := by
  obtain ⟨_, _, hidle, _⟩ := variant_settled_by_given .cultureAndSegment (vipPage memberSite)
  have hvip : (vipPage memberSite).variant .cultureAndSegment = ⟨some "", some "vip"⟩ := rfl
  exact ⟨idle_vipPage, hvip, (hidle _ idle_vipPage).trans hvip⟩

end Inquiry

end Publishing
