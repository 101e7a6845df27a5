import Publishing.Proofs.Resolve.Ascent
import Publishing.Resolve.Typed
import Publishing.Target

/-!
# What a miss brings back

A read that misses takes what a property stores for "no value": the node's own
property, or else the first one noted on the way up.  The property above a node
was passed over in the culture of the context and in its owner's segment, but it
is read for what the caller asked for.  These need not be the same variant, and
then a miss can bring back a value after all.

* `attemptContent_of_miss` and `tryModes_of_miss`: what one mode leaves behind
  where it misses, and what a run of modes does.
* `Resurfaces` is the exact condition under which a value comes back, and
  `content_of_miss` says so.
* `not_resurfaces_of_open`: nothing comes back if culture and segment are left
  open and the properties vary as the types of their nodes say.
* `danishTitle_resurfaces`: a site on which a value comes back.
-/

namespace Publishing

/-! ## Missing -/

@[simp] theorem Selection.ofOption_eq_miss {o : Option Json} :
    Selection.ofOption o = .miss ↔ o = none := by
  cases o <;> simp [Selection.ofOption]

/-- Only a miss is reported as one. -/
theorem Selection.resolution_eq_notFound {α ε : Type} {read : Json → Except ε α}
    {property : String} {default : Option α} {s : Selection} :
    s.resolution read property default = .ok .notFound ↔ s = .miss := by
  cases s with
  | stored v => cases h : convert read property v <;> simp [Selection.resolution, h, Except.map]
  | callerDefault => simp [Selection.resolution]
  | unsupported mode level => simp [Selection.resolution]
  | miss => simp [Selection.resolution]

theorem tryModes_cons_eq_miss {σ : Type} {attempt : Mode → σ → Selection × σ} {m : Mode}
    {ms : List Mode} {notes notes' : σ} :
    tryModes attempt (m :: ms) notes = (.miss, notes') ↔
      ∃ between, attempt m notes = (.miss, between) ∧
        tryModes attempt ms between = (.miss, notes') := by
  rw [tryModes]
  rcases attempt m notes with ⟨s, between⟩
  cases s <;> simp

/-- A value read as it is, with a policy and a default. -/
def Request.raw (requested : Variant) (policy : Policy) (default : Option Json) :
    Request Json Mismatch where
  variant := requested
  policy := policy
  read := Target.value.read
  default := default

/-- A value read as it is comes through unchanged, except that `null` is no value. -/
theorem Request.value_raw (requested : Variant) (policy : Policy) (default : Option Json)
    (property : String) (o : Option Json) :
    (Request.raw requested policy default).value property (.ofOption o) =
      .ok (o.filter fun v => !v.isNull) := by
  cases o with
  | none => rfl
  | some v => cases v <;> rfl

namespace Resolver

variable {r : Resolver} {n : Node} {name : String} {requested : Variant} {policy : Policy}

/-- The property that modes note where they lead to nothing. -/
def noted (r : Resolver) (n : Node) (name : String) (modes : List Mode) : Option Unset :=
  if .ancestors ∈ modes then (r.tree.ascend r.context name n).unset else none

theorem noted_cons (m : Mode) (ms : List Mode) :
    r.noted n name (m :: ms) = (r.noted n name [m]).or (r.noted n name ms) := by
  unfold noted
  by_cases hm : Mode.ancestors = m
  · -- A second walk notes the same property as the first, so it changes nothing.
    rw [if_pos (List.mem_cons.mpr (.inl hm)), if_pos (List.mem_singleton.mpr hm)]
    split
    · rw [Option.or_self]
    · rw [Option.or_none]
  · simp [hm]

/-- **One mode, hit or miss.**  Walking up is the only one that notes anything, and
never in place of what was noted before. -/
theorem unset_attemptContent (type : Option PropertyType) (v : Variant) (m : Mode)
    (trail : Trail) :
    (r.attemptContent n name type v m trail).2.unset = trail.unset.or (r.noted n name [m]) := by
  cases m with
  | none => simp [attemptContent, noted]
  | defaultValue => simp [attemptContent, noted]
  | language =>
      simp only [attemptContent]
      split <;> simp [noted]
  | ancestors => simp [attemptContent, noted]
  | defaultLanguage => simp [attemptContent, noted]

/-- **One mode that misses.**  If it was to walk up, the walk found nothing. -/
theorem attemptContent_of_miss {type : Option PropertyType} {v : Variant} {m : Mode}
    {trail trail' : Trail} (h : r.attemptContent n name type v m trail = (.miss, trail')) :
    (m = .ancestors → (r.tree.ascend r.context name n).found = none) ∧
      trail'.unset = trail.unset.or (r.noted n name [m]) := by
  constructor
  · rintro rfl
    exact Selection.ofOption_eq_miss.mp (Prod.mk.inj h).1
  · rw [← unset_attemptContent type v, h]

/-- **A run that misses.**  What was noted before stays; otherwise a walk, if the
modes ask for one, leaves the property that it noted. -/
theorem tryModes_of_miss {type : Option PropertyType} {v : Variant} {ms : List Mode}
    {trail trail' : Trail}
    (h : tryModes (r.attemptContent n name type v) ms trail = (.miss, trail')) :
    (.ancestors ∈ ms → (r.tree.ascend r.context name n).found = none) ∧
      trail'.unset = trail.unset.or (r.noted n name ms) := by
  induction ms generalizing trail with
  | nil =>
      obtain ⟨_, rfl⟩ := Prod.mk.inj h
      simp [noted]
  | cons m ms ih =>
      obtain ⟨between, hstep, hrest⟩ := tryModes_cons_eq_miss.mp h
      obtain ⟨hmode, hnoted⟩ := attemptContent_of_miss hstep
      obtain ⟨hmodes, hkept⟩ := ih hrest
      constructor
      · intro hmem
        rcases List.mem_cons.mp hmem with heq | hmem
        · exact hmode heq.symm
        · exact hmodes hmem
      · rw [hkept, hnoted, Option.or_assoc, ← noted_cons]

/-! ## What comes back -/

/-- The first property above a node that its own node's type defines. -/
def firstAbove? (r : Resolver) (n : Node) (name : String) : Option Unset :=
  (r.tree.ancestors n).findSome? fun a => ownUnset? a name

/-- Whether a property without a value has one for a request after all. -/
def Holds (r : Resolver) (u : Unset) (requested : Variant) : Prop :=
  u.property.hasValue (r.variant u.property.type.variation (some u.owner) requested) = true

/-- A miss brings back a value: there is no property of the node's own, the policy
goes up the tree, and the first property there has a value for the request. -/
def Resurfaces (r : Resolver) (n : Node) (name : String) (requested : Variant)
    (policy : Policy) : Prop :=
  ownUnset? n name = none ∧ .ancestors ∈ policy.modes ∧
    ∃ u ∈ r.firstAbove? n name, r.Holds u requested

theorem selectContent_of_miss (hmiss : (r.selectContent n name requested policy).1 = .miss) :
    (.ancestors ∈ policy.modes → (r.tree.ascend r.context name n).found = none) ∧
      (r.selectContent n name requested policy).2.unset =
        (ownUnset? n name).or (r.noted n name policy.modes) := by
  have hrun : r.selectContent n name requested policy =
      (.miss, (r.selectContent n name requested policy).2) := by
    rw [← hmiss]
  exact tryModes_of_miss hrun

theorem noted_of_miss (hacyclic : r.tree.Acyclic) {modes : List Mode}
    (hnothing : .ancestors ∈ modes → (r.tree.ascend r.context name n).found = none) :
    r.noted n name modes = if .ancestors ∈ modes then r.firstAbove? n name else none := by
  unfold noted
  split
  · next hmem => exact hacyclic.ascend_unset_of_miss (hnothing hmem)
  · rfl

theorem readContent_of_miss (hlocal : r.ownValue? n name (some n.id) requested = none)
    (hmiss : (r.selectContent n name requested policy).1 = .miss) :
    (r.readContent n name requested policy).1 =
      .ofOption (r.unsetStored? (r.selectContent n name requested policy).2.unset requested) := by
  unfold readContent
  rw [hlocal]
  rcases hselect : r.selectContent n name requested policy with ⟨s, trail⟩
  rw [hselect] at hmiss
  subst hmiss
  rfl

theorem unsetStored?_eq_none (unset : Option Unset) :
    (r.unsetStored? unset requested).filter Json.isPresent = none ↔
      ∀ u ∈ unset, ¬ r.Holds u requested := by
  cases unset with
  | none => simp [unsetStored?]
  | some u =>
      simp only [unsetStored?, Holds, Property.hasValue, Property.value?, Option.bind_some,
        Option.mem_some_iff, forall_eq', Option.not_isSome_iff_eq_none]

/-- A node without a value of its own has a property of its own that holds none. -/
theorem not_holds_ownUnset (hlocal : r.ownValue? n name (some n.id) requested = none)
    {u : Unset} (hu : ownUnset? n name = some u) : ¬ r.Holds u requested := by
  obtain ⟨_, p, _, hp, rfl⟩ := ownUnset?_eq_some hu
  have hvalue : p.value? (r.variant p.type.variation (some n.id) requested) = none := by
    simpa only [ownValue?, hp, Option.bind_some] using hlocal
  simp [Holds, Property.hasValue, hvalue]

/-- Nothing comes back for a request that leaves culture and segment open, if the
properties above a node vary as the types of their nodes say. -/
theorem not_resurfaces_of_open (hacyclic : r.tree.Acyclic)
    (hmiss : (r.selectContent n name {} policy).1 = .miss)
    (hvary : ∀ a ∈ r.tree.ancestors n, ∀ type p, a.type.property? name = some type →
      a.property? name = some p → p.type.variation = type.variation) :
    ¬ r.Resurfaces n name {} policy := by
  rintro ⟨_, hmem, u, hu, hholds⟩
  have hfound := (selectContent_of_miss hmiss).1 hmem
  rw [hacyclic.ascend_found, List.findSome?_eq_none_iff] at hfound
  obtain ⟨a, ha, hown⟩ := List.exists_of_findSome?_eq_some hu
  obtain ⟨type, p, htype, hp, rfl⟩ := ownUnset?_eq_some hown
  -- The walk looked `p` up in the very variant that the request comes down to.
  have hvalue := hfound a ha
  rw [Node.offer_value?_of_property htype hp, ← hvary a ha type p htype hp] at hvalue
  simp [Holds, Property.hasValue, variant, hvalue] at hholds

/-- Leaving out `null` leaves nothing, an empty text or an empty list exactly if there
was no value that counts. -/
theorem noValue_iff (o : Option Json) :
    (o.filter (fun v => !v.isNull) = none ∨ o.filter (fun v => !v.isNull) = some (.str "") ∨
      o.filter (fun v => !v.isNull) = some (.arr [])) ↔ o.filter Json.isPresent = none := by
  cases o with
  | none => simp
  | some v => cases v <;> simp [Json.isNull, Json.isPresent]

/-- What a miss brings back, read as it is. -/
theorem content_raw_of_miss (hacyclic : r.tree.Acyclic) (default : Option Json)
    (hlocal : r.ownValue? n name (some n.id) requested = none)
    (hmiss : (r.selectContent n name requested policy).1 = .miss) :
    (r.content n name (.raw requested policy default)).1 =
      .ok ((r.unsetStored? ((ownUnset? n name).or
        (if .ancestors ∈ policy.modes then r.firstAbove? n name else none)) requested).filter
          fun v => !v.isNull) := by
  obtain ⟨hnothing, hunset⟩ := selectContent_of_miss hmiss
  rw [← noted_of_miss hacyclic hnothing, ← hunset,
    ← Request.value_raw requested policy default name, ← readContent_of_miss hlocal hmiss]
  rfl

/-- **A miss brings back no value, unless it resurfaces.**  On a tree without cycles,
let a node have no value of its own and let the policy miss.  Then reading the
value as it is gives nothing, an empty text or an empty list, except exactly if the
first property up the tree holds a value for what was requested. -/
theorem content_of_miss (hacyclic : r.tree.Acyclic) (default : Option Json)
    (hlocal : r.ownValue? n name (some n.id) requested = none)
    (hmiss : (r.tryContent n name (.raw requested policy default)).1 = .ok .notFound) :
    ∃ answer, (r.content n name (.raw requested policy default)).1 = .ok answer ∧
      ((answer = none ∨ answer = some (.str "") ∨ answer = some (.arr [])) ↔
        ¬ r.Resurfaces n name requested policy) := by
  have hselect : (r.selectContent n name requested policy).1 = .miss :=
    Selection.resolution_eq_notFound.mp hmiss
  refine ⟨_, content_raw_of_miss hacyclic default hlocal hselect, ?_⟩
  rw [noValue_iff, unsetStored?_eq_none]
  unfold Resurfaces
  cases hown : ownUnset? n name with
  | some u => simpa using not_holds_ownUnset hlocal hown
  | none => by_cases hmem : Mode.ancestors ∈ policy.modes <;> simp [hmem]

/-! ### A site that is half translated

The home page has a title, in Danish only; a contact page under it has none.  Both
are rendered in English. -/

def danishTitle : Property where
  type := ⟨"title", .culture⟩
  writes := [({ culture := some "da-DK" }, .str "Hej")]

def home : Node where
  id := ⟨1, by decide⟩
  parent := none
  path := ⟨"-1,1", by decide⟩
  type := ⟨"site", .culture, .ofList [("title", danishTitle.type)]⟩
  properties := .ofList [("title", danishTitle)]
  published := true

def contactPage : Node where
  id := ⟨2, by decide⟩
  parent := some home.id
  path := ⟨"-1,1,2", by decide⟩
  type := ⟨"page", .nothing, ∅⟩
  properties := ∅
  published := true

def englishSite : Resolver where
  context := some { culture := some "en-US" }
  tree := (Tree.empty.put home).put contactPage

theorem acyclic_englishSite : englishSite.tree.Acyclic :=
  ((Tree.ascending_empty.put rfl).put rfl).acyclic

theorem danishTitle_englishSite : danishTitle.value? { culture := some "en-US" } = none := by
  have hne : Culture.fold "da-DK" ≠ Culture.fold "en-US" := fun heq => by
    simpa [Culture.fold] using congrArg String.toList heq
  simp [danishTitle, Property.value?, Property.stored?, Variant.agree, hne]

/-- Whatever is requested, the contact page has no title and going up the tree finds
none. -/
theorem selectContent_contactPage (requested : Variant) :
    (englishSite.selectContent contactPage "title" requested (.single .ancestors)).1 = .miss := by
  have habove : englishSite.tree.ancestors contactPage = [home] := rfl
  have hoffer : (home.offer englishSite.context "title").value? = none :=
    (Node.offer_value?_of_property rfl rfl).trans danishTitle_englishSite
  have hfound : (englishSite.tree.ascend englishSite.context "title" contactPage).found = none := by
    rw [acyclic_englishSite.ascend_found, habove, List.findSome?_cons, hoffer]
    rfl
  simp [selectContent, Policy.single, tryModes, attemptContent, hfound, Selection.ofOption]

theorem tryContent_contactPage (requested : Variant) :
    (englishSite.tryContent contactPage "title" (.raw requested (.single .ancestors) none)).1 =
      .ok .notFound :=
  Selection.resolution_eq_notFound.mpr (selectContent_contactPage requested)

/-- Asked for nothing special, the contact page has no title. -/
theorem content_of_miss_contactPage :
    englishSite.tree.Acyclic ∧
      englishSite.ownValue? contactPage "title" (some contactPage.id) {} = none ∧
      (englishSite.tryContent contactPage "title" (.raw {} (.single .ancestors) none)).1 =
        .ok .notFound ∧
      ∃ answer,
        (englishSite.content contactPage "title" (.raw {} (.single .ancestors) none)).1 =
          .ok answer ∧
        (answer = none ∨ answer = some (.str "") ∨ answer = some (.arr [])) := by
  have hlocal : englishSite.ownValue? contactPage "title" (some contactPage.id) {} = none := rfl
  have hnot : ¬ englishSite.Resurfaces contactPage "title" {} (.single .ancestors) := by
    refine not_resurfaces_of_open acyclic_englishSite (selectContent_contactPage {}) ?_
    intro a ha type p htype hp
    obtain rfl : a = home := List.mem_singleton.mp ha
    obtain rfl : danishTitle.type = type := Option.some.inj htype
    obtain rfl : danishTitle = p := Option.some.inj hp
    rfl
  obtain ⟨answer, hanswer, hiff⟩ := content_of_miss acyclic_englishSite none hlocal
    (tryContent_contactPage {})
  exact ⟨acyclic_englishSite, hlocal, tryContent_contactPage {}, answer, hanswer, hiff.mpr hnot⟩

/-- Asked for Danish, the contact page has no title either, and yet the Danish title of
the home page is read. -/
theorem danishTitle_resurfaces :
    englishSite.tree.Acyclic ∧
      englishSite.ownValue? contactPage "title" (some contactPage.id)
        { culture := some "da-DK" } = none ∧
      (englishSite.tryContent contactPage "title"
        (.raw { culture := some "da-DK" } (.single .ancestors) none)).1 = .ok .notFound ∧
      (englishSite.content contactPage "title"
        (.raw { culture := some "da-DK" } (.single .ancestors) none)).1 =
          .ok (some (.str "Hej")) := by
  refine ⟨acyclic_englishSite, rfl, tryContent_contactPage _, ?_⟩
  rw [content_raw_of_miss acyclic_englishSite none rfl (selectContent_contactPage _)]
  have hunset : (ownUnset? contactPage "title").or
      (if .ancestors ∈ (Policy.single .ancestors).modes then
        englishSite.firstAbove? contactPage "title" else none) =
      some ⟨home.id, danishTitle⟩ := rfl
  have hvariant : englishSite.variant danishTitle.type.variation (some home.id)
      { culture := some "da-DK" } = { culture := some "da-DK" } := rfl
  have hstored : danishTitle.stored? { culture := some "da-DK" } = some (.str "Hej") := by
    simp [danishTitle, Property.stored?, Variant.agree]
  rw [hunset, unsetStored?, Option.bind_some, hvariant, hstored]
  rfl

end Resolver

end Publishing
