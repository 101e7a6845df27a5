import Publishing.Proofs.Culture
import Publishing.Proofs.Resolve.Subject

/-!
# Names that the type of a node does not define

A node can be asked for a name that its own type does not define, since a node above
it may have it.  The caller's default and the walk up the tree apply to it as they
would otherwise.  Fallback languages are not followed.  The default language is
tried, though, in the culture that was asked for: this misses unless the node carries
a property under the name all the same.

* `Strays` says when the default language does not miss, and
  `inDefault_eq_some_iff_strays` that there is no other way.
* `selectContent_without_language` and `selectContent_without_defaultLanguage`: modes
  that can be taken out of a policy.
* `tryContent_of_undefined`: what is answered, with and without a stray value.
* `strayTitle_found`: a page on which the default language answers.
-/

namespace Publishing

/-- The policy with every occurrence of a mode taken out. -/
def Policy.without (p : Policy) (m : Mode) : Policy :=
  ⟨p.modes.filter (· ≠ m)⟩

/-- The request with a mode taken out of its policy. -/
def Request.without {α ε : Type} (q : Request α ε) (m : Mode) : Request α ε :=
  { q with policy := q.policy.without m }

theorem Policy.without_of_notMem {p : Policy} {m : Mode} (h : m ∉ p.modes) : p.without m = p := by
  refine Policy.ext (List.filter_eq_self.mpr fun other hother => ?_)
  have hne : other ≠ m := fun heq => h (heq ▸ hother)
  simpa using hne

/-- A property has no value that is `null`, so reading one in a language leaves none out. -/
theorem Node.readIn_value? (n : Node) (name : String) (v : Variant) (culture : String) :
    Languages.readIn (n.value? name) v culture =
      n.value? name { v with culture := some culture } := by
  unfold Languages.readIn
  cases hvalue : n.value? name { v with culture := some culture } with
  | none => rfl
  | some value =>
      obtain ⟨p, _, hp⟩ := Option.bind_eq_some_iff.mp hvalue
      have hne : value ≠ .null := Property.ne_null_of_value? hp
      cases value with
      | null => exact absurd rfl hne
      | bool | int | float | str | arr | obj => rfl

namespace Resolver

variable {α ε : Type} {r : Resolver} {n : Node} {name : String} {requested : Variant}
  {policy : Policy} {value : Json}

/-- A culture is asked for, the default language is another one, and the node carries a
property under the name that has a value in it. -/
def Strays (r : Resolver) (n : Node) (name : String) (requested : Variant) (value : Json) : Prop :=
  ∃ culture default p, requested.culture = some culture ∧ Text.isBlank culture = false ∧
    r.languages.defaultIsoCode? = some default ∧ Culture.agree culture default = false ∧
    n.property? name = some p ∧ p.value? ⟨some default, requested.segment⟩ = some value

theorem inDefault_eq_some_iff_strays :
    r.languages.inDefault (n.value? name) requested = some value ↔
      r.Strays n name requested value := by
  simp only [Languages.inDefault_eq_some_iff, Node.readIn_value?, Node.value?,
    Option.bind_eq_some_iff, Strays, exists_and_left]

theorem inDefault_eq_none_of_not_strays (h : ∀ value, ¬ r.Strays n name requested value) :
    r.languages.inDefault (n.value? name) requested = none := by
  rw [Option.eq_none_iff_forall_ne_some]
  exact fun value hvalue => h value (inDefault_eq_some_iff_strays.mp hvalue)

/-! ## Modes that play no part -/

/-- What is answered depends on the policy by what it selects. -/
theorem tryContent_of_policy {q : Request α ε} {other : Policy}
    (h : r.selectContent n name q.variant other = r.selectContent n name q.variant q.policy) :
    r.tryContent n name { q with policy := other } = r.tryContent n name q := by
  simp only [tryContent, h]
  rfl

section

variable (hundefined : n.type.property? name = none)

include hundefined

theorem contentVariant_of_undefined : r.contentVariant n name requested = requested := by
  rw [contentVariant, hundefined]

theorem selectContent_without_language :
    r.selectContent n name requested (policy.without .language) =
      r.selectContent n name requested policy := by
  refine tryModes_filter_ne (fun trail => ?_) policy.modes _
  rw [attemptContent, hundefined]
  rfl

theorem attemptContent_defaultLanguage (trail : Trail) :
    r.attemptContent n name (n.type.property? name) (r.contentVariant n name requested)
        .defaultLanguage trail =
      (.ofOption (r.languages.inDefault (n.value? name) requested), trail) := by
  rw [attemptContent, contentVariant_of_undefined hundefined]

theorem selectContent_without_defaultLanguage
    (hstray : ∀ value, ¬ r.Strays n name requested value) :
    r.selectContent n name requested (policy.without .defaultLanguage) =
      r.selectContent n name requested policy := by
  refine tryModes_filter_ne (fun trail => ?_) policy.modes _
  rw [attemptContent_defaultLanguage hundefined, inDefault_eq_none_of_not_strays hstray]
  rfl

/-! ## A stray value -/

/-- The default language answers with a stray value if no mode before it does. -/
theorem selectContent_of_strays (hvalue : r.Strays n name requested value)
    (before after : List Mode) (hmodes : policy.modes = before ++ .defaultLanguage :: after) :
    r.selectContent n name requested policy =
      if (r.selectContent n name requested ⟨before⟩).1.isMiss then
        (.stored value, (r.selectContent n name requested ⟨before⟩).2)
      else r.selectContent n name requested ⟨before⟩ := by
  unfold selectContent
  rw [hmodes]
  split
  · next hmiss =>
    have hstep : ∀ trail, r.attemptContent n name (n.type.property? name)
        (r.contentVariant n name requested) .defaultLanguage trail = (.stored value, trail) := by
      intro trail
      rw [attemptContent_defaultLanguage hundefined, inDefault_eq_some_iff_strays.mpr hvalue]
      rfl
    have hhit : ∀ trail, (r.attemptContent n name (n.type.property? name)
        (r.contentVariant n name requested) .defaultLanguage trail).1 ≠ .miss := by
      simp [hstep]
    rw [tryModes_append_of_miss (Selection.isMiss_iff.mp hmiss), tryModes_cons_of_hit (hhit _),
      hstep]
  · next hhit => exact tryModes_append_of_hit (mt Selection.isMiss_iff.mpr hhit) _

end

/-! ## The main result -/

/-- **A name that the type of a node does not define.**  What is answered for it and
what is reported are the same without any language mode in the policy, if the policy
does not ask for the default language or no value strays.  If one does, then the first
time that the default language is asked for it answers with the stray value, unless a
mode before it has answered.  Following fallback languages never makes a difference. -/
theorem tryContent_of_undefined (hundefined : n.type.property? name = none) (q : Request α ε) :
    r.tryContent n name (q.without .language) = r.tryContent n name q ∧
    (.defaultLanguage ∉ q.policy.modes ∨ (∀ value, ¬ r.Strays n name q.variant value) →
      r.tryContent n name ((q.without .language).without .defaultLanguage) =
        r.tryContent n name q) ∧
    ∀ value, r.Strays n name q.variant value →
      ∀ before after, q.policy.modes = before ++ .defaultLanguage :: after →
        r.tryContent n name q =
          if missed (r.tryContent n name { q with policy := ⟨before⟩ }).1 then
            (q.resolution name (.stored value),
              (r.tryContent n name { q with policy := ⟨before⟩ }).2)
          else r.tryContent n name { q with policy := ⟨before⟩ } := by
  have hlanguage : r.tryContent n name (q.without .language) = r.tryContent n name q :=
    tryContent_of_policy (selectContent_without_language hundefined)
  refine ⟨hlanguage, ?_, ?_⟩
  · rintro (hnone | hstray)
    · have hmodes : .defaultLanguage ∉ (q.without .language).policy.modes := fun hmem =>
        hnone (List.mem_filter.mp hmem).1
      rw [Request.without, Policy.without_of_notMem hmodes]
      exact hlanguage
    · refine Eq.trans (tryContent_of_policy ?_) hlanguage
      exact selectContent_without_defaultLanguage hundefined hstray
  · intro value hvalue before after hmodes
    have hselect := selectContent_of_strays hundefined hvalue before after hmodes
    simp only [tryContent, Request.missed_resolution, hselect]
    split <;> rfl

/-! ### A title of which the type knows nothing

The page carries a title in English, the default language, and its type defines no
title. -/

def strayTitle : Property where
  type := ⟨"title", .culture⟩
  writes := [({ culture := some "en-US" }, .str "Hello")]

def untypedPage : Node where
  id := ⟨4, by decide⟩
  parent := none
  path := ⟨"-1,4", by decide⟩
  type := ⟨"page", .nothing, ∅⟩
  properties := .ofList [("title", strayTitle)]
  published := true

def untypedSite : Resolver where
  languages := Languages.empty.add { isoCode := "en-US", isDefault := true }
  tree := Tree.empty.put untypedPage

/-- A title, in a given culture. -/
def askTitle (culture : String) (modes : List Mode) : Request Json Mismatch :=
  .raw { culture := some culture } ⟨modes⟩ (some (.str "Untitled"))

theorem defaultIsoCode?_untypedSite : untypedSite.languages.defaultIsoCode? = some "en-US" :=
  rfl

theorem strays_untypedPage :
    untypedSite.Strays untypedPage "title" { culture := some "da-DK" } (.str "Hello") := by
  refine ⟨"da-DK", "en-US", strayTitle, rfl, by decide, defaultIsoCode?_untypedSite, ?_, rfl, ?_⟩
  · decide +kernel
  · simp [strayTitle, Property.value?, Property.stored?, Variant.agree, Json.isPresent]

/-- Nothing strays for the default language itself. -/
theorem not_strays_untypedPage (value : Json) :
    ¬ untypedSite.Strays untypedPage "title" { culture := some "EN-us" } value := by
  rintro ⟨culture, default, _, hculture, _, hdefault, hother, _⟩
  obtain rfl := Option.some.inj hculture
  obtain rfl := Option.some.inj (defaultIsoCode?_untypedSite.symm.trans hdefault)
  have hsame : Culture.agree "EN-us" "en-US" = true := by
    rw [Culture.agree_iff, Culture.fold_eq_iff]
    decide
  rw [hsame] at hother
  cases hother

/-- The page answers with its stray title before the caller's default is tried, and with
the caller's default where English is asked for. -/
theorem tryContent_of_undefined_untypedPage :
    untypedPage.type.property? "title" = none ∧
      untypedSite.Strays untypedPage "title" { culture := some "da-DK" } (.str "Hello") ∧
      (∀ value, ¬ untypedSite.Strays untypedPage "title" { culture := some "EN-us" } value) ∧
      (untypedSite.tryContent untypedPage "title"
        (askTitle "da-DK" [.language, .ancestors, .defaultLanguage, .defaultValue])).1 =
          .ok (.found (some (.str "Hello"))) ∧
      (untypedSite.tryContent untypedPage "title"
        (askTitle "EN-us" [.language, .ancestors, .defaultLanguage, .defaultValue])).1 =
          .ok (.found (some (.str "Untitled"))) := by
  have hundefined : untypedPage.type.property? "title" = none := rfl
  obtain ⟨_, _, hstray⟩ := tryContent_of_undefined (r := untypedSite) hundefined
    (askTitle "da-DK" [.language, .ancestors, .defaultLanguage, .defaultValue])
  obtain ⟨_, hsame, _⟩ := tryContent_of_undefined (r := untypedSite) hundefined
    (askTitle "EN-us" [.language, .ancestors, .defaultLanguage, .defaultValue])
  refine ⟨hundefined, strays_untypedPage, not_strays_untypedPage, ?_, ?_⟩
  · rw [hstray _ strays_untypedPage [.language, .ancestors] [.defaultValue] rfl]
    rfl
  · rw [← hsame (.inr not_strays_untypedPage)]
    rfl

/-- **The default language can answer for a name that the type does not define.**  It is
all of the policy, and without it there is no answer. -/
theorem strayTitle_found :
    untypedPage.type.property? "title" = none ∧ untypedSite.tree.Acyclic ∧
      (untypedSite.tryContent untypedPage "title" (askTitle "da-DK" [.defaultLanguage])).1 =
        .ok (.found (some (.str "Hello"))) ∧
      (untypedSite.tryContent untypedPage "title"
        (((askTitle "da-DK" [.defaultLanguage]).without .language).without .defaultLanguage)).1 =
          .ok .notFound := by
  refine ⟨rfl, (Tree.ascending_empty.put rfl).acyclic, ?_, rfl⟩
  have hselect : untypedSite.selectContent untypedPage "title" { culture := some "da-DK" }
      ⟨[.defaultLanguage]⟩ = _ := selectContent_of_strays rfl strays_untypedPage [] [] rfl
  rw [tryContent, askTitle, Request.raw, hselect]
  rfl

end Resolver

end Publishing
