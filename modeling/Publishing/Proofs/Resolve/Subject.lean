import Publishing.Proofs.Resolve.LanguageFallback
import Publishing.Proofs.Resolve.LocalFirst
import Publishing.Proofs.Resolve.NearestAncestor

/-!
# What a value is asked for

A value is asked for on a property, on a property of an element or on a property of a
node in the tree, and on each of them in two ways.  What does not depend on the
level is said here for all three together.

* `Subject` is what a value is asked for, `tryOn` and `readOn` are the two ways to ask.
* `attemptOn`, `ownOn?` and `noValueOn?` are the parts that a level adds: what a mode
  selects, the own value, and what is stored for "no value".
* `tryOn_eq` and `readOn_eq` put the calls together from these parts.
* `selectionOn_stored` and `selectionOn_callerDefault` tell where a selection comes
  from: a mode never selects `null`.
-/

namespace Publishing

/-- What a value is asked for. -/
inductive Subject where
  | property (p : Property)
  | element (n : Node) (name : String)
  | content (n : Node) (name : String)

namespace Subject

/-- The name of the property that a value is asked for. -/
def name : Subject → String
  | .property p => p.name
  | .element _ name => name
  | .content _ name => name

/-- What is on the trail before any mode is tried. -/
def start : Subject → Trail
  | .property _ => {}
  | .element _ _ => {}
  | .content n name => { unset := Resolver.ownUnset? n name }

end Subject

namespace Resolver

variable {α ε : Type}

/-- Runs the policy. -/
def tryOn (r : Resolver) (q : Request α ε) :
    Subject → Except (ResolveError ε) (Resolution α) × Trail
  | .property p => (r.tryProperty p q, {})
  | .element n name => (r.tryElement n name q, {})
  | .content n name => r.tryContent n name q

/-- Reads a property, with the number of steps up the tree. -/
def readOn (r : Resolver) (q : Request α ε) :
    Subject → Except (ResolveError ε) (Option α) × Nat
  | .property p => (r.property p q, 0)
  | .element n name => (r.element n name q, 0)
  | .content n name => r.content n name q

/-! ## The parts of a call -/

/-- Tries one mode.  For a name that the type of an element does not define, every
mode misses. -/
def attemptOn (r : Resolver) (requested : Variant) :
    Subject → Mode → Trail → Selection × Trail
  | .property p => fun m trail =>
    (r.attemptFlat .property p.value? (r.variant p.type.variation none requested) m, trail)
  | .element n name => fun m trail =>
    match n.type.property? name with
    | none => (.miss, trail)
    | some type =>
      (r.attemptFlat .element (n.value? name) (r.variant type.variation none requested) m, trail)
  | .content n name =>
    r.attemptContent n name (n.type.property? name) (r.contentVariant n name requested)

/-- Tries the modes of a policy. -/
def selectOn (r : Resolver) (requested : Variant) (policy : Policy) (s : Subject) :
    Selection × Trail :=
  tryModes (r.attemptOn requested s) policy.modes s.start

/-- The property's own value. -/
def ownOn? (r : Resolver) (requested : Variant) : Subject → Option Json
  | .property p => p.value? (r.variant p.type.variation none requested)
  | .element n name => r.ownValue? n name none requested
  | .content n name => r.ownValue? n name (some n.id) requested

/-- What a property stores for "no value", and the name of that property.  On a node it
is the first property met without a value. -/
def noValueOn? (r : Resolver) (requested : Variant) (unset : Option Unset) :
    Subject → Option (String × Json)
  | .property p =>
    (p.stored? (r.variant p.type.variation none requested)).map (p.name, ·)
  | .element n name => (n.property? name).bind fun p =>
    (p.stored? (r.variant p.type.variation none requested)).map (p.name, ·)
  | .content _ _ => unset.bind fun u =>
    (u.property.stored? (r.variant u.property.type.variation (some u.owner) requested)).map
      (u.property.name, ·)

variable {r : Resolver} {requested : Variant} {policy : Policy} {s : Subject} {m : Mode}

/-- Modes that look at no notes leave them as they are. -/
theorem tryModes_keep {σ : Type} (sel : Mode → Selection) (ms : List Mode) (notes : σ) :
    tryModes (fun m notes => (sel m, notes)) ms notes =
      ((tryModes (fun m _ => (sel m, ())) ms ()).1, notes) := by
  induction ms with
  | nil => rfl
  | cons m ms ih =>
      simp only [tryModes]
      cases sel m with
      | miss => exact ih
      | stored v => rfl
      | callerDefault => rfl
      | unsupported mode level => rfl

theorem selectOn_property (p : Property) :
    r.selectOn requested policy (.property p) = (r.selectProperty p requested policy, {}) :=
  tryModes_keep _ policy.modes _

theorem selectOn_element (n : Node) (name : String) :
    r.selectOn requested policy (.element n name) =
      (r.selectElement n name requested policy, {}) := by
  simp only [selectOn, attemptOn, selectElement]
  cases n.type.property? name with
  | none =>
      rw [tryModes_keep (fun _ => .miss)]
      suffices hmiss : ∀ ms, (tryModes (fun _ _ => (.miss, ())) ms ()).1 = .miss by
        rw [hmiss]
        rfl
      intro ms
      induction ms with
      | nil => rfl
      | cons m ms ih => exact ih
  | some type => exact tryModes_keep _ policy.modes _

theorem tryOn_eq (r : Resolver) (q : Request α ε) (s : Subject) :
    r.tryOn q s = (q.resolution s.name (r.selectOn q.variant q.policy s).1,
      (r.selectOn q.variant q.policy s).2) := by
  cases s with
  | property p => rw [selectOn_property]; rfl
  | element n name => rw [selectOn_element]; rfl
  | content n name => rfl

/-- **The own value first, then the policy, then what is stored for "no value"**, at
every level. -/
theorem readOn_eq (r : Resolver) (q : Request α ε) (s : Subject) :
    r.readOn q s =
      (q.value s.name ((Selection.ofOption (r.ownOn? q.variant s)).or
        ((r.selectOn q.variant q.policy s).1.or
          (.ofOption ((r.noValueOn? q.variant (r.selectOn q.variant q.policy s).2.unset s).map
            Prod.snd)))),
        if (r.ownOn? q.variant s).isSome then 0
        else (r.selectOn q.variant q.policy s).2.steps) := by
  cases s with
  | property p =>
      rw [selectOn_property, readOn, property, readProperty_eq, noValueOn?, Option.map_map,
        Function.comp_def, Option.map_id', ite_self]
      rfl
  | element n name =>
      rw [selectOn_element, readOn, element, readElement_eq, noValueOn?, Option.map_bind, ite_self]
      simp only [Function.comp_def, Option.map_map, Option.map_id']
      rfl
  | content n name =>
      have hread : r.readOn q (.content n name) =
          (q.value name (r.readContent n name q.variant q.policy).1,
            (r.readContent n name q.variant q.policy).2) := rfl
      rw [hread, readContent_fst, readContent_snd, unsetStored?, noValueOn?, Option.map_bind]
      simp only [Function.comp_def, Option.map_map, Option.map_id']
      rfl

end Resolver

/-! ## Where a selection comes from -/

namespace Languages

variable {ls : Languages} {lookup : Variant → Option Json} {v : Variant} {value : Json}

theorem ne_null_of_readIn {culture : String} (h : readIn lookup v culture = some value) :
    value ≠ .null := by
  rintro rfl
  simp [readIn, Option.filter_eq_some_iff, Json.isNull] at h

theorem ne_null_of_inChain (h : ls.inChain lookup v = some value) : value ≠ .null := by
  obtain ⟨_, _, hfirst⟩ := inChain_eq_some_iff_chain.mp h
  obtain ⟨_, _, hread⟩ := List.exists_of_findSome?_eq_some hfirst
  exact ne_null_of_readIn hread

theorem ne_null_of_inDefault (h : ls.inDefault lookup v = some value) : value ≠ .null := by
  simp only [inDefault, Option.bind_eq_bind, Option.bind_eq_some_iff] at h
  obtain ⟨_, _, default, _, hread⟩ := h
  split at hread
  · cases hread
  · exact ne_null_of_readIn hread

end Languages

theorem Property.ne_null_of_value? {p : Property} {v : Variant} {value : Json}
    (h : p.value? v = some value) : value ≠ .null := by
  rintro rfl
  simp [value?, Option.filter_eq_some_iff, Json.isPresent] at h

theorem Tree.ne_null_of_ascend {t : Tree} {context : Option RenderContext} {name : String}
    {n : Node} {value : Json} (h : (t.ascend context name n).found = some value) :
    value ≠ .null := by
  rw [ascend, ascendWithin_found] at h
  obtain ⟨a, _, hoffer⟩ := List.exists_of_findSome?_eq_some h
  obtain ⟨_, _, _, _, hvalue⟩ := Node.offer_value?_eq_some_iff.mp hoffer
  exact Property.ne_null_of_value? hvalue

@[simp] theorem Selection.ofOption_eq_stored {o : Option Json} {value : Json} :
    Selection.ofOption o = .stored value ↔ o = some value := by
  cases o <;> simp [Selection.ofOption]

@[simp] theorem Selection.ofOption_ne_callerDefault (o : Option Json) :
    Selection.ofOption o ≠ .callerDefault := by
  cases o <;> simp [Selection.ofOption]

namespace Resolver

variable {r : Resolver} {requested : Variant} {policy : Policy} {s : Subject} {m : Mode}

/-- What one mode selects. -/
def selectionOn (r : Resolver) (requested : Variant) (s : Subject) (m : Mode) : Selection :=
  (r.attemptOn requested s m {}).1

theorem fst_attemptOn (m : Mode) (trail : Trail) :
    (r.attemptOn requested s m trail).1 = r.selectionOn requested s m := by
  cases s with
  | property p => rfl
  | element n name =>
      simp only [selectionOn, attemptOn]
      cases n.type.property? name <;> rfl
  | content n name => exact fst_attemptContent _ _ m trail

theorem fst_selectOn :
    (r.selectOn requested policy s).1 = firstHit (r.selectionOn requested s) policy.modes :=
  tryModes_fst_eq_firstHit _ fst_attemptOn policy.modes s.start

theorem attemptFlat_stored {level : Level} {lookup : Variant → Option Json} {v : Variant}
    {value : Json} (h : r.attemptFlat level lookup v m = .stored value) : value ≠ .null := by
  cases m with
  | none | defaultValue | ancestors => cases h
  | language => exact Languages.ne_null_of_inChain (Selection.ofOption_eq_stored.mp h)
  | defaultLanguage => exact Languages.ne_null_of_inDefault (Selection.ofOption_eq_stored.mp h)

theorem attemptFlat_callerDefault {level : Level} {lookup : Variant → Option Json} {v : Variant}
    (h : r.attemptFlat level lookup v m = .callerDefault) : m = .defaultValue := by
  cases m with
  | defaultValue => rfl
  | none | ancestors => cases h
  | language | defaultLanguage => exact absurd h (Selection.ofOption_ne_callerDefault _)

/-- **No mode selects `null`.** -/
theorem selectionOn_stored {value : Json} (h : r.selectionOn requested s m = .stored value) :
    value ≠ .null := by
  cases s with
  | property p => exact attemptFlat_stored h
  | element n name =>
      simp only [selectionOn, attemptOn] at h
      cases htype : n.type.property? name with
      | none => simp [htype] at h
      | some type => exact attemptFlat_stored (by simpa [htype] using h)
  | content n name =>
      cases m with
      | none | defaultValue => cases h
      | language =>
          simp only [selectionOn, attemptOn, attemptContent] at h
          split at h
          · cases h
          · exact Languages.ne_null_of_inChain (Selection.ofOption_eq_stored.mp h)
      | ancestors => exact Tree.ne_null_of_ascend (Selection.ofOption_eq_stored.mp h)
      | defaultLanguage =>
          exact Languages.ne_null_of_inDefault (Selection.ofOption_eq_stored.mp h)

theorem ne_null_of_ownOn? {value : Json} (h : r.ownOn? requested s = some value) :
    value ≠ .null := by
  cases s with
  | property p => exact Property.ne_null_of_value? h
  | element n name | content n name =>
      obtain ⟨p, _, hvalue⟩ := Option.bind_eq_some_iff.mp h
      exact Property.ne_null_of_value? hvalue

/-- Where any mode may select something, the mode for the caller's default does. -/
theorem selectionOn_defaultValue (s : Subject) :
    r.selectionOn requested s .defaultValue = .callerDefault ∨
      r.selectionOn requested s .defaultValue = .miss := by
  cases s with
  | property p => exact .inl rfl
  | element n name =>
      simp only [selectionOn, attemptOn]
      cases n.type.property? name with
      | none => exact .inr rfl
      | some type => exact .inl rfl
  | content n name => exact .inl rfl

/-- Only one mode selects the caller's default. -/
theorem selectionOn_callerDefault (h : r.selectionOn requested s m = .callerDefault) :
    m = .defaultValue := by
  cases s with
  | property p => exact attemptFlat_callerDefault h
  | element n name =>
      simp only [selectionOn, attemptOn] at h
      cases htype : n.type.property? name with
      | none => simp [htype] at h
      | some type => exact attemptFlat_callerDefault (by simpa [htype] using h)
  | content n name =>
      cases m with
      | defaultValue => rfl
      | none => cases h
      | language =>
          simp only [selectionOn, attemptOn, attemptContent] at h
          split at h
          · cases h
          · exact absurd h (Selection.ofOption_ne_callerDefault _)
      | ancestors | defaultLanguage => exact absurd h (Selection.ofOption_ne_callerDefault _)

end Resolver

end Publishing
