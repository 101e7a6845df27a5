import Mathlib.Data.List.Forall2
import Publishing.Proofs.Resolve.Decisive
import Publishing.Proofs.Resolve.LocalFirst

/-!
# Two runs side by side

Two resolvers with two nodes and two requests are run on the same policy.  This file
says what has to correspond on the two sides for the answers to be alike.

* `tryModes_inStep`: if every mode selects alike and keeps the notes related, so does
  the run.  The relation `R` between the properties noted is left open: they may be
  the same, or differ in how they are written.
* `Languages.InStep`: the two language modes read alike.  Where no tree is walked
  nothing else is needed (`selectFlat_inStep`).
* `Ascent.along_inStep`: two walks are in step if the nodes they meet offer alike, one
  by one.
* `selectContent_inStep`: policies on a node, from `NodeInStep`.
* `readProperty_inStep`, `readElement_inStep` and `readContent_inStep`: readings, if
  moreover the same is stored.
-/

namespace Publishing

/-! ## Running modes -/

/-- **Runs in step.**  If every mode selects alike on both sides and keeps the notes
related, so does a run. -/
theorem tryModes_inStep {σ σ' : Type} {R : σ → σ' → Prop} {attempt : Mode → σ → Selection × σ}
    {attempt' : Mode → σ' → Selection × σ'}
    (hstep : ∀ m notes notes', R notes notes' →
      (attempt' m notes').1 = (attempt m notes).1 ∧ R (attempt m notes).2 (attempt' m notes').2)
    (ms : List Mode) {notes : σ} {notes' : σ'} (h : R notes notes') :
    (tryModes attempt' ms notes').1 = (tryModes attempt ms notes).1 ∧
      R (tryModes attempt ms notes).2 (tryModes attempt' ms notes').2 := by
  induction ms generalizing notes notes' with
  | nil => exact ⟨rfl, h⟩
  | cons m ms ih =>
      obtain ⟨hsame, hrelated⟩ := hstep m notes notes' h
      by_cases hmiss : (attempt m notes).1 = .miss
      · rw [tryModes_cons_of_miss hmiss, tryModes_cons_of_miss (hsame.trans hmiss)]
        exact ih hrelated
      · have hmiss' : (attempt' m notes').1 ≠ .miss := by rwa [hsame]
        rw [tryModes_cons_of_hit hmiss, tryModes_cons_of_hit hmiss']
        exact ⟨hsame, hrelated⟩

/-! ## Languages -/

/-- Both language modes read alike on the two sides. -/
structure Languages.InStep (ls ls' : Languages) (lookup lookup' : Variant → Option Json)
    (v v' : Variant) : Prop where
  chain : ls'.inChain lookup' v' = ls.inChain lookup v
  default : ls'.inDefault lookup' v' = ls.inDefault lookup v

theorem Resolver.selectFlat_inStep {r r' : Resolver} {lookup lookup' : Variant → Option Json}
    {v v' : Variant} (h : r.languages.InStep r'.languages lookup lookup' v v') (level : Level)
    (policy : Policy) :
    r'.selectFlat level lookup' v' policy = r.selectFlat level lookup v policy := by
  have hmode : ∀ m, r'.attemptFlat level lookup' v' m = r.attemptFlat level lookup v m := by
    intro m
    cases m with
    | none => rfl
    | defaultValue => rfl
    | language => rw [attemptFlat, attemptFlat, h.chain]
    | ancestors => rfl
    | defaultLanguage => rw [attemptFlat, attemptFlat, h.default]
  rw [selectFlat_eq_firstHit, selectFlat_eq_firstHit]
  exact firstHit_congr fun m _ => hmode m

/-! ## Walks -/

variable {R : Unset → Unset → Prop}

/-- Two nodes offer the same value, properties without a value that correspond, or both
of them nothing. -/
inductive Offer.InStep (R : Unset → Unset → Prop) : Offer → Offer → Prop
  | value (v : Json) : InStep R (.value v) (.value v)
  | unset {u u' : Unset} (h : R u u') : InStep R (.unset u) (.unset u')
  | nothing : InStep R .nothing .nothing

/-- Two walks find the same in as many steps and note properties that correspond. -/
structure Ascent.InStep (R : Unset → Unset → Prop) (a a' : Ascent) : Prop where
  found : a'.found = a.found
  unset : Option.Rel R a.unset a'.unset
  steps : a'.steps = a.steps

/-- **Walks in step.**  Walks along nodes that offer alike, one by one, come out alike. -/
theorem Ascent.along_inStep {context context' : Option RenderContext} {name : String}
    {as as' : List Node}
    (h : List.Forall₂ (fun a a' => (a.offer context name).InStep R (a'.offer context' name)) as as') :
    (Ascent.along context name as).InStep R (Ascent.along context' name as') := by
  induction h with
  | nil => exact ⟨rfl, .none, rfl⟩
  | @cons a a' as as' hoffer _ ih =>
      rw [Ascent.along, Ascent.along]
      revert hoffer
      generalize a.offer context name = offer, a'.offer context' name = offer'
      rintro (v | hrelated | _)
      · exact ⟨rfl, .none, rfl⟩
      · exact ⟨ih.found, .some hrelated, congrArg (· + 1) ih.steps⟩
      · exact ⟨ih.found, ih.unset, congrArg (· + 1) ih.steps⟩

/-! ## Nodes -/

/-- Two trails note properties that correspond, after as many steps. -/
structure Trail.InStep (R : Unset → Unset → Prop) (t t' : Trail) : Prop where
  unset : Option.Rel R t.unset t'.unset
  steps : t'.steps = t.steps

theorem rel_or {a a' b b' : Option Unset} (ha : Option.Rel R a a') (hb : Option.Rel R b b') :
    Option.Rel R (a.or b) (a'.or b') := by
  cases ha with
  | some h => exact .some h
  | none => exact hb

namespace Resolver

/-- What corresponds on the two sides when a node is asked for a name. -/
structure NodeInStep (R : Unset → Unset → Prop) (r r' : Resolver) (n n' : Node) (name : String)
    (requested requested' : Variant) : Prop where
  defines : (n'.type.property? name).isNone = (n.type.property? name).isNone
  languages : r.languages.InStep r'.languages (n.value? name) (n'.value? name)
    (r.contentVariant n name requested) (r'.contentVariant n' name requested')
  walk : (r.tree.ascend r.context name n).InStep R (r'.tree.ascend r'.context name n')
  own : Option.Rel R (ownUnset? n name) (ownUnset? n' name)

variable {r r' : Resolver} {n n' : Node} {name : String} {requested requested' : Variant}

theorem NodeInStep.attemptContent (h : NodeInStep R r r' n n' name requested requested') (m : Mode)
    {trail trail' : Trail} (htrail : trail.InStep R trail') :
    let a := r.attemptContent n name (n.type.property? name)
      (r.contentVariant n name requested) m trail
    let a' := r'.attemptContent n' name (n'.type.property? name)
      (r'.contentVariant n' name requested') m trail'
    a'.1 = a.1 ∧ a.2.InStep R a'.2 := by
  cases m with
  | none => exact ⟨rfl, htrail⟩
  | defaultValue => exact ⟨rfl, htrail⟩
  | language =>
      simp only [Resolver.attemptContent, h.defines, h.languages.chain]
      split
      · exact ⟨rfl, htrail⟩
      · exact ⟨rfl, htrail⟩
  | ancestors =>
      have hsteps : trail'.steps + (r'.tree.ascend r'.context name n').steps =
          trail.steps + (r.tree.ascend r.context name n).steps := by
        rw [htrail.steps, h.walk.steps]
      exact ⟨congrArg Selection.ofOption h.walk.found, rel_or htrail.unset h.walk.unset, hsteps⟩
  | defaultLanguage => exact ⟨congrArg Selection.ofOption h.languages.default, htrail⟩

/-- **Policies in step**, on nodes in step. -/
theorem selectContent_inStep (h : NodeInStep R r r' n n' name requested requested')
    (policy : Policy) :
    (r'.selectContent n' name requested' policy).1 =
        (r.selectContent n name requested policy).1 ∧
      (r.selectContent n name requested policy).2.InStep R
        (r'.selectContent n' name requested' policy).2 :=
  tryModes_inStep (R := Trail.InStep R) (fun m _ _ => h.attemptContent m) policy.modes ⟨h.own, rfl⟩

/-! ## Reading -/

variable {p p' : Property}

/-- **Readings in step**, of a property: it stores the same, and the policy selects the
same. -/
theorem readProperty_inStep
    (hstored : p'.stored? (r'.variant p'.type.variation none requested') =
      p.stored? (r.variant p.type.variation none requested)) {policy : Policy}
    (hselect : r'.selectProperty p' requested' policy = r.selectProperty p requested policy) :
    r'.readProperty p' requested' policy = r.readProperty p requested policy := by
  rw [readProperty_eq, readProperty_eq, Property.value?, Property.value?, hstored, hselect]

/-- On an element, its own property has to store the same. -/
theorem readElement_inStep
    (hown : r'.ownStored? n' name none requested' = r.ownStored? n name none requested)
    {policy : Policy} (hselect : r'.selectElement n' name requested' policy =
      r.selectElement n name requested policy) :
    r'.readElement n' name requested' policy = r.readElement n name requested policy := by
  rw [readElement_eq, readElement_eq, ownValue?_eq_filter, ownValue?_eq_filter, hown, hselect]

/-- On a node, so have properties that correspond. -/
theorem readContent_inStep (h : NodeInStep R r r' n n' name requested requested')
    (hown : r'.ownStored? n' name (some n'.id) requested' =
      r.ownStored? n name (some n.id) requested)
    (hstored : ∀ u u', R u u' → r'.unsetStored? (some u') requested' =
      r.unsetStored? (some u) requested) (policy : Policy) :
    r'.readContent n' name requested' policy = r.readContent n name requested policy := by
  obtain ⟨hselect, htrail⟩ := selectContent_inStep h policy
  have hvalue : r'.ownValue? n' name (some n'.id) requested' =
      r.ownValue? n name (some n.id) requested := by
    rw [ownValue?_eq_filter, ownValue?_eq_filter, hown]
  have hunset : ∀ {a a' : Option Unset}, Option.Rel R a a' →
      r'.unsetStored? a' requested' = r.unsetStored? a requested := by
    rintro _ _ (hrelated | _)
    · exact hstored _ _ hrelated
    · rfl
  refine Prod.ext ?_ ?_
  · rw [readContent_fst, readContent_fst, hvalue, hselect, hunset htrail.unset]
  · rw [readContent_snd, readContent_snd, hvalue, htrail.steps]

end Resolver

end Publishing
