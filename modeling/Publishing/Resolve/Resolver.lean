import Publishing.Resolve.Ascent
import Publishing.Resolve.LanguageFallback
import Publishing.Resolve.Selection
import Publishing.Settings

/-!
# Reading published values

A value is looked up on a property, on the property of an element, or on the
property of a node in the tree.  At each level there are two ways to read it:

* `select…` runs a policy and nothing else;
* `read…` takes the property's own value if there is one, runs the policy
  otherwise, and if that leads nowhere takes what the property stores for "no
  value", such as an empty list.

Ancestors can be asked only for a node in the tree.
-/

namespace Publishing

/-- What values are read with. -/
structure Resolver where
  languages : Languages := Languages.empty
  context : Option RenderContext := none
  tree : Tree := Tree.empty
  /-- The policy of callers that choose none. -/
  policy : Policy := Policy.empty

/-- What a run of a policy on a node leaves behind beside the selection: the first
property met without a value, and the number of steps up the tree. -/
structure Trail where
  unset : Option Unset := none
  steps : Nat := 0

namespace Resolver

/-- A resolver with the context and the policy of the settings. -/
def ofSettings (s : Settings) (languages : Languages) (tree : Tree) : Resolver :=
  { languages := languages, context := some s.renderContext, tree := tree, policy := s.policy }

/-- The resolver with another policy for callers that choose none. -/
def withPolicy (r : Resolver) (p : Policy) : Resolver := { r with policy := p }

/-- The variant to look up for a request. -/
def variant (r : Resolver) (v : Variation) (node : Option NodeId) (requested : Variant) : Variant :=
  v.variantIn r.context node requested

/-- Tries one mode where there is no tree to walk. -/
def attemptFlat (r : Resolver) (level : Level) (lookup : Variant → Option Json) (v : Variant) :
    Mode → Selection
  | .none => .miss
  | .defaultValue => .callerDefault
  | .language => .ofOption (r.languages.inChain lookup v)
  | .ancestors => .unsupported .ancestors level
  | .defaultLanguage => .ofOption (r.languages.inDefault lookup v)

/-- Runs a policy where there is no tree to walk. -/
def selectFlat (r : Resolver) (level : Level) (lookup : Variant → Option Json) (v : Variant)
    (policy : Policy) : Selection :=
  (tryModes (fun m _ => (r.attemptFlat level lookup v m, ())) policy.modes ()).1

/-! ## Properties -/

/-- Runs a policy on a property. -/
def selectProperty (r : Resolver) (p : Property) (requested : Variant) (policy : Policy) :
    Selection :=
  r.selectFlat .property p.value? (r.variant p.type.variation none requested) policy

/-- Reads a property, falling back when it has no value. -/
def readProperty (r : Resolver) (p : Property) (requested : Variant) (policy : Policy) :
    Selection :=
  let v := r.variant p.type.variation none requested
  match p.value? v with
  | some value => .stored value
  | none =>
    match r.selectProperty p requested policy with
    | .miss => .ofOption (p.stored? v)
    | selected => selected

/-! ## Elements -/

/-- Runs a policy on a property of an element.  A name that the type does not define
is a miss, whatever the policy. -/
def selectElement (r : Resolver) (n : Node) (name : String) (requested : Variant)
    (policy : Policy) : Selection :=
  match n.type.property? name with
  | none => .miss
  | some type =>
    r.selectFlat .element (n.value? name) (r.variant type.variation none requested) policy

/-- What an element's own property stores for a request. -/
def ownStored? (r : Resolver) (n : Node) (name : String) (node : Option NodeId)
    (requested : Variant) : Option Json :=
  (n.property? name).bind fun p => p.stored? (r.variant p.type.variation node requested)

/-- The value of an element's own property for a request. -/
def ownValue? (r : Resolver) (n : Node) (name : String) (node : Option NodeId)
    (requested : Variant) : Option Json :=
  (n.property? name).bind fun p => p.value? (r.variant p.type.variation node requested)

/-- Reads a property of an element, falling back when it has no value. -/
def readElement (r : Resolver) (n : Node) (name : String) (requested : Variant)
    (policy : Policy) : Selection :=
  match r.ownValue? n name none requested with
  | some value => .stored value
  | none =>
    match r.selectElement n name requested policy with
    | .miss => .ofOption (r.ownStored? n name none requested)
    | selected => selected

/-! ## Nodes in the tree -/

/-- Tries one mode on a node.  `type` is what the node's type says of the name; where
it says nothing, fallback languages are not followed. -/
def attemptContent (r : Resolver) (n : Node) (name : String) (type : Option PropertyType)
    (v : Variant) : Mode → Trail → Selection × Trail
  | .none, trail => (.miss, trail)
  | .defaultValue, trail => (.callerDefault, trail)
  | .language, trail =>
    if type.isNone then (.miss, trail)
    else (.ofOption (r.languages.inChain (n.value? name) v), trail)
  | .defaultLanguage, trail => (.ofOption (r.languages.inDefault (n.value? name) v), trail)
  | .ancestors, trail =>
    let ascent := r.tree.ascend r.context name n
    (.ofOption ascent.found, ⟨trail.unset.or ascent.unset, trail.steps + ascent.steps⟩)

/-- The node's own property, if the node's type defines it. -/
def ownUnset? (n : Node) (name : String) : Option Unset :=
  (n.type.property? name).bind fun _ => (n.property? name).map fun p => ⟨n.id, p⟩

/-- The variant in which a node is looked up: for a name that its type does not
define, what was requested as it is. -/
def contentVariant (r : Resolver) (n : Node) (name : String) (requested : Variant) : Variant :=
  match n.type.property? name with
  | some type => r.variant type.variation (some n.id) requested
  | none => requested

/-- Runs a policy on a node. -/
def selectContent (r : Resolver) (n : Node) (name : String) (requested : Variant)
    (policy : Policy) : Selection × Trail :=
  tryModes
    (r.attemptContent n name (n.type.property? name) (r.contentVariant n name requested))
    policy.modes { unset := ownUnset? n name }

/-- What the first property met without a value stores for a request. -/
def unsetStored? (r : Resolver) (unset : Option Unset) (requested : Variant) : Option Json :=
  unset.bind fun u =>
    u.property.stored? (r.variant u.property.type.variation (some u.owner) requested)

/-- Reads a property of a node, falling back when it has no value; with the number
of steps up the tree.  The node's own value is taken without any step. -/
def readContent (r : Resolver) (n : Node) (name : String) (requested : Variant)
    (policy : Policy) : Selection × Nat :=
  match r.ownValue? n name (some n.id) requested with
  | some value => (.stored value, 0)
  | none =>
    match r.selectContent n name requested policy with
    | (.miss, trail) => (.ofOption (r.unsetStored? trail.unset requested), trail.steps)
    | (selected, trail) => (selected, trail.steps)

end Resolver

end Publishing
