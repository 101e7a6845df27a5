import Publishing.Resolve.Resolver

/-!
# Values in the type that a caller wants

The six ways to ask a resolver for a value, with the answer in the caller's own
type.  `try…` runs the policy and tells a miss apart; the others take the
property's own value first and answer a miss with what the property stores for
"no value".

On a node in the tree the answer comes with what the walk left behind.
-/

namespace Publishing

/-- What a caller asks for: a variant, a policy, how a stored value is read, and a
default. -/
structure Request (α ε : Type) where
  variant : Variant := {}
  policy : Policy := Policy.empty
  read : Json → Except ε α
  default : Option α := none

namespace Request

variable {α ε : Type}

/-- The answer that tells a miss apart. -/
def resolution (q : Request α ε) (property : String) (s : Selection) :
    Except (ResolveError ε) (Resolution α) :=
  s.resolution q.read property q.default

/-- The answer in which a miss is no value. -/
def value (q : Request α ε) (property : String) (s : Selection) :
    Except (ResolveError ε) (Option α) :=
  s.value q.read property q.default

end Request

namespace Resolver

variable {α ε : Type}

/-- Runs the policy on a property. -/
def tryProperty (r : Resolver) (p : Property) (q : Request α ε) :
    Except (ResolveError ε) (Resolution α) :=
  q.resolution p.name (r.selectProperty p q.variant q.policy)

/-- Reads a property. -/
def property (r : Resolver) (p : Property) (q : Request α ε) :
    Except (ResolveError ε) (Option α) :=
  q.value p.name (r.readProperty p q.variant q.policy)

/-- Runs the policy on a property of an element. -/
def tryElement (r : Resolver) (n : Node) (name : String) (q : Request α ε) :
    Except (ResolveError ε) (Resolution α) :=
  q.resolution name (r.selectElement n name q.variant q.policy)

/-- Reads a property of an element. -/
def element (r : Resolver) (n : Node) (name : String) (q : Request α ε) :
    Except (ResolveError ε) (Option α) :=
  q.value name (r.readElement n name q.variant q.policy)

/-- Runs the policy on a property of a node, with the trail of the run. -/
def tryContent (r : Resolver) (n : Node) (name : String) (q : Request α ε) :
    Except (ResolveError ε) (Resolution α) × Trail :=
  let (selected, trail) := r.selectContent n name q.variant q.policy
  (q.resolution name selected, trail)

/-- Reads a property of a node, with the number of steps up the tree. -/
def content (r : Resolver) (n : Node) (name : String) (q : Request α ε) :
    Except (ResolveError ε) (Option α) × Nat :=
  let (selected, steps) := r.readContent n name q.variant q.policy
  (q.value name selected, steps)

end Resolver

end Publishing
