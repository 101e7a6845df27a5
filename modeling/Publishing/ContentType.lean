import Std.Data.ExtTreeMap
import Publishing.Variation

/-!
# Content types

A content type lists the properties that its nodes may carry, under names that
are looked up exactly, case included.  A name is added at most once.

* `ContentType.add` makes a larger content type, or fails.
* `ContentType.call` adds in place: whoever was refused goes on with the content
  type as it is.
-/

namespace Publishing

/-- What is known of a property before it has values: its name and how its values vary. -/
structure PropertyType where
  name : String
  variation : Variation
deriving DecidableEq

namespace PropertyType

/-- A property type whose values do not vary. -/
def invariant (name : String) : PropertyType := ⟨name, .nothing⟩

/-- A property type whose values vary by culture. -/
def byCulture (name : String) : PropertyType := ⟨name, .culture⟩

end PropertyType

/-- A type of nodes, with the property types it defines by name. -/
structure ContentType where
  name : String
  variation : Variation
  properties : Std.ExtTreeMap String PropertyType
deriving DecidableEq

/-- A property name that a content type already has. -/
structure DuplicateProperty where
  contentType : String
  property : String
deriving DecidableEq

/-- The report on a property name added twice. -/
def DuplicateProperty.message (e : DuplicateProperty) : String :=
  "duplicate property alias '" ++ e.property ++ "' on content type '" ++ e.contentType ++ "'"

namespace ContentType

/-- The property type under a name. -/
def property? (t : ContentType) (name : String) : Option PropertyType :=
  t.properties[name]?

/-- Whether the type has a property type under a name. -/
def defines (t : ContentType) (name : String) : Bool :=
  (t.property? name).isSome

/-- Adds a property type under its own name, unless the name is taken. -/
def add (t : ContentType) (p : PropertyType) : Except DuplicateProperty ContentType :=
  if t.defines p.name then .error ⟨t.name, p.name⟩
  else .ok { t with properties := t.properties.insert p.name p }

/-- Adds a property type to a content type in place, if its name is not taken. -/
def addInPlace (p : PropertyType) : ExceptT DuplicateProperty (StateM ContentType) Unit := do
  let t ← get
  if t.defines p.name then
    throw ⟨t.name, p.name⟩
  set { t with properties := t.properties.insert p.name p }

/-- The answer to a call, and the content type that it leaves behind. -/
def call (t : ContentType) (p : PropertyType) : Except DuplicateProperty Unit × ContentType :=
  (addInPlace p).run.run t

/-- The answers to one call after another, whatever the answers before, and the content
type that they leave behind. -/
def callEach (t : ContentType) (calls : List PropertyType) :
    List (Except DuplicateProperty Unit) × ContentType :=
  (calls.mapM fun p => (addInPlace p).run : StateM ContentType _).run t

/-- Adds property types in order, up to the first whose name is taken. -/
def addAll (t : ContentType) : List PropertyType → Except DuplicateProperty ContentType
  | [] => .ok t
  | p :: ps => (t.add p).bind fun t => t.addAll ps

/-- A content type with the given property types. -/
def build (name : String) (variation : Variation) (properties : List PropertyType) :
    Except DuplicateProperty ContentType :=
  addAll ⟨name, variation, ∅⟩ properties

/-- The property types in ascending order of the names they stand under. -/
def propertyTypes (t : ContentType) : List PropertyType :=
  t.properties.values

end ContentType

end Publishing
