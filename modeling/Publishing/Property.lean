import Publishing.ContentType
import Publishing.Culture
import Publishing.Json.Value

/-!
# Properties with their values

A property holds values for variants.  Cultures are matched without regard to
case, segments exactly.  `null`, the empty text and the empty list are stored
like any value but do not count as one.
-/

namespace Publishing

/-- Whether a stored value counts as a value. -/
def Json.isPresent : Json → Bool
  | .null => false
  | .str s => s != ""
  | .arr items => !items.isEmpty
  | _ => true

/-- Whether two variants address the same value. -/
def Variant.agree (a b : Variant) : Bool :=
  a.culture.map Culture.fold == b.culture.map Culture.fold && a.segment == b.segment

/-- A property: its type, and the values written to it, latest first. -/
structure Property where
  type : PropertyType
  writes : List (Variant × Json) := []

namespace Property

/-- The name of a property. -/
def name (p : Property) : String := p.type.name

/-- Writes the value of a variant, in place of an earlier one. -/
def write (p : Property) (v : Variant) (value : Json) : Property :=
  { p with writes := (v, value) :: p.writes }

/-- The value stored for a variant, whether it counts or not. -/
def stored? (p : Property) (v : Variant) : Option Json :=
  (p.writes.find? fun w => w.1.agree v).map Prod.snd

/-- The value of a variant, if one is stored that counts. -/
def value? (p : Property) (v : Variant) : Option Json :=
  (p.stored? v).filter Json.isPresent

/-- Whether there is a value for a variant. -/
def hasValue (p : Property) (v : Variant) : Bool :=
  (p.value? v).isSome

end Property

end Publishing
