import Std.Data.ExtTreeMap
import Publishing.Json.Value
import Publishing.NodeId

/-!
# Reading and writing data as JSON

A type is `Serial` when its values have a JSON form and can be read from one.
Reading works on JSON as it is written and gives no reason when it fails.

A record is written as an object.  It is read from an object, whose unknown
fields are skipped and whose known fields occur at most once, or from an array
of its fields in order.  Fields at the end of the array may be left out if they
have a default.
-/

namespace Publishing

namespace Json.Written

/-- The text that a quoted text denotes. -/
def text? : Written → Option String
  | .string body => (Quoted.decode body).map String.ofList
  | _ => none

/-- The integer that a numeral denotes. -/
def integer? : Written → Option Int
  | .number n => n.integer?
  | _ => none

/-- A truth value. -/
def bool? : Written → Option Bool
  | .bool b => some b
  | _ => none

/-- The items of an array, each read in the same way. -/
def list? {α : Type} (read : Written → Option α) : Written → Option (List α)
  | .array items => items.mapM read
  | _ => none

/-- `null`, or something that is read. -/
def optional? {α : Type} (read : Written → Option α) : Written → Option (Option α)
  | .null => some none
  | w => (read w).map some

/-- The fields of an object, each with its key and its value read. -/
def entries? {κ α : Type} (readKey : List Char → Option κ) (read : Written → Option α) :
    Written → Option (List (κ × α))
  | .object fields => fields.mapM fun (k, w) => do
    let key ← readKey k
    let value ← read w
    some (key, value)
  | _ => none

/-- The name of an alternative without data: the name itself, or an object whose one
field has the name and the value `null`. -/
def tag? : Written → Option String
  | .string body => (Quoted.decode body).map String.ofList
  | .object [(k, .null)] => (Quoted.decode k).map String.ofList
  | _ => none

end Json.Written

/-- The fields of a record that were given. -/
structure Fields where
  given : List (String × Json.Written)

namespace Json.Written

/-- The known ones among the fields of an object; none if one of them occurs twice. -/
def knownFields? (names : List String) :
    List (List Char × Written) → Option (List (String × Written))
  | [] => some []
  | (k, w) :: rest => do
    let name ← (Quoted.decode k).map String.ofList
    let fields ← knownFields? names rest
    if names.contains name then
      if fields.any (fun f => f.1 == name) then none else some ((name, w) :: fields)
    else some fields

/-- The fields of a record with the given names, of which an array must hold at
least the first `atLeast`. -/
def record? (names : List String) (atLeast : Nat) :
    Written → Option Fields
  | .object fields => (knownFields? names fields).map Fields.mk
  | .array items =>
    if atLeast ≤ items.length ∧ items.length ≤ names.length then some ⟨names.zip items⟩ else none
  | _ => none

end Json.Written

namespace Fields

/-- The field of a given name. -/
def get? (fields : Fields) (name : String) : Option Json.Written :=
  fields.given.lookup name

/-- A field that must be given. -/
def required {α : Type} (fields : Fields) (name : String) (read : Json.Written → Option α) :
    Option α :=
  (fields.get? name).bind read

/-- A field that may be `null` or left out. -/
def optional {α : Type} (fields : Fields) (name : String) (read : Json.Written → Option α) :
    Option (Option α) :=
  match fields.get? name with
  | none => some none
  | some w => w.optional? read

/-- A field with a default for when it is left out. -/
def defaulted {α : Type} (fields : Fields) (name : String) (default : α)
    (read : Json.Written → Option α) : Option α :=
  match fields.get? name with
  | none => some default
  | some w => read w

end Fields

/-- A type with a JSON form. -/
class Serial (α : Type) where
  toJson : α → Json
  ofWritten? : Json.Written → Option α

/-- A type whose values are written as objects. -/
class Record (α : Type) where
  /-- The names of the fields, in order. -/
  names : List String
  /-- How many fields an array must hold; those behind them have defaults. -/
  atLeast : Nat
  fields : α → List (String × Json)
  ofFields? : Fields → Option α

instance {α : Type} [Record α] : Serial α where
  toJson a := .obj (Record.fields a)
  ofWritten? w := (w.record? (Record.names α) (Record.atLeast α)).bind Record.ofFields?

namespace Serial

/-- The value that a JSON text denotes in a type. -/
def parse? (α : Type) [Serial α] (text : String) : Option α :=
  (Json.Written.parse? text).bind ofWritten?

/-- The JSON text of a value. -/
def render {α : Type} [Serial α] (a : α) : String :=
  (toJson a).render

/-- A value that may be left open. -/
def optionJson {α : Type} [Serial α] : Option α → Json
  | none => .null
  | some a => toJson a

instance : Serial String := ⟨.str, Json.Written.text?⟩

instance : Serial Bool := ⟨.bool, Json.Written.bool?⟩

instance {α : Type} [Serial α] : Serial (List α) :=
  ⟨fun xs => .arr (xs.map toJson), Json.Written.list? ofWritten?⟩

instance : Serial NodeId :=
  ⟨fun id => .int id.val, fun w => w.integer?.bind NodeId.ofInt?⟩

end Serial

/-- The id that the key of a field spells, as an integer without escapes. -/
def NodeId.ofKey? (key : List Char) : Option NodeId :=
  ((Json.Numeral.ofChars? key).bind Json.Numeral.integer?).bind NodeId.ofInt?

/-- The JSON form of a map by node id. -/
def Serial.nodeMapJson {α : Type} [Serial α] (m : Std.ExtTreeMap NodeId α) : Json :=
  .obj (m.toList.map fun (id, a) => (id.text, Serial.toJson a))

/-- Reads a map by node id; of several entries for one node the last one counts. -/
def Serial.nodeMap? {α : Type} [Serial α] (w : Json.Written) : Option (Std.ExtTreeMap NodeId α) :=
  (w.entries? NodeId.ofKey? Serial.ofWritten?).map fun entries => Std.ExtTreeMap.ofList entries

end Publishing
