import Publishing.Property
import Publishing.Text.Quoted

/-!
# Types to read values in

A stored value is read in the type that a caller wants, exactly: nothing is
rounded, parsed or cut off.  A number with a fraction part of zero is still no
integer; an integer, though, may be read as a floating-point number.  A list is
read item by item up to the first that does not fit.
-/

namespace Publishing

/-- A type of integers. -/
inductive IntType where
  | unsigned8
  | unsigned32
  | signed64
deriving DecidableEq

namespace IntType

/-- The name of an integer type in messages. -/
def name : IntType → String
  | .unsigned8 => "u8"
  | .unsigned32 => "u32"
  | .signed64 => "i64"

/-- The least integer of the type. -/
def least : IntType → Int
  | .unsigned8 => 0
  | .unsigned32 => 0
  | .signed64 => -9223372036854775808

/-- The greatest integer of the type. -/
def greatest : IntType → Int
  | .unsigned8 => 255
  | .unsigned32 => 4294967295
  | .signed64 => 9223372036854775807

/-- Whether an integer belongs to the type. -/
def holds (t : IntType) (n : Int) : Bool :=
  decide (t.least ≤ n) && decide (n ≤ t.greatest)

end IntType

/-- A type that a single value is read in. -/
inductive Scalar where
  | string
  | bool
  | int (t : IntType)
  | float
deriving DecidableEq

/-- A type that a value is read in. -/
inductive Target where
  /-- Any value, as it is. -/
  | value
  | scalar (s : Scalar)
  | list (s : Scalar)
deriving DecidableEq

/-- Why a value cannot be read in a type. -/
inductive Mismatch where
  /-- It is of another kind than the scalar type. -/
  | notScalar (got : Json) (wanted : Scalar)
  /-- It is not a list. -/
  | notList (got : Json)
  /-- It is an integer that the type does not have. -/
  | outOfRange (got : Int) (wanted : IntType)

namespace Mismatch

/-- A value as it is named in a message. -/
def describe : Json → String
  | .null => "null"
  | .bool true => "boolean `true`"
  | .bool false => "boolean `false`"
  | .int n => "integer `" ++ toString n ++ "`"
  | .float x => "floating point `" ++ String.ofList (Json.Numeral.ofBinary64 x).chars ++ "`"
  | .str s => "string " ++ Text.quoted s
  | .arr _ => "sequence"
  | .obj _ => "map"

/-- A scalar type as it is named in a message. -/
def wanted : Scalar → String
  | .string => "a string"
  | .bool => "a boolean"
  | .int t => t.name
  | .float => "f64"

/-- The reason in words. -/
def message : Mismatch → String
  | .notScalar got s => "invalid type: " ++ describe got ++ ", expected " ++ wanted s
  | .notList got => "invalid type: " ++ describe got ++ ", expected a sequence"
  | .outOfRange got t => "invalid value: " ++ describe (.int got) ++ ", expected " ++ t.name

end Mismatch

namespace Scalar

/-- Reads a single value. -/
def read (s : Scalar) (v : Json) : Except Mismatch Json :=
  match s, v with
  | .string, .str t => .ok (.str t)
  | .bool, .bool b => .ok (.bool b)
  | .int t, .int n => if t.holds n then .ok (.int n) else .error (.outOfRange n t)
  | .float, .int n => .ok (.float (Binary64.ofInt n))
  | .float, .float x => .ok (.float x)
  | s, v => .error (.notScalar v s)

end Scalar

/-- Reads a value. -/
def Target.read (t : Target) (v : Json) : Except Mismatch Json :=
  match t, v with
  | .value, v => .ok v
  | .scalar s, v => s.read v
  | .list s, .arr items => (items.mapM s.read).map .arr
  | .list _, v => .error (.notList v)

end Publishing
