import Publishing.Json.Written

/-!
# JSON values

A value keeps the kind of its numbers: `3` is an integer and `3.0` is not.  An
integer beyond 64 bits is held as a floating-point number.  Of several fields of
one name in an object the last one counts.
-/

namespace Publishing

/-- A JSON value. -/
inductive Json where
  | null
  | bool (b : Bool)
  | int (n : Int)
  | float (x : Binary64)
  | str (s : String)
  | arr (items : List Json)
  | obj (fields : List (String × Json))
deriving Inhabited

namespace Json

/-- Whether a value is `null`. -/
def isNull : Json → Bool
  | .null => true
  | _ => false

/-- The last field of a given name. -/
def field? (v : Json) (name : String) : Option Json :=
  match v with
  | .obj fields => (fields.reverse.find? fun f => f.1 == name).map Prod.snd
  | _ => none

/-- The number that a numeral denotes: an integer of 64 bits, or else a
floating-point number in range. -/
def ofNumeral? (n : Numeral) : Option Json :=
  match n.integer? with
  | some k => if -9223372036854775808 ≤ k ∧ k ≤ 18446744073709551615 then some (.int k)
    else n.float?.map .float
  | none => n.float?.map .float

mutual
/-- The value that a tree denotes; none if it holds a number out of range or an
unpaired surrogate. -/
def ofWritten? : Written → Option Json
  | .null => some .null
  | .bool b => some (.bool b)
  | .number n => ofNumeral? n
  | .string body => (Quoted.decode body).map fun cs => .str (String.ofList cs)
  | .array items => (ofItems? items).map .arr
  | .object fields => (ofFields? fields).map .obj

/-- The values that trees denote. -/
def ofItems? : List Written → Option (List Json)
  | [] => some []
  | w :: ws => do
    let v ← ofWritten? w
    let vs ← ofItems? ws
    some (v :: vs)

/-- The fields that written fields denote, the last one of each name. -/
def ofFields? : List (List Char × Written) → Option (List (String × Json))
  | [] => some []
  | (k, w) :: ws => do
    let name ← Quoted.decode k
    let v ← ofWritten? w
    let fs ← ofFields? ws
    some (if fs.any (fun f => f.1 == String.ofList name) then fs else (String.ofList name, v) :: fs)
end

/-- The value that a text denotes. -/
def parse? (text : String) : Option Json :=
  (Written.parse? text).bind ofWritten?

/-- A text, quoted. -/
def writtenText (s : String) : List Char :=
  Quoted.encode s.toList

mutual
/-- The tree of a value. -/
def written : Json → Written
  | .null => .null
  | .bool b => .bool b
  | .int n => .number (Numeral.ofInt n)
  | .float x => .number (Numeral.ofBinary64 x)
  | .str s => .string (writtenText s)
  | .arr items => .array (writtenItems items)
  | .obj fields => .object (writtenFields fields)

/-- The trees of values. -/
def writtenItems : List Json → List Written
  | [] => []
  | v :: vs => written v :: writtenItems vs

/-- The written fields of fields. -/
def writtenFields : List (String × Json) → List (List Char × Written)
  | [] => []
  | (k, v) :: fs => (writtenText k, written v) :: writtenFields fs
end

/-- The text of a value. -/
def render (v : Json) : String :=
  v.written.render

end Json

end Publishing
