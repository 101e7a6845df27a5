import Publishing.Json.Token

/-!
# JSON as it is written

`Written` is the tree of a JSON text with its numerals and quoted texts left as
they are.  A reader of a record skips what it does not know without asking what
number or text it stands for, and a key that names a node is judged by its
spelling; so both need the tree before the values.

`Written.ofTokens?` reads the tree in one pass.  Between two tokens it knows what
may follow (`Reader`) and which arrays and objects are still open (`Frame`).
-/

namespace Publishing.Json

/-- The tree of a JSON text, numerals and quoted texts as they are written. -/
inductive Written where
  | null
  | bool (b : Bool)
  | number (n : Numeral)
  | string (body : List Char)
  | array (items : List Written)
  | object (fields : List (List Char × Written))
deriving Inhabited

namespace Written

/-- An array or object that waits for a value, with what it holds so far, last first. -/
inductive Frame where
  | array (before : List Written)
  | object (before : List (List Char × Written)) (key : List Char)

/-- What may follow, and the frames that are still open. -/
inductive Reader where
  /-- A value. -/
  | value (opened : List Frame)
  /-- A value, or the end of an array that holds nothing. -/
  | firstItem (opened : List Frame)
  /-- A comma or the end of an array. -/
  | afterItem (before : List Written) (opened : List Frame)
  /-- A key, or the end of an object that holds nothing. -/
  | firstKey (opened : List Frame)
  /-- A key. -/
  | nextKey (before : List (List Char × Written)) (opened : List Frame)
  /-- A colon. -/
  | afterKey (before : List (List Char × Written)) (key : List Char) (opened : List Frame)
  /-- A comma or the end of an object. -/
  | afterField (before : List (List Char × Written)) (opened : List Frame)
  /-- Nothing. -/
  | finished (v : Written)

namespace Reader

/-- Puts a complete value where it was waited for. -/
def complete (v : Written) : List Frame → Reader
  | [] => .finished v
  | .array before :: opened => .afterItem (v :: before) opened
  | .object before key :: opened => .afterField ((key, v) :: before) opened

/-- Takes the first token of a value. -/
def startValue (opened : List Frame) : Token → Option Reader
  | .null => some (complete .null opened)
  | .bool b => some (complete (.bool b) opened)
  | .number n => some (complete (.number n) opened)
  | .string body => some (complete (.string body) opened)
  | .openArray => some (.firstItem opened)
  | .openObject => some (.firstKey opened)
  | _ => none

/-- Takes one token. -/
def step (r : Reader) (t : Token) : Option Reader :=
  match r, t with
  | .value opened, t => startValue opened t
  | .firstItem opened, .closeArray => some (complete (.array []) opened)
  | .firstItem opened, t => startValue (.array [] :: opened) t
  | .afterItem before opened, .comma => some (.value (.array before :: opened))
  | .afterItem before opened, .closeArray => some (complete (.array before.reverse) opened)
  | .firstKey opened, .closeObject => some (complete (.object []) opened)
  | .firstKey opened, .string key => some (.afterKey [] key opened)
  | .nextKey before opened, .string key => some (.afterKey before key opened)
  | .afterKey before key opened, .colon => some (.value (.object before key :: opened))
  | .afterField before opened, .comma => some (.nextKey before opened)
  | .afterField before opened, .closeObject => some (complete (.object before.reverse) opened)
  | _, _ => none

/-- The value read, if nothing is missing. -/
def result? : Reader → Option Written
  | .finished v => some v
  | _ => none

end Reader

/-- The tree of a sequence of tokens. -/
def ofTokens? (ts : List Token) : Option Written :=
  (ts.foldlM Reader.step (Reader.value [])).bind Reader.result?

/-- The tree of a text. -/
def parse? (text : String) : Option Written :=
  (Token.scan text.toList).bind ofTokens?

mutual
/-- The tokens of a tree. -/
def tokens : Written → List Token
  | .null => [.null]
  | .bool b => [.bool b]
  | .number n => [.number n]
  | .string body => [.string body]
  | .array items => .openArray :: itemTokens items ++ [.closeArray]
  | .object fields => .openObject :: fieldTokens fields ++ [.closeObject]

/-- The tokens of the items of an array, with commas between the items. -/
def itemTokens : List Written → List Token
  | [] => []
  | [v] => v.tokens
  | v :: vs => v.tokens ++ .comma :: itemTokens vs

/-- The tokens of the fields of an object, with commas between the fields. -/
def fieldTokens : List (List Char × Written) → List Token
  | [] => []
  | [(k, v)] => .string k :: .colon :: v.tokens
  | (k, v) :: fs => .string k :: .colon :: v.tokens ++ .comma :: fieldTokens fs
end

/-- The text of a tree, without white space. -/
def render (w : Written) : String :=
  String.ofList (w.tokens.flatMap Token.chars)

end Written

end Publishing.Json
