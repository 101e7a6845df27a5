import Publishing.Toml.Scalar
import Publishing.Toml.Text

/-!
# TOML documents

A document is a sequence of lines, each of which is blank, opens a table or
assigns a value to a key of the table opened last.  `parse?` reads a document of
TOML 1.0.  Arrays, inline tables and dotted keys may be nested at most
seventy-nine deep.
-/

namespace Publishing.Toml

/-- The least depth that is refused. -/
def depthLimit : Nat := 80

/-- Skips white space within a line. -/
def skipSpace (cs : List Char) : List Char :=
  cs.dropWhile isBlankChar

/-- Skips a comment if there is one here. -/
def skipComment : List Char → List Char
  | '#' :: rest => rest.dropWhile isPlain
  | cs => cs

/-- Skips white space, line breaks and comments. -/
def skipTrivia : (fuel : Nat) → List Char → List Char
  | 0, cs => cs
  | fuel + 1, cs =>
    let rest := skipComment (skipLines cs.length cs)
    if rest.length < cs.length then skipTrivia fuel rest else cs

/-- What follows the rest of a line, where only a comment may stand. -/
def lineEnd? (cs : List Char) : Option (List Char) :=
  match skipComment (skipSpace cs) with
  | [] => some []
  | rest => newline? rest

/-! ## Keys -/

/-- Whether a character may stand in a key without quotes. -/
def isBareKeyChar (c : Char) : Bool :=
  c.isAlphanum || c == '_' || c == '-'

/-- Reads one part of a key. -/
def keyPart? (cs : List Char) : Option (String × List Char) :=
  match lineText? cs with
  | some part => some part
  | none =>
    let bare := cs.takeWhile isBareKeyChar
    if bare.isEmpty then none else some (String.ofList bare, cs.dropWhile isBareKeyChar)

/-- Reads the parts of a key, with dots between them. -/
def keyParts? : (fuel : Nat) → List Char → Option (List String × List Char)
  | 0, _ => none
  | fuel + 1, cs => do
    let (part, rest) ← keyPart? (skipSpace cs)
    match skipSpace rest with
    | '.' :: rest =>
      let (parts, after) ← keyParts? fuel rest
      some (part :: parts, after)
    | rest => some ([part], rest)

/-- Reads a key: its dotted part, its last part, and what follows. -/
def key? (cs : List Char) : Option (List String × String × List Char) := do
  let (parts, rest) ← keyParts? (cs.length + 1) cs
  let last ← parts.getLast?
  if parts.length < depthLimit then some (parts.dropLast, last, rest) else none

/-! ## Values -/

mutual
/-- Reads a value. -/
def value? : (fuel depth : Nat) → List Char → Option (Value × List Char)
  | 0, _, _ => none
  | fuel + 1, depth, cs =>
    match cs with
    | '"' :: _ | '\'' :: _ => (text? cs).map fun (s, rest) => (.string s, rest)
    | '[' :: rest =>
      if depth + 1 < depthLimit then
        (items? fuel (depth + 1) (skipTrivia rest.length rest)).map
          fun (items, rest) => (.array items, rest)
      else none
    | '\x7b' :: rest =>
      if depth + 1 < depthLimit then
        match skipSpace rest with
        | '\x7d' :: rest => some (.table [], rest)
        | rest =>
          (assignments? fuel (depth + 1) (Table.empty .header) rest).map
            fun (t, rest) => (t.toValue, rest)
      else none
    | _ => scalar? cs

/-- Reads the items of an array and its end. -/
def items? : (fuel depth : Nat) → List Char → Option (List Value × List Char)
  | 0, _, _ => none
  | _ + 1, _, ']' :: rest => some ([], rest)
  | fuel + 1, depth, cs => do
    let (v, rest) ← value? fuel depth cs
    match skipTrivia rest.length rest with
    | ',' :: rest =>
      let (vs, after) ← items? fuel depth (skipTrivia rest.length rest)
      some (v :: vs, after)
    | ']' :: rest => some ([v], rest)
    | _ => none

/-- Reads the assignments of an inline table and its end. -/
def assignments? : (fuel depth : Nat) → Table → List Char → Option (Table × List Char)
  | 0, _, _, _ => none
  | fuel + 1, depth, t, cs => do
    let (path, name, rest) ← key? cs
    match rest with
    | '=' :: rest =>
      let (v, rest) ← value? fuel depth (skipSpace rest)
      let t ← t.assign path name v
      match skipSpace rest with
      | ',' :: rest => assignments? fuel depth t rest
      | '\x7d' :: rest => some (t, rest)
      | _ => none
    | _ => none
end

/-! ## Lines -/

/-- A document as far as it is read: its table, and the path to the table opened last. -/
structure Reading where
  document : Table
  opened : List String

/-- Reads one line that is not blank. -/
def line? (r : Reading) (cs : List Char) : Option (Reading × List Char) :=
  match cs with
  | '[' :: '[' :: rest => do
    let (path, name, rest) ← key? rest
    match rest with
    | ']' :: ']' :: rest =>
      let document ← r.document.openTables path name
      some (⟨document, path ++ [name]⟩, ← lineEnd? rest)
    | _ => none
  | '[' :: rest => do
    let (path, name, rest) ← key? rest
    match rest with
    | ']' :: rest =>
      let document ← r.document.openTable path name
      some (⟨document, path ++ [name]⟩, ← lineEnd? rest)
    | _ => none
  | _ => do
    let (path, name, rest) ← key? cs
    match rest with
    | '=' :: rest =>
      let (v, rest) ← value? (2 * rest.length + 2) 0 (skipSpace rest)
      let document ← r.document.modify false r.opened (Table.assign path name v)
      some ({ r with document := document }, ← lineEnd? rest)
    | _ => none

/-- Reads lines up to the end. -/
def lines? : (fuel : Nat) → Reading → List Char → Option Table
  | 0, _, _ => none
  | fuel + 1, r, cs =>
    match skipSpace cs with
    | [] => some r.document
    | cs =>
      match cs.head? with
      | some '#' | some '\n' | some '\r' => (lineEnd? cs).bind (lines? fuel r)
      | _ => (line? r cs).bind fun (r, rest) => lines? fuel r rest

/-- The table that a document denotes.  A byte order mark at its start is skipped. -/
def parse? (text : String) : Option Value :=
  let cs := text.toList
  let cs := if cs.head? = some '\ufeff' then cs.tail else cs
  (lines? (cs.length + 1) ⟨Table.empty .header, []⟩ cs).map Table.toValue

end Publishing.Toml
