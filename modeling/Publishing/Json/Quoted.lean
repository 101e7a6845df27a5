/-!
# Quoted texts of JSON

Between its quotes a text is written character by character.  A backslash starts
an escape: one of eight letters and signs, or `u` and four hexadecimal digits,
which name a UTF-16 code unit.  Code units of a surrogate pair stand for one
character together; an unpaired surrogate stands for none.

* `pieces?` takes the written form apart, `decode` puts the characters together.
* `encode` writes a text with as few escapes as there can be.
-/

namespace Publishing.Json.Quoted

/-- A part of a quoted text: a character or a UTF-16 code unit. -/
inductive Piece where
  | char (c : Char)
  | unit (u : Nat)
deriving DecidableEq

/-- The value of a hexadecimal digit. -/
def hexDigit? (c : Char) : Option Nat :=
  if '0' ≤ c ∧ c ≤ '9' then some (c.toNat - '0'.toNat)
  else if 'a' ≤ c ∧ c ≤ 'f' then some (c.toNat - 'a'.toNat + 10)
  else if 'A' ≤ c ∧ c ≤ 'F' then some (c.toNat - 'A'.toNat + 10)
  else none

/-- The number that hexadecimal digits denote. -/
def hexNumber? (cs : List Char) : Option Nat :=
  cs.foldl (fun n c => n.bind fun n => (hexDigit? c).map (16 * n + ·)) (some 0)

/-- The character that an escape of one letter or sign stands for. -/
def escaped? : Char → Option Char
  | '"' => some '"'
  | '\\' => some '\\'
  | '/' => some '/'
  | 'b' => some '\x08'
  | 'f' => some '\x0c'
  | 'n' => some '\n'
  | 'r' => some '\r'
  | 't' => some '\t'
  | _ => none

/-- Takes the written form apart.  There is no such form with a bare control
character or quote, or with an escape of another kind. -/
def pieces? : List Char → Option (List Piece)
  | [] => some []
  | '\\' :: 'u' :: a :: b :: c :: d :: rest =>
    match hexNumber? [a, b, c, d] with
    | some u => (pieces? rest).map (.unit u :: ·)
    | none => none
  | '\\' :: e :: rest =>
    match escaped? e with
    | some c => (pieces? rest).map (.char c :: ·)
    | none => none
  | c :: rest =>
    if c.toNat < 0x20 || c == '"' || c == '\\' then none
    else (pieces? rest).map (.char c :: ·)

/-- Whether a code unit is the first of a surrogate pair. -/
def isLead (u : Nat) : Bool := decide (0xD800 ≤ u) && decide (u < 0xDC00)

/-- Whether a code unit is the second of a surrogate pair. -/
def isTrail (u : Nat) : Bool := decide (0xDC00 ≤ u) && decide (u < 0xE000)

/-- The characters that pieces stand for; none if a surrogate has no partner. -/
def chars? : List Piece → Option (List Char)
  | [] => some []
  | .char c :: rest => (chars? rest).map (c :: ·)
  | .unit u :: .unit v :: rest =>
    if isLead u && isTrail v then
      (chars? rest).map (Char.ofNat (0x10000 + (u - 0xD800) * 0x400 + (v - 0xDC00)) :: ·)
    else if isLead u || isTrail u then none
    else (chars? (.unit v :: rest)).map (Char.ofNat u :: ·)
  | .unit u :: rest =>
    if isLead u || isTrail u then none else (chars? rest).map (Char.ofNat u :: ·)

/-- The characters of a text from its written form. -/
def decode (body : List Char) : Option (List Char) :=
  (pieces? body).bind chars?

/-- The hexadecimal digit of a number below sixteen. -/
def hexDigit (n : Nat) : Char :=
  Nat.digitChar n

/-- A character in its written form. -/
def encodeChar (c : Char) : List Char :=
  match c with
  | '"' => ['\\', '"']
  | '\\' => ['\\', '\\']
  | '\x08' => ['\\', 'b']
  | '\x0c' => ['\\', 'f']
  | '\n' => ['\\', 'n']
  | '\r' => ['\\', 'r']
  | '\t' => ['\\', 't']
  | c =>
    if c.toNat < 0x20 then
      ['\\', 'u', '0', '0', hexDigit (c.toNat / 16), hexDigit (c.toNat % 16)]
    else [c]

/-- The written form of a text. -/
def encode (cs : List Char) : List Char :=
  cs.flatMap encodeChar

end Publishing.Json.Quoted
