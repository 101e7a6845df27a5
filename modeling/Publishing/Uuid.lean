/-!
# Universally unique identifiers

An identifier is thirty-two hexadecimal digits.  It is shown in small letters in
five groups of 8, 4, 4, 4 and 12 with hyphens between them.  It is read in this
form, in this form after `urn:uuid:` or in braces, and without hyphens; the case
of the digits does not matter.  `Uuid.display` shows what it belongs to as well.
-/

namespace Publishing

/-- An identifier of 128 bits, as its hexadecimal digits. -/
@[ext] structure Uuid where
  digits : List (Fin 16)
  size : digits.length = 32
deriving DecidableEq

namespace Uuid

/-- The identifier all of whose digits are zero. -/
def zero : Uuid := ⟨List.replicate 32 0, by simp⟩

/-- The value of a hexadecimal digit. -/
def digit? (c : Char) : Option (Fin 16) :=
  if '0' ≤ c ∧ c ≤ '9' then some (Fin.ofNat 16 (c.toNat - '0'.toNat))
  else if 'a' ≤ c ∧ c ≤ 'f' then some (Fin.ofNat 16 (c.toNat - 'a'.toNat + 10))
  else if 'A' ≤ c ∧ c ≤ 'F' then some (Fin.ofNat 16 (c.toNat - 'A'.toNat + 10))
  else none

/-- The lengths of the groups of digits between hyphens. -/
def groupLengths : List Nat := [8, 4, 4, 4, 12]

/-- A text in groups without its hyphens. -/
def ungrouped? (cs : List Char) : Option (List Char) :=
  let groups := cs.splitOn '-'
  if groups.map List.length = groupLengths then some groups.flatten else none

/-- The digits of a text in one of the forms that are read. -/
def bare? (cs : List Char) : Option (List Char) :=
  if cs.length = 32 then some cs
  else if cs.length = 36 then ungrouped? cs
  else if cs.length = 38 ∧ cs.head? = some '\x7b' ∧ cs.getLast? = some '\x7d' then
    ungrouped? (cs.drop 1).dropLast
  else if cs.length = 45 ∧ cs.take 9 = "urn:uuid:".toList then ungrouped? (cs.drop 9)
  else none

/-- The identifier that a text denotes. -/
def ofText? (s : String) : Option Uuid :=
  ((bare? s.toList).bind fun cs => cs.mapM digit?).bind fun ds =>
    if h : ds.length = 32 then some ⟨ds, h⟩ else none

/-- The hyphenated text of an identifier, in small letters. -/
def text (u : Uuid) : String :=
  let cs := u.digits.map fun d => Nat.digitChar d.val
  let group (start length : Nat) := (cs.drop start).take length
  String.ofList (['-'].intercalate
    [group 0 8, group 8 4, group 12 4, group 16 4, group 20 12])

/-- What an identifier belongs to. -/
inductive Bearer where
  | node
  | user
deriving DecidableEq

/-- The name under which a bearer is shown. -/
def Bearer.name : Bearer → String
  | .node => "node"
  | .user => "user"

/-- An identifier with what it belongs to. -/
def display (bearer : Bearer) (u : Uuid) : String :=
  bearer.name ++ ":" ++ u.text

end Uuid

end Publishing
