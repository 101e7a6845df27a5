import Publishing.Json.Numeral
import Publishing.Json.Quoted

/-!
# Tokens of JSON

A JSON text is a sequence of punctuation marks, words, numerals and quoted texts,
with white space between them.  `Token.scan` reads the sequence.

A quoted text is kept as it is written, without its quotes.  It is refused here
only if it cannot be taken apart: what its code units stand for is not asked.
-/

namespace Publishing.Json

/-- A token of a JSON text. -/
inductive Token where
  | openArray
  | closeArray
  | openObject
  | closeObject
  | colon
  | comma
  | null
  | bool (b : Bool)
  | number (n : Numeral)
  /-- A quoted text, as it is written between its quotes. -/
  | string (body : List Char)
deriving DecidableEq

namespace Token

/-- Whether a character may stand between tokens. -/
def isSpace (c : Char) : Bool :=
  c == ' ' || c == '\t' || c == '\n' || c == '\r'

/-- The token that a single character makes. -/
def ofMark? : Char → Option Token
  | '[' => some .openArray
  | ']' => some .closeArray
  | '{' => some .openObject
  | '}' => some .closeObject
  | ':' => some .colon
  | ',' => some .comma
  | _ => none

/-- The token that a word or numeral makes. -/
def ofWord? (cs : List Char) : Option Token :=
  if cs = ['n', 'u', 'l', 'l'] then some .null
  else if cs = ['t', 'r', 'u', 'e'] then some (.bool true)
  else if cs = ['f', 'a', 'l', 's', 'e'] then some (.bool false)
  else (Numeral.ofChars? cs).map .number

/-- Whether a character can be part of a word or numeral. -/
def isWordChar (c : Char) : Bool :=
  c.isAlphanum || c == '-' || c == '+' || c == '.'

/-- Splits a text behind an opening quote at the closing one. -/
def splitQuoted : List Char → Option (List Char × List Char)
  | [] => none
  | '"' :: rest => some ([], rest)
  | '\\' :: c :: rest => (splitQuoted rest).map fun (body, after) => ('\\' :: c :: body, after)
  | c :: rest => (splitQuoted rest).map fun (body, after) => (c :: body, after)

theorem length_lt_of_splitQuoted {cs body after : List Char}
    (h : splitQuoted cs = some (body, after)) : after.length < cs.length := by
  fun_induction splitQuoted cs generalizing body after with
  | case1 => simp at h
  | case2 rest => simp_all
  | case3 c rest ih =>
    obtain ⟨⟨b, a⟩, hrec, heq⟩ := Option.map_eq_some_iff.mp h
    obtain ⟨-, rfl⟩ := Prod.mk.inj heq
    have := ih hrec
    simp only [List.length_cons]
    omega
  | case4 c rest _ _ ih =>
    obtain ⟨⟨b, a⟩, hrec, heq⟩ := Option.map_eq_some_iff.mp h
    obtain ⟨-, rfl⟩ := Prod.mk.inj heq
    have := ih hrec
    simp only [List.length_cons]
    omega

theorem length_dropWhile_lt {p : Char → Bool} {c : Char} {cs : List Char} (h : p c = true) :
    ((c :: cs).dropWhile p).length < (c :: cs).length := by
  rw [List.dropWhile_cons_of_pos h]
  exact Nat.lt_succ_of_le (List.dropWhile_suffix p).length_le

/-- Reads the tokens of a text, unless there is something else in it. -/
def scan (cs : List Char) : Option (List Token) :=
  match cs with
  | [] => some []
  | c :: rest =>
    if isSpace c then scan rest
    else if c = '"' then
      match _h : splitQuoted rest with
      | none => none
      | some (body, after) =>
        if (Quoted.pieces? body).isSome then (scan after).map (.string body :: ·) else none
    else
      match ofMark? c with
      | some t => (scan rest).map (t :: ·)
      | none =>
        if _h : isWordChar c = true then
          match ofWord? ((c :: rest).takeWhile isWordChar) with
          | some t => (scan ((c :: rest).dropWhile isWordChar)).map (t :: ·)
          | none => none
        else none
termination_by cs.length
decreasing_by
  all_goals first
    | exact Nat.lt_succ_self _
    | exact length_dropWhile_lt _h
    | exact Nat.lt_succ_of_lt (length_lt_of_splitQuoted _h)

/-- The characters of a token. -/
def chars : Token → List Char
  | .openArray => ['[']
  | .closeArray => [']']
  | .openObject => ['\x7b']
  | .closeObject => ['\x7d']
  | .colon => [':']
  | .comma => [',']
  | .null => ['n', 'u', 'l', 'l']
  | .bool true => ['t', 'r', 'u', 'e']
  | .bool false => ['f', 'a', 'l', 's', 'e']
  | .number n => n.chars
  | .string body => '"' :: body ++ ['"']

end Token

end Publishing.Json
