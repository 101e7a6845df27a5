/-!
# Quoted texts of TOML

There are four kinds: with escapes between double quotes, without escapes
between single quotes, and each of these on several lines between three quotes.
Every reader takes the text behind the opening quotes and gives its characters
and what follows the closing quotes.

In a text on several lines a line break is always a line feed; one right behind
the opening quotes is dropped.  Up to two quotes may stand before the closing
three.
-/

namespace Publishing.Toml

/-- Whether a character may stand in a quoted text as it is, or in a comment. -/
def isPlain (c : Char) : Bool :=
  c == '\t' || (0x20 ≤ c.toNat && c.toNat != 0x7F)

/-- Whether a character is white space within a line. -/
def isBlankChar (c : Char) : Bool := c == ' ' || c == '\t'

/-- The value of hexadecimal digits. -/
def hexValue? (cs : List Char) : Option Nat :=
  cs.foldl
    (fun n c => n.bind fun n =>
      if c.isDigit then some (16 * n + (c.toNat - '0'.toNat))
      else if 'a' ≤ c ∧ c ≤ 'f' then some (16 * n + (c.toNat - 'a'.toNat + 10))
      else if 'A' ≤ c ∧ c ≤ 'F' then some (16 * n + (c.toNat - 'A'.toNat + 10))
      else none)
    (some 0)

/-- The character with the code point that `n` hexadecimal digits name. -/
def codePoint? (n : Nat) (cs : List Char) : Option (Char × List Char) :=
  let digits := cs.take n
  match hexValue? digits with
  | some v =>
    if digits.length = n ∧ v.isValidChar then some (Char.ofNat v, cs.drop n) else none
  | none => none

/-- The character that an escape stands for, behind its backslash. -/
def escape? : List Char → Option (Char × List Char)
  | 'b' :: rest => some ('\x08', rest)
  | 't' :: rest => some ('\t', rest)
  | 'n' :: rest => some ('\n', rest)
  | 'f' :: rest => some ('\x0c', rest)
  | 'r' :: rest => some ('\r', rest)
  | '"' :: rest => some ('"', rest)
  | '\\' :: rest => some ('\\', rest)
  | 'u' :: rest => codePoint? 4 rest
  | 'U' :: rest => codePoint? 8 rest
  | _ => none

/-- What follows a line break, if there is one here. -/
def newline? : List Char → Option (List Char)
  | '\n' :: rest => some rest
  | '\r' :: '\n' :: rest => some rest
  | _ => none

/-- What follows a line break right behind opening quotes. -/
def afterFirstNewline (cs : List Char) : List Char :=
  (newline? cs).getD cs

/-- Skips white space and line breaks. -/
def skipLines : (fuel : Nat) → List Char → List Char
  | 0, cs => cs
  | fuel + 1, cs =>
    match newline? cs with
    | some rest => skipLines fuel rest
    | none =>
      match cs with
      | c :: rest => if isBlankChar c then skipLines fuel rest else cs
      | [] => []

/-- What follows a backslash that ends a line: the next line that is not blank. -/
def continued? (cs : List Char) : Option (List Char) :=
  (newline? (cs.dropWhile isBlankChar)).map fun rest => skipLines rest.length rest

/-- Splits `"""` off together with up to two quotes that belong to the text. -/
def closing? (quote : Char) (cs : List Char) : Option (List Char × List Char) :=
  let run := (cs.takeWhile (· == quote)).length
  if run < 3 then none
  else
    let extra := min (run - 3) 2
    some (List.replicate extra quote, cs.drop (extra + 3))

/-- Reads a text with escapes. -/
def basicText? : (fuel : Nat) → List Char → Option (List Char × List Char)
  | 0, _ => none
  | _ + 1, [] => none
  | _ + 1, '"' :: rest => some ([], rest)
  | fuel + 1, '\\' :: rest =>
    (escape? rest).bind fun (c, rest) =>
      (basicText? fuel rest).map fun (cs, after) => (c :: cs, after)
  | fuel + 1, c :: rest =>
    if isPlain c then (basicText? fuel rest).map fun (cs, after) => (c :: cs, after) else none

/-- Reads a text without escapes. -/
def literalText? : List Char → Option (List Char × List Char)
  | [] => none
  | '\'' :: rest => some ([], rest)
  | c :: rest =>
    if isPlain c then (literalText? rest).map fun (cs, after) => (c :: cs, after) else none

/-- Reads a text on several lines. -/
def linesText? (quote : Char) (escapes : Bool) :
    (fuel : Nat) → List Char → Option (List Char × List Char)
  | 0, _ => none
  | fuel + 1, cs =>
    match closing? quote cs with
    | some closed => some closed
    | none =>
      match newline? cs with
      | some rest =>
        (linesText? quote escapes fuel rest).map fun (cs, after) => ('\n' :: cs, after)
      | none =>
        match cs with
        | [] => none
        | c :: rest =>
          if c = '\\' ∧ escapes then
            match continued? rest with
            | some rest => linesText? quote escapes fuel rest
            | none =>
              (escape? rest).bind fun (c, rest) =>
                (linesText? quote escapes fuel rest).map fun (cs, after) => (c :: cs, after)
          else if isPlain c then
            (linesText? quote escapes fuel rest).map fun (cs, after) => (c :: cs, after)
          else none

/-- Reads a text on one line. -/
def lineText? (cs : List Char) : Option (String × List Char) :=
  match cs with
  | '"' :: rest =>
    (basicText? (rest.length + 1) rest).map fun (cs, after) => (String.ofList cs, after)
  | '\'' :: rest => (literalText? rest).map fun (cs, after) => (String.ofList cs, after)
  | _ => none

/-- Reads a text of any kind. -/
def text? (cs : List Char) : Option (String × List Char) :=
  match cs with
  | '"' :: '"' :: '"' :: rest =>
    (linesText? '"' true (rest.length + 1) (afterFirstNewline rest)).map
      fun (cs, after) => (String.ofList cs, after)
  | '\'' :: '\'' :: '\'' :: rest =>
    (linesText? '\'' false (rest.length + 1) (afterFirstNewline rest)).map
      fun (cs, after) => (String.ofList cs, after)
  | _ => lineText? cs

end Publishing.Toml
