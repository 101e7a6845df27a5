import Publishing.Text.Unprintable

/-!
# Quoted texts in messages

A text is shown between double quotes.  Quotes and backslashes get a backslash,
a few control characters a letter, and any other character that is not shown as
it is becomes its code point in braces.
-/

namespace Publishing.Text

/-- A character as it is shown between quotes. -/
def shownChar (c : Char) : String :=
  match c with
  | '\x00' => "\\0"
  | '\t' => "\\t"
  | '\n' => "\\n"
  | '\r' => "\\r"
  | '"' => "\\\""
  | '\\' => "\\\\"
  | c =>
    if isPrintable c then String.singleton c
    else "\\u\x7b" ++ String.ofList (Nat.toDigits 16 c.toNat) ++ "\x7d"

/-- A text as it is shown in a message. -/
def quoted (s : String) : String :=
  "\"" ++ String.join (s.toList.map shownChar) ++ "\""

end Publishing.Text
