import Publishing.Binary64.Shortest
import Publishing.Text.Decimal

/-!
# Numerals of JSON

A numeral is an optional minus sign, a whole part without superfluous zeros, and
an optional fraction and exponent.  It denotes an integer when it has neither
fraction nor exponent; `-0` does not, as integers have one zero only.

A floating-point number is written with its shortest digits.  With the decimal
point `p` places after the first digit's left, it is written positionally for
`-5 < p ≤ 16`, always with a fraction, and with an exponent otherwise.
-/

namespace Publishing.Json

/-- A number as it is written. -/
structure Numeral where
  negative : Bool
  whole : List Char
  fraction : Option (List Char)
  /-- The characters of the exponent, its sign included. -/
  exponent : Option (List Char)
deriving DecidableEq

namespace Numeral

/-- Whether the list is one or more digits. -/
def isDigits (cs : List Char) : Bool :=
  !cs.isEmpty && cs.all Char.isDigit

/-- Whether the list is a whole part: digits, the first not zero unless it is alone. -/
def isWhole (cs : List Char) : Bool :=
  isDigits cs && (cs.length == 1 || cs.head? != some '0')

/-- Whether the list is an exponent: an optional sign and digits. -/
def isExponent : List Char → Bool
  | '+' :: cs => isDigits cs
  | '-' :: cs => isDigits cs
  | cs => isDigits cs

/-- The part of a numeral after its whole part. -/
def tail? : List Char → Option (Option (List Char) × Option (List Char))
  | [] => some (none, none)
  | '.' :: rest =>
    let fraction := rest.takeWhile Char.isDigit
    match rest.dropWhile Char.isDigit with
    | [] => if isDigits fraction then some (some fraction, none) else none
    | e :: exponent =>
      if isDigits fraction && (e == 'e' || e == 'E') && isExponent exponent then
        some (some fraction, some exponent)
      else none
  | e :: exponent =>
    if (e == 'e' || e == 'E') && isExponent exponent then some (none, some exponent) else none

/-- The numeral without a sign that a list of characters spells. -/
def unsigned? (negative : Bool) (cs : List Char) : Option Numeral :=
  let whole := cs.takeWhile Char.isDigit
  if isWhole whole then
    (tail? (cs.dropWhile Char.isDigit)).map fun (fraction, exponent) =>
      ⟨negative, whole, fraction, exponent⟩
  else none

/-- The numeral that a list of characters spells. -/
def ofChars? : List Char → Option Numeral
  | '-' :: cs => unsigned? true cs
  | cs => unsigned? false cs

/-- The characters of a numeral. -/
def chars (n : Numeral) : List Char :=
  (if n.negative then ['-'] else []) ++ n.whole
    ++ (match n.fraction with | none => [] | some f => '.' :: f)
    ++ (match n.exponent with | none => [] | some e => 'e' :: e)

/-- The numeral of an integer. -/
def ofInt (n : Int) : Numeral :=
  ⟨decide (n < 0), Text.Decimal.ofNat n.natAbs, none, none⟩

/-- The integer that a numeral denotes. -/
def integer? (n : Numeral) : Option Int :=
  match n.fraction, n.exponent with
  | none, none =>
    let value := Nat.ofDigitChars 10 n.whole 0
    if n.negative then (if value = 0 then none else some (-(value : Int))) else some value
  | _, _ => none

/-! ## Floating-point numbers -/

/-- The digits of a significand as far as they fit into 64 bits, and the number of
digits left out. -/
def takeDigits (significand : Nat) : List Char → Nat × Nat
  | [] => (significand, 0)
  | c :: cs =>
    let next := 10 * significand + (c.toNat - '0'.toNat)
    if next < 18446744073709551616 then takeDigits next cs else (significand, cs.length + 1)

/-- The significand times a power of ten: one rounding for the significand and one
for each power of at most `10^308` that is multiplied or divided by.  There is
none when it is out of range. -/
def scaled? (significand : Float) : Nat → Int → Option Float
  | 0, _ => some significand
  | fuel + 1, e =>
    if e.natAbs ≤ 308 then
      let power := Float.ofScientific 1 false e.natAbs
      if 0 ≤ e then
        let product := significand * power
        if product.isInf then none else some product
      else some (significand / power)
    else if significand == 0 then some significand
    else if 0 ≤ e then none
    else scaled? (significand / Float.ofScientific 1 false 308) fuel (e + 308)

/-- The integer that an exponent denotes. -/
def exponentValue : Option (List Char) → Int
  | none => 0
  | some ('-' :: cs) => -(Nat.ofDigitChars 10 cs 0 : Int)
  | some ('+' :: cs) => Nat.ofDigitChars 10 cs 0
  | some cs => Nat.ofDigitChars 10 cs 0

/-- The floating-point number that a numeral denotes, unless it is out of range. -/
def float? (n : Numeral) : Option Binary64 :=
  let (head, left) := takeDigits 0 n.whole
  let fraction := n.fraction.getD []
  let (significand, unused) := takeDigits head fraction
  let e := exponentValue n.exponent + left - ((fraction.length - unused : Nat) : Int)
  let magnitude :=
    if 2147483647 < (exponentValue n.exponent).natAbs then
      if significand ≠ 0 ∧ 0 < exponentValue n.exponent then none else some 0
    else scaled? (Float.ofNat significand) (e.natAbs / 308 + 2) e
  magnitude.map fun x => Binary64.ofFloat (if n.negative then -x else x)

/-- The least and the greatest decimal point position written positionally. -/
def positional (p : Int) : Bool := decide (-5 < p) && decide (p ≤ 16)

/-- The numeral of a positive decimal. -/
def ofDecimal (negative : Bool) (d : Binary64.Decimal) : Numeral :=
  let digits := Text.Decimal.ofNat d.coefficient
  let p := (digits.length : Int) + d.exponent
  if positional p then
    if 0 ≤ d.exponent then
      ⟨negative, digits ++ List.replicate d.exponent.toNat '0', some ['0'], none⟩
    else if 0 < p then
      ⟨negative, digits.take p.toNat, some (digits.drop p.toNat), none⟩
    else ⟨negative, ['0'], some (List.replicate (-p).toNat '0' ++ digits), none⟩
  else
    let fraction := if digits.length = 1 then none else some (digits.drop 1)
    ⟨negative, digits.take 1, fraction, some (Text.Decimal.ofInt (p - 1))⟩

/-- The numeral of a finite floating-point number. -/
def ofBinary64 (x : Binary64) : Numeral :=
  if x.parts.1 = 0 then ⟨x.isNegative, ['0'], some ['0'], none⟩
  else ofDecimal x.isNegative x.shortest

end Numeral

end Publishing.Json
