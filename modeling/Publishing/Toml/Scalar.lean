import Publishing.Toml.Value

/-!
# Numbers, dates and words of TOML

Each of these is one run of letters, digits and a few signs, except that a date
and a time may have a space between them.  `word?` tells which value a run
spells.
-/

namespace Publishing.Toml

/-- Whether a list is made of digits, with single underscores between digits. -/
def isDigitRun (isDigit : Char → Bool) (cs : List Char) : Bool :=
  (cs.splitOn '_').all fun part => !part.isEmpty && part.all isDigit

/-- The list without its underscores. -/
def withoutUnderscores (cs : List Char) : List Char :=
  cs.filter (· != '_')

/-- Splits off an optional sign; true is for minus. -/
def splitSign : List Char → Bool × List Char
  | '-' :: cs => (true, cs)
  | '+' :: cs => (false, cs)
  | cs => (false, cs)

/-- Whether a list is a decimal number without a sign and without superfluous zeros. -/
def isDecimal (cs : List Char) : Bool :=
  isDigitRun Char.isDigit cs && (cs.length == 1 || cs.head? != some '0')

/-- The value of a digit in a base of at most sixteen. -/
def digitValue (c : Char) : Nat :=
  if c.isDigit then c.toNat - '0'.toNat else c.toLower.toNat - 'a'.toNat + 10

/-- Whether a character is a digit in a base of at most sixteen. -/
def isBaseDigit (base : Nat) (c : Char) : Bool :=
  c.isAlphanum && decide (digitValue c < base)

/-- The number that digits denote in a base. -/
def baseValue (base : Nat) (cs : List Char) : Nat :=
  cs.foldl (fun n c => base * n + digitValue c) 0

/-- The integer that a run spells, if it has 64 bits at most. -/
def integer? (cs : List Char) : Option Int :=
  let based (base : Nat) (digits : List Char) : Option Int :=
    if isDigitRun (isBaseDigit base) digits then some (baseValue base (withoutUnderscores digits))
    else none
  let value : Option Int :=
    match cs with
    | '0' :: 'x' :: digits => based 16 digits
    | '0' :: 'o' :: digits => based 8 digits
    | '0' :: 'b' :: digits => based 2 digits
    | _ =>
      let (negative, digits) := splitSign cs
      if isDecimal digits then
        let n : Int := baseValue 10 (withoutUnderscores digits)
        some (if negative then -n else n)
      else none
  value.filter fun n => decide (-9223372036854775808 ≤ n) && decide (n ≤ 9223372036854775807)

/-! ## Floating-point numbers -/

/-- Whether `m · 10^e` is so large that the nearest 64-bit floating-point number is
infinite. -/
def overflows (m : Nat) (e : Int) : Bool :=
  let places : Int := (Nat.toDigits 10 m).length + e
  if m = 0 ∨ places < 308 then false
  else if 310 < places then true
  else decide ((Nat.pow 2 54 - 1) * Nat.pow 2 970 * Nat.pow 10 (-e).toNat ≤ m * Nat.pow 10 e.toNat)

/-- Splits a list at the first of some characters, which is dropped. -/
def splitAtFirst (p : Char → Bool) (cs : List Char) : List Char × Option (List Char) :=
  match cs.dropWhile fun c => !p c with
  | [] => (cs, none)
  | _ :: after => (cs.takeWhile fun c => !p c, some after)

/-- Whether a run spells a floating-point number.  Numbers too large are refused
unless they are negative. -/
def isFloat (cs : List Char) : Bool :=
  let (negative, unsigned) := splitSign cs
  if unsigned = "inf".toList ∨ unsigned = "nan".toList then true
  else
    let (mantissa, exponent) := splitAtFirst (fun c => c == 'e' || c == 'E') unsigned
    let (whole, fraction) := splitAtFirst (· == '.') mantissa
    let (exponentNegative, exponentDigits) := splitSign (exponent.getD ['0'])
    if (exponent.isNone && fraction.isNone) || !isDecimal whole
        || !isDigitRun Char.isDigit (fraction.getD ['0'])
        || !isDigitRun Char.isDigit exponentDigits then false
    else
      let fractionDigits := withoutUnderscores (fraction.getD [])
      let m := baseValue 10 (withoutUnderscores whole ++ fractionDigits)
      let magnitude : Int := baseValue 10 (withoutUnderscores exponentDigits)
      let e := (if exponentNegative then -magnitude else magnitude) - fractionDigits.length
      negative || !overflows m e

/-! ## Dates and times -/

/-- The number that exactly `n` digits denote. -/
def fixedDigits? (n : Nat) (cs : List Char) : Option Nat :=
  if cs.length = n ∧ cs.all Char.isDigit then some (baseValue 10 cs) else none

/-- The number of days of a month. -/
def daysOfMonth (year month : Nat) : Nat :=
  if month = 2 then (if year % 4 = 0 ∧ (year % 100 ≠ 0 ∨ year % 400 = 0) then 29 else 28)
  else if month = 4 ∨ month = 6 ∨ month = 9 ∨ month = 11 then 30 else 31

/-- Whether a run is a date such as `1979-05-27`. -/
def isDate (cs : List Char) : Bool :=
  match cs.splitOn '-' with
  | [y, m, d] =>
    match fixedDigits? 4 y, fixedDigits? 2 m, fixedDigits? 2 d with
    | some year, some month, some day =>
      1 ≤ month && month ≤ 12 && 1 ≤ day && day ≤ daysOfMonth year month
    | _, _, _ => false
  | _ => false

/-- Whether a run is an hour and a minute. -/
def isClock (cs : List Char) : Bool :=
  match (cs.splitOn ':').map (fixedDigits? 2) with
  | [some hour, some minute] => hour ≤ 23 && minute ≤ 59
  | _ => false

/-- Whether a run is a time such as `07:32:00` or `07:32:00.5`. -/
def isTime (cs : List Char) : Bool :=
  let (clock, fraction) := splitAtFirst (· == '.') cs
  isClock (clock.take 5) && (clock.drop 5).head? == some ':'
    && (match fixedDigits? 2 (clock.drop 6) with | some second => second ≤ 60 | none => false)
    && (match fraction with | none => true | some ds => !ds.isEmpty && ds.all Char.isDigit)

/-- Whether a run is a time with an optional offset such as `Z` or `-07:00`. -/
def isOffsetTime (cs : List Char) : Bool :=
  let (time, offset) := splitAtFirst (fun c => c == '+' || c == '-') cs
  match offset with
  | some clock => isTime time && isClock clock
  | none =>
    match cs.getLast? with
    | some 'Z' | some 'z' => isTime cs.dropLast
    | _ => isTime cs

/-- Whether a run is a date, a time, or both with `T` between them. -/
def isMoment (cs : List Char) : Bool :=
  isDate cs || isTime cs
    || (isDate (cs.take 10) && ((cs.drop 10).head? == some 'T' || (cs.drop 10).head? == some 't')
      && isOffsetTime (cs.drop 11))

/-- The value that a run spells. -/
def word? (cs : List Char) : Option Value :=
  if cs = "true".toList then some (.boolean true)
  else if cs = "false".toList then some (.boolean false)
  else if isMoment cs then some .date
  else match integer? cs with
    | some n => some (.integer n)
    | none => if isFloat cs then some .float else none

/-- Whether a character can be part of a run. -/
def isWordChar (c : Char) : Bool :=
  c.isAlphanum || c == '+' || c == '-' || c == '_' || c == '.' || c == ':'

/-- Reads a number, date or word, and what follows it. -/
def scalar? (cs : List Char) : Option (Value × List Char) :=
  let run := cs.takeWhile isWordChar
  let rest := cs.dropWhile isWordChar
  match rest with
  | ' ' :: c :: _ =>
    if isDate run && c.isDigit then
      let time := rest.tail.takeWhile isWordChar
      if isOffsetTime time then some (.date, rest.tail.dropWhile isWordChar) else none
    else (word? run).map fun v => (v, rest)
  | _ => (word? run).map fun v => (v, rest)

end Publishing.Toml
