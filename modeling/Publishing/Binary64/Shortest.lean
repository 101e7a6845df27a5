import Publishing.Binary64.Basic

/-!
# Shortest decimals

The shortest decimal of a positive number `m · 2^q` is the decimal with the
fewest digits among those that lie in its rounding interval, and of these the
one nearest to the number.

On the grid of the multiples of `10^s` only the two neighbours of the number
need to be tried: if any point of the grid lies in the interval, one of them
does.  Grids are tried from one significant digit to seventeen, which always
suffice.
-/

namespace Publishing.Binary64

/-- A decimal `coefficient · 10^exponent`. -/
structure Decimal where
  coefficient : Nat
  exponent : Int
deriving DecidableEq

/-- The rounding interval of a positive number with the number itself, all in
units of `numerator / denominator`. -/
structure Interval where
  lower : Nat
  middle : Nat
  upper : Nat
  /-- Whether the ends round to the number too. -/
  closed : Bool
  numerator : Nat
  denominator : Nat
deriving DecidableEq

/-- The interval of the reals that round to `m · 2^q`.  Below a power of two the
spacing of the numbers is halved, unless `q` is the least exponent. -/
def Interval.ofParts (m : Nat) (q : Int) : Interval where
  lower := 4 * m - (if m = Nat.pow 2 52 ∧ -1074 < q then 1 else 2)
  middle := 4 * m
  upper := 4 * m + 2
  closed := m % 2 == 0
  numerator := Nat.pow 2 (q - 2).toNat
  denominator := Nat.pow 2 (2 - q).toNat

namespace Interval

/-- Whether the decimal `k · 10^s` lies in the interval. -/
def holds (i : Interval) (k : Nat) (s : Int) : Bool :=
  let point := k * i.denominator * Nat.pow 10 s.toNat
  let scale := i.numerator * Nat.pow 10 (-s).toNat
  if i.closed then i.lower * scale ≤ point && point ≤ i.upper * scale
  else i.lower * scale < point && point < i.upper * scale

/-- The multiple of `10^s` next below the number, and whether the one above is
nearer: of two equally near ones the even one counts as the nearer. -/
def neighbour (i : Interval) (s : Int) : Nat × Bool :=
  let grid := i.denominator * Nat.pow 10 s.toNat
  let value := i.middle * i.numerator * Nat.pow 10 (-s).toNat
  let below := value / grid
  let rest := 2 * (value % grid)
  (below, decide (grid < rest) || decide (grid = rest) && below % 2 == 1)

/-- The point of the grid of `10^s` in the interval, the nearer if there are two. -/
def onGrid? (i : Interval) (s : Int) : Option Nat :=
  let (below, upIsNearer) := i.neighbour s
  match i.holds below s && below != 0, i.holds (below + 1) s with
  | true, true => some (if upIsNearer then below + 1 else below)
  | true, false => some below
  | false, true => some (below + 1)
  | false, false => none

/-- The position of the number's decimal point: the least `p` with the number below `10^p`. -/
def pointPosition (i : Interval) : Int :=
  let scaled := i.middle * i.numerator * Nat.pow 10 330 / i.denominator
  ((Nat.toDigits 10 scaled).length : Int) - 330

/-- The first hit on the grids of one digit, two digits, and so on. -/
def shortest (i : Interval) : Decimal :=
  let p := i.pointPosition
  let tries := (List.range 17).filterMap fun n : Nat =>
    let s := p - (n + 1 : Nat)
    (i.onGrid? s).map fun k => Decimal.mk k s
  tries.headD ⟨0, 0⟩

end Interval

/-- The decimal without the zeros at the end of its coefficient. -/
def Decimal.stripped (d : Decimal) : Decimal :=
  let digits := Nat.toDigits 10 d.coefficient
  let zeros := (digits.reverse.takeWhile (· == '0')).length
  ⟨d.coefficient / Nat.pow 10 zeros, d.exponent + zeros⟩

/-- The shortest decimal of a finite number other than zero, up to its sign. -/
def shortest (x : Binary64) : Decimal :=
  let (m, q) := x.parts
  (Interval.ofParts m q).shortest.stripped

end Publishing.Binary64
