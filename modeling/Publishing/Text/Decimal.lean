/-!
# Decimal integers

`signed?` reads an optional sign followed by one or more ASCII digits; leading
zeros are fine.  `ofInt` writes the shortest such text, without a plus sign.

* `signed?_ofInt`: what is written reads back.
* `mem_ofInt`: a written integer holds only digits and a minus sign.
-/

namespace Publishing.Text.Decimal

/-- The number that one or more ASCII digits denote. -/
def natural? (digits : List Char) : Option Nat :=
  if digits.isEmpty || !digits.all Char.isDigit then none
  else some (Nat.ofDigitChars 10 digits 0)

/-- The integer that an optional sign and one or more ASCII digits denote. -/
def signed? : List Char → Option Int
  | '-' :: digits => (natural? digits).map fun n : Nat => -(n : Int)
  | '+' :: digits => (natural? digits).map Int.ofNat
  | digits => (natural? digits).map Int.ofNat

/-- The digits of a natural number. -/
def ofNat (n : Nat) : List Char :=
  Nat.toDigits 10 n

/-- The digits of an integer, after a minus sign when it is negative. -/
def ofInt (n : Int) : List Char :=
  if n < 0 then '-' :: ofNat n.natAbs else ofNat n.natAbs

/-! ## Reading back what was written -/

theorem isDigit_of_mem_ofNat {n : Nat} {c : Char} (h : c ∈ ofNat n) : c.isDigit = true :=
  Nat.isDigit_of_mem_toDigits (by decide) (by decide) h

theorem natural?_ofNat (n : Nat) : natural? (ofNat n) = some n := by
  have hdigits : (ofNat n).all Char.isDigit = true :=
    List.all_eq_true.mpr fun _ h => isDigit_of_mem_ofNat h
  have hne : (ofNat n).isEmpty = false := by simp [ofNat, Nat.toDigits_ne_nil]
  simp only [natural?, hne, hdigits, Bool.not_true, Bool.or_self, Bool.false_eq_true, if_false]
  exact congrArg some Nat.ofDigitChars_ten_toDigits

theorem signed?_of_digit {c : Char} {cs : List Char} (h : c.isDigit = true) :
    signed? (c :: cs) = (natural? (c :: cs)).map Int.ofNat := by
  unfold signed?
  split
  · exact absurd h (by simp_all)
  · exact absurd h (by simp_all)
  · rfl

theorem signed?_ofInt (n : Int) : signed? (ofInt n) = some n := by
  unfold ofInt
  split
  · next h =>
    rw [signed?, natural?_ofNat, Option.map_some, Option.some.injEq]
    omega
  · next h =>
    obtain ⟨c, cs, hcs⟩ := List.exists_cons_of_ne_nil
      (show ofNat n.natAbs ≠ [] by simp [ofNat, Nat.toDigits_ne_nil])
    have hc : c.isDigit = true := isDigit_of_mem_ofNat (n := n.natAbs) (by simp [hcs])
    rw [hcs, signed?_of_digit hc, ← hcs, natural?_ofNat]
    simp only [Option.map_some, Option.some.injEq]
    exact Int.natAbs_of_nonneg (by omega)

theorem mem_ofInt {n : Int} {c : Char} (h : c ∈ ofInt n) : c.isDigit = true ∨ c = '-' := by
  unfold ofInt at h
  split at h
  · rcases List.mem_cons.mp h with rfl | h
    · exact .inr rfl
    · exact .inl (isDigit_of_mem_ofNat h)
  · exact .inl (isDigit_of_mem_ofNat h)

theorem comma_notMem_ofInt (n : Int) : ',' ∉ ofInt n := by
  intro h
  rcases mem_ofInt h with h | h <;> revert h <;> decide

end Publishing.Text.Decimal
