import Mathlib.Data.List.TakeWhile
import Publishing.Json.Numeral

/-!
# The numerals of integers

An integer is written as its decimal text, which is a numeral without superfluous zeros:
`ofChars?_ofInt` reads it and `integer?_ofInt` gives the integer back.  The zero has no
sign, so no integer is written `-0`.
-/

namespace Publishing

open Text

/-! ## Digits -/

theorem Text.Decimal.ofNat_ne_nil (n : Nat) : Decimal.ofNat n ≠ [] :=
  Nat.toDigits_ne_nil

/-- No number but zero begins with a zero. -/
theorem Text.Decimal.head?_ofNat_ne_zero (n : Nat) (h : 0 < n) :
    (Decimal.ofNat n).head? ≠ some '0' := by
  induction n using Nat.strongRecOn with
  | _ n ih =>
      unfold Decimal.ofNat
      rcases Nat.lt_or_ge n 10 with hlt | hge
      · have hdigit : ∀ d < 10, 0 < d → d.digitChar ≠ '0' := by decide
        rw [Nat.toDigits_of_lt_base hlt]
        simpa using hdigit n hlt h
      · obtain ⟨c, cs, hfront⟩ :=
          List.exists_cons_of_ne_nil (Nat.toDigits_ne_nil (n := n / 10) (b := 10))
        have hfirst := ih (n / 10) (by omega) (by omega)
        rw [Decimal.ofNat, hfront] at hfirst
        rw [Nat.toDigits_of_base_le (by decide) hge, hfront]
        exact hfirst

namespace Json.Numeral

theorem isWhole_ofNat (n : Nat) : isWhole (Decimal.ofNat n) = true := by
  have hdigits : isDigits (Decimal.ofNat n) = true := by
    simp only [isDigits, Bool.and_eq_true, Bool.not_eq_true', List.isEmpty_eq_false_iff]
    exact ⟨Decimal.ofNat_ne_nil n, List.all_eq_true.mpr fun _ => Decimal.isDigit_of_mem_ofNat⟩
  rw [isWhole, hdigits, Bool.true_and, Bool.or_eq_true]
  rcases Nat.eq_zero_or_pos n with rfl | hpos
  · exact .inl rfl
  · exact .inr (by simpa using Decimal.head?_ofNat_ne_zero n hpos)

theorem unsigned?_ofNat (negative : Bool) (n : Nat) :
    unsigned? negative (Decimal.ofNat n) = some ⟨negative, Decimal.ofNat n, none, none⟩ := by
  have htake : (Decimal.ofNat n).takeWhile Char.isDigit = Decimal.ofNat n :=
    List.takeWhile_eq_self_iff.mpr fun _ => Decimal.isDigit_of_mem_ofNat
  have hdrop : (Decimal.ofNat n).dropWhile Char.isDigit = [] :=
    List.dropWhile_eq_nil_iff.mpr fun _ => Decimal.isDigit_of_mem_ofNat
  simp only [unsigned?, htake, hdrop, isWhole_ofNat, if_true, tail?, Option.map_some]

/-! ## Integers -/

theorem chars_ofInt (n : Int) : (ofInt n).chars = Decimal.ofInt n := by
  by_cases hn : n < 0 <;> simp [ofInt, chars, Decimal.ofInt, hn]

theorem ofChars?_ofInt (n : Int) : ofChars? (Decimal.ofInt n) = some (ofInt n) := by
  unfold Decimal.ofInt ofInt
  split
  · next hn =>
    rw [ofChars?, unsigned?_ofNat, decide_eq_true hn]
  · next hn =>
    rw [decide_eq_false hn, ← unsigned?_ofNat, ofChars?]
    -- the first character is a digit
    intro cs hcs
    have hmem : '-' ∈ Decimal.ofNat n.natAbs := by simp [hcs]
    exact absurd (Decimal.isDigit_of_mem_ofNat hmem) (by decide)

/-- **The numeral of an integer denotes it.** -/
@[simp] theorem integer?_ofInt (n : Int) : (ofInt n).integer? = some n := by
  have hvalue : Nat.ofDigitChars 10 (Decimal.ofNat n.natAbs) 0 = n.natAbs :=
    Nat.ofDigitChars_ten_toDigits
  simp only [integer?, ofInt, hvalue, decide_eq_true_eq]
  split
  · rw [if_neg (by omega), Option.some.injEq]
    omega
  · rw [Option.some.injEq]
    omega

end Json.Numeral

end Publishing
