import Mathlib.Algebra.Group.Nat.Defs
import Publishing.Text.Decimal

/-!
# Spellings of integers

An integer can be spelt in many ways: with or without a plus sign and with any
number of leading zeros.  `Spells` is the grammar of these spellings, with the
integer that each of them denotes.

* `signed?_eq_some_iff`: reading accepts exactly the spellings, and answers the
  integer spelt.
* `Spells.length_ofInt_le` and `Spells.eq_ofInt`: of all the spellings of an
  integer, the decimal text that is written for it is the only shortest one.
-/

namespace Publishing.Text.Decimal

/-- One or more ASCII digits, and the number that they denote. -/
structure Digits (cs : List Char) (n : Nat) : Prop where
  nonempty : cs ≠ []
  digit : ∀ c ∈ cs, c.isDigit = true
  value : Nat.ofDigitChars 10 cs 0 = n

/-- The spellings of an integer: an optional sign in front of one or more digits. -/
inductive Spells : List Char → Int → Prop where
  | bare {cs : List Char} {n : Nat} (h : Digits cs n) : Spells cs n
  | plus {cs : List Char} {n : Nat} (h : Digits cs n) : Spells ('+' :: cs) n
  | minus {cs : List Char} {n : Nat} (h : Digits cs n) : Spells ('-' :: cs) (-n)

/-! ## Reading accepts exactly the spellings -/

theorem natural?_eq_some_iff {cs : List Char} {n : Nat} : natural? cs = some n ↔ Digits cs n := by
  have hdigits : (cs.isEmpty || !cs.all Char.isDigit) = false ↔
      cs ≠ [] ∧ ∀ c ∈ cs, c.isDigit = true := by simp
  constructor
  · intro h
    unfold natural? at h
    split at h
    · cases h
    · next hcond =>
      obtain ⟨hne, hall⟩ := hdigits.mp (by simpa using hcond)
      exact ⟨hne, hall, Option.some.inj h⟩
  · intro h
    rw [natural?, hdigits.mpr ⟨h.nonempty, h.digit⟩, h.value]
    rfl

/-- **Reading an integer.**  A text reads as an integer exactly when it is one of
its spellings. -/
theorem signed?_eq_some_iff {part : List Char} {n : Int} :
    signed? part = some n ↔ Spells part n := by
  constructor
  · intro h
    unfold signed? at h
    split at h
    · obtain ⟨k, hk, rfl⟩ := Option.map_eq_some_iff.mp h
      exact .minus (natural?_eq_some_iff.mp hk)
    · obtain ⟨k, hk, rfl⟩ := Option.map_eq_some_iff.mp h
      exact .plus (natural?_eq_some_iff.mp hk)
    · obtain ⟨k, hk, rfl⟩ := Option.map_eq_some_iff.mp h
      exact .bare (natural?_eq_some_iff.mp hk)
  · intro h
    cases h with
    | bare h =>
        obtain ⟨c, cs, hcs⟩ := List.exists_cons_of_ne_nil h.nonempty
        have hc : c.isDigit = true := h.digit c (by simp [hcs])
        rw [hcs, signed?_of_digit hc, ← hcs, natural?_eq_some_iff.mpr h]
        rfl
    | plus h => rw [signed?, natural?_eq_some_iff.mpr h]; rfl
    | minus h => rw [signed?, natural?_eq_some_iff.mpr h]; rfl

/-- A spelling has a digit. -/
theorem Spells.exists_digit {part : List Char} {n : Int} (h : Spells part n) :
    ∃ c ∈ part, c.isDigit = true := by
  have hdigits {cs : List Char} {k : Nat} (h : Digits cs k) : ∃ c ∈ cs, c.isDigit = true := by
    obtain ⟨c, hc⟩ := List.exists_mem_of_ne_nil cs h.nonempty
    exact ⟨c, hc, h.digit c hc⟩
  cases h with
  | bare h => exact hdigits h
  | plus h | minus h =>
      obtain ⟨c, hc, hdigit⟩ := hdigits h
      exact ⟨c, List.mem_cons_of_mem _ hc, hdigit⟩

/-! ## Digits and their value -/

/-- The code points of the ASCII digits. -/
theorem isDigit_iff {c : Char} : c.isDigit = true ↔ 48 ≤ c.toNat ∧ c.toNat ≤ 57 :=
  Char.isDigit_iff_toNat

theorem digitValue_lt {c : Char} (h : c.isDigit = true) : c.toNat - '0'.toNat < 10 := by
  have hrange := isDigit_iff.mp h
  show c.toNat - 48 < 10
  omega

/-- Behind a number, `k` digits denote less than the `k`-th power of ten more. -/
theorem ofDigitChars_lt {cs : List Char} (h : ∀ c ∈ cs, c.isDigit = true) (front : Nat) :
    Nat.ofDigitChars 10 cs front < 10 ^ cs.length * (front + 1) := by
  induction cs generalizing front with
  | nil => simp [Nat.ofDigitChars]
  | cons c cs ih =>
      have hc := digitValue_lt (h c (by simp))
      rw [Nat.ofDigitChars_cons]
      calc Nat.ofDigitChars 10 cs (10 * front + (c.toNat - '0'.toNat))
          < 10 ^ cs.length * (10 * front + (c.toNat - '0'.toNat) + 1) :=
            ih (fun d hd => h d (List.mem_cons_of_mem c hd)) _
        _ ≤ 10 ^ cs.length * (10 * (front + 1)) := Nat.mul_le_mul_left _ (by omega)
        _ = 10 ^ (c :: cs).length * (front + 1) := by
            rw [List.length_cons, Nat.pow_succ, Nat.mul_assoc]

/-- As many digits with the same value are the same digits. -/
theorem ofDigitChars_injective {cs ds : List Char} (hlength : cs.length = ds.length)
    (hcs : ∀ c ∈ cs, c.isDigit = true) (hds : ∀ d ∈ ds, d.isDigit = true) {front front' : Nat}
    (h : Nat.ofDigitChars 10 cs front = Nat.ofDigitChars 10 ds front') :
    front = front' ∧ cs = ds := by
  induction cs generalizing ds front front' with
  | nil =>
      obtain rfl := List.eq_nil_of_length_eq_zero hlength.symm
      exact ⟨h, rfl⟩
  | cons c cs ih =>
      obtain ⟨d, ds, rfl⟩ := List.exists_cons_of_length_eq_add_one hlength.symm
      rw [Nat.ofDigitChars_cons, Nat.ofDigitChars_cons] at h
      obtain ⟨hfront, rfl⟩ := ih (Nat.succ.inj hlength)
        (fun x hx => hcs x (List.mem_cons_of_mem c hx))
        (fun x hx => hds x (List.mem_cons_of_mem d hx)) h
      -- what stands in front of the last digits determines the digit and what precedes it
      have hc := isDigit_iff.mp (hcs c (by simp))
      have hd := isDigit_iff.mp (hds d (by simp))
      simp only [show '0'.toNat = 48 from rfl] at hfront
      have hchar : c.toNat = d.toNat := by omega
      exact ⟨by omega, by rw [Char.toNat_inj.mp hchar]⟩

/-! ## The shortest spelling -/

theorem digits_ofNat (n : Nat) : Digits (ofNat n) n :=
  natural?_eq_some_iff.mp (natural?_ofNat n)

theorem Digits.length_ofNat_le {cs : List Char} {n : Nat} (h : Digits cs n) :
    (ofNat n).length ≤ cs.length := by
  have hpos : 0 < cs.length := List.length_pos_iff.mpr h.nonempty
  rw [ofNat, Nat.length_toDigits_le_iff (by decide) hpos, ← h.value]
  simpa using ofDigitChars_lt h.digit 0

theorem Digits.eq_ofNat {cs : List Char} {n : Nat} (h : Digits cs n)
    (hle : cs.length ≤ (ofNat n).length) : cs = ofNat n := by
  have hlength : cs.length = (ofNat n).length := Nat.le_antisymm hle h.length_ofNat_le
  have hvalue := h.value.trans (digits_ofNat n).value.symm
  exact (ofDigitChars_injective hlength h.digit (digits_ofNat n).digit hvalue).2

theorem ofInt_natCast (n : Nat) : ofInt n = ofNat n := by
  rw [ofInt, if_neg (by omega), Int.natAbs_natCast]

theorem ofInt_neg_natCast {n : Nat} (h : 0 < n) : ofInt (-n) = '-' :: ofNat n := by
  rw [ofInt, if_pos (by omega), Int.natAbs_neg, Int.natAbs_natCast]

theorem spells_ofInt (n : Int) : Spells (ofInt n) n :=
  signed?_eq_some_iff.mp (signed?_ofInt n)

variable {part : List Char} {n : Int}

theorem Spells.length_ofInt_le (h : Spells part n) : (ofInt n).length ≤ part.length := by
  cases h with
  | bare h => rw [ofInt_natCast]; exact h.length_ofNat_le
  | plus h => rw [ofInt_natCast]; exact Nat.le_succ_of_le h.length_ofNat_le
  | @minus cs k h =>
      rcases Nat.eq_zero_or_pos k with rfl | hk
      · exact Nat.le_succ_of_le h.length_ofNat_le
      · rw [ofInt_neg_natCast hk]
        exact Nat.succ_le_succ h.length_ofNat_le

/-- **The only shortest spelling.**  A spelling that is no longer than the decimal
text of the integer is that text: a plus sign, the sign of a zero or a leading zero
makes any other one longer. -/
theorem Spells.eq_ofInt (h : Spells part n) (hle : part.length ≤ (ofInt n).length) :
    part = ofInt n := by
  cases h with
  | bare h =>
      rw [ofInt_natCast] at hle ⊢
      exact h.eq_ofNat hle
  | @plus cs k h =>
      -- the digits alone are as long as the decimal text, and the sign comes on top
      rw [ofInt_natCast] at hle
      exact absurd (Nat.le_trans hle h.length_ofNat_le) (Nat.not_succ_le_self _)
  | @minus cs k h =>
      -- a zero is written without its sign
      rcases Nat.eq_zero_or_pos k with rfl | hk
      · exact absurd (Nat.le_trans hle h.length_ofNat_le) (Nat.not_succ_le_self _)
      · rw [ofInt_neg_natCast hk] at hle ⊢
        rw [h.eq_ofNat (Nat.le_of_succ_le_succ hle)]

end Publishing.Text.Decimal
