import Publishing.Property
import Publishing.Text.Blank

/-!
# Codes that differ in case only

Folding a code changes the case of letters and nothing else.  So codes that fold
alike are both blank or neither is (`Culture.isBlank_congr`), and whether two variants
agree does not depend on the case of their codes (`Variant.agree_congr`).
-/

namespace Publishing

namespace Culture

theorem fold_eq_iff {a b : String} :
    fold a = fold b ↔ a.toList.map Char.toLower = b.toList.map Char.toLower := by
  simp only [fold, ← String.toList_inj, String.toList_map]

theorem toNat_toLower_of_capital {c : Char} (h : 65 ≤ c.toNat ∧ c.toNat ≤ 90) :
    c.toLower.toNat = c.toNat + 32 := by
  have hval : 'A'.val ≤ c.val ∧ c.val ≤ 'Z'.val := h
  have hsmall : c.val.toNat ≤ 90 := h.2
  have hadd : (c.val + 32).toNat = c.val.toNat + 32 := by
    rw [UInt32.toNat_add]
    exact Nat.mod_eq_of_lt (Nat.lt_of_le_of_lt (Nat.add_le_add_right hsmall 32) (by decide))
  have hlower : c.toLower.toNat = (c.val + 32).toNat :=
    congrArg Char.toNat (show c.toLower = _ from dif_pos hval)
  exact hlower.trans hadd

theorem isWhiteSpace_toLower (c : Char) : Text.isWhiteSpace c.toLower = Text.isWhiteSpace c := by
  by_cases hcapital : 65 ≤ c.toNat ∧ c.toNat ≤ 90
  · rw [Bool.eq_iff_iff]
    simp only [Text.isWhiteSpace, Text.whiteSpaceRanges, toNat_toLower_of_capital hcapital,
      List.any_cons, List.any_nil, Bool.or_eq_true, Bool.and_eq_true, decide_eq_true_eq,
      Bool.or_false]
    omega
  · have hsame : c.toLower = c := dif_neg hcapital
    rw [hsame]

/-- Codes that name the same culture are both blank or neither is. -/
theorem isBlank_congr {a b : String} (h : fold a = fold b) : Text.isBlank a = Text.isBlank b := by
  have hfold : ∀ code : String, Text.isBlank code =
      (code.toList.map Char.toLower).all Text.isWhiteSpace := by
    intro code
    rw [Text.isBlank, List.all_map]
    exact congrArg code.toList.all (funext fun c => (isWhiteSpace_toLower c).symm)
  rw [hfold a, hfold b, fold_eq_iff.mp h]

end Culture

namespace Variant

theorem agree_iff {a b : Variant} :
    a.agree b = true ↔
      a.culture.map Culture.fold = b.culture.map Culture.fold ∧ a.segment = b.segment := by
  simp [agree]

theorem agree_refl (v : Variant) : v.agree v = true :=
  agree_iff.mpr ⟨rfl, rfl⟩

theorem agree_congr {a a' b b' : Variant} (ha : a.agree a' = true) (hb : b.agree b' = true) :
    a'.agree b' = a.agree b := by
  obtain ⟨hculture, hsegment⟩ := agree_iff.mp ha
  obtain ⟨hculture', hsegment'⟩ := agree_iff.mp hb
  simp only [agree, hculture, hsegment, hculture', hsegment']

end Variant

end Publishing
