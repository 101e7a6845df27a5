import Mathlib.Data.List.TakeWhile
import Publishing.Proofs.Json.Numeral
import Publishing.Proofs.Json.Quoted

/-!
# Tokens read back

`Token.scan` takes a text apart from its beginning and has to see where a token ends.  A
mark is one character and a quoted text ends at its quote, but a word or numeral goes on
for as long as its characters do, so it must not be followed by another one.

* `Scans`: written out in front of any text that does not go on with a word, the tokens are
  read back, and then the text.
* `Scans.mark`: tokens may be put together with a mark between them.
* `scans_string`, `scans_int`, `scans_null`, `scans_bool`: the tokens of single values.
-/

namespace Publishing.Json.Token

open Text

/-- A text does not begin with a character of a word. -/
def Closes (rest : List Char) : Prop :=
  ∀ c ∈ rest.head?, isWordChar c = false

/-- Tokens that are read back from their characters, whatever comes behind them that does
not go on with a word. -/
def Scans (ts : List Token) : Prop :=
  ∀ rest, Closes rest → scan (ts.flatMap chars ++ rest) = (scan rest).map (ts ++ ·)

variable {t : Token} {ts a b : List Token} {c : Char} {rest : List Char}

theorem scans_nil : Scans [] := by
  intro rest _
  simp

/-! ## Marks -/

/-- A mark is no space, no quote and no character of a word. -/
theorem of_ofMark? (h : ofMark? c = some t) :
    isSpace c = false ∧ c ≠ '"' ∧ isWordChar c = false ∧ t.chars = [c] := by
  unfold ofMark? at h
  split at h
  case h_7 => cases h
  all_goals
    obtain rfl := Option.some.inj h
    exact ⟨by decide, by decide, by decide, rfl⟩

theorem scan_mark (h : ofMark? c = some t) (rest : List Char) :
    scan (c :: rest) = (scan rest).map (t :: ·) := by
  obtain ⟨hspace, hquote, -, -⟩ := of_ofMark? h
  rw [scan, if_neg (by simp [hspace]), if_neg hquote, h]

/-- **Tokens may be put together with a mark between them.** -/
theorem Scans.mark (ha : Scans a) (h : ofMark? c = some t) (hb : Scans b) :
    Scans (a ++ t :: b) := by
  obtain ⟨-, -, hword, hchars⟩ := of_ofMark? h
  intro rest hrest
  have hcloses : Closes (c :: (b.flatMap chars ++ rest)) := by simpa [Closes] using hword
  rw [List.flatMap_append, List.flatMap_cons, hchars, List.append_assoc, List.append_assoc,
    List.singleton_append, ha _ hcloses, scan_mark h, hb rest hrest]
  simp [Function.comp_def]

/-- Runs of tokens with commas between them. -/
theorem scans_intercalate {runs : List (List Token)} (h : ∀ run ∈ runs, Scans run) :
    Scans ([Token.comma].intercalate runs) := by
  induction runs with
  | nil => exact scans_nil
  | cons run rest ih =>
      obtain ⟨hrun, hrest⟩ := List.forall_mem_cons.mp h
      cases rest with
      | nil => simpa using hrun
      | cons next more =>
          rw [List.intercalate_cons_cons]
          simpa using hrun.mark (c := ',') rfl (ih hrest)

/-! ## Quoted texts -/

/-- A quoted text is found and is one that can be taken apart. -/
theorem scans_string (cs : List Char) : Scans [.string (Quoted.encode cs)] := by
  intro rest _
  have hchars : [Token.string (Quoted.encode cs)].flatMap chars ++ rest =
      '"' :: (Quoted.encode cs ++ '"' :: rest) := by simp [chars]
  rw [hchars, scan, if_neg (by decide), if_pos rfl]
  split
  · next h => simp [Quoted.splitQuoted_encode] at h
  · next h =>
    rw [Quoted.splitQuoted_encode] at h
    obtain ⟨rfl, rfl⟩ := Prod.mk.inj (Option.some.inj h)
    rw [if_pos (by simp [Quoted.pieces?_encode])]
    rfl

/-! ## Words and numerals -/

theorem of_isWordChar (h : isWordChar c = true) :
    isSpace c = false ∧ c ≠ '"' ∧ ofMark? c = none := by
  refine ⟨?_, ?_, ?_⟩
  · by_contra hspace
    simp only [isSpace, Bool.not_eq_false, Bool.or_eq_true, beq_iff_eq] at hspace
    rcases hspace with ((rfl | rfl) | rfl) | rfl <;> exact absurd h (by decide)
  · rintro rfl
    exact absurd h (by decide)
  · cases hmark : ofMark? c with
    | none => rfl
    | some t => simp [(of_ofMark? hmark).2.2.1] at h

theorem scans_word (cs : List Char) (hne : cs ≠ []) (hall : cs.all isWordChar = true)
    (ht : ofWord? cs = some t) (hchars : t.chars = cs) : Scans [t] := by
  intro rest hrest
  obtain ⟨c, more, rfl⟩ := List.exists_cons_of_ne_nil hne
  have hword : ∀ d ∈ c :: more, isWordChar d = true := List.all_eq_true.mp hall
  have hfirst : isWordChar c = true := hword c (by simp)
  obtain ⟨hspace, hquote, hmark⟩ := of_isWordChar hfirst
  have htake : rest.takeWhile isWordChar = [] := by
    cases rest with
    | nil => rfl
    | cons d _ => rw [List.takeWhile_cons_of_neg (by simpa [Closes] using hrest)]
  have hdrop : rest.dropWhile isWordChar = rest := by
    cases rest with
    | nil => rfl
    | cons d _ => rw [List.dropWhile_cons_of_neg (by simpa [Closes] using hrest)]
  have hflat : [t].flatMap chars ++ rest = c :: (more ++ rest) := by simp [hchars]
  rw [hflat, scan, if_neg (by simp [hspace]), if_neg hquote, hmark]
  simp only [dif_pos hfirst]
  rw [← List.cons_append, List.takeWhile_append_of_pos hword, List.dropWhile_append_of_pos hword,
    htake, hdrop, List.append_nil, ht]
  rfl

theorem scans_null : Scans [.null] :=
  scans_word ['n', 'u', 'l', 'l'] (by simp) rfl rfl rfl

theorem scans_bool (b : Bool) : Scans [.bool b] := by
  cases b
  · exact scans_word ['f', 'a', 'l', 's', 'e'] (by simp) rfl rfl rfl
  · exact scans_word ['t', 'r', 'u', 'e'] (by simp) rfl rfl rfl

theorem isWordChar_of_isDigit (h : c.isDigit = true) : isWordChar c = true := by
  simp [isWordChar, Char.isAlphanum, h]

theorem isWordChar_of_mem_ofInt {n : Int} (h : c ∈ Decimal.ofInt n) : isWordChar c = true := by
  rcases Decimal.mem_ofInt h with hdigit | rfl
  · exact isWordChar_of_isDigit hdigit
  · decide

/-- The numeral of an integer is none of the words, which begin with letters. -/
theorem ofWord?_ofInt (n : Int) :
    ofWord? (Decimal.ofInt n) = some (.number (Numeral.ofInt n)) := by
  have hword : ∀ c cs, c.isDigit = false → c ≠ '-' → Decimal.ofInt n ≠ c :: cs := by
    intro c cs hdigit hsign heq
    rcases Decimal.mem_ofInt (heq ▸ List.mem_cons_self : c ∈ Decimal.ofInt n) with h | h
    · simp [hdigit] at h
    · exact hsign h
  rw [ofWord?, if_neg (hword _ _ rfl (by decide)), if_neg (hword _ _ rfl (by decide)),
    if_neg (hword _ _ rfl (by decide)), Numeral.ofChars?_ofInt, Option.map_some]

theorem scans_int (n : Int) : Scans [.number (Numeral.ofInt n)] := by
  have hne : Decimal.ofInt n ≠ [] := by
    unfold Decimal.ofInt
    split <;> simp [Decimal.ofNat_ne_nil]
  exact scans_word _ hne (List.all_eq_true.mpr fun _ => isWordChar_of_mem_ofInt) (ofWord?_ofInt n)
    (Numeral.chars_ofInt n)

end Publishing.Json.Token
