import Publishing.Json.Token

/-!
# Quoted texts read back

Every text has a written form, and the form is as easy to find in a longer text as it is
to take apart: `encode` escapes just what would end it or what may not stand in it.

* `encodeChar_cases`: a character is written in one of three ways.
* `pieces?_encode` and `chars?_piecesOf`: taken apart, the written form gives one piece for
  each character; `decode_encode` puts them together.
* `splitQuoted_encode`: the first bare quote is the one behind the written form.
-/

namespace Publishing.Json.Quoted

variable {c : Char} {cs rest : List Char}

/-! ## The three ways to write a character -/

theorem hexDigit_plain : ∀ n < 16, hexDigit n ≠ '"' ∧ hexDigit n ≠ '\\' := by decide

theorem hexDigit?_hexDigit : ∀ n < 16, hexDigit? (hexDigit n) = some n := by decide

/-- A character is written as a backslash with a letter or sign, as the number of a control
character, or as it is. -/
theorem encodeChar_cases (c : Char) :
    (∃ e, encodeChar c = ['\\', e] ∧ escaped? e = some c) ∨
      (c.toNat < 0x20 ∧ encodeChar c =
        ['\\', 'u', '0', '0', hexDigit (c.toNat / 16), hexDigit (c.toNat % 16)]) ∨
      (encodeChar c = [c] ∧ ¬ c.toNat < 0x20 ∧ c ≠ '"' ∧ c ≠ '\\') := by
  unfold encodeChar
  split
  case h_8 hquote hbackslash _ _ _ _ _ =>
    split
    · next hcontrol => exact .inr (.inl ⟨hcontrol, rfl⟩)
    · next hcontrol => exact .inr (.inr ⟨rfl, hcontrol, hquote, hbackslash⟩)
  all_goals exact .inl ⟨_, rfl, rfl⟩

/-! ## Taking the written form apart -/

/-- The piece that the written form of a character makes: a code unit for a control
character without a letter of its own, the character itself otherwise. -/
def pieceOf (c : Char) : Piece :=
  if (encodeChar c).length = 6 then .unit c.toNat else .char c

theorem hexNumber?_control (h : c.toNat < 0x20) :
    hexNumber? ['0', '0', hexDigit (c.toNat / 16), hexDigit (c.toNat % 16)] = some c.toNat := by
  have hhigh : hexDigit? (hexDigit (c.toNat / 16)) = some (c.toNat / 16) :=
    hexDigit?_hexDigit _ (by omega)
  have hlow : hexDigit? (hexDigit (c.toNat % 16)) = some (c.toNat % 16) :=
    hexDigit?_hexDigit _ (by omega)
  have hzero : hexDigit? '0' = some 0 := rfl
  simp only [hexNumber?, List.foldl_cons, List.foldl_nil, Option.bind_some, hzero, hhigh, hlow,
    Option.map_some, Option.some.injEq]
  omega

theorem pieces?_escape {e : Char} (h : escaped? e = some c) (rest : List Char) :
    pieces? ('\\' :: e :: rest) = (pieces? rest).map (.char c :: ·) := by
  have hu : e ≠ 'u' := by
    rintro rfl
    simp [escaped?] at h
  rw [pieces?, h]
  intro _ _ _ _ _ heq _
  exact absurd heq hu

theorem pieces?_plain (hcontrol : ¬ c.toNat < 0x20) (hquote : c ≠ '"') (hback : c ≠ '\\')
    (rest : List Char) : pieces? (c :: rest) = (pieces? rest).map (.char c :: ·) := by
  rw [pieces?, if_neg (by simp [hquote, hback]; omega)]
  all_goals simp_all

theorem pieces?_encodeChar (c : Char) (rest : List Char) :
    pieces? (encodeChar c ++ rest) = (pieces? rest).map (pieceOf c :: ·) := by
  unfold pieceOf
  rcases encodeChar_cases c with ⟨e, hc, he⟩ | ⟨hcontrol, hc⟩ | ⟨hc, hcontrol, hquote, hback⟩
  · rw [hc]
    exact pieces?_escape he rest
  · rw [hc]
    simp [pieces?, hexNumber?_control hcontrol]
  · rw [hc]
    exact pieces?_plain hcontrol hquote hback rest

theorem pieces?_encode (cs : List Char) : pieces? (encode cs) = some (cs.map pieceOf) := by
  induction cs with
  | nil => rfl
  | cons c cs ih =>
      rw [encode, List.flatMap_cons, pieces?_encodeChar, ← encode, ih]
      rfl

/-- A code unit that is no surrogate stands for a character by itself. -/
theorem chars?_unit {u : Nat} (h : u < 0xD800) (ps : List Piece) :
    chars? (.unit u :: ps) = (chars? ps).map (Char.ofNat u :: ·) := by
  have hlead : isLead u = false := by simp [isLead]; omega
  have htrail : isTrail u = false := by simp [isTrail]; omega
  rcases ps with _ | ⟨c | v, ps⟩ <;> simp [chars?, hlead, htrail]

theorem chars?_pieceOf (c : Char) (ps : List Piece) :
    chars? (pieceOf c :: ps) = (chars? ps).map (c :: ·) := by
  unfold pieceOf
  rcases encodeChar_cases c with ⟨e, hc, _⟩ | ⟨hcontrol, hc⟩ | ⟨hc, _⟩
  · simp [hc, chars?]
  · simp [hc, chars?_unit (u := c.toNat) (by omega)]
  · simp [hc, chars?]

theorem chars?_piecesOf (cs : List Char) : chars? (cs.map pieceOf) = some cs := by
  induction cs with
  | nil => rfl
  | cons c cs ih => rw [List.map_cons, chars?_pieceOf, ih, Option.map_some]

/-- **A quoted text reads back.** -/
@[simp] theorem decode_encode (cs : List Char) : decode (encode cs) = some cs := by
  rw [decode, pieces?_encode, Option.bind_some, chars?_piecesOf]

/-! ## Finding the end of the written form -/

theorem splitQuoted_plain (hquote : c ≠ '"') (hback : c ≠ '\\') :
    Token.splitQuoted (c :: rest) =
      (Token.splitQuoted rest).map fun (body, after) => (c :: body, after) := by
  rw [Token.splitQuoted.eq_def]
  split <;> simp_all

theorem splitQuoted_encodeChar (c : Char) (rest : List Char) :
    Token.splitQuoted (encodeChar c ++ rest) =
      (Token.splitQuoted rest).map fun (body, after) => (encodeChar c ++ body, after) := by
  rcases encodeChar_cases c with ⟨e, hc, _⟩ | ⟨hcontrol, hc⟩ | ⟨hc, _, hquote, hback⟩
  · rw [hc]
    rfl
  · obtain ⟨hq, hb⟩ := hexDigit_plain (c.toNat / 16) (by omega)
    obtain ⟨hq', hb'⟩ := hexDigit_plain (c.toNat % 16) (by omega)
    have hzero : ('0' : Char) ≠ '"' ∧ ('0' : Char) ≠ '\\' := by decide
    rw [hc]
    simp only [List.cons_append, List.nil_append, Token.splitQuoted]
    simp only [splitQuoted_plain hzero.1 hzero.2, splitQuoted_plain hq hb,
      splitQuoted_plain hq' hb', Option.map_map]
    rfl
  · rw [hc]
    exact splitQuoted_plain hquote hback

/-- **The written form of a text ends at the first bare quote.** -/
theorem splitQuoted_encode (cs rest : List Char) :
    Token.splitQuoted (encode cs ++ '"' :: rest) = some (encode cs, rest) := by
  induction cs with
  | nil => rfl
  | cons c cs ih =>
      have hcons : encode (c :: cs) = encodeChar c ++ encode cs := List.flatMap_cons ..
      rw [hcons, List.append_assoc, splitQuoted_encodeChar, ih]
      rfl

end Publishing.Json.Quoted
