import Mathlib.Order.Preorder.Chain
import Publishing.Text.Segments

/-!
# Questions about segments, answered without taking a text apart

`Text.holdsSegment` searches a text for another one between separators, and
`Text.leads` compares the first characters of two texts.  Neither of them looks
for segments.  This file proves that both answer for whole segments, whatever
the texts are: empty segments, separators at the ends and separators in a row
are allowed.

* `holdsSegment_iff_mem`: a text without a separator is found exactly when it
  is one of the segments.
* `leads_iff_segments`: one text leads another exactly when its segments are the
  first segments of the other.
* `leads_isPartialOrder`: leading is therefore an order on all texts, and what leads
  one text is a chain.
-/

namespace Publishing.Text

/-! ## Splitting and joining -/

theorem intercalate_segments (text : String) :
    [separator].intercalate (segments text) = text.toList :=
  List.intercalate_splitOn separator

/-- A text is determined by its segments. -/
theorem segments_injective {a b : String} (h : segments a = segments b) : a = b := by
  apply String.toList_inj.mp
  rw [← intercalate_segments a, h, intercalate_segments b]

/-- With one more separator in front, a separator stands before every segment. -/
theorem cons_intercalate {parts : List (List Char)} (hne : parts ≠ []) :
    separator :: [separator].intercalate parts = parts.flatMap (separator :: ·) := by
  induction parts with
  | nil => exact absurd rfl hne
  | cons part rest ih =>
      cases rest with
      | nil => simp
      | cons next more =>
          rw [List.flatMap_cons, ← ih (by simp)]
          simp [List.intercalate_cons_cons]

/-! ## Searching for a segment -/

/-- The segments of an enclosed text: those of the text, and an empty one on
either side. -/
theorem splitOn_enclosed (cs : List Char) :
    (separator :: cs ++ [separator]).splitOn separator = [] :: (cs.splitOn separator ++ [[]]) := by
  have hfront := List.splitOn_append_cons_self (a := separator) [] (cs ++ [separator])
  have hback := List.splitOn_append_cons_self (a := separator) cs []
  simp only [List.nil_append, List.splitOn_nil] at hfront hback
  rw [List.cons_append, hfront, hback]
  rfl

theorem mem_splitOn_of_enclosed {part cs : List Char} (hpart : separator ∉ part)
    (h : separator :: part ++ [separator] <:+: separator :: cs ++ [separator]) :
    part ∈ cs.splitOn separator := by
  obtain ⟨before, after, h⟩ := h
  have hsplit : before.splitOn separator ++ part :: after.splitOn separator =
      [] :: (cs.splitOn separator ++ [[]]) := by
    rw [← splitOn_enclosed, ← h, ← List.splitOn_append_cons_self_of_not_mem hpart,
      ← List.splitOn_append_cons_self]
    simp
  -- neither end of the text found is an end of the enclosed text
  obtain ⟨first, front, hfront⟩ :=
    List.exists_cons_of_ne_nil (List.splitOn_ne_nil separator before)
  obtain ⟨back, last, hback⟩ : ∃ back last, after.splitOn separator = back ++ [last] :=
    ⟨_, _, (List.dropLast_concat_getLast (List.splitOn_ne_nil separator after)).symm⟩
  rw [hfront, hback] at hsplit
  have hinner : (front ++ part :: back) ++ [last] = cs.splitOn separator ++ [[]] := by
    simpa using (List.cons.inj hsplit).2
  rw [← (List.append_inj' hinner rfl).1]
  simp

theorem enclosed_of_mem_splitOn {part cs : List Char} (h : part ∈ cs.splitOn separator) :
    separator :: part ++ [separator] <:+: separator :: cs ++ [separator] := by
  obtain ⟨front, back, hsplit⟩ := List.append_of_mem h
  have hcs : separator :: cs = (front ++ part :: back).flatMap (separator :: ·) := by
    rw [← cons_intercalate (by simp), ← hsplit, List.intercalate_splitOn]
  rw [hcs]
  cases back with
  | nil => exact ⟨front.flatMap (separator :: ·), [], by simp⟩
  | cons next more =>
      exact ⟨front.flatMap (separator :: ·),
        next ++ more.flatMap (separator :: ·) ++ [separator], by simp⟩

/-- **Searching finds whole segments.**  A text without a separator is found in
another exactly when it is one of its segments. -/
theorem holdsSegment_iff_mem {text segment : String} (h : separator ∉ segment.toList) :
    holdsSegment text segment = true ↔ segment.toList ∈ segments text := by
  rw [holdsSegment, occursIn, String.contains_string_iff]
  simp only [enclosed, String.toList_ofList]
  exact ⟨mem_splitOn_of_enclosed h, enclosed_of_mem_splitOn⟩

/-! ## Comparing first characters -/

theorem leadsChars_iff {start text : List Char} :
    leadsChars start text = true ↔
      text = start ∨ ∃ rest, text = start ++ separator :: rest := by
  induction start generalizing text with
  | nil =>
      cases text with
      | nil => simp [leadsChars]
      | cons c cs => simp [leadsChars]
  | cons a start ih =>
      cases text with
      | nil => simp [leadsChars]
      | cons c cs =>
          simp only [leadsChars, Bool.and_eq_true, beq_iff_eq, ih, List.cons_append,
            List.cons.injEq]
          grind

/-- **Leading is having the first segments.**  One text leads another exactly
when its segments are the first segments of the other. -/
theorem leads_iff_segments {start text : String} :
    leads start text = true ↔ segments start <+: segments text := by
  rw [leads, leadsChars_iff]
  constructor
  · rintro (h | ⟨rest, h⟩)
    · obtain rfl := String.toList_inj.mp h
      exact List.prefix_refl _
    · rw [segments, segments, h, List.splitOn_append_cons_self]
      exact List.prefix_append _ _
  · rintro ⟨more, h⟩
    have htext : separator :: text.toList =
        separator :: start.toList ++ more.flatMap (separator :: ·) := by
      rw [← intercalate_segments text, cons_intercalate (segments_ne_nil text), ← h,
        List.flatMap_append, ← cons_intercalate (segments_ne_nil start), intercalate_segments]
    cases more with
    | nil => exact .inl (by simpa using htext)
    | cons part rest =>
        refine .inr ⟨part ++ rest.flatMap (separator :: ·), ?_⟩
        simpa using htext

/-! ## Leading as an order -/

variable {a b c : String}

theorem leads_refl (a : String) : leads a a = true :=
  leads_iff_segments.mpr (List.prefix_refl _)

theorem leads_trans (hab : leads a b = true) (hbc : leads b c = true) : leads a c = true := by
  rw [leads_iff_segments] at hab hbc ⊢
  exact hab.trans hbc

/-- Texts that lead one another are the same: a text is determined by its segments. -/
theorem leads_antisymm (hab : leads a b = true) (hba : leads b a = true) : a = b := by
  rw [leads_iff_segments] at hab hba
  apply segments_injective
  exact hab.eq_of_length_le hba.length_le

/-- Of two texts that lead a third, the one with fewer segments leads the other. -/
theorem leads_or_leads (hac : leads a c = true) (hbc : leads b c = true) :
    leads a b = true ∨ leads b a = true := by
  rw [leads_iff_segments] at hac hbc
  rw [leads_iff_segments, leads_iff_segments]
  exact List.prefix_or_prefix_of_prefix hac hbc

/-- **Leading is an order.**  On all texts, with empty segments and separators anywhere,
it compares lists of segments; so it is a partial order, and the texts that lead one text
are a chain. -/
theorem leads_isPartialOrder :
    (∀ start text, leads start text = true ↔ segments start <+: segments text) ∧
      IsPartialOrder String (fun start text => leads start text = true) ∧
      ∀ text, IsChain (fun a b => leads a b = true) {start | leads start text = true} := by
  refine ⟨fun start text => leads_iff_segments, ?_, ?_⟩
  · exact
      { refl := leads_refl
        trans := fun _ _ _ => leads_trans
        antisymm := fun _ _ => leads_antisymm }
  · intro text a ha b hb _
    exact leads_or_leads ha hb

example : leads "-1,5" "-1,50" = false ∧ leads "" ",5" = true ∧ leads "-1," "-1,,5" = true := by
  decide

end Publishing.Text
