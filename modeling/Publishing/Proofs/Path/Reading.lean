import Mathlib.Data.List.Forall2
import Publishing.Proofs.Path

/-!
# Reading paths

Which texts are paths, what is kept of them and what is said of the others.
The grammar is that of `Text.Decimal.Spells`, segment by segment and within the
range of ids; it is stated without the function that reads.

The ids along a path are found by reading its segments once more, where a
segment that is no id would be left out without a word.  None is: a path has as
many ids as its text has segments, since every segment was read when the path
was made (`forall₂_filterMap_of_isSome`).

* `Path.parse_exact`: a text is accepted exactly when all its segments spell
  ids, keeps all of them, and is refused for its leftmost bad segment otherwise.
-/

namespace Publishing

open Text

/-- A text that spells an id: an integer of 32 bits. -/
def SpellsId (part : List Char) : Prop :=
  ∃ n : Int, Decimal.Spells part n ∧ -2147483648 ≤ n ∧ n ≤ 2147483647

theorem NodeId.isSome_ofText?_iff {part : List Char} :
    (NodeId.ofText? part).isSome = true ↔ SpellsId part := by
  rw [Option.isSome_iff_exists]
  constructor
  · rintro ⟨id, hid⟩
    exact ⟨id.val, NodeId.ofText?_eq_some_iff.mp hid, id.inRange⟩
  · rintro ⟨n, hn, hrange⟩
    exact ⟨⟨n, hrange⟩, NodeId.ofText?_eq_some_iff.mpr hn⟩

namespace Path

/-! ## Accepted texts -/

theorem exists_parse_eq_ok_iff {text : String} :
    (∃ p, parse text = .ok p) ↔ ∀ part ∈ segments text, SpellsId part := by
  constructor
  · rintro ⟨p, hp⟩ part hpart
    rw [← parse_eq_ok_iff.mp hp] at hpart
    exact NodeId.isSome_ofText?_iff.mp (p.valid part hpart)
  · intro h
    let p : Path := ⟨text, fun part hpart => NodeId.isSome_ofText?_iff.mpr (h part hpart)⟩
    exact ⟨p, parse_text p⟩

/-- Reading again what reads leaves nothing out. -/
theorem forall₂_filterMap_of_isSome {parts : List (List Char)}
    (h : ∀ part ∈ parts, (NodeId.ofText? part).isSome = true) :
    List.Forall₂ (fun part id => Decimal.Spells part id.val) parts
      (parts.filterMap NodeId.ofText?) := by
  induction parts with
  | nil => exact .nil
  | cons part rest ih =>
      obtain ⟨id, hid⟩ := Option.isSome_iff_exists.mp (h part (List.mem_cons_self ..))
      rw [List.filterMap_cons_some hid]
      exact .cons (NodeId.ofText?_eq_some_iff.mp hid)
        (ih fun other hother => h other (List.mem_cons_of_mem part hother))

/-- The path has all of the text: the segments of the one are the ids of the other. -/
structure Keeps (p : Path) (text : String) : Prop where
  text_eq : p.text = text
  ids : List.Forall₂ (fun part id => Decimal.Spells part id.val) (segments text) p.ids
  length : p.ids.length = p.level + 1
  last : p.ids.getLast? = some p.id

theorem keeps_text (p : Path) : p.Keeps p.text where
  text_eq := rfl
  ids := forall₂_filterMap_of_isSome p.valid
  length := by
    have hids : (segments p.text).length = p.ids.length :=
      (forall₂_filterMap_of_isSome p.valid).length_eq
    have hpos : 0 < (segments p.text).length := p.segments_length_pos
    unfold level
    omega
  last := List.getLast?_eq_some_getLast p.ids_ne_nil

/-! ## Refused texts -/

/-- The leftmost segment that does not spell an id. -/
def FirstBad (text : String) (bad : List Char) : Prop :=
  ∃ before after, segments text = before ++ bad :: after ∧
    (∀ part ∈ before, SpellsId part) ∧ ¬ SpellsId bad

theorem badSegment?_eq_some_iff {text : String} {bad : List Char} :
    badSegment? text = some bad ↔ FirstBad text bad := by
  have hgood (part : List Char) : (NodeId.ofText? part).isNone = false ↔ SpellsId part := by
    rw [← NodeId.isSome_ofText?_iff, ← Option.not_isSome, Bool.not_eq_false']
  have hbad (part : List Char) : (NodeId.ofText? part).isNone = true ↔ ¬ SpellsId part := by
    rw [← hgood, Bool.not_eq_false]
  rw [badSegment?, List.find?_eq_some_iff_append, hbad]
  simp only [Bool.not_eq_true', hgood]
  constructor
  · rintro ⟨hnot, before, after, hsplit, hall⟩
    exact ⟨before, after, hsplit, hall, hnot⟩
  · rintro ⟨before, after, hsplit, hall, hnot⟩
    exact ⟨hnot, before, after, hsplit, hall⟩

/-- What the refusal of a text says: it is empty if it is blank, or else its leftmost
bad segment. -/
structure Explains (e : InvalidPath) (text : String) : Prop where
  text_eq : e.text = text
  empty_iff : e.flaw.message = "path is empty" ↔ isBlank text = true
  segment : isBlank text = false → ∃ bad, FirstBad text bad ∧
    e.flaw.message = "segment '" ++ String.ofList bad ++ "' is not a node id"

theorem message_badSegment_ne (segment : String) :
    (PathFlaw.badSegment segment).message ≠ "path is empty" := by
  intro h
  have hfirst := congrArg (fun message => message.toList.head?) h
  simp [PathFlaw.message] at hfirst

theorem explains_of_parse {text : String} {e : InvalidPath} (h : parse text = .error e) :
    Explains e text := by
  unfold parse at h
  split at h
  · next hblank =>
    obtain rfl := Except.error.inj h
    exact ⟨rfl, iff_of_true rfl hblank, fun hnot => absurd hblank (by simp [hnot])⟩
  · next hblank =>
    split at h
    · next bad hbad =>
      obtain rfl := Except.error.inj h
      exact ⟨rfl, iff_of_false (message_badSegment_ne _) hblank,
        fun _ => ⟨bad, badSegment?_eq_some_iff.mp hbad, rfl⟩⟩
    · cases h

/-! ## The main result -/

/-- **Reading a path.**  A text is accepted exactly when each of its segments spells an
id.  The path then has the text as it was, the ids of all the segments in their order,
one more of them than its level, and leads to the last one.  A text that is not accepted
is refused as empty if it is blank, and for its leftmost bad segment otherwise. -/
theorem parse_exact (text : String) :
    ((∃ p, parse text = .ok p) ↔ ∀ part ∈ segments text, SpellsId part) ∧
      (∀ p, parse text = .ok p → p.Keeps text) ∧
      (∀ e, parse text = .error e → Explains e text) := by
  refine ⟨exists_parse_eq_ok_iff, fun p hp => ?_, fun e he => explains_of_parse he⟩
  rw [← parse_eq_ok_iff.mp hp]
  exact keeps_text p

/-- A path with a sign at each of its ids. -/
def signed : Path :=
  ⟨"+7,-020", by decide⟩

/-- Signs and leading zeros are kept; an empty segment is refused before the word
behind it. -/
theorem parse_exact_signed :
    (parse "+7,-020" = .ok signed ∧ signed.Keeps "+7,-020") ∧
      parse "-1,,x" = .error ⟨"-1,,x", .badSegment ""⟩ ∧
      Explains ⟨"-1,,x", .badSegment ""⟩ "-1,,x" := by
  have hsigned : parse "+7,-020" = .ok signed := parse_text signed
  have hempty : parse "-1,,x" = .error ⟨"-1,,x", .badSegment ""⟩ := by decide
  exact ⟨⟨hsigned, (parse_exact "+7,-020").2.1 signed hsigned⟩, hempty,
    (parse_exact "-1,,x").2.2 _ hempty⟩

end Path

end Publishing
