import Publishing.Path
import Publishing.Proofs.Text.Segments
import Publishing.Proofs.Text.Spelling

/-!
# Paths as chains of ids

The text of a path and the ids along it are two views of one chain.  Reading the
text again gives the path back (`Path.parse_text`), and it is never blank
(`Path.isBlank_text`).

A path may spell an id in several ways, and a search for the decimal text of an
id finds only the shortest one.  A path is `Plain` if it spells every id in
that way, as the paths put together step by step from the root do.  For plain
paths the questions asked of texts are questions about the chain of ids:

* `Plain.holdsSegment_iff`: searching for an id is membership;
* `Plain.leads_iff`: leading is being the beginning of the chain.
-/

namespace Publishing

open Text

/-! ## Texts of ids -/

theorem NodeId.ofText?_eq_some_iff {part : List Char} {id : NodeId} :
    NodeId.ofText? part = some id ↔ Decimal.Spells part id.val := by
  rw [NodeId.ofText?, Option.bind_eq_some_iff]
  constructor
  · rintro ⟨n, hn, hid⟩
    rw [← NodeId.ofInt?_eq_some.mp hid]
    exact Decimal.signed?_eq_some_iff.mp hn
  · intro h
    exact ⟨id.val, Decimal.signed?_eq_some_iff.mpr h, NodeId.ofInt?_val id⟩

theorem Text.isWhiteSpace_of_isDigit {c : Char} (h : c.isDigit = true) :
    Text.isWhiteSpace c = false := by
  have hdigit : 48 ≤ c.toNat ∧ c.toNat ≤ 57 := Decimal.isDigit_iff.mp h
  simp only [isWhiteSpace, whiteSpaceRanges, List.any_cons, List.any_nil, Bool.or_false,
    Bool.or_eq_false_iff, Bool.and_eq_false_imp, decide_eq_true_eq, decide_eq_false_iff_not]
  omega

theorem NodeId.toList_text_injective {a b : NodeId} (h : a.text.toList = b.text.toList) :
    a = b :=
  NodeId.text_injective (String.toList_inj.mp h)

/-- Searching a text for an id finds the segments that are its decimal text. -/
theorem holdsSegment_text_iff {text : String} {id : NodeId} :
    holdsSegment text id.text = true ↔ id.text.toList ∈ segments text :=
  holdsSegment_iff_mem (Path.separator_notMem_text id)

namespace Path

/-! ## Reading a path again -/

theorem isBlank_text (p : Path) : Text.isBlank p.text = false := by
  obtain ⟨part, rest, hparts⟩ := List.exists_cons_of_ne_nil (segments_ne_nil p.text)
  have hpart : part ∈ segments p.text := by simp [hparts]
  obtain ⟨id, hid⟩ := Option.isSome_iff_exists.mp (p.valid part hpart)
  obtain ⟨c, hc, hdigit⟩ := (NodeId.ofText?_eq_some_iff.mp hid).exists_digit
  have hmem : c ∈ p.text.toList := by
    have hfound : c ∈ separator :: p.text.toList ++ [separator] :=
      (enclosed_of_mem_splitOn hpart).subset (by simp [hc])
    have hne : c ≠ separator := by rintro rfl; revert hdigit; decide
    simpa [hne] using hfound
  rw [Text.isBlank, List.all_eq_false]
  exact ⟨c, hmem, by simp [isWhiteSpace_of_isDigit hdigit]⟩

theorem badSegment?_text (p : Path) : badSegment? p.text = none := by
  rw [badSegment?, List.find?_eq_none]
  intro part hpart
  simp [Option.isSome_iff_ne_none.mp (p.valid part hpart)]

theorem parse_text (p : Path) : Path.parse p.text = .ok p := by
  unfold parse
  rw [if_neg (by simp [isBlank_text])]
  split
  · next segment h => simp [badSegment?_text] at h
  · rfl

theorem parse_eq_ok_iff {text : String} {p : Path} : Path.parse text = .ok p ↔ p.text = text := by
  constructor
  · intro h
    unfold parse at h
    split at h
    · cases h
    · split at h
      · cases h
      · rw [← Except.ok.inj h]
  · rintro rfl
    exact parse_text p

/-- What the text of a path holds is among its ids, however it is spelt. -/
theorem mem_ids_of_mem_segments {p : Path} {id : NodeId}
    (h : id.text.toList ∈ segments p.text) : id ∈ p.ids :=
  List.mem_filterMap.mpr ⟨_, h, NodeId.ofText?_text id⟩

/-! ## Plain paths -/

/-- A path that spells every id in the shortest way. -/
def Plain (p : Path) : Prop :=
  segments p.text = p.ids.map fun id => id.text.toList

@[simp] theorem ids_root : root.ids = [NodeId.root] := by decide

theorem plain_root : Plain root := by
  unfold Plain
  decide

variable {p q : Path}

theorem segments_child (p : Path) (id : NodeId) :
    segments (p.child id).text = segments p.text ++ [id.text.toList] :=
  segments_childText p.text id

theorem Plain.child (hp : p.Plain) (id : NodeId) : (p.child id).Plain := by
  rw [Plain, segments_child, hp, ids_child, List.map_append]
  rfl

theorem Plain.mem_segments_iff (hp : p.Plain) {id : NodeId} :
    id.text.toList ∈ segments p.text ↔ id ∈ p.ids := by
  refine ⟨mem_ids_of_mem_segments, fun h => ?_⟩
  rw [hp]
  exact List.mem_map_of_mem h

theorem Plain.holdsSegment_iff (hp : p.Plain) {id : NodeId} :
    holdsSegment p.text id.text = true ↔ id ∈ p.ids := by
  rw [holdsSegment_text_iff, hp.mem_segments_iff]

theorem Plain.leads_iff (hp : p.Plain) (hq : q.Plain) :
    leads p.text q.text = true ↔ p.ids <+: q.ids := by
  rw [leads_iff_segments, hp, hq]
  exact List.prefix_map_iff_of_injective fun _ _ => NodeId.toList_text_injective

theorem segments_length_pos (p : Path) : 0 < (segments p.text).length :=
  List.length_pos_iff.mpr (segments_ne_nil p.text)

@[simp] theorem level_child (p : Path) (id : NodeId) : (p.child id).level = p.level + 1 := by
  have hpos : 0 < (segments p.text).length := p.segments_length_pos
  rw [level, level, segments_child, List.length_append, List.length_singleton]
  omega

theorem segments_text (id : NodeId) : segments id.text = [id.text.toList] :=
  List.splitOn_eq_singleton (separator_notMem_text id)

/-- The path of one id only, as the system nodes have it. -/
def ofId (id : NodeId) : Path :=
  ⟨id.text, by simp [segments_text]⟩

@[simp] theorem id_child (p : Path) (id : NodeId) : (p.child id).id = id := by
  simp [Path.id]

@[simp] theorem text_ofId (id : NodeId) : (ofId id).text = id.text := rfl

@[simp] theorem ids_ofId (id : NodeId) : (ofId id).ids = [id] := by
  simp [ids, ofId, segments_text]

end Path

end Publishing
