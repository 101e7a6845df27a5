import Publishing.Proofs.Path.Reading

/-!
# Searching a path for an id

A path is asked for an id in two ways: its segments are read one by one
(`Path.ids`), or its text is searched for the decimal text of the id
(`Path.containsId`).  Reading finds an id however it is spelt.  The search finds
it only where it is spelt in the shortest way, so that an id with a plus sign or
leading zeros is on the path and is not found.

* `Path.containsId_iff_shortest`: what either way finds, and when they agree.
* `Path.containsId_padded`: a path on which they do not.
-/

namespace Publishing

open Text

/-- A spelling of an id that no other spelling of it is shorter than. -/
structure NodeId.IsShortest (part : List Char) (id : NodeId) : Prop where
  spells : Decimal.Spells part id.val
  length_le : ∀ other, Decimal.Spells other id.val → part.length ≤ other.length

/-- The decimal text of an id is its shortest spelling, and the only one. -/
theorem NodeId.isShortest_iff {part : List Char} {id : NodeId} :
    NodeId.IsShortest part id ↔ part = id.text.toList := by
  have htext : id.text.toList = Decimal.ofInt id.val := String.toList_ofList
  rw [htext]
  constructor
  · intro h
    exact h.spells.eq_ofInt (h.length_le _ (Decimal.spells_ofInt id.val))
  · rintro rfl
    exact ⟨Decimal.spells_ofInt id.val, fun _ h => h.length_ofInt_le⟩

namespace Path

variable {p : Path} {id : NodeId}

theorem containsId_iff_mem_segments :
    p.containsId id = true ↔ id.text.toList ∈ segments p.text :=
  holdsSegment_text_iff

/-- Searching finds the shortest spelling of an id. -/
theorem containsId_iff_exists_isShortest :
    p.containsId id = true ↔ ∃ part ∈ segments p.text, NodeId.IsShortest part id := by
  rw [containsId_iff_mem_segments]
  constructor
  · intro h
    exact ⟨_, h, NodeId.isShortest_iff.mpr rfl⟩
  · rintro ⟨part, hpart, hshortest⟩
    rwa [← NodeId.isShortest_iff.mp hshortest]

/-- Reading finds any spelling of an id. -/
theorem mem_ids_iff_exists_spells :
    id ∈ p.ids ↔ ∃ part ∈ segments p.text, Decimal.Spells part id.val := by
  simp only [ids, List.mem_filterMap, NodeId.ofText?_eq_some_iff]

theorem containsId_child_iff {c : NodeId} :
    (p.child c).containsId id = true ↔ p.containsId id = true ∨ id = c := by
  rw [containsId_iff_mem_segments, containsId_iff_mem_segments, segments_child, List.mem_append,
    List.mem_singleton]
  exact or_congr_right ⟨NodeId.toList_text_injective, fun h => h ▸ rfl⟩

/-- **Searching a path for an id.**  An id is found exactly where it is spelt in the
shortest way, and it is on the path wherever it is spelt at all.  So the two agree on
paths that spell every id in the shortest way; and where they agree on a path, they agree
on all the paths below it. -/
theorem containsId_iff_shortest (p : Path) (id : NodeId) :
    (p.containsId id = true ↔ ∃ part ∈ segments p.text, NodeId.IsShortest part id) ∧
      (id ∈ p.ids ↔ ∃ part ∈ segments p.text, Decimal.Spells part id.val) ∧
      (p.Plain → (p.containsId id = true ↔ id ∈ p.ids)) ∧
      ((p.containsId id = true ↔ id ∈ p.ids) →
        ∀ c, (p.child c).containsId id = true ↔ id ∈ (p.child c).ids) := by
  refine ⟨containsId_iff_exists_isShortest, mem_ids_iff_exists_spells,
    fun hplain => hplain.holdsSegment_iff, ?_⟩
  intro hagree c
  rw [containsId_child_iff, hagree, ids_child, List.mem_append, List.mem_singleton]

/-- The path of a node whose id ends in the one of its parent. -/
def branch : Path :=
  (root.child ⟨20, by decide⟩).child ⟨120, by decide⟩

/-- On a path put together from the root, an id is found as a whole only. -/
theorem containsId_iff_shortest_branch :
    branch.Plain ∧ branch.containsId ⟨20, by decide⟩ = true ∧
      branch.containsId ⟨2, by decide⟩ = false ∧
      ∀ c, (branch.child c).containsId ⟨20, by decide⟩ = true ↔
        ⟨20, by decide⟩ ∈ (branch.child c).ids := by
  have hplain : branch.Plain := (plain_root.child _).child _
  have hagree := (containsId_iff_shortest branch ⟨20, by decide⟩).2.2.1 hplain
  have hother := (containsId_iff_shortest branch ⟨2, by decide⟩).2.2.1 hplain
  refine ⟨hplain, hagree.mpr (by decide), ?_,
    (containsId_iff_shortest branch ⟨20, by decide⟩).2.2.2 hagree⟩
  rw [Bool.eq_false_iff, ne_eq, hother]
  decide

/-- A path that spells its last id with a leading zero. -/
def padded : Path :=
  ⟨"-1,020", by decide⟩

/-- An id with a leading zero is on the path and is not found. -/
theorem containsId_padded :
    parse "-1,020" = .ok padded ∧ (⟨20, by decide⟩ : NodeId) ∈ padded.ids ∧
      padded.containsId ⟨20, by decide⟩ = false := by
  refine ⟨parse_text padded, by decide, ?_⟩
  rw [Bool.eq_false_iff, ne_eq, containsId_iff_mem_segments]
  decide

end Path

end Publishing
