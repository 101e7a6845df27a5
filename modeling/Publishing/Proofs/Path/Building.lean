import Publishing.Proofs.Path

/-!
# Building paths

A path is built in two ways: from a whole list of ids at once (`Path.ofIds`), or
from the root, one id at a time (`Path.child`).  The first reads the text that it
has put together; the second puts text behind text and reads nothing.  Both spell
the ids that they are given in the shortest way, and both lose none of them.

* `Path.ofIds_eq_ok_iff`: a list of ids builds the one path that spells them in the
  shortest way.
* `Path.child_inj`: a path remembers the path and the id that it was made from.
* `Path.Plain.foldl_child` and `Path.ids_foldl_child`: what a run of steps down keeps
  and adds.
* `Path.ids_inverts_building`: building and reading are inverse.
-/

namespace Publishing

open Text

namespace Path

variable {p q : Path} {c d : NodeId} {ids : List NodeId}

/-! ## All ids at once -/

theorem segments_joined_texts (hne : ids ≠ []) :
    segments (joined (ids.map fun id => id.text.toList)) = ids.map fun id => id.text.toList := by
  refine segments_joined (by simpa using hne) fun part hpart => ?_
  obtain ⟨id, _, rfl⟩ := List.mem_map.mp hpart
  exact separator_notMem_text id

theorem filterMap_ofText?_texts (ids : List NodeId) :
    (ids.map fun id => id.text.toList).filterMap NodeId.ofText? = ids := by
  induction ids with
  | nil => rfl
  | cons id rest ih => rw [List.map_cons, List.filterMap_cons_some (NodeId.ofText?_text id), ih]

/-- Ids, if there are any, are those of a path that spells them in the shortest way. -/
theorem exists_plain (hne : ids ≠ []) : ∃ p : Path, p.Plain ∧ p.ids = ids := by
  have hsegments := segments_joined_texts hne
  let p : Path := ⟨joined (ids.map fun id => id.text.toList), fun part hpart => by
    rw [hsegments] at hpart
    obtain ⟨id, _, rfl⟩ := List.mem_map.mp hpart
    simp⟩
  have hids : p.ids = ids := by
    rw [Path.ids, hsegments, filterMap_ofText?_texts]
  refine ⟨p, ?_, hids⟩
  rw [Plain, hids]
  exact hsegments

/-- A path that spells its ids in the shortest way is these spellings with separators
between them. -/
theorem Plain.text_eq (hp : p.Plain) : p.text = joined (p.ids.map fun id => id.text.toList) := by
  apply segments_injective
  rw [segments_joined_texts p.ids_ne_nil]
  exact hp

theorem Plain.ofIds_ids (hp : p.Plain) : ofIds p.ids = .ok p :=
  parse_eq_ok_iff.mpr hp.text_eq

theorem ofIds_nil : ofIds [] = .error ⟨"", .empty⟩ :=
  rfl

/-- **A list of ids builds one path**: the one that spells them in the shortest way. -/
theorem ofIds_eq_ok_iff : ofIds ids = .ok p ↔ p.Plain ∧ p.ids = ids := by
  constructor
  · intro h
    have hne : ids ≠ [] := by
      rintro rfl
      rw [ofIds_nil] at h
      cases h
    obtain ⟨q, hq, rfl⟩ := exists_plain hne
    obtain rfl := Except.ok.inj (hq.ofIds_ids.symm.trans h)
    exact ⟨hq, rfl⟩
  · rintro ⟨hp, rfl⟩
    exact hp.ofIds_ids

example : ofIds [NodeId.root, ⟨-2147483648, by decide⟩, ⟨0, by decide⟩] =
    .ok ⟨"-1,-2147483648,0", by decide⟩ :=
  rfl

theorem exists_ofIds_iff : (∃ p, ofIds ids = .ok p ∧ p.ids = ids) ↔ ids ≠ [] := by
  constructor
  · rintro ⟨p, _, rfl⟩
    exact p.ids_ne_nil
  · intro hne
    obtain ⟨p, hp, hids⟩ := exists_plain hne
    exact ⟨p, ofIds_eq_ok_iff.mpr ⟨hp, hids⟩, hids⟩

theorem ofIds_eq_error_iff : (∃ e, ofIds ids = .error e) ↔ ids = [] := by
  cases ids with
  | nil => exact iff_of_true ⟨_, ofIds_nil⟩ rfl
  | cons id rest =>
      have hne : id :: rest ≠ [] := List.cons_ne_nil id rest
      obtain ⟨p, hp, _⟩ := exists_ofIds_iff.mpr hne
      simp [hp]

/-! ## One id at a time -/

theorem text_child (p : Path) (c : NodeId) : (p.child c).text = p.text ++ "," ++ c.text := by
  apply String.toList_inj.mp
  simp [child, childText, separator]

/-- **A step down can be taken back**: the text of the path above and the new id are
told apart again by the last separator. -/
theorem child_inj : p.child c = q.child d ↔ p = q ∧ c = d := by
  constructor
  · intro h
    have hsegments : segments p.text ++ [c.text.toList] = segments q.text ++ [d.text.toList] := by
      rw [← segments_child, ← segments_child, h]
    obtain ⟨habove, hlast⟩ := List.append_inj' hsegments (by simp)
    refine ⟨Path.ext (segments_injective habove), NodeId.toList_text_injective ?_⟩
    exact List.singleton_inj.mp hlast
  · rintro ⟨rfl, rfl⟩
    rfl

theorem Plain.foldl_child (hp : p.Plain) (ids : List NodeId) : (ids.foldl Path.child p).Plain := by
  induction ids generalizing p with
  | nil => exact hp
  | cons id rest ih => exact ih (hp.child id)

theorem ids_foldl_child (p : Path) (ids : List NodeId) :
    (ids.foldl child p).ids = p.ids ++ ids := by
  induction ids generalizing p with
  | nil => simp
  | cons id rest ih => rw [List.foldl_cons, ih, ids_child, List.append_assoc, List.singleton_append]

/-- Steps down from the root build the same path as the list of all the ids. -/
theorem ofIds_foldl_child (ids : List NodeId) :
    ofIds (NodeId.root :: ids) = .ok (ids.foldl child root) := by
  refine ofIds_eq_ok_iff.mpr ⟨plain_root.foldl_child ids, ?_⟩
  rw [ids_foldl_child, ids_root, List.singleton_append]

/-! ## The main result -/

/-- **Building and reading are inverse.**  A list of ids is refused exactly if it is
empty; otherwise it builds a path that reads as that list.  A step down puts a comma
and the decimal text of an id behind a path: what results is read without complaint,
as the ids of the path with the new one behind them, one level further down and with
the new id at its end, and no other path and id lead to it.  Steps down from the root
come to the same path as the list of all the ids. -/
theorem ids_inverts_building :
    (∀ ids, ((∃ e, ofIds ids = .error e) ↔ ids = []) ∧
      ((∃ p, ofIds ids = .ok p ∧ p.ids = ids) ↔ ids ≠ [])) ∧
    (∀ (p : Path) (c : NodeId), parse (p.text ++ "," ++ c.text) = .ok (p.child c) ∧
      (p.child c).ids = p.ids ++ [c] ∧ (p.child c).level = p.level + 1 ∧ (p.child c).id = c) ∧
    (∀ (p q : Path) (c d : NodeId), p.child c = q.child d ↔ p = q ∧ c = d) ∧
    ∀ ids, ofIds (NodeId.root :: ids) = .ok (ids.foldl child root) := by
  refine ⟨fun ids => ⟨ofIds_eq_error_iff, exists_ofIds_iff⟩, fun p c => ?_,
    fun _ _ _ _ => child_inj, ofIds_foldl_child⟩
  refine ⟨?_, ids_child p c, level_child p c, id_child p c⟩
  rw [← text_child]
  exact parse_text (p.child c)

end Path

end Publishing
