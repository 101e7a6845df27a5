import Mathlib.Logic.Relation
import Publishing.Access.Entity
import Publishing.Proofs.History
import Publishing.Proofs.Layout

/-!
# Stores grown by insertions, and the tree they hold

An `EntityStore` keeps two accounts of the tree: every entity names its parent,
and its path names all of its ancestors.  Nothing in the type says that the two
agree, and a store in which an id was inserted twice need not be a tree at all.
This file shows that they agree in every store `grown` by insertions of
distinct ids.

* `Rooted` is the invariant: an entity has a known parent, and its path goes one
  step on from the parent's.  `Rooted.apply` is the step and `rooted_grown` the
  run.
* `Rooted.induct` is induction down the tree, over nodes and their paths, and
  `Rooted.layout` the tree without its links.
* `Rooted.mem_ids_iff`: the ids on a path are the node and its ancestors.
* `Rooted.prefix_iff`: a path is the beginning of another exactly when its node
  is the other or an ancestor of it.

The parent relation is read off the links alone, never off a path.
-/

namespace Publishing

@[simp] theorem NodeId.contentBin_ne_root : NodeId.contentBin ≠ NodeId.root := by decide

namespace Access

/-- No id is inserted twice, nor is the root or the recycle bin.  This counts
insertions that come to nothing as well. -/
structure Orderly (history : List Insertion) : Prop where
  distinct : (history.map Insertion.id).Nodup
  ordinary : ∀ i ∈ history, i.id ≠ NodeId.root ∧ i.id ≠ NodeId.contentBin

namespace EntityStore

/-- The parent of a node.  The recycle bin lies under the root without being
stored. -/
def parent? (s : EntityStore) (id : NodeId) : Option NodeId :=
  if id = NodeId.root then none
  else if id = NodeId.contentBin then some NodeId.root
  else (s.find? id).map Entity.parent

/-- `p` is the path of a node of the tree: of the root, of the recycle bin or of a
stored entity.  These are the nodes that can be parents. -/
def NodeAt (s : EntityStore) (id : NodeId) (p : Path) : Prop :=
  s.parentPath? id = some p

/-- One step up the tree. -/
def StepUp (s : EntityStore) (child parent : NodeId) : Prop :=
  s.parent? child = some parent

/-- `a` is `n` itself or one of its ancestors. -/
def AtOrAbove (s : EntityStore) (a n : NodeId) : Prop :=
  Relation.ReflTransGen s.StepUp n a

/-- `a` is an ancestor of `n`. -/
def Above (s : EntityStore) (a n : NodeId) : Prop :=
  Relation.TransGen s.StepUp n a

/-- Every entity has a known parent and a path one step on from the parent's, and
none takes the place of the root or of the recycle bin. -/
structure Rooted (s : EntityStore) : Prop where
  ordinary : ∀ {id e}, s.find? id = some e → id ≠ NodeId.root ∧ id ≠ NodeId.contentBin
  path_eq : ∀ {id e}, s.find? id = some e → ∃ above, s.NodeAt e.parent above ∧
    e.path = above.child id

/-! ## Insertions -/

@[simp] theorem find?_empty (id : NodeId) : empty.find? id = none := by
  simp [find?, empty]

theorem find?_put (s : EntityStore) (e : Entity) (id : NodeId) :
    (s.put e).find? id = if id = e.id then some e else s.find? id := by
  rw [find?, put, Std.ExtTreeMap.getElem?_insert]
  simp only [Std.LawfulEqCmp.compare_eq_iff_eq, eq_comm (a := e.id)]
  rfl

theorem id_of_find? {s : EntityStore} {id : NodeId} {e : Entity} (h : s.find? id = some e) :
    e.id = id :=
  (s.keyed id e h).symm

/-- An insertion stores one entity below its parent, or changes nothing. -/
theorem apply_cases (s : EntityStore) (i : Insertion) :
    (s.parentPath? i.parent = none ∧ s.apply i = s) ∨
      ∃ above, s.NodeAt i.parent above ∧
        s.apply i = s.put ⟨i.id, i.key, i.name, i.parent, above.child i.id⟩ := by
  unfold apply insert? NodeAt
  cases s.parentPath? i.parent with
  | none => exact .inl ⟨rfl, rfl⟩
  | some above => exact .inr ⟨above, rfl, rfl⟩

theorem find?_apply_of_ne {s : EntityStore} {i : Insertion} {id : NodeId} (hne : id ≠ i.id) :
    (s.apply i).find? id = s.find? id := by
  rcases apply_cases s i with ⟨_, h⟩ | ⟨above, _, h⟩
  · rw [h]
  · rw [h, find?_put, if_neg hne]

/-- A node of the tree keeps its path when a new id is stored. -/
theorem NodeAt.put {s : EntityStore} {id : NodeId} {p : Path} {e : Entity} (h : s.NodeAt id p)
    (hfresh : s.find? e.id = none) (hordinary : e.id ≠ NodeId.root ∧ e.id ≠ NodeId.contentBin) :
    (s.put e).NodeAt id p := by
  have hne : id ≠ e.id := by
    rintro rfl
    simp [NodeAt, parentPath?, hordinary, hfresh] at h
  unfold NodeAt parentPath? at h ⊢
  rwa [find?_put, if_neg hne]

/-- **One insertion.**  Storing a new id keeps the tree in order. -/
theorem Rooted.apply {s : EntityStore} (h : s.Rooted) {i : Insertion}
    (hfresh : s.find? i.id = none) (hordinary : i.id ≠ NodeId.root ∧ i.id ≠ NodeId.contentBin) :
    (s.apply i).Rooted := by
  rcases apply_cases s i with ⟨_, hsame⟩ | ⟨above, habove, hput⟩
  · rwa [hsame]
  rw [hput]
  constructor
  · intro id e he
    rw [find?_put] at he
    split at he
    · next heq => rwa [heq]
    · exact h.ordinary he
  · intro id e he
    rw [find?_put] at he
    split at he
    · next heq =>
      obtain rfl := Option.some.inj he
      exact ⟨above, habove.put hfresh hordinary, by rw [heq]⟩
    · obtain ⟨path, hpath, hchild⟩ := h.path_eq he
      exact ⟨path, hpath.put hfresh hordinary, hchild⟩

theorem rooted_empty : empty.Rooted :=
  ⟨by simp, by simp⟩

/-- **A run of insertions.**  The tree is in order whatever the order of the
insertions, and however many of them come to nothing. -/
theorem rooted_grown {history : List Insertion} (h : Orderly history) : (grown history).Rooted := by
  refine inv_foldl_of_distinct find? ?_ ?_ h.distinct rooted_empty fun i _ => find?_empty i.id
  · intro s i hi hs hnew
    exact hs.apply hnew (h.ordinary i hi)
  · intro s i id hne
    exact find?_apply_of_ne hne

/-! ## Going down the tree -/

namespace Rooted

variable {s : EntityStore} {id parent a b : NodeId} {p q above : Path}

theorem nodeAt_of_find? (h : s.Rooted) {e : Entity} (he : s.find? id = some e) :
    s.NodeAt id e.path := by
  obtain ⟨hroot, hbin⟩ := h.ordinary he
  simp [NodeAt, parentPath?, hroot, hbin, he]

theorem nodeAt_child (h : s.Rooted) (hstep : s.StepUp id parent) (habove : s.NodeAt parent above) :
    s.NodeAt id (above.child id) := by
  unfold StepUp parent? at hstep
  split at hstep
  · simp at hstep
  split at hstep
  · next hroot hbin =>
    obtain rfl := Option.some.inj hstep
    obtain rfl : Path.root = above := by simpa [NodeAt, parentPath?] using habove
    simp [NodeAt, parentPath?, hbin]
  · obtain ⟨e, he, rfl⟩ := Option.map_eq_some_iff.mp hstep
    obtain ⟨path, hpath, hchild⟩ := h.path_eq he
    obtain rfl : path = above := Option.some.inj (hpath.symm.trans habove)
    rw [← hchild]
    exact h.nodeAt_of_find? he

/-- A node is the root, or lies one step below another node. -/
theorem nodeAt_cases (h : s.Rooted) (hn : s.NodeAt id p) :
    (id = NodeId.root ∧ p = Path.root) ∨
      ∃ parent above, s.StepUp id parent ∧ s.NodeAt parent above ∧ p = above.child id := by
  have hpath := hn
  unfold NodeAt parentPath? at hpath
  split at hpath
  · next hroot => exact .inl ⟨hroot, (Option.some.inj hpath).symm⟩
  split at hpath
  · next hroot hbin =>
    exact .inr ⟨NodeId.root, Path.root, by simp [StepUp, parent?, hbin],
      by simp [NodeAt, parentPath?], by rw [← Option.some.inj hpath, hbin]⟩
  · next hroot hbin =>
    obtain ⟨e, he, rfl⟩ := Option.map_eq_some_iff.mp hpath
    obtain ⟨above, habove, hchild⟩ := h.path_eq he
    exact .inr ⟨e.parent, above, by simp [StepUp, parent?, hroot, hbin, he], habove, hchild⟩

/-- **Induction down the tree.**  What holds of the root, and of every node whose
parent it holds of, holds of all nodes.  The length of the path carries the
induction, so the links cannot form a cycle. -/
theorem induct (h : s.Rooted) {motive : NodeId → Path → Prop}
    (root : motive NodeId.root Path.root)
    (child : ∀ id parent above, s.StepUp id parent → s.NodeAt parent above →
      motive parent above → motive id (above.child id)) :
    ∀ {id p}, s.NodeAt id p → motive id p := by
  suffices hlength : ∀ n id p, p.ids.length = n → s.NodeAt id p → motive id p from
    fun {id p} hn => hlength _ id p rfl hn
  intro n
  induction n with
  | zero =>
      intro id p hzero
      exact absurd (List.length_eq_zero_iff.mp hzero) p.ids_ne_nil
  | succ n ih =>
      intro id p hlen hn
      rcases h.nodeAt_cases hn with ⟨rfl, rfl⟩ | ⟨parent, above, hstep, habove, rfl⟩
      · exact root
      · have hshorter : above.ids.length = n := by simpa using hlen
        exact child id parent above hstep habove (ih parent above hshorter habove)

/-- The tree of a store, by its paths alone. -/
def layout (h : s.Rooted) : Layout where
  path? := s.parentPath?
  root_path := by simp [parentPath?]
  child_path hp hroot := by
    rcases h.nodeAt_cases hp with ⟨hid, _⟩ | ⟨parent, above, _, habove, hchild⟩
    · exact absurd hid hroot
    · exact ⟨parent, above, habove, hchild⟩

/-- The paths of a tree spell every id in the shortest way. -/
theorem plain (h : s.Rooted) (hn : s.NodeAt id p) : p.Plain :=
  Layout.plain (t := h.layout) hn

/-! ## Ancestors on paths -/

/-- **A path lists the node and its ancestors.** -/
theorem mem_ids_iff (h : s.Rooted) (hn : s.NodeAt id p) : a ∈ p.ids ↔ s.AtOrAbove a id := by
  refine h.induct (motive := fun id p => a ∈ p.ids ↔ s.AtOrAbove a id) ?_ ?_ hn
  · rw [AtOrAbove, Relation.ReflTransGen.cases_head_iff]
    simp [StepUp, parent?, eq_comm]
  · intro id parent above hstep _ ih
    rw [AtOrAbove, Relation.ReflTransGen.cases_head_iff, Path.ids_child, List.mem_append, ih,
      List.mem_singleton]
    constructor
    · rintro (habove | rfl)
      · exact .inr ⟨parent, hstep, habove⟩
      · exact .inl rfl
    · rintro (rfl | ⟨other, hother, habove⟩)
      · exact .inr rfl
      · obtain rfl : parent = other := Option.some.inj (hstep.symm.trans hother)
        exact .inl habove

/-- **A path begins with the paths of the ancestors**, and with no other path of
the tree. -/
theorem prefix_iff (h : s.Rooted) (ha : s.NodeAt a p) (hb : s.NodeAt b q) :
    p.ids <+: q.ids ↔ s.AtOrAbove a b := by
  rw [← h.mem_ids_iff hb]
  exact Layout.prefix_iff (t := h.layout) ha hb

theorem segments_prefix_iff (h : s.Rooted) (ha : s.NodeAt a p) (hb : s.NodeAt b q) :
    Text.segments p.text <+: Text.segments q.text ↔ s.AtOrAbove a b := by
  rw [← h.mem_ids_iff hb]
  exact Layout.segments_prefix_iff (t := h.layout) ha hb

/-- No node is an ancestor of itself. -/
theorem not_above_self (h : s.Rooted) (hn : s.NodeAt id p) : ¬ s.Above id id := by
  intro hcycle
  obtain ⟨parent, hstep, hup⟩ := Relation.TransGen.head'_iff.mp hcycle
  rcases h.nodeAt_cases hn with ⟨rfl, rfl⟩ | ⟨other, above, hother, habove, rfl⟩
  · simp [StepUp, parent?] at hstep
  · obtain rfl : parent = other := Option.some.inj (hstep.symm.trans hother)
    have hle : (above.child id).ids.length ≤ above.ids.length :=
      ((h.prefix_iff hn habove).mpr hup).length_le
    rw [Path.ids_child, List.length_append, List.length_singleton] at hle
    omega

theorem above_iff (h : s.Rooted) (hn : s.NodeAt id p) :
    s.Above a id ↔ s.AtOrAbove a id ∧ a ≠ id := by
  constructor
  · intro habove
    exact ⟨habove.to_reflTransGen, by rintro rfl; exact h.not_above_self hn habove⟩
  · rintro ⟨hle, hne⟩
    exact (Relation.reflTransGen_iff_eq_or_transGen.mp hle).resolve_left hne

/-- Two nodes above a third are above one another, one way or the other. -/
theorem atOrAbove_total (h : s.Rooted) {c : NodeId} {o : Path} (ha : s.NodeAt a p)
    (hb : s.NodeAt b q) (hc : s.NodeAt c o) (hac : s.AtOrAbove a c) (hbc : s.AtOrAbove b c) :
    s.AtOrAbove a b ∨ s.AtOrAbove b a := by
  rcases List.prefix_or_prefix_of_prefix ((h.prefix_iff ha hc).mpr hac)
    ((h.prefix_iff hb hc).mpr hbc) with hle | hle
  · exact .inl ((h.prefix_iff ha hb).mp hle)
  · exact .inr ((h.prefix_iff hb ha).mp hle)

end Rooted

end EntityStore

end Access

end Publishing
