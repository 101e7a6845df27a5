import Publishing.Proofs.Path

/-!
# Trees laid out by paths

A tree of nodes with distinct ids is laid out by giving each id a path: the root
has the path `-1`, and any other node has the path of some node of the tree with
its own id behind it.  No links between nodes are kept beside the paths, and none
are needed: which node lies above which is on the paths.

* `Layout.induct` is induction down the tree, and from it `Layout.plain`: the
  paths of a tree spell every id in the shortest way.
* `Layout.prefix_iff`: one path begins another exactly when the second lists the
  node of the first.
* `Layout.unique`: a path leads to one node only.
-/

namespace Publishing

/-- A path for every node of a tree.  A node other than the root lies one step below
some node. -/
structure Layout where
  path? : NodeId → Option Path
  root_path : path? NodeId.root = some Path.root
  child_path : ∀ {id p}, path? id = some p → id ≠ NodeId.root →
    ∃ parent above, path? parent = some above ∧ p = above.child id

namespace Layout

variable {t : Layout} {a b : NodeId} {p q : Path}

/-- **Induction down the tree.**  The length of the path carries it: a path is longer
than that of the node one step above. -/
theorem induct (t : Layout) {motive : NodeId → Path → Prop}
    (root : motive NodeId.root Path.root)
    (child : ∀ id parent above, t.path? parent = some above →
      t.path? id = some (above.child id) → motive parent above → motive id (above.child id)) :
    ∀ {id p}, t.path? id = some p → motive id p := by
  suffices hlength : ∀ n id p, p.ids.length = n → t.path? id = some p → motive id p from
    fun {id p} hp => hlength _ id p rfl hp
  intro n
  induction n with
  | zero =>
      intro id p hzero
      exact absurd (List.length_eq_zero_iff.mp hzero) p.ids_ne_nil
  | succ n ih =>
      intro id p hlen hp
      by_cases hroot : id = NodeId.root
      · subst hroot
        obtain rfl := Option.some.inj (t.root_path.symm.trans hp)
        exact root
      · obtain ⟨parent, above, habove, rfl⟩ := t.child_path hp hroot
        have hshorter : above.ids.length = n := by simpa using hlen
        exact child id parent above habove hp (ih parent above hshorter habove)

theorem plain (hp : t.path? a = some p) : p.Plain :=
  t.induct (motive := fun _ p => p.Plain) Path.plain_root
    (fun id _ _ _ _ habove => habove.child id) hp

/-- A path ends with the id of its node. -/
theorem getLast?_ids (hp : t.path? a = some p) : p.ids.getLast? = some a := by
  refine t.induct (motive := fun a p => p.ids.getLast? = some a) ?_ ?_ hp
  · simp
  · intro id _ above _ _ _
    simp

theorem self_mem_ids (hp : t.path? a = some p) : a ∈ p.ids :=
  List.mem_of_getLast? (getLast?_ids hp)

/-- **A path leads to one node.** -/
theorem unique (ha : t.path? a = some p) (hb : t.path? b = some p) : a = b :=
  Option.some.inj ((getLast?_ids ha).symm.trans (getLast?_ids hb))

/-- **A path begins with the paths of the nodes that it lists**, and with no other path
of the tree. -/
theorem prefix_iff (ha : t.path? a = some p) (hb : t.path? b = some q) :
    p.ids <+: q.ids ↔ a ∈ q.ids := by
  refine ⟨fun hle => hle.subset (self_mem_ids ha), ?_⟩
  refine t.induct (motive := fun b q => a ∈ q.ids → p.ids <+: q.ids) ?_ ?_ hb
  · intro hmem
    obtain rfl : a = NodeId.root := by simpa using hmem
    obtain rfl := Option.some.inj (t.root_path.symm.trans ha)
    exact List.prefix_refl _
  · intro id _ above _ hid ih hmem
    rw [Path.ids_child, List.mem_append, List.mem_singleton] at hmem
    rcases hmem with hmem | rfl
    · rw [Path.ids_child]
      exact (ih hmem).trans (List.prefix_append _ _)
    · obtain rfl := Option.some.inj (ha.symm.trans hid)
      exact List.prefix_refl _

theorem segments_prefix_iff (ha : t.path? a = some p) (hb : t.path? b = some q) :
    Text.segments p.text <+: Text.segments q.text ↔ a ∈ q.ids := by
  rw [← Text.leads_iff_segments, (plain ha).leads_iff (plain hb), prefix_iff ha hb]

end Layout

end Publishing
