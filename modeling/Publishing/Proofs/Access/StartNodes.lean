import Mathlib.Tactic.ByContra
import Publishing.Access.Realm
import Publishing.Proofs.Access.Ancestry
import Publishing.Proofs.Access.Standing

/-!
# The start nodes of a user

`startNodes` looks up the start ids of a user and of the user's groups, and then
drops every entity that has another one on its path.  All are dropped at once,
so it is not clear that a chain of nested start nodes leaves one over.  In a
store grown by insertions it does:

* `mem_startNodes_ids`: what remains are the known start nodes with no other one
  above them;
* `exists_topStart`: whatever has a known start node above it has a remaining one
  above it.

The start paths are unnested (`unnested_startNodes`), so the order in which
`standing` looks above and below them does not matter.
-/

namespace Publishing.Access

/-! ## The start ids of a user -/

/-- The user, or a group of the user, starts at a node. -/
def User.StartsAt (u : User) (id : NodeId) : Prop :=
  id ∈ u.starts ∨ ∃ g ∈ u.groups, g.start = some id

theorem User.mem_allStarts {u : User} {id : NodeId} : id ∈ u.allStarts ↔ u.StartsAt id := by
  simp [User.allStarts, User.StartsAt, Std.ExtTreeSet.mem_ofList]

/-- The entities found under the start ids of a user. -/
def knownStarts (entity? : NodeId → Option Entity) (u : User) : List Entity :=
  u.allStarts.toList.filterMap entity?

theorem mem_knownStarts {entity? : NodeId → Option Entity} {u : User} {e : Entity} :
    e ∈ knownStarts entity? u ↔ ∃ id, u.StartsAt id ∧ entity? id = some e := by
  simp [knownStarts, User.mem_allStarts]

theorem startNodes_of_startsAt {entity? : NodeId → Option Entity} {u : User} {root : NodeId}
    (h : u.StartsAt root) : startNodes entity? u root = ⟨[root], [root.text]⟩ := by
  unfold startNodes
  rw [if_pos (by simpa using User.mem_allStarts.mpr h)]

theorem startNodes_of_not_startsAt {entity? : NodeId → Option Entity} {u : User} {root : NodeId}
    (h : ¬ u.StartsAt root) :
    startNodes entity? u root =
      let topmost := (knownStarts entity? u).filter (isTopmost (knownStarts entity? u))
      ⟨topmost.map Entity.id, topmost.map fun e => e.path.text⟩ := by
  unfold startNodes
  rw [if_neg (by simpa using mt User.mem_allStarts.mp h)]
  rfl

theorem startNodes_paths_eq_nil {entity? : NodeId → Option Entity} {u : User} {root : NodeId}
    (h : (startNodes entity? u root).ids = []) : (startNodes entity? u root).paths = [] := by
  by_cases hroot : u.StartsAt root
  · simp [startNodes_of_startsAt hroot] at h
  · rw [startNodes_of_not_startsAt hroot] at h ⊢
    simpa using h

namespace EntityStore

@[simp] theorem realm_startNodes (s : EntityStore) (reserved : ReservedIds) (u : User) :
    (s.realm reserved).startNodes u = startNodes s.find? u reserved.root := rfl

/-- A start id of the user that the store knows. -/
def KnownStart (s : EntityStore) (u : User) (id : NodeId) : Prop :=
  u.StartsAt id ∧ (s.find? id).isSome = true

/-- A known start id that has no other one above it. -/
def TopStart (s : EntityStore) (u : User) (id : NodeId) : Prop :=
  s.KnownStart u id ∧ ∀ other, s.KnownStart u other → s.AtOrAbove other id → other = id

namespace Rooted

variable {s : EntityStore} {u : User} {id n root : NodeId} {e : Entity} {p : Path}

theorem exists_nodeAt (h : s.Rooted) (hknown : s.KnownStart u id) : ∃ p, s.NodeAt id p := by
  obtain ⟨e, he⟩ := Option.isSome_iff_exists.mp hknown.2
  exact ⟨e.path, h.nodeAt_of_find? he⟩

theorem mem_knownStarts_iff :
    e ∈ knownStarts s.find? u ↔ s.KnownStart u e.id ∧ s.find? e.id = some e := by
  rw [mem_knownStarts]
  constructor
  · rintro ⟨id, hstart, he⟩
    obtain rfl := id_of_find? he
    exact ⟨⟨hstart, by simp [he]⟩, he⟩
  · rintro ⟨⟨hstart, _⟩, he⟩
    exact ⟨e.id, hstart, he⟩

theorem isTopmost_iff (h : s.Rooted) (he : e ∈ knownStarts s.find? u) :
    isTopmost (knownStarts s.find? u) e = true ↔ s.TopStart u e.id := by
  obtain ⟨hknown, hfind⟩ := mem_knownStarts_iff.mp he
  have hnode := h.nodeAt_of_find? hfind
  have honpath : ∀ other, e.path.containsId other = true ↔ s.AtOrAbove other e.id := by
    intro other
    rw [Path.containsId, (h.plain hnode).holdsSegment_iff, h.mem_ids_iff hnode]
  simp only [isTopmost, Bool.not_eq_true', List.any_eq_false, Bool.and_eq_true, bne_iff_ne,
    honpath, not_and, TopStart, hknown, true_and]
  constructor
  · intro htop other hother habove
    obtain ⟨o, ho⟩ := Option.isSome_iff_exists.mp hother.2
    obtain rfl := id_of_find? ho
    by_contra hne
    exact htop o (mem_knownStarts_iff.mpr ⟨hother, ho⟩) hne habove
  · intro htop other hother hne habove
    exact hne (htop other.id (mem_knownStarts_iff.mp hother).1 habove)

theorem mem_topmost_iff (h : s.Rooted) :
    e ∈ (knownStarts s.find? u).filter (isTopmost (knownStarts s.find? u)) ↔
      s.TopStart u e.id ∧ s.find? e.id = some e := by
  rw [List.mem_filter]
  constructor
  · rintro ⟨he, htop⟩
    exact ⟨(h.isTopmost_iff he).mp htop, (mem_knownStarts_iff.mp he).2⟩
  · rintro ⟨htop, hfind⟩
    have he := mem_knownStarts_iff.mpr ⟨htop.1, hfind⟩
    exact ⟨he, (h.isTopmost_iff he).mpr htop⟩

/-- **What remains of the start ids**: those with no other known one above them. -/
theorem mem_startNodes_ids (h : s.Rooted) (hroot : ¬ u.StartsAt root) :
    id ∈ (startNodes s.find? u root).ids ↔ s.TopStart u id := by
  rw [startNodes_of_not_startsAt hroot, List.mem_map]
  constructor
  · rintro ⟨e, he, rfl⟩
    exact (h.mem_topmost_iff.mp he).1
  · intro htop
    obtain ⟨e, he⟩ := Option.isSome_iff_exists.mp htop.1.2
    obtain rfl := id_of_find? he
    exact ⟨e, h.mem_topmost_iff.mpr ⟨htop, he⟩, rfl⟩

/-- In a store, root access is a start node at the root. -/
theorem root_mem_startNodes_iff (h : s.Rooted) :
    root ∈ (startNodes s.find? u root).ids ↔ u.StartsAt root := by
  constructor
  · intro hmem
    by_contra hroot
    exact hroot ((h.mem_startNodes_ids hroot).mp hmem).1.1
  · intro hroot
    rw [startNodes_of_startsAt hroot]
    exact List.mem_singleton_self _

/-- The start paths are the paths of the start nodes that remain. -/
theorem mem_startNodes_paths (h : s.Rooted) (hroot : ¬ u.StartsAt root) {text : String} :
    text ∈ (startNodes s.find? u root).paths ↔
      ∃ id p, s.TopStart u id ∧ s.NodeAt id p ∧ p.text = text := by
  rw [startNodes_of_not_startsAt hroot, List.mem_map]
  constructor
  · rintro ⟨e, he, rfl⟩
    obtain ⟨htop, hfind⟩ := h.mem_topmost_iff.mp he
    exact ⟨e.id, e.path, htop, h.nodeAt_of_find? hfind, rfl⟩
  · rintro ⟨id, p, htop, hnode, rfl⟩
    obtain ⟨e, he⟩ := Option.isSome_iff_exists.mp htop.1.2
    obtain rfl := id_of_find? he
    obtain rfl : e.path = p := Option.some.inj ((h.nodeAt_of_find? he).symm.trans hnode)
    exact ⟨e, h.mem_topmost_iff.mpr ⟨htop, he⟩, rfl⟩

/-- A start node with no other one above its parent is the topmost one. -/
theorem topStart_of_none_above {start : NodeId} (hknown : s.KnownStart u start)
    (hle : s.AtOrAbove start n)
    (hnone : ∀ parent, s.StepUp n parent → ∀ other, s.KnownStart u other →
      ¬ s.AtOrAbove other parent) : s.TopStart u n := by
  have hself : ∀ other, s.KnownStart u other → s.AtOrAbove other n → other = n := by
    intro other hother hup
    rcases Relation.ReflTransGen.cases_head hup with rfl | ⟨parent, hstep, hmore⟩
    · rfl
    · exact absurd hmore (hnone parent hstep other hother)
  obtain rfl := hself start hknown hle
  exact ⟨hknown, hself⟩

/-- **No start node is lost.**  A node with a known start node at or above it has
one that remains at or above it. -/
theorem exists_topStart (h : s.Rooted) (hn : s.NodeAt n p)
    (hknown : ∃ start, s.KnownStart u start ∧ s.AtOrAbove start n) :
    ∃ top, s.TopStart u top ∧ s.AtOrAbove top n := by
  -- down the tree: what serves the parent serves the node, and if nothing does the
  -- node itself remains
  refine h.induct (motive := fun n _ => (∃ start, s.KnownStart u start ∧ s.AtOrAbove start n) →
    ∃ top, s.TopStart u top ∧ s.AtOrAbove top n) ?_ ?_ hn hknown
  · rintro ⟨start, hstart, hle⟩
    refine ⟨_, topStart_of_none_above hstart hle ?_, .refl⟩
    intro parent hstep
    simp [StepUp, parent?] at hstep
  · rintro id parent above hstep _ ih ⟨start, hstart, hle⟩
    by_cases hup : ∃ start, s.KnownStart u start ∧ s.AtOrAbove start parent
    · obtain ⟨top, htop, habove⟩ := ih hup
      exact ⟨top, htop, .head hstep habove⟩
    · refine ⟨_, topStart_of_none_above hstart hle ?_, .refl⟩
      intro other hother known hknown habove
      obtain rfl : parent = other := Option.some.inj (hstep.symm.trans hother)
      exact hup ⟨known, hknown, habove⟩

/-- Start paths do not begin one another. -/
theorem unnested_startNodes (h : s.Rooted) : Unnested (startNodes s.find? u root).paths := by
  by_cases hroot : u.StartsAt root
  · rw [startNodes_of_startsAt hroot]
    simp [Unnested]
  intro a ha b hb hle
  obtain ⟨top, p, htop, hp, rfl⟩ := (h.mem_startNodes_paths hroot).mp ha
  obtain ⟨below, q, hbelow, hq, rfl⟩ := (h.mem_startNodes_paths hroot).mp hb
  obtain rfl := hbelow.2 top htop.1 ((h.segments_prefix_iff hp hq).mp hle)
  rw [Option.some.inj (hp.symm.trans hq)]

end Rooted

end EntityStore

end Publishing.Access
