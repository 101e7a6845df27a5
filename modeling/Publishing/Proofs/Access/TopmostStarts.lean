import Mathlib.Data.List.Forall2
import Mathlib.Logic.ExistsUnique
import Publishing.Proofs.Access.Walk

/-!
# The start nodes that remain are the topmost ones, in order

`startNodes` compares every known start node with every other one by a search in its
path, and drops all that are found wanting at once.  `Proofs.Access.StartNodes` says
which ids are left.  This file says what the lists look like that are given out.

* `Topmost` is what a list of start nodes has to be: ascending, made of the known start
  ids without another one above them, each with the path of its entity, none on the path
  of another, and with exactly one at or above each known start id.
* `startNodes_topmost`: in a tree grown by insertions of distinct ids the start nodes of
  a user without root access are such a list, and root access leaves the root alone.

That a known start id has one above it rests on the tree going down from the root
(`exists_topStart`), that it has one only on two ancestors of a node being ancestors of one
another (`atOrAbove_total`).
-/

namespace Publishing

theorem NodeId.compare_eq_lt_iff {a b : NodeId} : compare a b = .lt ↔ a.val < b.val :=
  Int.compare_eq_lt

namespace Access.EntityStore

/-- The start nodes of a user, reduced to the topmost ones and listed in order. -/
structure Topmost (s : EntityStore) (u : User) (starts : StartNodes) : Prop where
  ascending : starts.ids.Pairwise fun a b => a.val < b.val
  mem_ids_iff : ∀ id, id ∈ starts.ids ↔
    s.KnownStart u id ∧ ∀ other, s.KnownStart u other → ¬ s.Above other id
  paths_eq : List.Forall₂ (fun id text => ∃ e, s.find? id = some e ∧ e.path.text = text)
    starts.ids starts.paths
  unnested : ∀ a ∈ starts.ids, ∀ b ∈ starts.ids, ∀ e, s.find? b = some e → a ∈ e.path.ids → a = b
  one_above : ∀ start, s.KnownStart u start → ∃! top, top ∈ starts.ids ∧ s.AtOrAbove top start

variable {s : EntityStore} {u : User} {root : NodeId}

/-! ## The lists, in any store -/

/-- Start ids are looked up in ascending order, and dropping some keeps the order. -/
theorem ascending_startNodes (s : EntityStore) (u : User) (root : NodeId) :
    (startNodes s.find? u root).ids.Pairwise fun a b => a.val < b.val := by
  by_cases hroot : u.StartsAt root
  · rw [startNodes_of_startsAt hroot]
    exact List.pairwise_singleton _ _
  rw [startNodes_of_not_startsAt hroot]
  apply List.pairwise_map.mpr
  apply List.Pairwise.filter
  apply List.pairwise_filterMap.mpr
  refine Std.ExtTreeSet.ordered_toList.imp fun {a b} hlt e he e' he' => ?_
  rw [id_of_find? he, id_of_find? he']
  exact NodeId.compare_eq_lt_iff.mp hlt

theorem paths_startNodes (hroot : ¬ u.StartsAt root) :
    List.Forall₂ (fun id text => ∃ e, s.find? id = some e ∧ e.path.text = text)
      (startNodes s.find? u root).ids (startNodes s.find? u root).paths := by
  rw [startNodes_of_not_startsAt hroot, List.forall₂_map_left_iff, List.forall₂_map_right_iff,
    List.forall₂_same]
  intro e he
  exact ⟨e, (Rooted.mem_knownStarts_iff.mp (List.mem_filter.mp he).1).2, rfl⟩

/-! ## The topmost ids, in a tree -/

namespace Rooted

variable {id start : NodeId}

theorem topStart_iff_none_above (h : s.Rooted) :
    s.TopStart u id ↔ s.KnownStart u id ∧ ∀ other, s.KnownStart u other → ¬ s.Above other id := by
  refine and_congr_right fun hknown => ?_
  obtain ⟨p, hp⟩ := h.exists_nodeAt hknown
  constructor
  · intro htop other hother habove
    obtain ⟨hle, hne⟩ := (h.above_iff hp).mp habove
    exact hne (htop other hother hle)
  · intro hnone other hother hle
    by_contra hne
    exact hnone other hother ((h.above_iff hp).mpr ⟨hle, hne⟩)

/-- **A start node has one topmost start node at or above it.** -/
theorem existsUnique_topStart (h : s.Rooted) (hstart : s.KnownStart u start) :
    ∃! top, s.TopStart u top ∧ s.AtOrAbove top start := by
  obtain ⟨p, hp⟩ := h.exists_nodeAt hstart
  obtain ⟨top, htop, hle⟩ := h.exists_topStart hp ⟨start, hstart, .refl⟩
  refine ⟨top, ⟨htop, hle⟩, ?_⟩
  rintro other ⟨hother, hle'⟩
  obtain ⟨q, hq⟩ := h.exists_nodeAt htop.1
  obtain ⟨o, ho⟩ := h.exists_nodeAt hother.1
  rcases h.atOrAbove_total ho hq hp hle' hle with habove | hbelow
  · exact htop.2 other hother.1 habove
  · exact (hother.2 top htop.1 hbelow).symm

theorem topmost_startNodes (h : s.Rooted) (hroot : ¬ u.StartsAt root) :
    s.Topmost u (startNodes s.find? u root) where
  ascending := ascending_startNodes s u root
  mem_ids_iff id := by rw [h.mem_startNodes_ids hroot, h.topStart_iff_none_above]
  paths_eq := paths_startNodes hroot
  unnested := by
    intro a ha b hb e he hmem
    have hknown := ((h.mem_startNodes_ids hroot).mp ha).1
    have htop := (h.mem_startNodes_ids hroot).mp hb
    exact htop.2 a hknown ((h.mem_ids_iff (h.nodeAt_of_find? he)).mp hmem)
  one_above start hstart := by
    simp only [h.mem_startNodes_ids hroot]
    exact h.existsUnique_topStart hstart

end Rooted

/-- **The start nodes of a user are the topmost known ones.**  In a tree grown by
insertions of distinct ids nothing is lost in reducing them, whatever is nested, repeated
or unknown among the start ids of the user and of the user's groups.  Root access leaves
the root alone. -/
theorem startNodes_topmost {history : List Insertion} (h : Orderly history) (u : User)
    (root : NodeId) :
    (¬ u.StartsAt root →
      (grown history).Topmost u (startNodes (grown history).find? u root)) ∧
    (u.StartsAt root →
      startNodes (grown history).find? u root = ⟨[root], [root.text]⟩) :=
  ⟨(rooted_grown h).topmost_startNodes, startNodes_of_startsAt⟩

/-- The editor starts at the home page and, by a group, at the page below it: the home
page remains.  For whoever takes the home page for the root it is all there is. -/
theorem startNodes_topmost_smallSite :
    Orderly smallSite ∧ ¬ editor.StartsAt NodeId.root ∧ editor.StartsAt homeId ∧
      (∀ id, id ∈ (startNodes (grown smallSite).find? editor NodeId.root).ids ↔ id = homeId) ∧
      startNodes (grown smallSite).find? editor homeId = ⟨[homeId], [homeId.text]⟩ := by
  have hstarts : ∀ id, editor.StartsAt id ↔ id = homeId ∨ id = aboutId := by
    intro id
    simp [User.StartsAt, editor, editors, Group.withGranular, eq_comm]
  have hroot : ¬ editor.StartsAt NodeId.root := by
    rw [hstarts]
    decide
  have hhome : editor.StartsAt homeId := (hstarts homeId).mpr (.inl rfl)
  have hknown : (grown smallSite).KnownStart editor homeId := ⟨hhome, by decide⟩
  have htopmost := (startNodes_topmost orderly_smallSite editor NodeId.root).1 hroot
  refine ⟨orderly_smallSite, hroot, hhome, fun id => ⟨?_, ?_⟩,
    (startNodes_topmost orderly_smallSite editor homeId).2 hhome⟩
  · intro hid
    obtain ⟨⟨hstart, _⟩, hnone⟩ := (htopmost.mem_ids_iff id).mp hid
    rcases (hstarts id).mp hstart with rfl | rfl
    · rfl
    · exact absurd (.single stepUp_aboutId) (hnone homeId hknown)
  · rintro rfl
    obtain ⟨top, ⟨hmem, hle⟩, _⟩ := htopmost.one_above homeId hknown
    have htop : top ∈ homePath.ids :=
      ((rooted_grown orderly_smallSite).mem_ids_iff nodeAt_homeId).mpr hle
    have hcases : top = NodeId.root ∨ top = homeId := by simpa [homePath] using htop
    rcases hcases with rfl | rfl
    · exact absurd ((htopmost.mem_ids_iff _).mp hmem).1.1 hroot
    · exact hmem

end Access.EntityStore

end Publishing
