import Publishing.Proofs.Access.Permissions
import Publishing.Proofs.Access.StartNodes

/-!
# What keeps the recycle bin closed

Without root access the recycle bin is off limits.  Access is decided by
searching a path for the decimal text of the bin's id, though, and a path may
spell an id with leading zeros or a plus sign: `-1,-020,5` lies in the bin, and
the search passes over it.

* `bin_closed_iff`: the exact condition under which an entity whose path runs
  through the bin is closed to a user without root access.  Either the path
  spells the bin in the shortest way, or no start node of the user is found.
* `bin_open_longSpelling`: an entity in the bin that is open.
-/

namespace Publishing.Access

open Text

namespace Realm

variable {r : Realm} {u : User} {node : NodeId} {e : Entity}

/-- Some segment of a path is the decimal text of the recycle bin's id. -/
def BinFound (r : Realm) (p : Path) : Prop :=
  r.reserved.contentBin.text.toList ∈ segments p.text

/-- Some segment of a path is the decimal text of a start node's id. -/
def StartFound (r : Realm) (u : User) (p : Path) : Prop :=
  ∃ start ∈ (r.startNodes u).ids, start.text.toList ∈ segments p.text

theorem opens_iff_of_not_root (hroot : r.hasRootAccess u = false) (p : Path) :
    r.Opens u p.text ↔ ¬ r.BinFound p ∧ r.StartFound u p := by
  have hmem : r.reserved.root ∉ (r.startNodes u).ids := by
    simpa [hasRootAccess] using hroot
  exact or_iff_right hmem

/-- Without root access neither the root nor the recycle bin itself is granted. -/
theorem check_reserved (hroot : r.hasRootAccess u = false)
    (hnode : node = r.reserved.root ∨ node = r.reserved.contentBin) (required : List String) :
    r.check node u required = .ok ⟨.denied, none⟩ := by
  rw [check_of_reserved hnode, hroot]
  simp

/-- **The recycle bin is closed exactly where it is found.**  To a user without root
access, an entity is closed and never granted exactly if its path spells the id of
the recycle bin in the shortest way, or spells no start node of the user in that
way.  So every entity in the bin is closed whose path spells all ids in the
shortest way. -/
theorem bin_closed_iff (hroot : r.hasRootAccess u = false) (he : r.entity? node = some e) :
    ((r.mayEnter u e.path.text = .ok false ∧
      ∀ required, ∃ c, r.check node u required = .ok c ∧ c.isGranted = false) ↔
    r.BinFound e.path ∨ ¬ r.StartFound u e.path) ∧
    (r.reserved.contentBin ∈ e.path.ids → e.path.Plain → r.BinFound e.path) := by
  have hopens := opens_iff_of_not_root hroot e.path
  rw [mayEnter_text]
  refine ⟨⟨?_, ?_⟩, fun hbin hplain => hplain.mem_segments_iff.mpr hbin⟩
  · rintro ⟨hclosed, _⟩
    have hnot : ¬ r.Opens u e.path.text := by simpa using hclosed
    rw [hopens, not_and_or, not_not] at hnot
    exact hnot
  · intro hfound
    have hnot : ¬ r.Opens u e.path.text := by
      rw [hopens, not_and_or, not_not]
      exact hfound
    refine ⟨by simp [hnot], fun required => ?_⟩
    by_cases hnode : node = r.reserved.root ∨ node = r.reserved.contentBin
    · exact ⟨_, check_reserved hroot hnode required, by decide⟩
    · rw [not_or] at hnode
      exact ⟨_, check_of_entity hnode.1 hnode.2 he required, by simp [hnot, Check.isGranted]⟩

/-! ### Two spellings of one path -/

/-- An entity in the recycle bin. -/
def binned (path : Path) : Entity :=
  ⟨⟨5, by decide⟩, Uuid.zero, "old page", NodeId.contentBin, path⟩

/-- A service that knows one entity. -/
def knowing (e : Entity) : Realm where
  entity? id := if id = e.id then some e else none

/-- A user who starts at that entity. -/
def author : User where
  id := Uuid.zero
  name := "ana"
  starts := [⟨5, by decide⟩]

def shortSpelling : Path := ⟨"-1,-20,5", by decide⟩

def longSpelling : Path := ⟨"-1,-020,5", by decide⟩

theorem bin_closed_iff_shortSpelling :
    (knowing (binned shortSpelling)).hasRootAccess author = false ∧
      (knowing (binned shortSpelling)).entity? ⟨5, by decide⟩ = some (binned shortSpelling) ∧
      (knowing (binned shortSpelling)).mayEnter author shortSpelling.text = .ok false ∧
      ∀ required, ∃ c, (knowing (binned shortSpelling)).check ⟨5, by decide⟩ author required =
        .ok c ∧ c.isGranted = false := by
  have hroot : (knowing (binned shortSpelling)).hasRootAccess author = false := by decide
  have he : (knowing (binned shortSpelling)).entity? ⟨5, by decide⟩ =
      some (binned shortSpelling) := by decide
  have hclosed := bin_closed_iff hroot he
  exact ⟨hroot, he, hclosed.1.mpr (.inl (hclosed.2 (by decide) (by unfold Path.Plain; decide)))⟩

/-- The recycle bin is open to a user without root access through a path that spells
its id with a leading zero. -/
theorem bin_open_longSpelling :
    (knowing (binned longSpelling)).hasRootAccess author = false ∧
      (knowing (binned longSpelling)).entity? ⟨5, by decide⟩ = some (binned longSpelling) ∧
      (knowing (binned longSpelling)).reserved.contentBin ∈ longSpelling.ids ∧
      (knowing (binned longSpelling)).mayEnter author longSpelling.text = .ok true ∧
      (knowing (binned longSpelling)).check ⟨5, by decide⟩ author [] =
        .ok ⟨.granted, some (binned longSpelling)⟩ := by
  have he : (knowing (binned longSpelling)).entity? ⟨5, by decide⟩ =
      some (binned longSpelling) := by decide
  have hopens : (knowing (binned longSpelling)).Opens author longSpelling.text := by decide
  refine ⟨by decide, he, by decide, ?_, ?_⟩
  · rw [mayEnter_text, decide_eq_true hopens]
  · rw [check_of_entity (by decide) (by decide) he, if_pos ⟨hopens, by simp⟩]

end Realm

end Publishing.Access
