import Publishing.Proofs.Access.Check

/-!
# What is held in the recycle bin

The recycle bin hangs below the root, and the path of an entity in it says so:
`-1,-20,5`.  The bin itself is no entity, and the path that a check of it asks about is
its id alone.  The root is not on that path, so a set that a group has for the root
holds for the entities in the bin and not for the bin.

* `holds_single_iff`: what is held where an id is the whole path.
* `check_bin_iff_defaults`: of the groups only the defaults count in the bin, and when
  this comes to the same as at the root.
* `bin_denied_rootEditor`: a user who may do at the root what is denied in the bin.
-/

namespace Publishing.Access

variable {u : User} {node : NodeId} {permission : String}

/-- Where an id is the whole path, a group grants its set for that node, or else its
defaults. -/
theorem Group.along_single (g : Group) (node : NodeId) :
    g.along [node] = (g.granular[node]?).getD g.defaults :=
  g.along_append [] node

theorem holds_single_iff :
    u.Holds [node] permission ↔
      ∃ g ∈ u.groups, permission ∈ (g.granular[node]?).getD g.defaults := by
  simp only [User.Holds, Group.along_single]

theorem holds_single_of_no_set (h : ∀ g ∈ u.groups, g.granular[node]? = none) :
    u.Holds [node] permission ↔ ∃ g ∈ u.groups, permission ∈ g.defaults := by
  rw [holds_single_iff]
  refine exists_congr fun g => and_congr_right fun hg => ?_
  rw [h g hg, Option.getD_none]

namespace Realm

variable {r : Realm}

/-- With root access a system node is a matter of what is held where its id is the whole
path. -/
theorem check_of_rootAccess (hroot : r.hasRootAccess u = true) (hnode : r.Reserved node)
    (required : List String) :
    r.check node u required =
      .ok ⟨if ∀ permission ∈ required, u.Holds [node] permission then .granted else .denied,
        none⟩ := by
  simp [check_of_reserved hnode, hroot]

theorem check_granted_iff_holds (hroot : r.hasRootAccess u = true) (hnode : r.Reserved node)
    (required : List String) :
    r.check node u required = .ok ⟨.granted, none⟩ ↔
      ∀ permission ∈ required, u.Holds [node] permission := by
  rw [check_of_rootAccess hroot hnode, granted_iff, and_iff_left rfl]

theorem isGranted_ite {condition : Prop} [Decidable condition] {entity : Option Entity} :
    Check.isGranted ⟨if condition then .granted else .denied, entity⟩ = true ↔ condition := by
  rw [Check.isGranted, decide_eq_true_eq, ite_granted_iff]

/-- Two system nodes are alike for every list of permissions exactly if the same
permissions are held on them. -/
theorem check_eq_iff_holds {other : NodeId} (hroot : r.hasRootAccess u = true)
    (hnode : r.Reserved node) (hother : r.Reserved other) :
    (∀ required, r.check node u required = r.check other u required) ↔
      ∀ permission, u.Holds [node] permission ↔ u.Holds [other] permission := by
  constructor
  · intro hsame permission
    calc u.Holds [node] permission
        ↔ r.check node u [permission] = .ok ⟨.granted, none⟩ := by
          simp [check_granted_iff_holds hroot hnode]
      _ ↔ r.check other u [permission] = .ok ⟨.granted, none⟩ := by rw [hsame]
      _ ↔ u.Holds [other] permission := by simp [check_granted_iff_holds hroot hother]
  · intro hsame required
    simp only [check_of_rootAccess hroot hnode, check_of_rootAccess hroot hother, hsame]

/-- **The recycle bin does not inherit from the root.**  Let a user have root access, and
let no group have a set for the recycle bin.  Then the bin is granted exactly if every
required permission is among the defaults of some group, whatever sets there are for the
root; at the root these replace the defaults.  So the two checks agree on every list of
permissions exactly if the groups together hold the same at the root as by default, as
they do if none has a set for the root. -/
theorem check_bin_iff_defaults (hroot : r.hasRootAccess u = true)
    (hbin : ∀ g ∈ u.groups, g.granular[r.reserved.contentBin]? = none) :
    (∀ required, ∃ bin root,
      r.check r.reserved.contentBin u required = .ok bin ∧
      r.check r.reserved.root u required = .ok root ∧
      (bin.isGranted = true ↔
        ∀ permission ∈ required, ∃ g ∈ u.groups, permission ∈ g.defaults) ∧
      (root.isGranted = true ↔ ∀ permission ∈ required, ∃ g ∈ u.groups,
        permission ∈ (g.granular[r.reserved.root]?).getD g.defaults)) ∧
    ((∀ required,
        r.check r.reserved.contentBin u required = r.check r.reserved.root u required) ↔
      ∀ permission, (∃ g ∈ u.groups, permission ∈ g.defaults) ↔
        ∃ g ∈ u.groups, permission ∈ (g.granular[r.reserved.root]?).getD g.defaults) ∧
    ((∀ g ∈ u.groups, g.granular[r.reserved.root]? = none) → ∀ required,
      r.check r.reserved.contentBin u required = r.check r.reserved.root u required) := by
  have hagree : (∀ required,
      r.check r.reserved.contentBin u required = r.check r.reserved.root u required) ↔ _ :=
    check_eq_iff_holds hroot (.inr rfl) (.inl rfl)
  refine ⟨fun required => ?_, ?_, fun hnone => hagree.mpr fun permission => ?_⟩
  · refine ⟨_, _, check_of_rootAccess hroot (.inr rfl) required,
      check_of_rootAccess hroot (.inl rfl) required, ?_, ?_⟩
    · simp only [isGranted_ite, holds_single_of_no_set hbin]
    · simp only [isGranted_ite, holds_single_iff]
  · simp only [hagree, holds_single_of_no_set hbin, holds_single_iff]
  · rw [holds_single_of_no_set hbin, holds_single_of_no_set hnone]

/-! ### Sets for the root -/

/-- A service that knows no entity. -/
def nowhere : Realm where
  entity? _ := none

/-- A user who starts at the root. -/
def rootUser (groups : List Group) : User where
  id := Uuid.zero
  name := "ana"
  starts := [NodeId.root]
  groups := groups

def browsers : Group where
  name := "browsers"
  defaults := .ofList ["browse"]

/-- Two groups whose sets for the root are each other's defaults. -/
def crossed : List Group :=
  [browsers.withGranular NodeId.root (.ofList ["update"]),
    Group.withGranular { name := "updaters", defaults := .ofList ["update"] } NodeId.root
      (.ofList ["browse"])]

theorem check_bin_iff_defaults_crossed :
    nowhere.hasRootAccess (rootUser crossed) = true ∧
      (∀ g ∈ crossed, g.granular[NodeId.contentBin]? = none) ∧
      (∃ bin, nowhere.check NodeId.contentBin (rootUser crossed) ["browse", "update"] = .ok bin ∧
        bin.isGranted = true) ∧
      nowhere.hasRootAccess (rootUser [browsers]) = true ∧
      (∀ g ∈ [browsers], g.granular[NodeId.root]? = none) ∧
      ∀ required, nowhere.check NodeId.contentBin (rootUser [browsers]) required =
        nowhere.check NodeId.root (rootUser [browsers]) required := by
  have hcrossed : nowhere.hasRootAccess (rootUser crossed) = true := by decide
  have hbin : ∀ g ∈ crossed, g.granular[NodeId.contentBin]? = none := by decide
  have hbrowsers : nowhere.hasRootAccess (rootUser [browsers]) = true := by decide
  have hnone : ∀ g ∈ [browsers], g.granular[NodeId.root]? = none := by decide
  obtain ⟨hchecks, _⟩ := check_bin_iff_defaults hcrossed hbin
  obtain ⟨_, _, hagree⟩ := check_bin_iff_defaults hbrowsers (by decide)
  obtain ⟨bin, _, hcheck, _, hgranted, _⟩ := hchecks ["browse", "update"]
  exact ⟨hcrossed, hbin, ⟨bin, hcheck, hgranted.mpr (by decide)⟩, hbrowsers, hnone, hagree hnone⟩

/-- A group with a set for the root and no defaults. -/
def rootEditors : Group :=
  Group.withGranular { name := "editors" } NodeId.root (.ofList ["browse"])

/-- **What is granted at the root can be denied in the recycle bin**, to a user with root
access and without any set for the bin. -/
theorem bin_denied_rootEditor :
    nowhere.hasRootAccess (rootUser [rootEditors]) = true ∧
      (∀ g ∈ (rootUser [rootEditors]).groups, g.granular[NodeId.contentBin]? = none) ∧
      nowhere.check NodeId.root (rootUser [rootEditors]) ["browse"] = .ok ⟨.granted, none⟩ ∧
      nowhere.check NodeId.contentBin (rootUser [rootEditors]) ["browse"] =
        .ok ⟨.denied, none⟩ := by
  have hroot : nowhere.hasRootAccess (rootUser [rootEditors]) = true := by decide
  have hbin : nowhere.check NodeId.contentBin (rootUser [rootEditors]) ["browse"] = _ :=
    check_of_rootAccess hroot (.inr rfl) ["browse"]
  refine ⟨hroot, by decide, ?_, ?_⟩
  · exact (check_granted_iff_holds hroot (.inl rfl) ["browse"]).mpr (by decide)
  · rw [hbin, if_neg (by decide)]

end Realm

end Publishing.Access
