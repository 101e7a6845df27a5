import Publishing.Proofs.Access.Walk

/-!
# Order and repetition do not matter

Start nodes come from two lists, the user's own and that of the groups, and what is
granted along a path is gathered from group to group.  Neither the order of these lists
nor a repetition in them is seen in any answer, and nor is it seen where a start node
comes from or what a group is called.

* `User.Alike` is what two users have to have in common.
* `Alike.startNodes_eq`: start nodes are looked up from one set, and this is the same for
  both.
* `Alike.grantedAlong_eq`: what some group grants is granted, whichever group it is.
* `Alike.judge_eq` and `access_eq_of_alike`: all else is decided from these two.  What is
  required is looked for piece by piece, so its order does not matter either.
-/

namespace Publishing.Access

/-- What a group adds to the permissions of its members, whatever its name and its start
node. -/
def Group.grants (g : Group) : PermissionSet × Std.ExtTreeMap NodeId PermissionSet :=
  (g.defaults, g.granular)

/-- Two users start at the same nodes, by themselves or by their groups, and are granted
the same by their groups, in whatever order and however often. -/
structure User.Alike (u u' : User) : Prop where
  starts : ∀ id, u.StartsAt id ↔ u'.StartsAt id
  grants : ∀ grant, grant ∈ u.groups.map Group.grants ↔ grant ∈ u'.groups.map Group.grants

/-- What a group grants along a path is in its sets alone. -/
theorem Group.along_eq_of_grants {g g' : Group} (h : g.grants = g'.grants)
    (path : List NodeId) : g.along path = g'.along path := by
  obtain ⟨hdefaults, hgranular⟩ := Prod.mk.inj h
  rw [along, along, hdefaults, hgranular]

namespace User.Alike

variable {u u' : User}

theorem symm (h : u.Alike u') : u'.Alike u :=
  ⟨fun id => (h.starts id).symm, fun grant => (h.grants grant).symm⟩

/-! ## Start nodes -/

theorem allStarts_eq (h : u.Alike u') : u.allStarts = u'.allStarts := by
  apply Std.ExtTreeSet.ext_mem
  intro id
  rw [mem_allStarts, mem_allStarts]
  exact h.starts id

/-- Whatever entities there are and whichever node is the root, the same start nodes
remain, in the same order. -/
theorem startNodes_eq (h : u.Alike u') (entity? : NodeId → Option Entity) (root : NodeId) :
    startNodes entity? u root = startNodes entity? u' root := by
  unfold startNodes
  rw [h.allStarts_eq]

/-! ## Permissions -/

theorem holds (h : u.Alike u') {path : List NodeId} {permission : String}
    (hheld : u.Holds path permission) : u'.Holds path permission := by
  obtain ⟨g, hg, hmem⟩ := hheld
  -- some group of the other user has the same sets, under whatever name
  obtain ⟨g', hg', hsame⟩ := List.mem_map.mp ((h.grants g.grants).mp (List.mem_map_of_mem hg))
  exact ⟨g', hg', by rwa [Group.along_eq_of_grants hsame]⟩

theorem grantedAlong_eq (h : u.Alike u') (path : List NodeId) :
    grantedAlong u path = grantedAlong u' path := by
  apply Std.ExtTreeSet.ext_mem
  intro permission
  rw [mem_grantedAlong, mem_grantedAlong]
  exact ⟨h.holds, h.symm.holds⟩

theorem permissionsAt_eq (h : u.Alike u') (path : String) :
    permissionsAt u path = permissionsAt u' path := by
  unfold permissionsAt
  simp only [h.grantedAlong_eq]

end User.Alike

/-! ## Requirements -/

section

variable {required required' : List String} (hsame : ∀ p, p ∈ required ↔ p ∈ required')

include hsame

theorem NodePermissions.containsAll_congr (held : NodePermissions) :
    held.containsAll required = held.containsAll required' := by
  rw [Bool.eq_iff_iff, containsAll_iff, containsAll_iff]
  simp only [hsame]

theorem isEmpty_congr : required.isEmpty = required'.isEmpty := by
  rw [Bool.eq_iff_iff, List.isEmpty_iff, List.isEmpty_iff, List.eq_nil_iff_forall_not_mem,
    List.eq_nil_iff_forall_not_mem]
  simp only [hsame]

theorem User.Alike.judge_eq {u u' : User} (h : u.Alike u') (path : String)
    (entity : Option Entity) (enters : Bool) :
    Realm.judge u path required entity enters = Realm.judge u' path required' entity enters := by
  unfold Realm.judge
  rw [h.permissionsAt_eq, isEmpty_congr hsame]
  simp only [NodePermissions.containsAll_congr hsame]

end

namespace Realm

variable {u u' : User}

/-- **Order and repetition do not matter.**  Let two users start at the same nodes, by
themselves or by their groups, and let their groups grant the same.  Then whatever is
asked about them is answered alike: start nodes, access to the root and to the recycle
bin, and for any text whether it may be entered, where it stands and what is held there.
A check of any node comes to the same for both, and it does not matter in which order and
how often a permission is required. -/
theorem access_eq_of_alike (r : Realm) (h : u.Alike u') :
    (∀ root, Access.startNodes r.entity? u root = Access.startNodes r.entity? u' root) ∧
    r.startNodes u = r.startNodes u' ∧
    r.hasRootAccess u = r.hasRootAccess u' ∧
    r.hasBinAccess u = r.hasBinAccess u' ∧
    (∀ path, r.mayEnter u path = r.mayEnter u' path ∧
      r.standing u path = r.standing u' path ∧ permissionsAt u path = permissionsAt u' path) ∧
    ∀ node required required', (∀ p, p ∈ required ↔ p ∈ required') →
      r.check node u required = r.check node u' required' := by
  have hstarts : r.startNodes u = r.startNodes u' := h.startNodes_eq r.entity? r.reserved.root
  have hroot : r.hasRootAccess u = r.hasRootAccess u' := by
    rw [hasRootAccess, hasRootAccess, hstarts]
  have henter : ∀ path, r.mayEnter u path = r.mayEnter u' path := fun path => by
    rw [mayEnter, mayEnter, hstarts]
  have hbin : r.hasBinAccess u = r.hasBinAccess u' := by
    rw [hasBinAccess, hasBinAccess, henter]
  refine ⟨h.startNodes_eq r.entity?, hstarts, hroot, hbin, fun path => ⟨henter path, ?_,
    h.permissionsAt_eq path⟩, ?_⟩
  · rw [standing, standing, hstarts]
  · intro node required required' hsame
    have hjudge : ∀ path entity, judge u path required entity =
        judge u' path required' entity := fun path entity =>
      funext fun enters => h.judge_eq hsame path entity enters
    unfold check
    simp only [hroot, hbin, henter, hjudge]

open EntityStore in
/-- A user with the start nodes and permissions of the editor.  Here the page is a start
node of the user's own, twice, and the home page is that of one of two groups, both of
which grant what the editors are granted. -/
def namesake : User where
  id := Uuid.zero
  name := "eva"
  starts := [aboutId, aboutId]
  groups := [{ editors with name := "desk", start := some homeId },
    { editors with name := "night desk", start := none }]

open EntityStore in
theorem alike_namesake : editor.Alike namesake where
  starts id := by
    simp [User.StartsAt, editor, editors, namesake, Group.withGranular, or_comm, eq_comm]
  grants grant := by
    simp [editor, editors, namesake, Group.grants, Group.withGranular]

open EntityStore in
/-- What the editor may do on the page the namesake may do, and it can be required twice. -/
theorem access_eq_of_alike_namesake :
    editor.Alike namesake ∧ (∀ p, p ∈ ["update"] ↔ p ∈ ["update", "update"]) ∧
      ((grown smallSite).realm {}).check aboutId editor ["update"] =
        .ok ⟨.granted, some aboutPage⟩ ∧
      ((grown smallSite).realm {}).check aboutId namesake ["update", "update"] =
        .ok ⟨.granted, some aboutPage⟩ := by
  have hsame : ∀ p, p ∈ ["update"] ↔ p ∈ ["update", "update"] := by simp
  have hrooted := rooted_grown orderly_smallSite
  have hnode := hrooted.nodeAt_of_find? find?_aboutId
  have hbin : ¬ (grown smallSite).AtOrAbove NodeId.contentBin aboutId := by
    rw [← hrooted.mem_ids_iff hnode]
    decide
  have hopens : ((grown smallSite).realm {}).Opens editor aboutPage.path.text :=
    (hrooted.opens_iff hnode).mpr
      (.inr ⟨hbin, homeId, ⟨.inl (by decide), by decide⟩, .single stepUp_aboutId⟩)
  have hheld : ∀ permission ∈ ["update"], editor.Holds aboutPage.path.ids permission := by decide
  have hgranted : ((grown smallSite).realm {}).check aboutId editor ["update"] =
      .ok ⟨.granted, some aboutPage⟩ := by
    rw [check_of_entity (by decide) (by decide) find?_aboutId, if_pos ⟨hopens, hheld⟩]
  obtain ⟨_, _, _, _, _, hcheck⟩ :=
    access_eq_of_alike ((grown smallSite).realm {}) alike_namesake
  exact ⟨alike_namesake, hsame, hgranted,
    (hcheck aboutId _ _ hsame).symm.trans hgranted⟩

end Realm

end Publishing.Access
