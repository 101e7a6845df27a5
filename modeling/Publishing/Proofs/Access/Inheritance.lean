import Publishing.Proofs.Access.Walk

/-!
# Permissions are inherited down a path, group by group

What a user holds on the node at a path is found by searching the whole path anew, for
each group from its end.  This file says what the search comes to one step further down,
whatever the path is: its ids may be repeated, spelt with a plus sign or with leading
zeros.

* `Group.along_child`: a group's own set for the new node replaces what the group
  granted above; without one the group grants what it granted above.
* `grantedAlong_child`: where no group has a set of its own, nothing changes.
* `permissionsAt_of_no_path`: nobody holds anything on a text that is no path.
-/

namespace Publishing.Access

variable {u : User} {p : Path} {c : NodeId}

/-! ## One step down -/

theorem Group.along_child (g : Group) (p : Path) (c : NodeId) :
    g.along (p.child c).ids = (g.granular[c]?).getD (g.along p.ids) := by
  rw [Path.ids_child, Group.along_append]

theorem permissionsAt_child (u : User) (p : Path) (c : NodeId) :
    permissionsAt u (p.child c).text = .ok ⟨c, grantedAlong u (p.child c).ids⟩ := by
  rw [permissionsAt_text, Path.id_child]

theorem mem_grantedAlong_child {permission : String} :
    permission ∈ grantedAlong u (p.child c).ids ↔
      ∃ g ∈ u.groups, permission ∈ (g.granular[c]?).getD (g.along p.ids) := by
  simp only [mem_grantedAlong, User.Holds, Group.along_child]

/-- A node for which no group has a set of its own takes over what is held above it. -/
theorem grantedAlong_child (h : ∀ g ∈ u.groups, g.granular[c]? = none) :
    grantedAlong u (p.child c).ids = grantedAlong u p.ids := by
  apply Std.ExtTreeSet.ext_mem
  intro permission
  rw [mem_grantedAlong_child, mem_grantedAlong]
  constructor
  · rintro ⟨g, hg, hmem⟩
    rw [h g hg] at hmem
    exact ⟨g, hg, hmem⟩
  · rintro ⟨g, hg, hmem⟩
    refine ⟨g, hg, ?_⟩
    rwa [h g hg]

/-! ## Texts that are no path -/

theorem permissionsAt_of_no_path {text : String} (h : ∀ p : Path, p.text ≠ text) (u : User) :
    ∃ cause, Path.parse text = .error cause ∧
      permissionsAt u text =
        .error (if Text.isBlank text then .emptyPath else .invalidPath cause) := by
  cases hparse : Path.parse text with
  | ok p => exact absurd (Path.parse_eq_ok_iff.mp hparse) (h p)
  | error cause =>
      refine ⟨cause, rfl, ?_⟩
      unfold permissionsAt
      split <;> simp [*]

/-- **Permissions are inherited group by group.**  One step down any path the question
for permissions succeeds.  Of each group the user holds there the group's own set for the
node, in place of all that the group granted above, or else what it granted above; so
where no group has a set of its own, exactly what is held above is held.  On a text that
is no path the question fails for every user, by whether the text is blank. -/
theorem permissionsAt_inherited (u : User) :
    (∀ (p : Path) (c : NodeId), ∃ held above,
      permissionsAt u (p.child c).text = .ok ⟨c, held⟩ ∧
      permissionsAt u p.text = .ok ⟨p.id, above⟩ ∧
      (∀ permission, permission ∈ held ↔
        ∃ g ∈ u.groups, permission ∈ (g.granular[c]?).getD (g.along p.ids)) ∧
      ((∀ g ∈ u.groups, g.granular[c]? = none) → held = above) ∧
      ∀ g ∈ u.groups, ∀ own, g.granular[c]? = some own → g.along (p.child c).ids = own) ∧
    ∀ text, (∀ p : Path, p.text ≠ text) → ∃ cause, Path.parse text = .error cause ∧
      permissionsAt u text =
        .error (if Text.isBlank text then .emptyPath else .invalidPath cause) := by
  refine ⟨fun p c => ?_, fun text h => permissionsAt_of_no_path h u⟩
  refine ⟨_, _, permissionsAt_child u p c, permissionsAt_text u p,
    fun permission => mem_grantedAlong_child, grantedAlong_child, ?_⟩
  intro g _ own hown
  rw [Group.along_child, hown, Option.getD_some]

open EntityStore in
/-- The page about the home page takes over the set that the editors have for the home
page, where it replaces their defaults.  Of `-1,x` nobody can say what they hold. -/
theorem permissionsAt_inherited_editor :
    editors.granular[homeId]? = some (.ofList ["update"]) ∧
      (∀ g ∈ editor.groups, g.granular[aboutId]? = none) ∧ (∀ p : Path, p.text ≠ "-1,x") ∧
      editors.along homePath.ids = .ofList ["update"] ∧
      (∃ held, permissionsAt editor (homePath.child aboutId).text = .ok ⟨aboutId, held⟩ ∧
        permissionsAt editor homePath.text = .ok ⟨homeId, held⟩ ∧
        "update" ∈ held ∧ "browse" ∉ held) ∧
      ∃ cause, permissionsAt editor "-1,x" = .error (.invalidPath cause) := by
  obtain ⟨hchild, htext⟩ := permissionsAt_inherited editor
  have hown : editors.granular[homeId]? = some (.ofList ["update"]) := by decide
  have hnone : ∀ g ∈ editor.groups, g.granular[aboutId]? = none := by decide
  have hbad : ∀ p : Path, p.text ≠ "-1,x" := by
    intro p hp
    have hvalid := p.valid ['x'] (by rw [hp]; decide)
    exact absurd hvalid (by decide)
  have halong : editors.along homePath.ids = .ofList ["update"] := by
    obtain ⟨_, _, _, _, _, _, hreplace⟩ := hchild Path.root homeId
    exact hreplace editors (by decide) _ hown
  refine ⟨hown, hnone, hbad, halong, ?_, ?_⟩
  · obtain ⟨held, above, hheld, habove, hmem, hsame, _⟩ := hchild homePath aboutId
    obtain rfl := hsame hnone
    exact ⟨held, hheld, habove, (hmem _).mpr (by decide), mt (hmem _).mp (by decide)⟩
  · obtain ⟨cause, _, herror⟩ := htext "-1,x" hbad
    rw [if_neg (by decide)] at herror
    exact ⟨cause, herror⟩

end Publishing.Access
