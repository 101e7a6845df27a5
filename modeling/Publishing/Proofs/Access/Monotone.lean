import Publishing.Proofs.Access.Walk

/-!
# Granting more takes nothing away

A user who is given another group or another start node keeps what there was
before.  For permissions this is plain, since a user holds what some group
grants.  For start nodes it is not: one more start node may drop others that lie
below it, and it may be found above a node where `standing` would have found
another one below.

* `User.Within`: the second user has all start nodes and groups of the first.
* `Covers.mono`, `Overlooks.mono` and `Reaches.mono`: said of the tree, nothing is
  taken away, since all known start nodes count there, dropped or not.
* `Rooted.exists_standing` and `Rooted.opens_iff` carry this over to what is decided
  on texts, and `access_mono` is the result.
-/

namespace Publishing.Access

/-! ## Users who are given more -/

/-- The second user has every start node and every group of the first. -/
structure User.Within (u u' : User) : Prop where
  starts : u.starts ⊆ u'.starts
  groups : u.groups ⊆ u'.groups

namespace User

variable {u u' : User}

/-- A user is given a start node. -/
theorem within_addStart (u : User) (id : NodeId) :
    u.Within { u with starts := u.starts ++ [id] } :=
  ⟨List.subset_append_left _ _, List.Subset.refl _⟩

/-- A user is given a group, with whatever start node and permissions it has. -/
theorem within_addGroup (u : User) (g : Group) : u.Within { u with groups := u.groups ++ [g] } :=
  ⟨List.Subset.refl _, List.subset_append_left _ _⟩

theorem Within.startsAt (h : u.Within u') {id : NodeId} (hid : u.StartsAt id) :
    u'.StartsAt id := by
  rcases hid with hown | ⟨g, hg, hstart⟩
  · exact .inl (h.starts hown)
  · exact .inr ⟨g, h.groups hg, hstart⟩

theorem Within.holds (h : u.Within u') {path : List NodeId} {permission : String}
    (hheld : u.Holds path permission) : u'.Holds path permission := by
  obtain ⟨g, hg, hgrants⟩ := hheld
  exact ⟨g, h.groups hg, hgrants⟩

end User

namespace EntityStore

variable {s : EntityStore} {reserved : ReservedIds} {u u' : User} {n : NodeId} {p : Path}

/-! ## Start nodes in the tree -/

theorem KnownStart.mono (h : u.Within u') {id : NodeId} (hknown : s.KnownStart u id) :
    s.KnownStart u' id :=
  ⟨h.startsAt hknown.1, hknown.2⟩

theorem Covers.mono (h : u.Within u') (hcovers : s.Covers reserved u n) :
    s.Covers reserved u' n := by
  rcases hcovers with hroot | ⟨start, hknown, hle⟩
  · exact .inl (h.startsAt hroot)
  · exact .inr ⟨start, hknown.mono h, hle⟩

theorem Overlooks.mono (h : u.Within u') (hover : s.Overlooks u n) : s.Overlooks u' n := by
  obtain ⟨start, hknown, habove⟩ := hover
  exact ⟨start, hknown.mono h, habove⟩

theorem Reaches.mono (h : u.Within u') (hreaches : s.Reaches reserved u n) :
    s.Reaches reserved u' n := by
  rcases hreaches with hroot | ⟨hbin, start, hknown, hle⟩
  · exact .inl (h.startsAt hroot)
  · exact .inr ⟨hbin, start, hknown.mono h, hle⟩

namespace Rooted

/-! ## Decisions on texts -/

/-- Every node of the tree has a place, by what covers and overlooks it. -/
theorem exists_standing (h : s.Rooted) (reserved : ReservedIds) (u : User) (hn : s.NodeAt n p) :
    ∃ place, (s.realm reserved).standing u p.text = .ok place ∧
      (place = .accessible ↔ s.Covers reserved u n) ∧
      (place = .navigable ↔ ¬ s.Covers reserved u n ∧ s.Overlooks u n) := by
  obtain ⟨place, hplace, haccessible, hnavigable⟩ := standing_spec reserved.root
    p.isBlank_text startNodes_paths_eq_nil (h.unnested_startNodes (u := u))
  rw [← realm_startNodes s reserved] at haccessible hnavigable
  rw [h.under_iff hn] at haccessible hnavigable
  rw [and_congr_right fun hcovers => h.over_iff hn hcovers] at hnavigable
  exact ⟨place, hplace, haccessible, hnavigable⟩

theorem exists_rank_le (h : s.Rooted) (reserved : ReservedIds) (hw : u.Within u')
    (hn : s.NodeAt n p) :
    ∃ place place', (s.realm reserved).standing u p.text = .ok place ∧
      (s.realm reserved).standing u' p.text = .ok place' ∧ place.rank ≤ place'.rank := by
  obtain ⟨place, hplace, haccessible, hnavigable⟩ := h.exists_standing reserved u hn
  obtain ⟨place', hplace', haccessible', hnavigable'⟩ := h.exists_standing reserved u' hn
  refine ⟨place, place', hplace, hplace', ?_⟩
  cases place with
  | outside => exact Nat.zero_le _
  | navigable =>
      have hover : s.Overlooks u' n := (hnavigable.mp rfl).2.mono hw
      by_cases hcovers : s.Covers reserved u' n
      · obtain rfl := haccessible'.mpr hcovers
        decide
      · obtain rfl := hnavigable'.mpr ⟨hcovers, hover⟩
        exact Nat.le_refl _
  | accessible =>
      have hcovers : s.Covers reserved u' n := (haccessible.mp rfl).mono hw
      obtain rfl := haccessible'.mpr hcovers
      exact Nat.le_refl _

theorem opens_mono (h : s.Rooted) (hw : u.Within u') (hn : s.NodeAt n p)
    (hopens : (s.realm reserved).Opens u p.text) : (s.realm reserved).Opens u' p.text := by
  rw [h.opens_iff hn] at hopens ⊢
  exact hopens.mono hw

theorem hasRootAccess_mono (h : s.Rooted) (hw : u.Within u')
    (hroot : (s.realm reserved).hasRootAccess u = true) :
    (s.realm reserved).hasRootAccess u' = true := by
  simp only [Realm.hasRootAccess, realm_startNodes, List.contains_iff_mem] at hroot ⊢
  have hstart : u.StartsAt reserved.root := h.root_mem_startNodes_iff.mp hroot
  exact h.root_mem_startNodes_iff.mpr (hw.startsAt hstart)

/-- **Granted stays granted**, on the system nodes as on entities. -/
theorem check_granted_mono (h : s.Rooted) (hw : u.Within u') {required : List String}
    {entity : Option Entity}
    (hgranted : (s.realm reserved).check n u required = .ok ⟨.granted, entity⟩) :
    (s.realm reserved).check n u' required = .ok ⟨.granted, entity⟩ := by
  by_cases hsystem : n = reserved.root ∨ n = reserved.contentBin
  · rw [Realm.check_of_reserved hsystem, Realm.granted_iff] at hgranted
    obtain ⟨⟨hroot, hheld⟩, hnone⟩ := hgranted
    rw [Realm.check_of_reserved hsystem, Realm.granted_iff]
    exact ⟨⟨h.hasRootAccess_mono hw hroot, fun permission hp => hw.holds (hheld permission hp)⟩,
      hnone⟩
  · rw [not_or] at hsystem
    cases hfound : s.find? n with
    | none =>
        rw [Realm.check_of_unknown hsystem.1 hsystem.2 hfound] at hgranted
        cases hgranted
    | some e =>
        have hnode : s.NodeAt n e.path := h.nodeAt_of_find? hfound
        rw [Realm.check_of_entity hsystem.1 hsystem.2 hfound, Realm.granted_iff] at hgranted
        obtain ⟨⟨hopens, hheld⟩, hsome⟩ := hgranted
        rw [Realm.check_of_entity hsystem.1 hsystem.2 hfound, Realm.granted_iff]
        exact ⟨⟨h.opens_mono hw hnode hopens, fun permission hp => hw.holds (hheld permission hp)⟩,
          hsome⟩

end Rooted

/-- **Granting more takes nothing away.**  In a tree grown by insertions of distinct ids,
let a user be given more start nodes or groups.  Then every node keeps its place or
gets a better one, and what could be entered still can; along any path all
permissions are kept; and a check that was granted still is, whatever the node and
whatever is required. -/
theorem access_mono {history : List Insertion} (h : Orderly history) (reserved : ReservedIds)
    (hw : u.Within u') :
    (∀ n p, (grown history).NodeAt n p →
      (∃ place place', ((grown history).realm reserved).standing u p.text = .ok place ∧
        ((grown history).realm reserved).standing u' p.text = .ok place' ∧
        place.rank ≤ place'.rank) ∧
      (((grown history).realm reserved).mayEnter u p.text = .ok true →
        ((grown history).realm reserved).mayEnter u' p.text = .ok true)) ∧
    (∀ p : Path, ∃ held held', permissionsAt u p.text = .ok held ∧
      permissionsAt u' p.text = .ok held' ∧ held.node = held'.node ∧
      ∀ permission ∈ held.held, permission ∈ held'.held) ∧
    ∀ n required entity,
      ((grown history).realm reserved).check n u required = .ok ⟨.granted, entity⟩ →
        ((grown history).realm reserved).check n u' required = .ok ⟨.granted, entity⟩ := by
  have hrooted := rooted_grown h
  refine ⟨fun n p hn => ⟨hrooted.exists_rank_le reserved hw hn, ?_⟩, fun p => ?_, ?_⟩
  · intro henter
    rw [Realm.mayEnter_text] at henter ⊢
    have hopens : ((grown history).realm reserved).Opens u p.text := by simpa using henter
    rw [decide_eq_true (hrooted.opens_mono hw hn hopens)]
  · refine ⟨_, _, permissionsAt_text u p, permissionsAt_text u' p, rfl, ?_⟩
    intro permission hheld
    rw [mem_grantedAlong] at hheld ⊢
    exact hw.holds hheld
  · intro n required entity
    exact hrooted.check_granted_mono hw

/-- The translator is given the home page to start at, or becomes an editor.  In the first
case the page about it is no start node any more, since it lies below; it stays open in
both. -/
theorem access_mono_translator :
    Orderly smallSite ∧
      translator.Within { translator with starts := translator.starts ++ [homeId] } ∧
      translator.Within { translator with groups := translator.groups ++ [editors] } ∧
      ((grown smallSite).realm {}).check aboutId translator [] =
        .ok ⟨.granted, some aboutPage⟩ ∧
      ((grown smallSite).realm {}).check aboutId
          { translator with starts := translator.starts ++ [homeId] } [] =
        .ok ⟨.granted, some aboutPage⟩ ∧
      ((grown smallSite).realm {}).check aboutId
          { translator with groups := translator.groups ++ [editors] } [] =
        .ok ⟨.granted, some aboutPage⟩ := by
  have hstart := translator.within_addStart homeId
  have hgroup := translator.within_addGroup editors
  have hopens : ((grown smallSite).realm {}).Opens translator aboutPage.path.text := by decide
  have hgranted : ((grown smallSite).realm {}).check aboutId translator [] =
      .ok ⟨.granted, some aboutPage⟩ := by
    rw [Realm.check_of_entity (by decide) (by decide) find?_aboutId, if_pos ⟨hopens, by simp⟩]
  exact ⟨orderly_smallSite, hstart, hgroup, hgranted,
    (access_mono orderly_smallSite {} hstart).2.2 aboutId [] _ hgranted,
    (access_mono orderly_smallSite {} hgroup).2.2 aboutId [] _ hgranted⟩

end EntityStore

end Publishing.Access
