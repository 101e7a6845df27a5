import Publishing.Proofs.Access.Permissions
import Publishing.Proofs.Access.StartNodes

/-!
# Deciding access from texts is walking the tree

All access decisions are made on the texts of paths.  This file says what they
decide in terms of the tree alone, as somebody would who follows parent links:

* `Reaches`: a start node at or above the node, and the recycle bin not;
* `Group.Grants`: the set of the nearest node at or above it that has one;
* `Covers`, `Overlooks`: a start node at or above the node, or below it.

`check_iff_walk` is the check of a node, `standing_iff_ancestry` the place of a
node relative to start nodes.  Both hold of every store grown by insertions of
distinct ids, whatever the reserved ids and the user.
-/

namespace Publishing.Access

/-- The set that a group grants on a node, as a walk up the tree finds it: the set
of the first node that has one, or the defaults past the root. -/
inductive Group.Grants (g : Group) (s : EntityStore) : NodeId → PermissionSet → Prop
  | own {id set} : g.granular[id]? = some set → Grants g s id set
  | inherited {id parent set} : g.granular[id]? = none → s.StepUp id parent →
      Grants g s parent set → Grants g s id set
  | defaults {id} : g.granular[id]? = none → s.parent? id = none → Grants g s id g.defaults

theorem Group.Grants.unique {g : Group} {s : EntityStore} {id : NodeId} {a b : PermissionSet}
    (ha : g.Grants s id a) (hb : g.Grants s id b) : a = b := by
  induction ha with
  | own hown =>
      cases hb with
      | own hown' => exact Option.some.inj (hown.symm.trans hown')
      | inherited hnone _ _ | defaults hnone _ => simp [hown] at hnone
  | inherited hnone hstep _ ih =>
      cases hb with
      | own hown => simp [hnone] at hown
      | inherited _ hstep' hb =>
          obtain rfl := Option.some.inj (hstep.symm.trans hstep')
          exact ih hb
      | defaults _ htop => simp [EntityStore.StepUp, htop] at hstep
  | defaults hnone htop =>
      cases hb with
      | own hown => simp [hnone] at hown
      | inherited _ hstep _ => simp [EntityStore.StepUp, htop] at hstep
      | defaults _ _ => rfl

namespace EntityStore

variable (s : EntityStore) (reserved : ReservedIds) (u : User)

/-- The user has root access, or a known start node at or above a node. -/
def Covers (n : NodeId) : Prop :=
  u.StartsAt reserved.root ∨ ∃ start, s.KnownStart u start ∧ s.AtOrAbove start n

/-- A node is an ancestor of a known start node. -/
def Overlooks (n : NodeId) : Prop :=
  ∃ start, s.KnownStart u start ∧ s.Above n start

/-- The user has root access, or reaches a node outside the recycle bin from a known
start node. -/
def Reaches (n : NodeId) : Prop :=
  u.StartsAt reserved.root ∨
    (¬ s.AtOrAbove reserved.contentBin n ∧ ∃ start, s.KnownStart u start ∧ s.AtOrAbove start n)

/-- Some group of the user grants a permission on a node. -/
def Allows (n : NodeId) (permission : String) : Prop :=
  ∃ g ∈ u.groups, ∃ set, g.Grants s n set ∧ permission ∈ set

variable {s reserved u} {n : NodeId} {p : Path} {e : Entity}

namespace Rooted

/-! ## Permissions -/

theorem grants_along (h : s.Rooted) (hn : s.NodeAt n p) (g : Group) :
    g.Grants s n (g.along p.ids) := by
  refine h.induct (motive := fun n p => g.Grants s n (g.along p.ids)) ?_ ?_ hn
  · cases hown : g.granular[NodeId.root]? with
    | some set => simpa [Group.along, hown] using Group.Grants.own hown
    | none => simpa [Group.along, hown] using Group.Grants.defaults hown (by simp [parent?])
  · intro id parent above hstep _ ih
    rw [Path.ids_child, Group.along_append]
    cases hown : g.granular[id]? with
    | some set => exact .own hown
    | none => exact .inherited hown hstep ih

theorem allows_iff (h : s.Rooted) (hn : s.NodeAt n p) {permission : String} :
    s.Allows u n permission ↔ u.Holds p.ids permission := by
  constructor
  · rintro ⟨g, hg, set, hset, hmem⟩
    obtain rfl := hset.unique (h.grants_along hn g)
    exact ⟨g, hg, hmem⟩
  · rintro ⟨g, hg, hmem⟩
    exact ⟨g, hg, _, h.grants_along hn g, hmem⟩

/-! ## Start nodes -/

/-- Start nodes that remain serve the same nodes as all known ones. -/
theorem exists_startNode_iff (h : s.Rooted) (hn : s.NodeAt n p) :
    (∃ start, s.TopStart u start ∧ s.AtOrAbove start n) ↔
      ∃ start, s.KnownStart u start ∧ s.AtOrAbove start n :=
  ⟨fun ⟨start, htop, hle⟩ => ⟨start, htop.1, hle⟩, h.exists_topStart hn⟩

theorem opens_iff (h : s.Rooted) (hn : s.NodeAt n p) :
    (s.realm reserved).Opens u p.text ↔ s.Reaches reserved u n := by
  unfold Realm.Opens Enters Reaches
  by_cases hroot : u.StartsAt reserved.root
  · have hmem : reserved.root ∈ ((s.realm reserved).startNodes u).ids := by
      rw [realm_startNodes, startNodes_of_startsAt hroot]
      exact List.mem_singleton_self _
    exact ⟨fun _ => .inl hroot, fun _ => .inl hmem⟩
  · have hids : ∀ id, id ∈ ((s.realm reserved).startNodes u).ids ↔ s.TopStart u id := fun id =>
      h.mem_startNodes_ids hroot
    have hmem : ¬ s.TopStart u reserved.root := fun htop => hroot htop.1.1
    rw [← h.exists_startNode_iff hn]
    simp only [hids, (h.plain hn).mem_segments_iff, h.mem_ids_iff hn, hroot, false_or]
    exact or_iff_right hmem

theorem under_iff (h : s.Rooted) (hn : s.NodeAt n p) :
    Under ((s.realm reserved).startNodes u) reserved.root p.text ↔ s.Covers reserved u n := by
  unfold Under Covers
  rw [realm_startNodes]
  by_cases hroot : u.StartsAt reserved.root
  · simp [startNodes_of_startsAt hroot, hroot]
  · have hmem : reserved.root ∉ (startNodes s.find? u reserved.root).ids := fun hmem =>
      hroot ((h.mem_startNodes_ids hroot).mp hmem).1.1
    rw [or_iff_right hmem, or_iff_right hroot, ← h.exists_startNode_iff hn]
    constructor
    · rintro ⟨text, htext, hle⟩
      obtain ⟨start, q, htop, hq, rfl⟩ := (h.mem_startNodes_paths hroot).mp htext
      exact ⟨start, htop, (h.segments_prefix_iff hq hn).mp hle⟩
    · rintro ⟨start, htop, hle⟩
      obtain ⟨q, hq⟩ := h.exists_nodeAt htop.1
      exact ⟨q.text, (h.mem_startNodes_paths hroot).mpr ⟨start, q, htop, hq, rfl⟩,
        (h.segments_prefix_iff hq hn).mpr hle⟩

theorem over_iff (h : s.Rooted) (hn : s.NodeAt n p) (hcovers : ¬ s.Covers reserved u n) :
    Over ((s.realm reserved).startNodes u) p.text ↔ s.Overlooks u n := by
  have hroot : ¬ u.StartsAt reserved.root := fun hroot => hcovers (.inl hroot)
  rw [realm_startNodes]
  constructor
  · rintro ⟨text, htext, hle⟩
    obtain ⟨start, q, htop, hq, rfl⟩ := (h.mem_startNodes_paths hroot).mp htext
    refine ⟨start, htop.1, (h.above_iff hq).mpr ⟨(h.segments_prefix_iff hn hq).mp hle, ?_⟩⟩
    rintro rfl
    exact hcovers (.inr ⟨n, htop.1, .refl⟩)
  · rintro ⟨start, hknown, habove⟩
    obtain ⟨q, hq⟩ := h.exists_nodeAt hknown
    -- the start node may be dropped, but then one at or above it remains
    obtain ⟨top, htop, hle⟩ := h.exists_topStart hq ⟨start, hknown, .refl⟩
    obtain ⟨o, ho⟩ := h.exists_nodeAt htop.1
    refine ⟨o.text, (h.mem_startNodes_paths hroot).mpr ⟨top, o, htop, ho, rfl⟩,
      (h.segments_prefix_iff hn ho).mpr ?_⟩
    exact (h.atOrAbove_total hn ho hq habove.to_reflTransGen hle).resolve_right
      fun hbelow => hcovers (.inr ⟨top, htop.1, hbelow⟩)

end Rooted

/-! ## A small tree

The home page of a site and a page about it, whose ids are read in one another's
text; an editor who starts at the first and, through a group, at the second. -/

def homeId : NodeId := ⟨6, by decide⟩

def aboutId : NodeId := ⟨60, by decide⟩

def smallSite : List Insertion :=
  [⟨NodeId.root, homeId, Uuid.zero, "home"⟩, ⟨homeId, aboutId, Uuid.zero, "about"⟩]

def homePath : Path := Path.root.child homeId

def aboutPage : Entity := ⟨aboutId, Uuid.zero, "about", homeId, homePath.child aboutId⟩

def editors : Group :=
  Group.withGranular { name := "editors", start := some aboutId, defaults := .ofList ["browse"] }
    homeId (.ofList ["update"])

def editor : User where
  id := Uuid.zero
  name := "ana"
  starts := [homeId]
  groups := [editors]

def translator : User where
  id := Uuid.zero
  name := "ben"
  starts := [aboutId]

theorem orderly_smallSite : Orderly smallSite := ⟨by decide, by decide⟩

theorem find?_aboutId : (grown smallSite).find? aboutId = some aboutPage := by decide

theorem nodeAt_homeId : (grown smallSite).NodeAt homeId homePath := by
  unfold NodeAt
  decide

theorem stepUp_aboutId : (grown smallSite).StepUp aboutId homeId := by
  unfold StepUp
  decide

/-! ## The check of a node -/

/-- **A check is a walk.**  In a tree grown by insertions of distinct ids, a node
that is not reserved is granted exactly when the user reaches it and is allowed
all that is required, going by parent links alone; otherwise it is denied. -/
theorem check_iff_walk {history : List Insertion} (h : Orderly history) (reserved : ReservedIds)
    (u : User) (required : List String) (hn : (grown history).find? n = some e)
    (hroot : n ≠ reserved.root) (hbin : n ≠ reserved.contentBin) :
    (((grown history).realm reserved).check n u required = .ok ⟨.granted, some e⟩ ↔
      (grown history).Reaches reserved u n ∧
        ∀ permission ∈ required, (grown history).Allows u n permission) ∧
    (((grown history).realm reserved).check n u required = .ok ⟨.denied, some e⟩ ↔
      ¬ ((grown history).Reaches reserved u n ∧
        ∀ permission ∈ required, (grown history).Allows u n permission)) := by
  have hrooted := rooted_grown h
  have hnode := hrooted.nodeAt_of_find? hn
  rw [Realm.check_of_entity hroot hbin hn]
  rw [← hrooted.opens_iff hnode]
  simp only [hrooted.allows_iff hnode]
  split
  · next hgranted => simpa using hgranted
  · next hdenied => simpa using hdenied

/-- The editor may update the page, by the group's set on the home page above it. -/
theorem check_iff_walk_smallSite :
    Orderly smallSite ∧ (grown smallSite).find? aboutId = some aboutPage ∧
      aboutId ≠ NodeId.root ∧ aboutId ≠ NodeId.contentBin ∧
      ((grown smallSite).realm {}).check aboutId editor ["update"] =
        .ok ⟨.granted, some aboutPage⟩ := by
  have hrooted := rooted_grown orderly_smallSite
  have hbin : ¬ (grown smallSite).AtOrAbove NodeId.contentBin aboutId := by
    rw [← hrooted.mem_ids_iff (hrooted.nodeAt_of_find? find?_aboutId)]
    decide
  have hreaches : (grown smallSite).Reaches {} editor aboutId :=
    .inr ⟨hbin, homeId, ⟨.inl (by decide), by decide⟩, .single stepUp_aboutId⟩
  have hallows : (grown smallSite).Allows editor aboutId "update" :=
    ⟨editors, by decide, .ofList ["update"],
      .inherited (by decide) stepUp_aboutId (.own (by decide)), by decide⟩
  refine ⟨orderly_smallSite, find?_aboutId, by decide, by decide, ?_⟩
  exact (check_iff_walk orderly_smallSite {} editor ["update"] find?_aboutId
    (by decide) (by decide)).1.mpr ⟨hreaches, by simpa using hallows⟩

/-! ## The place of a node -/

/-- **A place is a matter of ancestry.**  In a tree grown by insertions of distinct
ids, every node is accessible exactly below root access or a known start node, and
navigable exactly if it is not and lies above one.  Off the recycle bin, being
accessible is being allowed to enter. -/
theorem standing_iff_ancestry {history : List Insertion} (h : Orderly history)
    (reserved : ReservedIds) (u : User) (hn : (grown history).NodeAt n p) :
    ∃ place, ((grown history).realm reserved).standing u p.text = .ok place ∧
      (place = .accessible ↔ (grown history).Covers reserved u n) ∧
      (place = .navigable ↔
        ¬ (grown history).Covers reserved u n ∧ (grown history).Overlooks u n) ∧
      (place = .outside ↔
        ¬ (grown history).Covers reserved u n ∧ ¬ (grown history).Overlooks u n) ∧
      (reserved.contentBin ∉ p.ids →
        ((grown history).realm reserved).mayEnter u p.text = .ok place.isAccessible) := by
  have hrooted := rooted_grown h
  obtain ⟨place, hplace, haccessible, hnavigable⟩ := standing_spec reserved.root
    p.isBlank_text startNodes_paths_eq_nil (hrooted.unnested_startNodes (u := u))
  rw [← realm_startNodes (grown history) reserved, hrooted.under_iff hn] at haccessible hnavigable
  rw [and_congr_right fun hcovers => hrooted.over_iff hn hcovers] at hnavigable
  refine ⟨place, hplace, haccessible, hnavigable, ?_, ?_⟩
  · have hrest : place = .outside ↔ ¬ place = .accessible ∧ ¬ place = .navigable := by
      cases place <;> simp
    rw [hrest, haccessible, hnavigable]
    exact and_congr_right fun hcovers => by rw [and_iff_right hcovers]
  · intro hbin
    have hopens : ((grown history).realm reserved).Opens u p.text ↔ place = .accessible := by
      rw [hrooted.opens_iff hn, haccessible, Reaches, Covers, ← hrooted.mem_ids_iff hn,
        and_iff_right hbin]
    have haccess : place.isAccessible = decide (place = .accessible) := by cases place <;> rfl
    rw [Realm.mayEnter_text, haccess, decide_eq_decide.mpr hopens]

/-- To the translator, who starts below it, the home page is there for navigation. -/
theorem standing_iff_ancestry_smallSite :
    Orderly smallSite ∧ (grown smallSite).NodeAt homeId homePath ∧
      NodeId.contentBin ∉ homePath.ids ∧
      ((grown smallSite).realm {}).standing translator homePath.text = .ok .navigable ∧
      ((grown smallSite).realm {}).mayEnter translator homePath.text = .ok false := by
  have hstarts : ∀ id, translator.StartsAt id → id = aboutId := by
    simp [User.StartsAt, translator]
  have hcovers : ¬ (grown smallSite).Covers {} translator homeId := by
    rintro (hroot | ⟨start, hknown, hle⟩)
    · exact absurd (hstarts _ hroot) (by decide)
    · rw [hstarts _ hknown.1, ← (rooted_grown orderly_smallSite).mem_ids_iff nodeAt_homeId] at hle
      exact absurd hle (by decide)
  have hoverlooks : (grown smallSite).Overlooks translator homeId :=
    ⟨aboutId, ⟨.inl (by decide), by decide⟩, .single stepUp_aboutId⟩
  have hbin : NodeId.contentBin ∉ homePath.ids := by decide
  obtain ⟨place, hplace, _, hnavigable, _, henter⟩ :=
    standing_iff_ancestry orderly_smallSite {} translator nodeAt_homeId
  obtain rfl := hnavigable.mpr ⟨hcovers, hoverlooks⟩
  exact ⟨orderly_smallSite, nodeAt_homeId, hbin, hplace, henter hbin⟩

end EntityStore

end Publishing.Access
