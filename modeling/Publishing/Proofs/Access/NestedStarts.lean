import Publishing.Proofs.Access.StartNodes
import Publishing.Proofs.Access.Walk

/-!
# Nested start nodes

`mayEnter` and `standing` both tell whether a node may be entered, the one from the
ids of the start nodes and the other from their paths.  The start nodes of a user
are unnested, but either function can be asked about any start nodes, some of which
may lie below others.  Then the two can disagree: `standing` shows a node for
navigation only if a start node lies below it, even where another one above it
lets `mayEnter` open it.

* `Between` is the one place where this happens: below a start node and above
  another, without being one.
* `accessible_iff_mayEnter`: everywhere else off the recycle bin the two agree, in
  any tree laid out by paths.
* `page_between_starts`: a page on which they disagree.
-/

namespace Publishing

/-- Nodes other than the root, with the paths that a tree gives them. -/
def Layout.StartsFrom (t : Layout) (starts : List (NodeId × Path)) : Prop :=
  ∀ start ∈ starts, t.path? start.1 = some start.2 ∧ start.1 ≠ NodeId.root

namespace Access

open Text

/-- Start nodes as they are handed over: their ids, and their paths in the same order. -/
def StartNodes.ofNodes (starts : List (NodeId × Path)) : StartNodes :=
  ⟨starts.map Prod.fst, starts.map fun start => start.2.text⟩

/-- A node at a path is a start node or lies below one. -/
def AtOrBelow (starts : List (NodeId × Path)) (p : Path) : Prop :=
  ∃ start ∈ starts, start.1 ∈ p.ids

/-- A node is no start node, but has one above it and another below it. -/
def Between (starts : List (NodeId × Path)) (n : NodeId) (p : Path) : Prop :=
  n ∉ starts.map Prod.fst ∧ AtOrBelow starts p ∧ ∃ start ∈ starts, n ∈ start.2.ids

/-- No start node lies below another one. -/
def NoneNested (starts : List (NodeId × Path)) : Prop :=
  ∀ a ∈ starts, ∀ b ∈ starts, a.1 ∈ b.2.ids → a.1 = b.1

section

variable {t : Layout} {starts : List (NodeId × Path)} {n bin : NodeId} {p : Path}

theorem root_notMem_ofNodes (hstarts : t.StartsFrom starts) :
    NodeId.root ∉ (StartNodes.ofNodes starts).ids := by
  intro hroot
  obtain ⟨start, hmem, heq⟩ := List.mem_map.mp hroot
  exact (hstarts start hmem).2 heq

/-! ## Texts and nodes

What `mayEnter` and `standing` look for in texts is, in a tree, a matter of nodes. -/

theorem mem_ofNodes_paths_iff (hstarts : t.StartsFrom starts) (hn : t.path? n = some p) :
    p.text ∈ (StartNodes.ofNodes starts).paths ↔ n ∈ starts.map Prod.fst := by
  simp only [StartNodes.ofNodes, List.mem_map]
  refine exists_congr fun start => and_congr_right fun hmem => ?_
  have hstart := (hstarts start hmem).1
  constructor
  · intro htext
    rw [Path.ext htext] at hstart
    exact Layout.unique hstart hn
  · intro hid
    rw [hid] at hstart
    rw [Option.some.inj (hstart.symm.trans hn)]

theorem under_ofNodes_iff (hstarts : t.StartsFrom starts) (hn : t.path? n = some p) :
    Under (.ofNodes starts) NodeId.root p.text ↔ AtOrBelow starts p := by
  unfold Under AtOrBelow
  rw [or_iff_right (root_notMem_ofNodes hstarts)]
  simp only [StartNodes.ofNodes, List.mem_map, exists_exists_and_eq_and]
  exact exists_congr fun start => and_congr_right fun hmem =>
    Layout.segments_prefix_iff (hstarts start hmem).1 hn

theorem over_ofNodes_iff (hstarts : t.StartsFrom starts) (hn : t.path? n = some p) :
    Over (.ofNodes starts) p.text ↔ ∃ start ∈ starts, n ∈ start.2.ids := by
  simp only [Over, StartNodes.ofNodes, List.mem_map, exists_exists_and_eq_and]
  exact exists_congr fun start => and_congr_right fun hmem =>
    Layout.segments_prefix_iff hn (hstarts start hmem).1

theorem enters_ofNodes_iff (hstarts : t.StartsFrom starts) (hn : t.path? n = some p)
    (hbin : bin ∉ p.ids) :
    Enters p.text (starts.map Prod.fst) NodeId.root bin ↔ AtOrBelow starts p := by
  have hplain := Layout.plain hn
  have hroot : NodeId.root ∉ starts.map Prod.fst := root_notMem_ofNodes hstarts
  unfold Enters AtOrBelow
  rw [or_iff_right hroot]
  simp [hplain.mem_segments_iff, hbin]

/-! ## Where the two agree -/

theorem atOrBelow_of_mem (hn : t.path? n = some p) (hmem : n ∈ starts.map Prod.fst) :
    AtOrBelow starts p := by
  obtain ⟨start, hstart, heq⟩ := List.mem_map.mp hmem
  exact ⟨start, hstart, heq ▸ Layout.self_mem_ids hn⟩

/-- Start nodes that are not nested have no node between them. -/
theorem not_between_of_noneNested (hstarts : t.StartsFrom starts) (hn : t.path? n = some p)
    (hnested : NoneNested starts) : ¬ Between starts n p := by
  rintro ⟨hself, ⟨above, habove, hmem⟩, below, hbelow, hmem'⟩
  have hpath := (hstarts above habove).1
  have hpath' := (hstarts below hbelow).1
  have hle : above.2.ids <+: p.ids := (Layout.prefix_iff hpath hn).mpr hmem
  have hle' : p.ids <+: below.2.ids := (Layout.prefix_iff hn hpath').mpr hmem'
  have hsame : above.1 = below.1 :=
    hnested above habove below hbelow ((Layout.prefix_iff hpath hpath').mp (hle.trans hle'))
  rw [← hsame, hpath] at hpath'
  rw [← Option.some.inj hpath'] at hle'
  have hids : p.ids = above.2.ids :=
    hle'.eq_of_length (Nat.le_antisymm hle'.length_le hle.length_le)
  have hlast := Layout.getLast?_ids hn
  rw [hids, Layout.getLast?_ids hpath] at hlast
  exact hself (List.mem_map.mpr ⟨above, habove, Option.some.inj hlast⟩)

/-- **Accessible is what may be entered, but for nodes between start nodes.**  In a
tree laid out by paths, off the recycle bin, a node may be entered exactly at or
below a start node.  There it also stands as accessible, unless it lies between
two start nodes: then it is shown for navigation only.  If the start nodes are
not nested, no node lies between them. -/
theorem accessible_iff_mayEnter (t : Layout) (hstarts : t.StartsFrom starts)
    (hn : t.path? n = some p) (hbin : bin ∉ p.ids) :
    ∃ place allowed, standing p.text (.ofNodes starts) NodeId.root = .ok place ∧
      mayEnter p.text (starts.map Prod.fst) NodeId.root bin = .ok allowed ∧
      (allowed = true ↔ AtOrBelow starts p) ∧
      (place = .accessible ↔ allowed = true ∧ ¬ Between starts n p) ∧
      (Between starts n p → place = .navigable ∧ allowed = true) ∧
      (NoneNested starts → ¬ Between starts n p) := by
  have hempty : (StartNodes.ofNodes starts).ids = [] → (StartNodes.ofNodes starts).paths = [] := by
    simp [StartNodes.ofNodes]
  obtain ⟨place, hplace, haccessible, hnavigable⟩ :=
    standing_cases NodeId.root p.isBlank_text hempty
  have hroot := root_notMem_ofNodes hstarts
  rw [or_iff_right hroot, mem_ofNodes_paths_iff hstarts hn, over_ofNodes_iff hstarts hn,
    under_ofNodes_iff hstarts hn] at haccessible
  rw [and_iff_right hroot, mem_ofNodes_paths_iff hstarts hn, over_ofNodes_iff hstarts hn]
    at hnavigable
  refine ⟨place, _, hplace, mayEnter_eq p.isBlank_text _, ?_, ?_, ?_,
    not_between_of_noneNested hstarts hn⟩
  · rw [decide_eq_true_iff, enters_ofNodes_iff hstarts hn hbin]
  · rw [decide_eq_true_iff, enters_ofNodes_iff hstarts hn hbin, haccessible, Between]
    constructor
    · rintro (hmem | ⟨hover, hunder⟩)
      · exact ⟨atOrBelow_of_mem hn hmem, fun hbetween => hbetween.1 hmem⟩
      · exact ⟨hunder, fun hbetween => hover hbetween.2.2⟩
    · rintro ⟨hunder, hbetween⟩
      by_cases hmem : n ∈ starts.map Prod.fst
      · exact .inl hmem
      · exact .inr ⟨fun hover => hbetween ⟨hmem, hunder, hover⟩, hunder⟩
  · rintro ⟨hmem, hunder, hover⟩
    rw [decide_eq_true_iff, enters_ofNodes_iff hstarts hn hbin]
    exact ⟨hnavigable.mpr ⟨hmem, hover⟩, hunder⟩

end

/-! ## A page between two start nodes -/

open EntityStore (smallSite homeId aboutId homePath)

def teamId : NodeId := ⟨600, by decide⟩

/-- The small site with a page below the page about it. -/
def deepSite : List Insertion :=
  smallSite ++ [⟨aboutId, teamId, Uuid.zero, "team"⟩]

def aboutPath : Path := homePath.child aboutId

theorem orderly_deepSite : Orderly deepSite := ⟨by decide, by decide⟩

/-- The home page and the team page, of which the second lies below the first. -/
def homeAndTeam : List (NodeId × Path) :=
  [(homeId, homePath), (teamId, aboutPath.child teamId)]

/-- The paths of the deep site. -/
def deepLayout : Layout := (EntityStore.rooted_grown orderly_deepSite).layout

theorem startsFrom_homeAndTeam : deepLayout.StartsFrom homeAndTeam := by
  have hhome : deepLayout.path? homeId = some homePath ∧ homeId ≠ NodeId.root := by decide
  have hteam : deepLayout.path? teamId = some (aboutPath.child teamId) ∧
      teamId ≠ NodeId.root := by decide
  simpa [Layout.StartsFrom, homeAndTeam] using ⟨hhome, hteam⟩

/-- The team page is a start node itself, so it does not matter that the home page is
one as well. -/
theorem accessible_iff_mayEnter_teamPage :
    deepLayout.StartsFrom homeAndTeam ∧
      deepLayout.path? teamId = some (aboutPath.child teamId) ∧
      NodeId.contentBin ∉ (aboutPath.child teamId).ids ∧
      standing (aboutPath.child teamId).text (.ofNodes homeAndTeam) NodeId.root =
        .ok .accessible ∧
      mayEnter (aboutPath.child teamId).text (homeAndTeam.map Prod.fst) NodeId.root
        NodeId.contentBin = .ok true := by
  have hteam : deepLayout.path? teamId = some (aboutPath.child teamId) := by decide
  have hbin : NodeId.contentBin ∉ (aboutPath.child teamId).ids := by decide
  have hbelow : AtOrBelow homeAndTeam (aboutPath.child teamId) :=
    ⟨(homeId, homePath), by decide, by decide⟩
  have hself : ¬ Between homeAndTeam teamId (aboutPath.child teamId) := fun hbetween =>
    hbetween.1 (by decide)
  obtain ⟨place, allowed, hplace, henter, hallowed, haccessible, _⟩ :=
    accessible_iff_mayEnter deepLayout startsFrom_homeAndTeam hteam hbin
  obtain rfl := hallowed.mpr hbelow
  obtain rfl := haccessible.mpr ⟨rfl, hself⟩
  exact ⟨startsFrom_homeAndTeam, hteam, hbin, hplace, henter⟩

/-- The page about the site lies below the home page, and so it may be entered.  But
the team page lies below it, so it stands there for navigation only. -/
theorem page_between_starts :
    deepLayout.StartsFrom homeAndTeam ∧ deepLayout.path? aboutId = some aboutPath ∧
      NodeId.contentBin ∉ aboutPath.ids ∧
      standing aboutPath.text (.ofNodes homeAndTeam) NodeId.root = .ok .navigable ∧
      mayEnter aboutPath.text (homeAndTeam.map Prod.fst) NodeId.root NodeId.contentBin =
        .ok true := by
  refine ⟨startsFrom_homeAndTeam, by decide, by decide, by rfl, ?_⟩
  have henters : Enters aboutPath.text (homeAndTeam.map Prod.fst) NodeId.root
      NodeId.contentBin := by decide
  rw [mayEnter_eq aboutPath.isBlank_text, decide_eq_true henters]

end Access

end Publishing
