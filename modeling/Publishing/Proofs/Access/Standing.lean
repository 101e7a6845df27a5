import Publishing.Access.Standing
import Publishing.Proofs.Path

/-!
# What the text of a path decides

`mayEnter` and `standing` look at texts only.  Here their answers are put in
terms of the segments of those texts, for any text that is not blank and any
start nodes.

* `mayEnter_eq`: the root among the start nodes, or no segment that is the
  recycle bin and one that is a start node.
* `mayEnter_iff_wholeSegments`: the answer to any text at all, and that an id whose
  digits only occur inside a segment opens nothing and closes nothing.
* `standing_cases`: a start node, above one, below one, or neither.  `standing`
  looks for start nodes below a node before it looks for start nodes above it, so
  with nested start nodes the one below hides the one above.
* `standing_spec`: the same if no start path is the beginning of another.
-/

namespace Publishing.Access

open Text

variable {path : String} {root bin : NodeId}

/-- A path is open to start nodes that hold the root, or of which one is a segment of
the path while the recycle bin is none. -/
def Enters (path : String) (starts : List NodeId) (root bin : NodeId) : Prop :=
  root ∈ starts ∨
    (bin.text.toList ∉ segments path ∧ ∃ start ∈ starts, start.text.toList ∈ segments path)

instance (starts : List NodeId) : Decidable (Enters path starts root bin) :=
  inferInstanceAs (Decidable (_ ∨ _))

theorem mayEnter_eq (hpath : Text.isBlank path = false) (starts : List NodeId) :
    mayEnter path starts root bin = .ok (decide (Enters path starts root bin)) := by
  unfold mayEnter Enters
  rw [if_neg (by simp [hpath])]
  split
  · next hnone => simp_all
  split
  · next hroot => simp_all
  split
  · next hroot hbin => simp_all [holdsSegment_text_iff]
  · next hroot hbin =>
    congr 1
    rw [Bool.eq_iff_iff]
    simp_all [holdsSegment_text_iff]

/-! ## Entry -/

variable {starts : List NodeId}

theorem mayEnter_eq_emptyPath_iff :
    mayEnter path starts root bin = .error .emptyPath ↔ isBlank path = true := by
  cases hpath : isBlank path with
  | true => simp [mayEnter, hpath]
  | false => simp [mayEnter_eq hpath]

theorem mayEnter_eq_ok_iff {allowed : Bool} :
    mayEnter path starts root bin = .ok allowed ↔
      isBlank path = false ∧ (allowed = true ↔ Enters path starts root bin) := by
  cases hpath : isBlank path with
  | true => simp [mayEnter, hpath]
  | false =>
      rw [mayEnter_eq hpath, Except.ok.injEq, Bool.eq_iff_iff, decide_eq_true_eq]
      exact ⟨fun h => ⟨rfl, h.symm⟩, fun h => h.2.symm⟩

/-- What a text answers depends on which ids open it. -/
theorem mayEnter_congr {starts' : List NodeId} {bin' : NodeId}
    (h : Enters path starts root bin ↔ Enters path starts' root bin') :
    mayEnter path starts root bin = mayEnter path starts' root bin' := by
  cases hpath : isBlank path with
  | true => rw [mayEnter_eq_emptyPath_iff.mpr hpath, mayEnter_eq_emptyPath_iff.mpr hpath]
  | false => rw [mayEnter_eq hpath, mayEnter_eq hpath, decide_eq_decide.mpr h]

/-- A start node other than the root that is no whole segment opens nothing. -/
theorem enters_cons_iff_of_notMem {start : NodeId} (hroot : start ≠ root)
    (hmem : start.text.toList ∉ segments path) :
    Enters path (start :: starts) root bin ↔ Enters path starts root bin := by
  simp [Enters, hroot.symm, hmem]

/-- A recycle bin that is no whole segment closes nothing. -/
theorem enters_iff_of_notMem (hbin : bin.text.toList ∉ segments path) :
    Enters path starts root bin ↔
      root ∈ starts ∨ ∃ start ∈ starts, start.text.toList ∈ segments path := by
  rw [Enters, and_iff_right hbin]

/-- **Entry is decided by whole segments.**  A text is refused as empty exactly if it is
blank.  Any other text, path or not, is open exactly if the root is a start node, or if
the decimal text of the recycle bin is none of its segments and that of some start node
is one.  So an id that is found only inside a segment counts for nothing, be it of a
start node or of the recycle bin. -/
theorem mayEnter_iff_wholeSegments (path : String) (starts : List NodeId) (bin : NodeId) :
    (mayEnter path starts NodeId.root bin = .error .emptyPath ↔ isBlank path = true) ∧
    (∀ allowed, mayEnter path starts NodeId.root bin = .ok allowed ↔
      isBlank path = false ∧ (allowed = true ↔ NodeId.root ∈ starts ∨
        (bin.text.toList ∉ segments path ∧
          ∃ start ∈ starts, start.text.toList ∈ segments path))) ∧
    (∀ start, start ≠ NodeId.root → start.text.toList ∉ segments path →
      mayEnter path (start :: starts) NodeId.root bin =
        mayEnter path starts NodeId.root bin) ∧
    ∀ other : NodeId, bin.text.toList ∉ segments path → other.text.toList ∉ segments path →
      mayEnter path starts NodeId.root bin = mayEnter path starts NodeId.root other := by
  refine ⟨mayEnter_eq_emptyPath_iff, fun allowed => mayEnter_eq_ok_iff, ?_, ?_⟩
  · intro start hroot hmem
    exact mayEnter_congr (enters_cons_iff_of_notMem hroot hmem)
  · intro other hbin hother
    exact mayEnter_congr ((enters_iff_of_notMem hbin).trans (enters_iff_of_notMem hother).symm)

/-- In `-1,1090,1060` neither the start node 1 nor the recycle bin 90 is found, though
both stand in the text; the start node 1060 is. -/
theorem mayEnter_iff_wholeSegments_innerDigits :
    let path := "-1,1090,1060"
    let one : NodeId := ⟨1, by decide⟩
    let ninety : NodeId := ⟨90, by decide⟩
    let page : NodeId := ⟨1060, by decide⟩
    one ≠ NodeId.root ∧ one.text.toList ∉ segments path ∧ ninety.text.toList ∉ segments path ∧
      NodeId.contentBin.text.toList ∉ segments path ∧
      mayEnter path [one] NodeId.root ninety = mayEnter path [] NodeId.root ninety ∧
      mayEnter path [] NodeId.root ninety = .ok false ∧
      mayEnter path [page] NodeId.root ninety = mayEnter path [page] NodeId.root NodeId.contentBin ∧
      mayEnter path [page] NodeId.root ninety = .ok true := by
  intro path one ninety page
  have hone : one.text.toList ∉ segments path := by decide
  have hninety : ninety.text.toList ∉ segments path := by decide
  have hbin : NodeId.contentBin.text.toList ∉ segments path := by decide
  have hpage : page.text.toList ∈ segments path := by decide
  obtain ⟨_, hnobody, hopens, _⟩ := mayEnter_iff_wholeSegments path [] ninety
  obtain ⟨_, hopen, _, hcloses⟩ := mayEnter_iff_wholeSegments path [page] ninety
  refine ⟨by decide, hone, hninety, hbin, hopens one (by decide) hone, ?_,
    hcloses NodeId.contentBin hninety hbin, ?_⟩
  · exact (hnobody false).mpr ⟨by decide, by simp⟩
  · exact (hopen true).mpr ⟨by decide, by simp [hninety, hpage]⟩

/-! ## Standing -/

/-- No start path is the beginning of another one. -/
def Unnested (paths : List String) : Prop :=
  ∀ a ∈ paths, ∀ b ∈ paths, segments a <+: segments b → a = b

/-- Some start path is the beginning of a path, or the root is among the start nodes. -/
def Under (starts : StartNodes) (root : NodeId) (path : String) : Prop :=
  root ∈ starts.ids ∨ ∃ start ∈ starts.paths, segments start <+: segments path

/-- A path is the beginning of some start path. -/
def Over (starts : StartNodes) (path : String) : Prop :=
  ∃ start ∈ starts.paths, segments path <+: segments start

/-- Of unnested start paths, one that continues a path rules out that another one
begins it. -/
theorem not_under_of_over {starts : StartNodes} (hnested : Unnested starts.paths)
    (hroot : root ∉ starts.ids) (hself : path ∉ starts.paths) (hover : Over starts path) :
    ¬ Under starts root path := by
  obtain ⟨below, hbelow, hpath⟩ := hover
  rintro (h | ⟨above, habove, hle⟩)
  · exact hroot h
  · obtain rfl := hnested above habove below hbelow (hle.trans hpath)
    have heq : segments path = segments above :=
      hpath.eq_of_length (Nat.le_antisymm hpath.length_le hle.length_le)
    exact hself (segments_injective heq ▸ hbelow)

/-- Where a node stands is decided, and by whole segments.  To lie above a start node
counts before lying below one, and to be one counts before both. -/
theorem standing_cases (root : NodeId) {starts : StartNodes} (hpath : Text.isBlank path = false)
    (hempty : starts.ids = [] → starts.paths = []) :
    ∃ place, standing path starts root = .ok place ∧
      (place = .accessible ↔
        root ∈ starts.ids ∨ path ∈ starts.paths ∨ (¬ Over starts path ∧ Under starts root path)) ∧
      (place = .navigable ↔ root ∉ starts.ids ∧ path ∉ starts.paths ∧ Over starts path) := by
  unfold standing
  rw [if_neg (by simp [hpath])]
  split
  · next hnone => exact ⟨.outside, rfl, by simp_all [Under, Over]⟩
  split
  · next hroot => exact ⟨.accessible, rfl, by simp_all⟩
  have hroot : root ∉ starts.ids := by simp_all
  split
  · next hself => exact ⟨.accessible, rfl, by simp_all⟩
  have hself : path ∉ starts.paths := by simp_all
  split
  · next habove =>
    have hover : Over starts path := by simpa [Over, leads_iff_segments] using habove
    exact ⟨.navigable, rfl, by simp [hroot, hself, hover]⟩
  · next habove =>
    have hover : ¬ Over starts path := by simpa [Over, leads_iff_segments] using habove
    split
    · next hbelow =>
      have hunder : Under starts root path := .inr (by simpa [leads_iff_segments] using hbelow)
      exact ⟨.accessible, rfl, by simp [hover, hunder]⟩
    · next hbelow =>
      have hunder : ¬ Under starts root path := by
        simpa [Under, hroot, leads_iff_segments] using hbelow
      exact ⟨.outside, rfl, by simp [hroot, hself, hover, hunder]⟩

/-- Of unnested start nodes no two lie on either side of a node, so the order in which
`standing` looks for them does not matter. -/
theorem standing_spec (root : NodeId) {starts : StartNodes} (hpath : Text.isBlank path = false)
    (hempty : starts.ids = [] → starts.paths = []) (hnested : Unnested starts.paths) :
    ∃ place, standing path starts root = .ok place ∧
      (place = .accessible ↔ Under starts root path) ∧
      (place = .navigable ↔ ¬ Under starts root path ∧ Over starts path) := by
  obtain ⟨place, hplace, haccessible, hnavigable⟩ := standing_cases root hpath hempty
  have hself : path ∈ starts.paths → Under starts root path := fun hself =>
    .inr ⟨path, hself, List.prefix_refl _⟩
  refine ⟨place, hplace, ?_, ?_⟩
  · rw [haccessible]
    constructor
    · rintro (hroot | hpath | ⟨_, hunder⟩)
      · exact .inl hroot
      · exact hself hpath
      · exact hunder
    · intro hunder
      by_cases hroot : root ∈ starts.ids
      · exact .inl hroot
      by_cases hpath : path ∈ starts.paths
      · exact .inr (.inl hpath)
      · exact .inr (.inr
          ⟨fun hover => not_under_of_over hnested hroot hpath hover hunder, hunder⟩)
  · rw [hnavigable]
    constructor
    · rintro ⟨hroot, hpath, hover⟩
      exact ⟨not_under_of_over hnested hroot hpath hover, hover⟩
    · rintro ⟨hunder, hover⟩
      exact ⟨fun hroot => hunder (.inl hroot), fun hpath => hunder (hself hpath), hover⟩

end Publishing.Access
