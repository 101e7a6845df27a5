import Mathlib.Data.List.Nodup
import Publishing.Proofs.Access.Walk
import Publishing.Proofs.Path.Building

/-!
# The paths of stored entities

The text of a path is all that later decisions look at.  It is put together once, when
an entity is stored, from the text of the parent's path; the links to parents are never
followed.  In a store grown by insertions of distinct ids the texts have followed the
links from the beginning, and so they can stand for them.

* `TextAt`: the text that a parent passes on to what is stored below it.
* `Rooted.exists_textAt` and `Rooted.ids_nodup`: the text of an entity is that of its
  parent with its own id behind it, and no id is on it twice.
* `Rooted.leads_iff` and `Rooted.path_eq_iff`: the texts tell who is an ancestor of
  whom, and they tell entities apart.
* `paths_follow_parents` puts this together.
-/

namespace Publishing.Access.EntityStore

open Text

/-- The text of the path of a node: of the root and of the recycle bin, which are not
stored, and of every stored entity. -/
inductive TextAt (s : EntityStore) : NodeId → String → Prop
  | root : TextAt s NodeId.root "-1"
  | contentBin : TextAt s NodeId.contentBin "-1,-20"
  | stored {id : NodeId} {e : Entity} (he : s.find? id = some e) : TextAt s id e.path.text

variable {s : EntityStore} {id a b : NodeId} {p : Path} {d e : Entity}

/-! ## The parent's text -/

/-- What the store holds to be the path of a node is its path. -/
theorem NodeAt.textAt (h : s.NodeAt id p) : s.TextAt id p.text := by
  unfold NodeAt parentPath? at h
  split at h
  · next hroot =>
    obtain rfl := Option.some.inj h
    rw [hroot]
    exact .root
  split at h
  · next hbin =>
    obtain rfl := Option.some.inj h
    rw [hbin]
    exact .contentBin
  · obtain ⟨e, he, rfl⟩ := Option.map_eq_some_iff.mp h
    exact .stored he

/-- A node without a path is no parent. -/
theorem parentPath?_of_not_textAt (h : ∀ text, ¬ s.TextAt id text) : s.parentPath? id = none := by
  rw [Option.eq_none_iff_forall_ne_some]
  intro p hp
  exact h p.text (NodeAt.textAt hp)

theorem grown_append_singleton (history : List Insertion) (i : Insertion) :
    grown (history ++ [i]) = (grown history).apply i := by
  rw [grown, List.foldl_append]
  rfl

/-- An insertion under an unknown parent has no answer and changes nothing. -/
theorem insert?_of_not_textAt {i : Insertion} (h : ∀ text, ¬ s.TextAt i.parent text) :
    s.insert? i.parent i.id i.key i.name = none ∧ s.apply i = s := by
  have hnone : s.insert? i.parent i.id i.key i.name = none := by
    rw [insert?, parentPath?_of_not_textAt h, Option.map_none]
  refine ⟨hnone, ?_⟩
  rw [apply, hnone]

namespace Rooted

/-- An insertion under a known parent is answered with an entity, which is found from
then on. -/
theorem insert?_of_textAt (h : s.Rooted) {i : Insertion} {above : String}
    (habove : s.TextAt i.parent above) :
    ∃ e, s.insert? i.parent i.id i.key i.name = some (e, s.apply i) ∧
      (s.apply i).find? i.id = some e ∧ e.parent = i.parent ∧ e.name = i.name := by
  obtain ⟨p, hp⟩ : ∃ p, s.parentPath? i.parent = some p := by
    generalize i.parent = parent at habove
    cases habove with
    | root => exact ⟨Path.root, by simp [parentPath?]⟩
    | contentBin => exact ⟨Path.root.child NodeId.contentBin, by simp [parentPath?]⟩
    | stored he => exact ⟨_, h.nodeAt_of_find? he⟩
  let e : Entity := ⟨i.id, i.key, i.name, i.parent, p.child i.id⟩
  have hinsert : s.insert? i.parent i.id i.key i.name = some (e, s.put e) := by
    rw [insert?, hp, Option.map_some]
  have happly : s.apply i = s.put e := by rw [EntityStore.apply, hinsert]
  refine ⟨e, by rw [hinsert, happly], ?_, rfl, rfl⟩
  rw [happly, find?_put, if_pos rfl]

theorem exists_textAt (h : s.Rooted) (he : s.find? id = some e) :
    ∃ above, s.TextAt e.parent above ∧ e.path.text = above ++ "," ++ id.text := by
  obtain ⟨above, habove, hpath⟩ := h.path_eq he
  refine ⟨above.text, habove.textAt, ?_⟩
  rw [hpath, Path.text_child]

/-! ## Ids on a path -/

/-- **No id is on a path twice.**  One that came back further down would be its own
ancestor. -/
theorem ids_nodup (h : s.Rooted) (hn : s.NodeAt id p) : p.ids.Nodup := by
  refine h.induct (motive := fun _ p => p.ids.Nodup) ?_ ?_ hn
  · simp
  · intro id parent above hstep habove ih
    have hnew : id ∉ above.ids := by
      intro hmem
      have hup : s.AtOrAbove id parent := (h.mem_ids_iff habove).mp hmem
      exact h.not_above_self (h.nodeAt_child hstep habove) (.head' hstep hup)
    rw [Path.ids_child]
    exact ih.append (List.nodup_singleton id) (by simpa using hnew)

/-! ## Paths and links -/

theorem leads_iff (h : s.Rooted) (hd : s.find? a = some d) (he : s.find? b = some e) :
    leads d.path.text e.path.text = true ↔ s.AtOrAbove a b := by
  rw [leads_iff_segments]
  exact h.segments_prefix_iff (h.nodeAt_of_find? hd) (h.nodeAt_of_find? he)

theorem path_eq_iff (h : s.Rooted) (hd : s.find? a = some d) (he : s.find? b = some e) :
    d.path = e.path ↔ a = b := by
  constructor
  · intro hpath
    have ha : s.NodeAt a e.path := hpath ▸ h.nodeAt_of_find? hd
    exact Layout.unique (t := h.layout) ha (h.nodeAt_of_find? he)
  · rintro rfl
    rw [Option.some.inj (hd.symm.trans he)]

end Rooted

/-! ## The main result -/

/-- **Paths follow parents.**  In a store grown by insertions of distinct ids, an insertion
under an unknown parent has no answer and changes nothing, one under a known parent stores
its answer, and every entity has the text of its parent's path with its own id behind it,
the root and the recycle bin having `-1` and `-1,-20`.  So no id is on a path twice; one
path leads another exactly if its entity is the other one or an ancestor of it by the links
to parents; and no two entities have the same path. -/
theorem paths_follow_parents {history : List Insertion} (h : Orderly history) :
    (∀ i : Insertion, (∀ text, ¬ (grown history).TextAt i.parent text) →
      (grown history).insert? i.parent i.id i.key i.name = none ∧
        grown (history ++ [i]) = grown history) ∧
    (∀ (i : Insertion) above, (grown history).TextAt i.parent above →
      ∃ e, (grown history).insert? i.parent i.id i.key i.name =
          some (e, grown (history ++ [i])) ∧
        (grown (history ++ [i])).find? i.id = some e ∧ e.parent = i.parent ∧ e.name = i.name) ∧
    (∀ id e, (grown history).find? id = some e →
      e.id = id ∧ e.path.ids.Nodup ∧
        ∃ above, (grown history).TextAt e.parent above ∧
          e.path.text = above ++ "," ++ id.text) ∧
    ∀ a b d e, (grown history).find? a = some d → (grown history).find? b = some e →
      (leads d.path.text e.path.text = true ↔ (grown history).AtOrAbove a b) ∧
        (d.path = e.path ↔ a = b) := by
  have hrooted := rooted_grown h
  refine ⟨?_, ?_, ?_, ?_⟩
  · intro i hunknown
    rw [grown_append_singleton]
    exact insert?_of_not_textAt hunknown
  · intro i above habove
    rw [grown_append_singleton]
    exact hrooted.insert?_of_textAt habove
  · intro id e he
    have hn : (grown history).NodeAt id e.path := hrooted.nodeAt_of_find? he
    exact ⟨id_of_find? he, hrooted.ids_nodup hn, hrooted.exists_textAt he⟩
  · intro a b d e hd he
    exact ⟨hrooted.leads_iff hd he, hrooted.path_eq_iff hd he⟩

def noticeId : NodeId := ⟨606, by decide⟩

/-- The small tree with a notice in the recycle bin, and a page that was to be stored
under the notice before that was there. -/
def tidySite : List Insertion :=
  smallSite ++ [⟨noticeId, ⟨7, by decide⟩, Uuid.zero, "orphan"⟩,
    ⟨NodeId.contentBin, noticeId, Uuid.zero, "notice"⟩]

def homePage : Entity :=
  ⟨homeId, Uuid.zero, "home", NodeId.root, homePath⟩

def notice : Entity :=
  ⟨noticeId, Uuid.zero, "notice", NodeId.contentBin,
    (Path.root.child NodeId.contentBin).child noticeId⟩

/-- The home page leads the page about it, and is its ancestor.  It does not lead the
notice, though its id is the beginning of the notice's. -/
theorem paths_follow_parents_tidySite :
    Orderly tidySite ∧ (grown tidySite).find? homeId = some homePage ∧
      (grown tidySite).find? aboutId = some aboutPage ∧
      (grown tidySite).find? noticeId = some notice ∧
      (grown tidySite).find? ⟨7, by decide⟩ = none ∧
      notice.path.ids.Nodup ∧ notice.path.text = "-1,-20,606" ∧
      (grown tidySite).AtOrAbove homeId aboutId ∧
      ¬ (grown tidySite).AtOrAbove homeId noticeId ∧ homePage.path ≠ notice.path := by
  have horderly : Orderly tidySite := ⟨by decide, by decide⟩
  have hhome : (grown tidySite).find? homeId = some homePage := by decide
  have habout : (grown tidySite).find? aboutId = some aboutPage := by decide
  have hnotice : (grown tidySite).find? noticeId = some notice := by decide
  obtain ⟨_, _, hstored, hpairs⟩ := paths_follow_parents horderly
  obtain ⟨hpage, _⟩ := hpairs homeId aboutId homePage aboutPage hhome habout
  obtain ⟨hother, hsame⟩ := hpairs homeId noticeId homePage notice hhome hnotice
  refine ⟨horderly, hhome, habout, hnotice, by decide, (hstored _ _ hnotice).2.1, by decide,
    hpage.mp (by decide), ?_, ?_⟩
  · rw [← hother]
    decide
  · rw [ne_eq, hsame]
    decide

end Publishing.Access.EntityStore
