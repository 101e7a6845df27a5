import Publishing.Proofs.History
import Publishing.Proofs.Path
import Publishing.Proofs.Tree

/-!
# Trees grown node by node

A tree grows by placing drafts, each under the root or under a node that is there
already.  As long as no id is used twice, nothing that stands is ever replaced, so
the path of every node remains the path of its parent with one more id.

* `Grown`: the trees that come about in this way, with preview switched on or off
  at any time.
* `grown_grownBy`: the tree that a history of requests leaves behind has grown, if no id
  is used twice.
* `Placed` says where a node stands; `Grown.placed` that every stored node does.
* `Grown.acyclic`: there are no cycles, since levels fall with every step up.
* `Grown.length_lineage_lt`: a node has fewer nodes above it than its level.
* `Grown.reverse_ids_eq`: a path read backwards is the node, the nodes above it and the
  root.
-/

namespace Publishing.Tree

variable {t : Tree} {n p : Node}

/-- Trees that come about by placing drafts, with no id placed twice. -/
inductive Grown : Tree → Prop where
  | empty : Grown Tree.empty
  | root {t : Tree} {d : Draft} (h : Grown t) (hnew : t.find? d.id = none) :
      Grown (t.addRoot d).2
  | child {t t' : Tree} {parent : NodeId} {d : Draft} {n : Node} (h : Grown t)
      (hnew : t.find? d.id = none) (hadd : t.addChild? parent d = some (n, t')) : Grown t'
  | preview {t : Tree} (h : Grown t) (on : Bool) : Grown (t.withPreview on)

/-- A node at the top, or one step below its parent. -/
inductive Placed (t : Tree) (n : Node) : Prop where
  | top (hparent : n.parent = none) (hpath : n.path = Path.root.child n.id)
  | below {p : Node} (hparent : n.parent = some p.id) (hp : t.find? p.id = some p)
      (hpath : n.path = p.path.child n.id)

/-! ## One more node -/

/-- A new node leaves the others where they are. -/
theorem Placed.put (h : t.Placed n) {m : Node} (hnew : t.find? m.id = none) :
    (t.put m).Placed n := by
  cases h with
  | top hparent hpath => exact .top hparent hpath
  | @below p hparent hp hpath =>
      have hne : p.id ≠ m.id := by
        intro heq
        rw [heq, hnew] at hp
        cases hp
      exact .below hparent (by rw [find?_put, if_neg hne, hp]) hpath

/-- Growing by a node that has its place keeps every node in its place. -/
theorem placed_put (h : ∀ n, t.find? n.id = some n → t.Placed n) {m : Node}
    (hnew : t.find? m.id = none) (hm : t.Placed m) (hn : (t.put m).find? n.id = some n) :
    (t.put m).Placed n := by
  rw [find?_put] at hn
  split at hn
  · obtain rfl := Option.some.inj hn
    exact hm.put hnew
  · exact (h n hn).put hnew

/-- **Every stored node has its place.** -/
theorem Grown.placed (h : t.Grown) (hn : t.find? n.id = some n) : t.Placed n := by
  -- a draft gets its place when it is stored, and nothing stored is moved later
  induction h generalizing n with
  | empty => simp [find?, Tree.empty] at hn
  | root _ hnew ih => exact placed_put (fun n hn => ih hn) hnew (.top rfl rfl) hn
  | child _ hnew hadd ih =>
      obtain ⟨p, hp, hplaced⟩ := Option.map_eq_some_iff.mp hadd
      obtain ⟨rfl, rfl⟩ := Prod.mk.inj hplaced
      obtain rfl := Tree.keyed _ _ p hp
      exact placed_put (fun n hn => ih hn) hnew (.below rfl hp rfl) hn
  | preview _ on ih =>
      cases ih hn with
      | top hparent hpath => exact .top hparent hpath
      | below hparent hp hpath => exact .below hparent hp hpath

/-! ## Histories -/

/-- A request names an unknown parent and changes nothing, or puts the draft in its place. -/
theorem carryOut_cases (t : Tree) (r : Placement) :
    (∃ parent, r.parent = some parent ∧ t.find? parent = none ∧ t.carryOut r = t) ∨
      ∃ path, t.carryOut r = t.put (r.draft.place r.parent path) := by
  obtain ⟨parent, d⟩ := r
  cases parent with
  | none => exact .inr ⟨Path.root.child d.id, rfl⟩
  | some parent =>
      simp only [carryOut, addChild?]
      cases hparent : t.find? parent with
      | none => exact .inl ⟨parent, rfl, hparent, rfl⟩
      | some p => exact .inr ⟨p.path.child d.id, rfl⟩

theorem find?_carryOut_of_ne {r : Placement} {id : NodeId} (hne : id ≠ r.draft.id) :
    (t.carryOut r).find? id = t.find? id := by
  rcases carryOut_cases t r with ⟨_, _, _, hsame⟩ | ⟨path, hput⟩
  · rw [hsame]
  · rw [hput, find?_put]
    exact if_neg hne

/-- A request under the root or a known node is fulfilled. -/
theorem find?_carryOut_of_known {r : Placement}
    (h : ∀ parent, r.parent = some parent → ∃ p, t.find? parent = some p) :
    ∃ path, (t.carryOut r).find? r.draft.id = some (r.draft.place r.parent path) := by
  rcases carryOut_cases t r with ⟨parent, hparent, hunknown, _⟩ | ⟨path, hput⟩
  · obtain ⟨p, hp⟩ := h parent hparent
    rw [hunknown] at hp
    cases hp
  · refine ⟨path, ?_⟩
    rw [hput, find?_put]
    exact if_pos rfl

/-- A request under an unknown node fails and changes nothing. -/
theorem carryOut_of_unknown {parent : NodeId} (h : t.find? parent = none) (d : Draft) :
    t.addChild? parent d = none ∧ t.carryOut ⟨some parent, d⟩ = t := by
  have hnone : t.addChild? parent d = none := by rw [addChild?, h, Option.map_none]
  exact ⟨hnone, by simp only [carryOut, hnone]⟩

theorem Grown.carryOut (h : t.Grown) {r : Placement} (hnew : t.find? r.draft.id = none) :
    (t.carryOut r).Grown := by
  unfold Tree.carryOut
  split
  · exact h.root hnew
  · split
    · next hadd => exact h.child hnew hadd
    · exact h

/-- **A run of requests.**  The tree has grown node by node, whatever the order of the
requests and however many of them fail. -/
theorem grown_grownBy {history : List Placement}
    (h : (history.map fun r => r.draft.id).Nodup) : (grownBy history).Grown := by
  refine inv_foldl_of_distinct find? ?_ ?_ h Grown.empty fun _ _ => by simp [find?, Tree.empty]
  · intro t r _ ht hnew
    exact ht.carryOut hnew
  · intro t r id hne
    exact find?_carryOut_of_ne hne

theorem grownBy_append_singleton (history : List Placement) (r : Placement) :
    grownBy (history ++ [r]) = (grownBy history).carryOut r := by
  rw [grownBy, List.foldl_append]
  rfl

/-! ## Levels -/

theorem Grown.level_pos (h : t.Grown) (hn : t.find? n.id = some n) : 0 < n.path.level := by
  cases h.placed hn with
  | top _ hpath => rw [hpath, Path.level_child]; exact Nat.succ_pos _
  | below _ _ hpath => rw [hpath, Path.level_child]; exact Nat.succ_pos _

/-- A step up undoes the step down by which the path was made. -/
theorem Grown.path_of_stepUp (h : t.Grown) (hn : t.find? n.id = some n) (hstep : t.StepUp n p) :
    n.path = p.path.child n.id := by
  obtain ⟨hlink, hfound, _⟩ := stepUp_iff.mp hstep
  cases h.placed hn with
  | top hparent _ =>
      rw [hparent] at hlink
      cases hlink
  | @below q hparent hq hpath =>
      have hid : q.id = p.id := Option.some.inj (hparent.symm.trans hlink)
      obtain rfl : q = p := Option.some.inj (by rw [← hq, hid, hfound])
      exact hpath

/-- A step up leads to the level before. -/
theorem Grown.level_of_stepUp (h : t.Grown) (hn : t.find? n.id = some n) (hstep : t.StepUp n p) :
    n.path.level = p.path.level + 1 := by
  rw [h.path_of_stepUp hn hstep, Path.level_child]

theorem Grown.acyclic (h : t.Grown) : t.Acyclic := by
  apply acyclic_of_measure fun n => n.path.level
  intro n p hn hstep
  rw [h.level_of_stepUp hn hstep]
  exact Nat.lt_succ_self _

/-- **The level bounds the nodes above.** -/
theorem Grown.length_lineage_lt (h : t.Grown) (hn : t.find? n.id = some n) {as : List Node}
    (has : t.Lineage n as) : as.length < n.path.level := by
  induction has with
  | top _ => exact h.level_pos hn
  | @step n p above hstep _ ih =>
      have hparent : above.length < p.path.level := ih hstep.stored
      rw [h.level_of_stepUp hn hstep, List.length_cons]
      omega

/-! ## Paths read backwards -/

/-- In a preview a node without a parent to step up to stands directly under the root. -/
theorem Grown.path_of_top (h : t.Grown) (hpreview : t.preview = true)
    (hn : t.find? n.id = some n) (htop : t.parent? n = none) : n.path = Path.root.child n.id := by
  cases h.placed hn with
  | top _ hpath => exact hpath
  | @below p hparent hp _ =>
      -- the parent is there, and nothing hides it
      have hstep : t.StepUp n p := stepUp_iff.mpr ⟨hparent, hp, by simp [shows, hpreview]⟩
      rw [StepUp, htop] at hstep
      cases hstep

/-- **A path retraces the links.**  Read backwards it is the node, the nodes above it as
repeated steps up meet them in a preview, and the root. -/
theorem Grown.reverse_ids_eq (h : t.Grown) (hpreview : t.preview = true)
    (hn : t.find? n.id = some n) {as : List Node} (has : t.Lineage n as) :
    n.path.ids.reverse = n.id :: (as.map Node.id ++ [NodeId.root]) := by
  induction has with
  | top htop => simp [h.path_of_top hpreview hn htop]
  | @step n p above hstep _ ih =>
      calc n.path.ids.reverse
          = n.id :: p.path.ids.reverse := by simp [h.path_of_stepUp hn hstep]
        _ = n.id :: p.id :: (above.map Node.id ++ [NodeId.root]) := by rw [ih hstep.stored]
        _ = n.id :: ((p :: above).map Node.id ++ [NodeId.root]) := rfl

end Publishing.Tree
