import Mathlib.Logic.Relation
import Publishing.Tree

/-!
# The nodes above a node

`Tree.ancestors` goes as many steps up as there are nodes in the tree.  Where
no node lies above itself this is enough: no more steps lead to more nodes.

* `Acyclic`: no node lies above itself.  Links to parents that are not seen do
  not count.
* `Acyclic.length_ancestorsWithin_le`: a walk meets no node twice, so it meets
  at most as many nodes as there are.
* `Acyclic.ancestorsWithin_eq`: so a longer walk meets the same nodes.
* `Lineage` lists the nodes above a node without counting steps;
  `Acyclic.lineage_ancestors` says that `Tree.ancestors` is this list.
-/

namespace Publishing.Tree

variable {t : Tree} {n p : Node}

/-- One step up the tree, as far as it is seen. -/
def StepUp (t : Tree) (child parent : Node) : Prop :=
  t.parent? child = some parent

/-- No node lies above itself. -/
def Acyclic (t : Tree) : Prop :=
  ∀ n, ¬ Relation.TransGen t.StepUp n n

/-- A step up leads to the node stored under the id that the link names, if it is
seen. -/
theorem stepUp_iff : t.StepUp n p ↔
    n.parent = some p.id ∧ t.find? p.id = some p ∧ t.shows p = true := by
  rw [StepUp, parent?, Option.filter_eq_some_iff, Option.bind_eq_some_iff]
  constructor
  · rintro ⟨⟨id, hlink, hfound⟩, hseen⟩
    obtain rfl : id = p.id := t.keyed id p hfound
    exact ⟨hlink, hfound, hseen⟩
  · rintro ⟨hlink, hfound, hseen⟩
    exact ⟨⟨p.id, hlink, hfound⟩, hseen⟩

/-- A parent is the node stored under its own id. -/
theorem StepUp.stored (h : t.StepUp n p) : t.find? p.id = some p :=
  (stepUp_iff.mp h).2.1

theorem ancestorsWithin_succ_of_stepUp (h : t.StepUp n p) (k : Nat) :
    t.ancestorsWithin (k + 1) n = p :: t.ancestorsWithin k p := by
  unfold StepUp at h
  rw [ancestorsWithin, h]

theorem ancestorsWithin_succ_of_top (h : t.parent? n = none) (k : Nat) :
    t.ancestorsWithin (k + 1) n = [] := by
  rw [ancestorsWithin, h]

/-- Fewer steps lead to the first of the nodes that more steps lead to. -/
theorem take_ancestorsWithin {j k : Nat} (hjk : j ≤ k) (n : Node) :
    (t.ancestorsWithin k n).take j = t.ancestorsWithin j n := by
  induction j generalizing k n with
  | zero => rfl
  | succ j ih =>
      obtain ⟨k, rfl⟩ : ∃ i, k = i + 1 := ⟨k - 1, by omega⟩
      cases hp : t.parent? n with
      | none => rw [ancestorsWithin_succ_of_top hp, ancestorsWithin_succ_of_top hp, List.take_nil]
      | some p =>
          rw [ancestorsWithin_succ_of_stepUp hp, ancestorsWithin_succ_of_stepUp hp,
            List.take_succ_cons, ih (by omega)]

/-! ## No node twice -/

theorem above_of_mem_ancestorsWithin {k : Nat} {a : Node} (ha : a ∈ t.ancestorsWithin k n) :
    Relation.TransGen t.StepUp n a := by
  induction k generalizing n with
  | zero => simp [ancestorsWithin] at ha
  | succ k ih =>
      cases hp : t.parent? n with
      | none => simp [ancestorsWithin_succ_of_top hp] at ha
      | some p =>
          rw [ancestorsWithin_succ_of_stepUp hp, List.mem_cons] at ha
          rcases ha with rfl | ha
          · exact .single hp
          · exact .head hp (ih ha)

theorem stored_of_above {a : Node} (h : Relation.TransGen t.StepUp n a) :
    t.find? a.id = some a := by
  -- Whatever leads to `a`, its last step ends there.
  obtain ⟨_, _, hlast⟩ := Relation.TransGen.tail'_iff.mp h
  exact hlast.stored

theorem stored_of_mem_ancestorsWithin {k : Nat} {a : Node} (ha : a ∈ t.ancestorsWithin k n) :
    t.find? a.id = some a :=
  stored_of_above (above_of_mem_ancestorsWithin ha)

theorem Acyclic.ids_ancestorsWithin_nodup (h : t.Acyclic) (k : Nat) (n : Node) :
    ((t.ancestorsWithin k n).map Node.id).Nodup := by
  induction k generalizing n with
  | zero => simp [ancestorsWithin]
  | succ k ih =>
      cases hp : t.parent? n with
      | none => simp [ancestorsWithin_succ_of_top hp]
      | some p =>
          rw [ancestorsWithin_succ_of_stepUp hp, List.map_cons, List.nodup_cons]
          refine ⟨?_, ih p⟩
          intro hmem
          obtain ⟨a, ha, hid⟩ := List.mem_map.mp hmem
          have hsame : some a = some p := by
            rw [← stored_of_mem_ancestorsWithin ha, hid, StepUp.stored hp]
          obtain rfl := Option.some.inj hsame
          exact h a (above_of_mem_ancestorsWithin ha)

/-- **A walk is no longer than the tree is large.** -/
theorem Acyclic.length_ancestorsWithin_le (h : t.Acyclic) (k : Nat) (n : Node) :
    (t.ancestorsWithin k n).length ≤ t.size := by
  have hsub : (t.ancestorsWithin k n).map Node.id ⊆ t.nodes.keys := by
    intro id hid
    obtain ⟨a, ha, rfl⟩ := List.mem_map.mp hid
    rw [Std.ExtTreeMap.mem_keys, Std.ExtTreeMap.mem_iff_isSome_getElem?]
    exact Option.isSome_of_eq_some (stored_of_mem_ancestorsWithin ha)
  have hle := List.Nodup.length_le_of_subset (h.ids_ancestorsWithin_nodup k n) hsub
  rwa [List.length_map, Std.ExtTreeMap.length_keys] at hle

/-- **A longer walk meets the same nodes.** -/
theorem Acyclic.ancestorsWithin_eq (h : t.Acyclic) {k : Nat} (hk : t.size ≤ k) (n : Node) :
    t.ancestorsWithin k n = t.ancestors n := by
  rw [ancestors, ← take_ancestorsWithin hk, List.take_of_length_le]
  exact h.length_ancestorsWithin_le k n

/-! ## Lineages -/

/-- The nodes that repeated steps up lead to, nearest first, to where no parent is
seen. -/
inductive Lineage (t : Tree) : Node → List Node → Prop
  | top {n : Node} (h : t.parent? n = none) : Lineage t n []
  | step {n p : Node} {above : List Node} (h : t.StepUp n p) (hp : Lineage t p above) :
      Lineage t n (p :: above)

theorem Lineage.unique {as bs : List Node} (ha : t.Lineage n as) (hb : t.Lineage n bs) :
    as = bs := by
  induction ha generalizing bs with
  | top hnone =>
      cases hb with
      | top _ => rfl
      | step hstep _ => exact absurd (hnone.symm.trans hstep) (by simp)
  | step hstep _ ih =>
      cases hb with
      | top hnone => exact absurd (hnone.symm.trans hstep) (by simp)
      | step hstep' hrest =>
          obtain rfl := Option.some.inj (hstep.symm.trans hstep')
          rw [ih hrest]

/-- A walk that has steps to spare has come to the end of the lineage. -/
theorem lineage_ancestorsWithin {k : Nat} (hspare : (t.ancestorsWithin k n).length < k) :
    t.Lineage n (t.ancestorsWithin k n) := by
  induction k generalizing n with
  | zero => omega
  | succ k ih =>
      cases hp : t.parent? n with
      | none =>
          rw [ancestorsWithin_succ_of_top hp]
          exact .top hp
      | some p =>
          rw [ancestorsWithin_succ_of_stepUp hp] at hspare ⊢
          exact .step hp (ih (Nat.lt_of_succ_lt_succ hspare))

theorem Acyclic.lineage_ancestors (h : t.Acyclic) (n : Node) : t.Lineage n (t.ancestors n) := by
  have hle := h.length_ancestorsWithin_le (t.size + 1) n
  rw [← h.ancestorsWithin_eq (show t.size ≤ t.size + 1 by omega) n]
  exact lineage_ancestorsWithin (by omega)

/-! ## Trees without cycles -/

theorem find?_put (t : Tree) (n : Node) (id : NodeId) :
    (t.put n).find? id = if id = n.id then some n else t.find? id := by
  rw [find?, put, Std.ExtTreeMap.getElem?_insert]
  simp only [Std.LawfulEqCmp.compare_eq_iff_eq, eq_comm (a := n.id)]
  rfl

/-- A tree has no cycle if some measure of the stored nodes falls with every step up. -/
theorem acyclic_of_measure (measure : Node → Nat)
    (h : ∀ n p, t.find? n.id = some n → t.StepUp n p → measure p < measure n) : t.Acyclic := by
  have hfalls : ∀ {n a}, Relation.TransGen t.StepUp n a → t.find? n.id = some n →
      measure a < measure n := by
    intro n a habove
    induction habove using Relation.TransGen.head_induction_on with
    | single hstep => exact fun hn => h _ _ hn hstep
    | head hstep _ ih => exact fun hn => Nat.lt_trans (ih hstep.stored) (h _ _ hn hstep)
  intro n hcycle
  exact absurd (hfalls hcycle (stored_of_above hcycle)) (Nat.lt_irrefl _)

/-- The parent, if there is one, has a smaller id that is not reserved. -/
def parentFirst (n : Node) : Bool :=
  n.parent.all fun id => decide (0 ≤ id.val ∧ id.val < n.id.val)

/-- Every stored node has a larger id than its parent. -/
def Ascending (t : Tree) : Prop :=
  ∀ n, t.find? n.id = some n → parentFirst n = true

theorem ascending_empty : empty.Ascending := by
  intro n hn
  simp [find?, empty] at hn

theorem Ascending.put (h : t.Ascending) (hn : parentFirst n = true) : (t.put n).Ascending := by
  intro m hm
  rw [find?_put] at hm
  split at hm
  · obtain rfl := Option.some.inj hm
    exact hn
  · exact h m hm

theorem Ascending.acyclic (h : t.Ascending) : t.Acyclic := by
  refine acyclic_of_measure (fun n => n.id.val.toNat) fun n p hn hstep => ?_
  have hlink : n.parent = some p.id := (stepUp_iff.mp hstep).1
  have hsmaller := h n hn
  rw [parentFirst, hlink, Option.all_some, decide_eq_true_eq] at hsmaller
  omega

end Publishing.Tree
