import Publishing.Proofs.Resolve.Steps

/-!
# A walk up the tree retraces the path

Where a node stands is written down twice: in its path, made once when the node was
placed, and in the links to parents, which a walk follows one by one.  In a tree grown
from requests with distinct ids the two agree, and so the path of a node tells beforehand
what a walk will meet and how soon it ends.

* `Tree.Grown.walk_ends`: a walk that may take as many steps as the level of its start is
  never cut short.
* `Tree.walk_retraces_path`: with preview on a walk meets the ids of the path, backwards;
  in either mode it ends within the level.
-/

namespace Publishing.Tree

variable {t : Tree} {n : Node}

/-- **A walk ends within the level of its start.**  Allowing it more steps changes
nothing. -/
theorem Grown.walk_ends (h : t.Grown) (hn : t.find? n.id = some n)
    (context : Option RenderContext) (name : String) :
    ∃ as k, t.Lineage n as ∧ Climbs context name as k ∧ k ≤ n.path.level ∧
      (Ascent.along context name as).steps = k ∧
      ∀ limit, n.path.level ≤ limit →
        t.ascendWithin context name limit n = Ascent.along context name as := by
  have hlineage : t.Lineage n (t.ancestors n) := h.acyclic.lineage_ancestors n
  have hclimbs := climbs_steps_along context name (t.ancestors n)
  -- the last step, which finds no parent, is the one that makes up for the root
  have hshort : (t.ancestors n).length < n.path.level := h.length_lineage_lt hn hlineage
  refine ⟨t.ancestors n, _, hlineage, hclimbs, ?_, rfl, ?_⟩
  · exact Nat.le_trans hclimbs.le_length hshort
  · intro limit hlimit
    apply hlineage.ascendWithin_eq
    omega

/-- **A walk retraces the path.**  In a tree grown from requests with distinct ids, a
request under an unknown node fails and changes nothing, and any other puts its draft in
the tree.  With preview on, repeated steps up from any node meet the ids of its path
backwards, without the node and the root, until no parent is left.  Whether preview is on
or not, a walk ends after at most as many steps as the level of the node, however many it
is allowed. -/
theorem walk_retraces_path {history : List Placement}
    (h : (history.map fun r => r.draft.id).Nodup) :
    (∀ parent d, (grownBy history).find? parent = none →
      (grownBy history).addChild? parent d = none ∧
        grownBy (history ++ [⟨some parent, d⟩]) = grownBy history) ∧
    (∀ r : Placement, (∀ parent, r.parent = some parent →
        ∃ p, (grownBy history).find? parent = some p) →
      ∃ path, (grownBy (history ++ [r])).find? r.draft.id =
        some (r.draft.place r.parent path)) ∧
    ∀ id n, (grownBy history).find? id = some n →
      (∃ as, ((grownBy history).withPreview true).Lineage n as ∧
        n.path.ids.reverse = id :: (as.map Node.id ++ [NodeId.root])) ∧
      ∀ on context name, ∃ as k, ((grownBy history).withPreview on).Lineage n as ∧
        Climbs context name as k ∧ k ≤ n.path.level ∧
        (Ascent.along context name as).steps = k ∧
        ∀ limit, n.path.level ≤ limit →
          ((grownBy history).withPreview on).ascendWithin context name limit n =
            Ascent.along context name as := by
  have hgrown : ∀ on, ((grownBy history).withPreview on).Grown := (grown_grownBy h).preview
  refine ⟨?_, ?_, ?_⟩
  · intro parent d hunknown
    rw [grownBy_append_singleton]
    exact carryOut_of_unknown hunknown d
  · intro r hknown
    rw [grownBy_append_singleton]
    exact find?_carryOut_of_known hknown
  · intro id n hfound
    obtain rfl : id = n.id := (grownBy history).keyed id n hfound
    have hn : ∀ on, ((grownBy history).withPreview on).find? n.id = some n := fun _ => hfound
    refine ⟨?_, ?_⟩
    · have hlineage := (hgrown true).acyclic.lineage_ancestors n
      exact ⟨_, hlineage, (hgrown true).reverse_ids_eq rfl (hn true) hlineage⟩
    · intro on context name
      exact (hgrown on).walk_ends (hn on) context name

/-! ## A draft in between -/

def plainPage : ContentType := ⟨"page", .nothing, ∅⟩

/-- A page is asked for under an unknown node before the others are placed, and of these
the one in the middle is not published. -/
def draftHistory : List Placement :=
  [⟨some ⟨99, by decide⟩, { id := ⟨24, by decide⟩, type := plainPage }⟩,
    ⟨none, { id := ⟨21, by decide⟩, type := plainPage }⟩,
    ⟨some ⟨21, by decide⟩, { id := ⟨22, by decide⟩, type := plainPage, published := false }⟩,
    ⟨some ⟨22, by decide⟩, { id := ⟨23, by decide⟩, type := plainPage }⟩]

/-- The page at the bottom. -/
def bottomPage : Node where
  id := ⟨23, by decide⟩
  parent := some ⟨22, by decide⟩
  path := ⟨"-1,21,22,23", by decide⟩
  type := plainPage
  properties := ∅
  published := true

theorem walk_retraces_path_bottomPage :
    (draftHistory.map fun r => r.draft.id).Nodup ∧
      (grownBy draftHistory).find? bottomPage.id = some bottomPage ∧
      (∃ as, ((grownBy draftHistory).withPreview true).Lineage bottomPage as ∧
        as.map Node.id = [⟨22, by decide⟩, ⟨21, by decide⟩]) ∧
      ∀ on limit, 3 ≤ limit →
        (((grownBy draftHistory).withPreview on).ascendWithin none "title" limit
          bottomPage).steps ≤ 3 := by
  have hdistinct : (draftHistory.map fun r => r.draft.id).Nodup := by decide
  have hfound : (grownBy draftHistory).find? bottomPage.id = some bottomPage := rfl
  obtain ⟨⟨as, has, hids⟩, hwalk⟩ := (walk_retraces_path hdistinct).2.2 _ _ hfound
  refine ⟨hdistinct, hfound, ⟨as, has, ?_⟩, ?_⟩
  · have hreverse : bottomPage.path.ids.reverse =
        bottomPage.id :: ([⟨22, by decide⟩, ⟨21, by decide⟩] ++ [NodeId.root]) := by decide
    rw [hreverse] at hids
    exact (List.append_cancel_right (List.cons.inj hids).2).symm
  · intro on limit hlimit
    obtain ⟨_, k, _, _, hk, hsteps, hends⟩ := hwalk on none "title"
    have hlevel : bottomPage.path.level = 3 := by decide
    rw [hlevel] at hk hends
    rw [hends limit hlimit, hsteps]
    exact hk

end Publishing.Tree
