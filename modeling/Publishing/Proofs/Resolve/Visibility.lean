import Publishing.Proofs.Resolve.NearestAncestor

/-!
# Hidden nodes do not matter

What is read from a node of a published tree depends on the node and on the nodes
seen above it, and on nothing else in the tree.  Two trees that agree there may
hold anything elsewhere: below and beside the node, behind an unpublished parent,
or in place of that parent.

## Strategy

Reading touches the tree only through `Tree.ascend`, so two obstacles have to be
removed.

* **Different steps up.**  `SameAbove.parent?_eq` shows that a node seen from the
  start has the same parent in both trees, seen or not seen.  By induction on the
  lineage, `SameAbove.lineage` carries the whole of it over.
* **Different limits.**  `Tree.ascend` allows as many steps as the tree has nodes,
  and the two trees differ in size.  `Acyclic.ascend_eq_along` removes the limit.
-/

namespace Publishing

namespace Tree

variable {t t' : Tree} {n a p : Node}

/-- No published node has the id: there is none, or it is not published. -/
def Hides (t : Tree) (id : NodeId) : Prop :=
  ∀ p, t.find? id = some p → p.published = false

/-- The second tree has the node and every node seen above it in the first, and hides
the parent that the first tree hides at the end. -/
structure SameAbove (t t' : Tree) (n : Node) : Prop where
  agree : ∀ a, Relation.ReflTransGen t.StepUp n a → t'.find? a.id = some a
  hidden : ∀ a, Relation.ReflTransGen t.StepUp n a → ∀ id, a.parent = some id → t.Hides id →
    t'.Hides id

/-! ## One step -/

theorem shows_of_not_preview (hoff : t.preview = false) (p : Node) : t.shows p = p.published := by
  rw [shows, hoff, Bool.or_false]

/-- In a published tree no parent is seen where there is no link or a hidden one. -/
theorem parent?_eq_none_iff (hoff : t.preview = false) :
    t.parent? n = none ↔ ∀ id, n.parent = some id → t.Hides id := by
  constructor
  · intro hnone id hlink p hfound
    obtain rfl : id = p.id := t.keyed id p hfound
    by_contra hpublished
    have hstep : t.StepUp n p := by
      rw [stepUp_iff, shows_of_not_preview hoff]
      exact ⟨hlink, hfound, by simpa using hpublished⟩
    exact absurd (hnone.symm.trans hstep) (by simp)
  · intro hhidden
    rw [Option.eq_none_iff_forall_ne_some]
    intro p hp
    obtain ⟨hlink, hfound, hseen⟩ := stepUp_iff.mp hp
    rw [shows_of_not_preview hoff, hhidden p.id hlink p hfound] at hseen
    cases hseen

/-- **A node seen from the start has the same parent in both trees.** -/
theorem SameAbove.parent?_eq (h : SameAbove t t' n) (hoff : t.preview = false)
    (hoff' : t'.preview = false) (ha : Relation.ReflTransGen t.StepUp n a) :
    t'.parent? a = t.parent? a := by
  cases hp : t.parent? a with
  | none =>
      -- The chain ends here: what the link names is hidden, and stays so.
      rw [parent?_eq_none_iff hoff] at hp
      rw [parent?_eq_none_iff hoff']
      exact fun id hlink => h.hidden a ha id hlink (hp id hlink)
  | some p =>
      -- The parent is itself seen from the start, so the second tree has it.
      obtain ⟨hlink, _, hseen⟩ := stepUp_iff.mp hp
      rw [shows_of_not_preview hoff] at hseen
      have hstep' : t'.StepUp a p := by
        rw [stepUp_iff, shows_of_not_preview hoff']
        exact ⟨hlink, h.agree p (ha.tail hp), hseen⟩
      exact hstep'

/-! ## The whole way up -/

theorem SameAbove.lineage (h : SameAbove t t' n) (hoff : t.preview = false)
    (hoff' : t'.preview = false) {as : List Node} (hlineage : t.Lineage a as)
    (ha : Relation.ReflTransGen t.StepUp n a) : t'.Lineage a as := by
  induction hlineage with
  | top hnone => exact .top ((h.parent?_eq hoff hoff' ha).trans hnone)
  | step hstep _ ih =>
      exact .step ((h.parent?_eq hoff hoff' ha).trans hstep) (ih (ha.tail hstep))

theorem SameAbove.ancestors_eq (h : SameAbove t t' n) (ht : t.Acyclic) (ht' : t'.Acyclic)
    (hoff : t.preview = false) (hoff' : t'.preview = false) : t'.ancestors n = t.ancestors n := by
  have hcarried : t'.Lineage n (t.ancestors n) :=
    h.lineage hoff hoff' (ht.lineage_ancestors n) .refl
  exact (ht'.lineage_ancestors n).unique hcarried

/-- **A walk meets the same nodes in both trees**, so it finds the same and takes as
many steps. -/
theorem SameAbove.ascend_eq (h : SameAbove t t' n) (ht : t.Acyclic) (ht' : t'.Acyclic)
    (hoff : t.preview = false) (hoff' : t'.preview = false) (context : Option RenderContext)
    (name : String) : t'.ascend context name n = t.ascend context name n := by
  rw [ht.ascend_eq_along, ht'.ascend_eq_along, h.ancestors_eq ht ht' hoff hoff']

end Tree

namespace Resolver

variable {α ε : Type} {r : Resolver} {t t' : Tree} {n : Node}

/-! ## Reading depends on the walk alone -/

theorem attemptContent_congr {name : String}
    (hwalk : t'.ascend r.context name n = t.ascend r.context name n) (type : Option PropertyType)
    (v : Variant) :
    { r with tree := t' }.attemptContent n name type v =
      { r with tree := t }.attemptContent n name type v := by
  funext m trail
  cases m with
  | ancestors => simp only [attemptContent, hwalk]
  | none => rfl
  | defaultValue => rfl
  | language => rfl
  | defaultLanguage => rfl

theorem selectContent_congr {name : String}
    (hwalk : t'.ascend r.context name n = t.ascend r.context name n) (requested : Variant)
    (policy : Policy) :
    { r with tree := t' }.selectContent n name requested policy =
      { r with tree := t }.selectContent n name requested policy := by
  unfold selectContent
  rw [attemptContent_congr hwalk]
  rfl

theorem readContent_congr {name : String}
    (hwalk : t'.ascend r.context name n = t.ascend r.context name n) (requested : Variant)
    (policy : Policy) :
    { r with tree := t' }.readContent n name requested policy =
      { r with tree := t }.readContent n name requested policy := by
  unfold readContent
  rw [selectContent_congr hwalk]
  rfl

/-- **Hidden nodes do not matter.**  Let two published trees without cycles agree on a
node and on what is seen above it.  Then whatever is asked of the node is answered
alike, value, error, property without a value and number of steps up. -/
theorem content_eq_of_sameAbove (ht : t.Acyclic) (ht' : t'.Acyclic) (hoff : t.preview = false)
    (hoff' : t'.preview = false) (h : t.SameAbove t' n) (name : String) (q : Request α ε) :
    { r with tree := t' }.content n name q = { r with tree := t }.content n name q ∧
      { r with tree := t' }.tryContent n name q = { r with tree := t }.tryContent n name q := by
  have hwalk : t'.ascend r.context name n = t.ascend r.context name n :=
    h.ascend_eq ht ht' hoff hoff' r.context name
  constructor
  · simp only [content, readContent_congr hwalk]
  · simp only [tryContent, selectContent_congr hwalk]

/-! ### A site whose front page is a draft

Without a front page that is published the news are the top of what is seen.  It makes
no difference whether the front page is there as a draft or not at all, nor that there
is another page elsewhere. -/

def draft : Node := { frontPage with published := false }

def elsewhere : Node where
  id := ⟨9, by decide⟩
  parent := none
  path := ⟨"-1,9", by decide⟩
  type := ⟨"site", .nothing, ∅⟩
  properties := ∅
  published := true

def withDraft : Tree := ((Tree.empty.put draft).put news).put article

def withoutDraft : Tree := ((Tree.empty.put elsewhere).put news).put article

theorem acyclic_withDraft : withDraft.Acyclic :=
  (((Tree.ascending_empty.put rfl).put rfl).put rfl).acyclic

theorem acyclic_withoutDraft : withoutDraft.Acyclic :=
  (((Tree.ascending_empty.put rfl).put rfl).put rfl).acyclic

/-- From an article one sees the news and nothing else. -/
theorem seen_article {a : Node} (ha : Relation.ReflTransGen withDraft.StepUp article a) :
    a = article ∨ a = news := by
  induction ha with
  | refl => exact .inl rfl
  | tail _ hstep ih =>
      rcases ih with rfl | rfl
      · exact .inr (Option.some.inj hstep).symm
      · cases hstep

theorem sameAbove_article : withDraft.SameAbove withoutDraft article := by
  constructor
  · intro a ha
    rcases seen_article ha with rfl | rfl <;> rfl
  · intro a ha id hid hhides
    rcases seen_article ha with rfl | rfl
    · obtain rfl : news.id = id := Option.some.inj hid
      cases hhides news rfl
    · obtain rfl : frontPage.id = id := Option.some.inj hid
      intro p hp
      cases hp

/-- The draft has tags and is in one tree only, and still an article has the same tags
in both. -/
theorem content_eq_of_sameAbove_article :
    withDraft.Acyclic ∧ withoutDraft.Acyclic ∧ withDraft.preview = false ∧
      withoutDraft.preview = false ∧ withDraft.SameAbove withoutDraft article ∧
      withDraft.find? draft.id = some draft ∧ withoutDraft.find? draft.id = none ∧
      { newsSite with tree := withoutDraft }.content article "tags"
          (.raw {} (.single .ancestors) none) =
        { newsSite with tree := withDraft }.content article "tags"
          (.raw {} (.single .ancestors) none) :=
  ⟨acyclic_withDraft, acyclic_withoutDraft, rfl, rfl, sameAbove_article, rfl, rfl,
    (content_eq_of_sameAbove acyclic_withDraft acyclic_withoutDraft rfl rfl sameAbove_article
      "tags" _).1⟩

end Resolver

end Publishing
