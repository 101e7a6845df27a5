import Publishing.Proofs.Growth
import Publishing.Proofs.Resolve.Subject

/-!
# The price of going up the tree

A walk up the tree tries one step after another, the last one included that finds
no parent; nothing else that a value is read by takes a step.  The number of steps
that a call tries is therefore a matter of the lineage of the node, of the first
ancestor on it that provides a value, and of how often the policy goes up.

* `Climbs` is the number of steps of one walk, said of the lineage;
  `climbs_steps_along` that a walk takes them.
* `steps_attemptContent` and `steps_tryModes`: what one mode adds to the steps, and
  what a run of modes does.
* `Resolver.steps_counted`: what every call takes.
-/

namespace Publishing

/-! ## The steps of one walk -/

/-- The number of steps to the first node that provides a value; the number of all
nodes and one, if none does. -/
inductive Climbs (context : Option RenderContext) (name : String) : List Node → Nat → Prop
  | hit {below : List Node} {a : Node} {above : List Node} {v : Json}
      (hbelow : ∀ b ∈ below, ∀ w, ¬ b.Provides context name w)
      (ha : a.Provides context name v) :
      Climbs context name (below ++ a :: above) (below.length + 1)
  | top {as : List Node} (h : ∀ a ∈ as, ∀ w, ¬ a.Provides context name w) :
      Climbs context name as (as.length + 1)

variable {context : Option RenderContext} {name : String} {as : List Node} {k : Nat}

/-- A node that provides no value is passed by. -/
theorem Ascent.steps_along_of_not_provides {p : Node} (h : ∀ w, ¬ p.Provides context name w)
    (above : List Node) :
    (Ascent.along context name (p :: above)).steps =
      (Ascent.along context name above).steps + 1 := by
  rw [Ascent.along]
  cases hoffer : p.offer context name with
  | value v => exact absurd (Node.offer_eq_value_iff.mp hoffer) (h v)
  | unset u => rfl
  | nothing => rfl

theorem Ascent.steps_along_append {below : List Node}
    (h : ∀ b ∈ below, ∀ w, ¬ b.Provides context name w) (above : List Node) :
    (Ascent.along context name (below ++ above)).steps =
      below.length + (Ascent.along context name above).steps := by
  induction below with
  | nil => exact (Nat.zero_add _).symm
  | cons b below ih =>
      have hb : ∀ w, ¬ b.Provides context name w := h b (List.mem_cons_self ..)
      have hrest := ih fun b' hb' => h b' (List.mem_cons_of_mem b hb')
      rw [List.cons_append, Ascent.steps_along_of_not_provides hb, hrest, List.length_cons]
      omega

theorem Climbs.eq_steps (h : Climbs context name as k) :
    k = (Ascent.along context name as).steps := by
  cases h with
  | @hit below a above v hbelow ha =>
      have hone : (Ascent.along context name (a :: above)).steps = 1 := by
        rw [Ascent.along, Node.offer_eq_value_iff.mpr ha]
      rw [Ascent.steps_along_append hbelow, hone]
  | top hnone =>
      have happend := Ascent.steps_along_append hnone []
      rw [List.append_nil] at happend
      exact happend.symm

/-- **A walk takes the steps to the first node with a value**, or one more than there
are nodes. -/
theorem climbs_steps_along (context : Option RenderContext) (name : String) (as : List Node) :
    Climbs context name as (Ascent.along context name as).steps := by
  suffices h : ∃ k, Climbs context name as k by
    obtain ⟨k, hk⟩ := h
    rwa [← hk.eq_steps]
  cases hfirst : as.findSome? fun a => (a.offer context name).value? with
  | none => exact ⟨_, .top (findSome?_offer_eq_none_iff.mp hfirst)⟩
  | some v =>
      obtain ⟨below, a, above, rfl, ha, hbelow⟩ := findSome?_offer_eq_some_iff.mp hfirst
      exact ⟨_, .hit hbelow ha⟩

theorem Climbs.le_length (h : Climbs context name as k) : k ≤ as.length + 1 := by
  cases h with
  | hit _ _ =>
      rw [List.length_append, List.length_cons]
      omega
  | top _ => exact Nat.le_refl _

namespace Resolver

variable {α ε : Type} {r : Resolver} {n : Node}

/-! ## The steps of a run -/

/-- Only going up the tree takes steps. -/
theorem steps_attemptContent (type : Option PropertyType) (v : Variant) (m : Mode)
    (trail : Trail) :
    (r.attemptContent n name type v m trail).2.steps =
      trail.steps + [m].count .ancestors * (r.tree.ascend r.context name n).steps := by
  cases m with
  | ancestors =>
      rw [List.count_singleton_self, Nat.one_mul]
      rfl
  | language =>
      simp only [attemptContent]
      split <;> simp
  | none | defaultValue | defaultLanguage => simp [attemptContent]

/-- **Every walk costs the same**, and is made each time that the policy goes up before
the search ends. -/
theorem steps_tryModes (type : Option PropertyType) (v : Variant) (ms : List Mode)
    (trail : Trail) :
    (tryModes (r.attemptContent n name type v) ms trail).2.steps =
      trail.steps +
        (ms.take (hits (r.contentSelection n name type v) ms + 1)).count .ancestors *
          (r.tree.ascend r.context name n).steps := by
  induction ms generalizing trail with
  | nil => simp [tryModes]
  | cons m ms ih =>
      have hsel : (r.attemptContent n name type v m trail).1 = r.contentSelection n name type v m :=
        fst_attemptContent type v m trail
      by_cases hm : r.contentSelection n name type v m = .miss
      · -- the search goes on: the steps of this mode, then those of the rest of the run
        rw [hits_cons_of_miss hm, List.take_succ_cons]
        let rest := ms.take (hits (r.contentSelection n name type v) ms + 1)
        let walk := (r.tree.ascend r.context name n).steps
        calc (tryModes (r.attemptContent n name type v) (m :: ms) trail).2.steps
            = (r.attemptContent n name type v m trail).2.steps + rest.count .ancestors * walk := by
              rw [tryModes_cons_of_miss (hsel.trans hm), ih]
          _ = trail.steps + ([m].count .ancestors + rest.count .ancestors) * walk := by
              rw [steps_attemptContent, Nat.add_mul, Nat.add_assoc]
          _ = trail.steps + (m :: rest).count .ancestors * walk := by
              rw [← List.count_append, List.singleton_append]
      · have hhit : (r.attemptContent n name type v m trail).1 ≠ .miss := by rwa [hsel]
        rw [tryModes_cons_of_hit hhit, steps_attemptContent, hits_cons_of_hit hm,
          List.take_succ_cons, List.take_zero]

/-- The modes of a request on a node that are tried: all up to the first that does not
miss when it is all of the policy. -/
def tried (r : Resolver) (n : Node) (name : String) (q : Request α ε) : List Mode :=
  q.policy.modes.take (q.decisive (r.contentAnswer n name) + 1)

theorem steps_tryContent (n : Node) (name : String) (q : Request α ε) :
    (r.tryContent n name q).2.steps =
      (r.tried n name q).count .ancestors * (r.tree.ascend r.context name n).steps := by
  rw [tried, Request.decisive_eq_hits (contentAnswer_eq_firstHit n name)]
  exact (steps_tryModes _ _ q.policy.modes _).trans (Nat.zero_add _)

theorem content_snd (n : Node) (name : String) (q : Request α ε) :
    (r.content n name q).2 =
      if (r.ownValue? n name (some n.id) q.variant).isSome then 0
      else (r.tryContent n name q).2.steps :=
  readContent_snd r q.variant q.policy n name

/-! ## The steps of a call -/

/-- The tree plays no part: no step is taken, and the answers are those in any other
tree. -/
structure NeedsNoTree (r : Resolver) (q : Request α ε) (s : Subject) : Prop where
  try_steps : (r.tryOn q s).2.steps = 0
  read_steps : (r.readOn q s).2 = 0
  try_eq : ∀ t : Tree, ({ r with tree := t } : Resolver).tryOn q s = r.tryOn q s
  read_eq : ∀ t : Tree, ({ r with tree := t } : Resolver).readOn q s = r.readOn q s

/-- **What going up the tree costs.**  Properties and elements are read without a step.
On a node in a tree without cycles, each going up that is tried before the search ends
costs the steps to the nearest ancestor with a value, or one more than there are
ancestors; nothing else costs a step, and reading costs none if the node has a value of
its own.  In a tree that was grown with no id twice, going up once takes no more steps
than the level of the node. -/
theorem steps_counted (r : Resolver) (hacyclic : r.tree.Acyclic) (q : Request α ε) :
    (∀ p, r.NeedsNoTree q (.property p)) ∧ (∀ n name, r.NeedsNoTree q (.element n name)) ∧
      ∀ n name, ∃ as k, r.tree.Lineage n as ∧ Climbs r.context name as k ∧
        (r.tryContent n name q).2.steps = (r.tried n name q).count .ancestors * k ∧
        (r.content n name q).2 =
          (if (r.ownValue? n name (some n.id) q.variant).isSome then 0
            else (r.tried n name q).count .ancestors * k) ∧
        (r.tree.Grown → r.tree.find? n.id = some n → k ≤ n.path.level) := by
  refine ⟨fun p => ⟨rfl, rfl, fun _ => rfl, fun _ => rfl⟩,
    fun n name => ⟨rfl, rfl, fun _ => rfl, fun _ => rfl⟩, fun n name => ?_⟩
  have hlineage : r.tree.Lineage n (r.tree.ancestors n) := hacyclic.lineage_ancestors n
  have hclimbs : Climbs r.context name (r.tree.ancestors n)
      (r.tree.ascend r.context name n).steps := by
    rw [hacyclic.ascend_eq_along]
    exact climbs_steps_along r.context name (r.tree.ancestors n)
  refine ⟨_, _, hlineage, hclimbs, steps_tryContent n name q, ?_, ?_⟩
  · rw [content_snd, steps_tryContent]
  · intro hgrown hn
    calc (r.tree.ascend r.context name n).steps
        ≤ (r.tree.ancestors n).length + 1 := hclimbs.le_length
      _ ≤ n.path.level := hgrown.length_lineage_lt hn hlineage

/-- The site with its tags at the top grows from its front page down. -/
theorem grown_newsSite : newsSite.tree.Grown := by
  have hfront : (Tree.empty.put frontPage).Grown :=
    @Tree.Grown.root _ ⟨frontPage.id, frontPage.type, [vipTags], true⟩ .empty rfl
  have hnews : ((Tree.empty.put frontPage).put news).Grown :=
    @Tree.Grown.child _ _ frontPage.id ⟨news.id, news.type, [noTags], true⟩ news hfront rfl rfl
  exact @Tree.Grown.child _ _ news.id ⟨article.id, article.type, [], true⟩ article hnews rfl rfl

/-- Of two goings up the first ends the search for the tags of an article, after two
steps.  The search for its title goes up twice, each time past both ancestors. -/
theorem steps_counted_article :
    newsSite.tree.Acyclic ∧ newsSite.tree.Grown ∧
      newsSite.tree.find? article.id = some article ∧
      (newsSite.tryContent article "tags"
        (.raw {} ⟨[.none, .ancestors, .ancestors]⟩ none)).2.steps = 2 ∧
      (newsSite.content article "title"
        (.raw {} ⟨[.none, .ancestors, .ancestors]⟩ none)).2 = 6 ∧
      3 ≤ article.path.level := by
  let q : Request Json Mismatch := .raw {} ⟨[.none, .ancestors, .ancestors]⟩ none
  have hbelow : ∀ b ∈ [news], ∀ w, ¬ b.Provides newsSite.context "tags" w := by
    intro b hb
    obtain rfl := List.mem_singleton.mp hb
    exact not_provides_news
  have htags : Climbs newsSite.context "tags" [news, frontPage] 2 :=
    .hit hbelow provides_frontPage
  have htitle : Climbs newsSite.context "title" [news, frontPage] 3 :=
    .top fun a => not_provides_title
  obtain ⟨as, k, has, hk, hsteps, _, _⟩ :=
    (steps_counted newsSite grown_newsSite.acyclic q).2.2 article "tags"
  obtain rfl := has.unique lineage_article
  obtain rfl : k = 2 := hk.eq_steps.trans htags.eq_steps.symm
  obtain ⟨bs, j, hbs, hj, _, hread, hlevel⟩ :=
    (steps_counted newsSite grown_newsSite.acyclic q).2.2 article "title"
  obtain rfl := hbs.unique lineage_article
  obtain rfl : j = 3 := hj.eq_steps.trans htitle.eq_steps.symm
  exact ⟨grown_newsSite.acyclic, grown_newsSite, rfl, hsteps, hread, hlevel grown_newsSite rfl⟩

end Resolver

end Publishing
