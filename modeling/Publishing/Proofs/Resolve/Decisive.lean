import Publishing.Proofs.Resolve.Miss

/-!
# The first mode that does not miss decides

What a mode selects does not depend on the modes tried before it, so a policy
comes down to the first of its modes that would not miss if it were all of the
policy.  `try_eq_decided` says this of the three levels, and on a node of the
tree also which property without a value is reported.

* `hits` is the place of the first mode that does not miss, `firstHit` what it
  selects; `tryModes_fst_eq_firstHit` is the run of a policy.
* `tryModes_append_of_hit`, `tryModes_append_of_miss` and `tryModes_filter_ne`: modes
  added to a policy and taken out of it.
* `unset_tryModes` is what a run notes, from what `unset_attemptContent` says of one
  mode.
* `Request.decided` is the answer of the first decisive mode on its own.
-/

namespace Publishing

/-! ## Running modes -/

/-- The place of the first mode that does not miss; the number of modes, if all do. -/
def hits (sel : Mode → Selection) (ms : List Mode) : Nat :=
  ms.findIdx fun m => !(sel m).isMiss

/-- What the first mode selects that does not miss. -/
def firstHit (sel : Mode → Selection) (ms : List Mode) : Selection :=
  ((ms[hits sel ms]?).map sel).getD .miss

theorem Selection.isMiss_iff {s : Selection} : s.isMiss = true ↔ s = .miss := by
  cases s <;> simp [Selection.isMiss]

section

variable {sel : Mode → Selection} {m : Mode} {ms : List Mode}

theorem hits_cons_of_miss (h : sel m = .miss) : hits sel (m :: ms) = hits sel ms + 1 := by
  rw [hits, hits, List.findIdx_cons, h]
  rfl

theorem hits_cons_of_hit (h : sel m ≠ .miss) : hits sel (m :: ms) = 0 := by
  have hhit : (sel m).isMiss = false := Bool.eq_false_iff.mpr (mt Selection.isMiss_iff.mp h)
  rw [hits, List.findIdx_cons, hhit]
  rfl

theorem firstHit_cons_of_miss (h : sel m = .miss) :
    firstHit sel (m :: ms) = firstHit sel ms := by
  rw [firstHit, hits_cons_of_miss h, List.getElem?_cons_succ, ← firstHit]

theorem firstHit_cons_of_hit (h : sel m ≠ .miss) : firstHit sel (m :: ms) = sel m := by
  rw [firstHit, hits_cons_of_hit h]
  rfl

theorem firstHit_single (sel : Mode → Selection) (m : Mode) : firstHit sel [m] = sel m := by
  by_cases h : sel m = .miss
  · rw [firstHit_cons_of_miss h, h]
    rfl
  · exact firstHit_cons_of_hit h

/-- Only what the modes of the policy select counts. -/
theorem firstHit_congr {other : Mode → Selection} (h : ∀ m ∈ ms, sel m = other m) :
    firstHit sel ms = firstHit other ms := by
  induction ms with
  | nil => rfl
  | cons m ms ih =>
      have hm : sel m = other m := h m (List.mem_cons_self ..)
      have hms : firstHit sel ms = firstHit other ms :=
        ih fun m' hm' => h m' (List.mem_cons_of_mem _ hm')
      by_cases hmiss : sel m = .miss
      · rw [firstHit_cons_of_miss hmiss, firstHit_cons_of_miss (hm ▸ hmiss), hms]
      · rw [firstHit_cons_of_hit hmiss, firstHit_cons_of_hit (hm ▸ hmiss), hm]

end

section

variable {σ : Type} {attempt : Mode → σ → Selection × σ} {m : Mode} {notes : σ}

theorem tryModes_cons_of_miss (h : (attempt m notes).1 = .miss) (ms : List Mode) :
    tryModes attempt (m :: ms) notes = tryModes attempt ms (attempt m notes).2 := by
  rw [tryModes]
  rcases hm : attempt m notes with ⟨s, between⟩
  rw [hm] at h
  obtain rfl : s = .miss := h
  rfl

theorem tryModes_cons_of_hit (h : (attempt m notes).1 ≠ .miss) (ms : List Mode) :
    tryModes attempt (m :: ms) notes = attempt m notes := by
  rw [tryModes]
  rcases hm : attempt m notes with ⟨s, between⟩
  rw [hm] at h
  cases s with
  | miss => exact absurd rfl h
  | stored value => rfl
  | callerDefault => rfl
  | unsupported mode level => rfl

/-- **A run selects what its first hit selects**, if no mode looks at the notes of
those before it. -/
theorem tryModes_fst_eq_firstHit (sel : Mode → Selection)
    (hsel : ∀ m notes, (attempt m notes).1 = sel m) (ms : List Mode) (notes : σ) :
    (tryModes attempt ms notes).1 = firstHit sel ms := by
  induction ms generalizing notes with
  | nil => rfl
  | cons m ms ih =>
      by_cases hm : sel m = .miss
      · rw [tryModes_cons_of_miss ((hsel m notes).trans hm), ih, firstHit_cons_of_miss hm]
      · have hhit : (attempt m notes).1 ≠ .miss := by rwa [hsel m notes]
        rw [tryModes_cons_of_hit hhit, hsel m notes, firstHit_cons_of_hit hm]

theorem tryModes_append_of_hit {ms : List Mode} (h : (tryModes attempt ms notes).1 ≠ .miss)
    (later : List Mode) :
    tryModes attempt (ms ++ later) notes = tryModes attempt ms notes := by
  induction ms generalizing notes with
  | nil => exact absurd rfl h
  | cons m ms ih =>
      by_cases hm : (attempt m notes).1 = .miss
      · rw [tryModes_cons_of_miss hm] at h
        rw [List.cons_append, tryModes_cons_of_miss hm, tryModes_cons_of_miss hm, ih h]
      · rw [List.cons_append, tryModes_cons_of_hit hm, tryModes_cons_of_hit hm]

theorem tryModes_append_of_miss {ms : List Mode} (h : (tryModes attempt ms notes).1 = .miss)
    (later : List Mode) :
    tryModes attempt (ms ++ later) notes =
      tryModes attempt later (tryModes attempt ms notes).2 := by
  induction ms generalizing notes with
  | nil => rfl
  | cons m ms ih =>
      by_cases hm : (attempt m notes).1 = .miss
      · rw [tryModes_cons_of_miss hm] at h
        rw [List.cons_append, tryModes_cons_of_miss hm, tryModes_cons_of_miss hm, ih h]
      · exact absurd h (by rwa [tryModes_cons_of_hit hm])

/-- **A mode that misses and notes nothing can be left out of a run.** -/
theorem tryModes_filter_ne (hskip : ∀ notes, attempt m notes = (.miss, notes)) (ms : List Mode)
    (notes : σ) :
    tryModes attempt (ms.filter (· ≠ m)) notes = tryModes attempt ms notes := by
  induction ms generalizing notes with
  | nil => rfl
  | cons other ms ih =>
      by_cases hm : other = m
      · subst hm
        have hmiss : (attempt other notes).1 = .miss := by rw [hskip]
        rw [List.filter_cons_of_neg (by simp), ih, tryModes_cons_of_miss hmiss, hskip]
      · rw [List.filter_cons_of_pos (by simpa using hm)]
        by_cases hmiss : (attempt other notes).1 = .miss
        · rw [tryModes_cons_of_miss hmiss, tryModes_cons_of_miss hmiss, ih]
        · rw [tryModes_cons_of_hit hmiss, tryModes_cons_of_hit hmiss]

end

namespace Resolver

variable {r : Resolver} {n : Node} {name : String} {type : Option PropertyType} {v : Variant}

theorem selectFlat_eq_firstHit (level : Level) (lookup : Variant → Option Json) (v : Variant)
    (policy : Policy) :
    r.selectFlat level lookup v policy = firstHit (r.attemptFlat level lookup v) policy.modes :=
  tryModes_fst_eq_firstHit (r.attemptFlat level lookup v) (fun _ _ => rfl) policy.modes ()

/-- What one mode selects on a node. -/
def contentSelection (r : Resolver) (n : Node) (name : String) (type : Option PropertyType)
    (v : Variant) (m : Mode) : Selection :=
  (r.attemptContent n name type v m {}).1

/-- What was noted before does not change what a mode selects. -/
theorem fst_attemptContent (type : Option PropertyType) (v : Variant) (m : Mode) (trail : Trail) :
    (r.attemptContent n name type v m trail).1 = r.contentSelection n name type v m := by
  cases m with
  | none => rfl
  | defaultValue => rfl
  | language =>
      simp only [contentSelection, attemptContent]
      split <;> rfl
  | ancestors => rfl
  | defaultLanguage => rfl

/-- **A run notes what its modes do**, up to the first that hits. -/
theorem unset_tryModes (ms : List Mode) (trail : Trail) :
    (tryModes (r.attemptContent n name type v) ms trail).2.unset =
      trail.unset.or
        (r.noted n name (ms.take (hits (r.contentSelection n name type v) ms + 1))) := by
  induction ms generalizing trail with
  | nil => simp [tryModes, noted]
  | cons m ms ih =>
      have hsel : (r.attemptContent n name type v m trail).1 = r.contentSelection n name type v m :=
        fst_attemptContent type v m trail
      by_cases hm : r.contentSelection n name type v m = .miss
      · -- What the mode notes comes before what the rest of the run does.
        rw [tryModes_cons_of_miss (hsel.trans hm), ih, unset_attemptContent, Option.or_assoc,
          ← noted_cons, hits_cons_of_miss hm, List.take_succ_cons]
      · have hhit : (r.attemptContent n name type v m trail).1 ≠ .miss := by rwa [hsel]
        rw [tryModes_cons_of_hit hhit, unset_attemptContent, hits_cons_of_hit hm,
          List.take_succ_cons, List.take_zero]

end Resolver

/-! ## Asking with one mode -/

/-- Whether an answer is that no mode led to a value. -/
def missed {α ε : Type} : Except (ResolveError ε) (Resolution α) → Bool
  | .ok .notFound => true
  | _ => false

namespace Request

variable {α ε : Type}

/-- The request with one mode for its policy. -/
def only (q : Request α ε) (m : Mode) : Request α ε :=
  { q with policy := .single m }

/-- The place of the first mode that does not miss when it is all of the policy; the
number of modes, if all miss. -/
def decisive (q : Request α ε)
    (ask : Request α ε → Except (ResolveError ε) (Resolution α)) : Nat :=
  q.policy.modes.findIdx fun m => !missed (ask (q.only m))

/-- What the decisive mode answers when it is all of the policy; a miss, if there is
none. -/
def decided (q : Request α ε) (ask : Request α ε → Except (ResolveError ε) (Resolution α)) :
    Except (ResolveError ε) (Resolution α) :=
  match q.policy.modes[q.decisive ask]? with
  | some m => ask (q.only m)
  | none => .ok .notFound

theorem missed_resolution (q : Request α ε) (name : String) (s : Selection) :
    missed (q.resolution name s) = s.isMiss := by
  have hiff : q.resolution name s = .ok .notFound ↔ s = .miss :=
    Selection.resolution_eq_notFound
  by_cases hs : s = .miss
  · rw [hiff.mpr hs, hs]
    rfl
  · have hanswer : q.resolution name s ≠ .ok .notFound := mt hiff.mp hs
    rw [Bool.eq_false_iff.mpr (mt Selection.isMiss_iff.mp hs)]
    unfold missed
    split
    · next h => exact absurd h hanswer
    · rfl

variable {ask : Request α ε → Except (ResolveError ε) (Resolution α)} {sel : Mode → Selection}
  {name : String} {q : Request α ε}

theorem decisive_eq_hits
    (hask : ∀ policy, ask { q with policy := policy } =
      q.resolution name (firstHit sel policy.modes)) :
    q.decisive ask = hits sel q.policy.modes := by
  unfold decisive hits
  congr 1
  funext m
  rw [only, hask, missed_resolution, Policy.single, firstHit_single]

theorem eq_decided
    (hask : ∀ policy, ask { q with policy := policy } =
      q.resolution name (firstHit sel policy.modes)) :
    ask q = q.decided ask := by
  have hall : ask q = q.resolution name (firstHit sel q.policy.modes) := hask q.policy
  have hone : ∀ m, ask (q.only m) = q.resolution name (sel m) := fun m => by
    rw [only, hask, Policy.single, firstHit_single]
  rw [hall, decided, decisive_eq_hits hask, firstHit]
  cases q.policy.modes[hits sel q.policy.modes]? with
  | none => rfl
  | some m => exact (hone m).symm

end Request

namespace Resolver

variable {α ε : Type}

variable {r : Resolver} {q : Request α ε}

theorem tryProperty_eq_firstHit (p : Property) :
    ∃ sel, ∀ policy, r.tryProperty p { q with policy := policy } =
      q.resolution p.name (firstHit sel policy.modes) := by
  simp only [tryProperty, selectProperty]
  exact ⟨_, fun policy => congrArg (q.resolution p.name) (selectFlat_eq_firstHit _ _ _ policy)⟩

theorem tryElement_eq_firstHit (n : Node) (name : String) :
    ∃ sel, ∀ policy, r.tryElement n name { q with policy := policy } =
      q.resolution name (firstHit sel policy.modes) := by
  simp only [tryElement, selectElement]
  cases n.type.property? name with
  | none =>
      refine ⟨fun _ => .miss, fun policy => ?_⟩
      cases h : policy.modes[hits (fun _ => .miss) policy.modes]? <;>
        simp [firstHit, h, Request.resolution]
  | some type =>
      exact ⟨_, fun policy => congrArg (q.resolution name) (selectFlat_eq_firstHit _ _ _ policy)⟩

/-- What one mode selects for a request on a node. -/
def selects (r : Resolver) (n : Node) (name : String) (requested : Variant) (m : Mode) :
    Selection :=
  r.contentSelection n name (n.type.property? name) (r.contentVariant n name requested) m

/-- The answer on a node, without the trail. -/
def contentAnswer (r : Resolver) (n : Node) (name : String) (q : Request α ε) :
    Except (ResolveError ε) (Resolution α) :=
  (r.tryContent n name q).1

theorem contentAnswer_eq_firstHit (n : Node) (name : String) (policy : Policy) :
    r.contentAnswer n name { q with policy := policy } =
      q.resolution name (firstHit (r.selects n name q.variant) policy.modes) :=
  congrArg (q.resolution name) (tryModes_fst_eq_firstHit _ (fst_attemptContent _ _) _ _)

theorem unset_tryContent (n : Node) (name : String) (q : Request α ε) :
    (r.tryContent n name q).2.unset = (ownUnset? n name).or
      (r.noted n name (q.policy.modes.take (q.decisive (r.contentAnswer n name) + 1))) := by
  rw [Request.decisive_eq_hits (contentAnswer_eq_firstHit n name)]
  exact unset_tryModes q.policy.modes { unset := ownUnset? n name }

/-- **The first decisive mode wins, at all three levels.**  A policy is answered as
its first mode is that does not miss on its own.  On a node of the tree, the property
reported as having no value is the node's own, or else the one that going up the tree
reports, if that is tried before the search ends. -/
theorem try_eq_decided (r : Resolver) (q : Request α ε) :
    (∀ p, r.tryProperty p q = q.decided (r.tryProperty p)) ∧
      (∀ n name, r.tryElement n name q = q.decided (r.tryElement n name)) ∧
      ∀ n name, (r.tryContent n name q).1 = q.decided (r.contentAnswer n name) ∧
        (r.tryContent n name q).2.unset =
          (ownUnset? n name).or
            (if .ancestors ∈ q.policy.modes.take (q.decisive (r.contentAnswer n name) + 1)
              then (r.tryContent n name (q.only .ancestors)).2.unset else none) := by
  refine ⟨fun p => ?_, fun n name => ?_, fun n name => ⟨?_, ?_⟩⟩
  · obtain ⟨sel, hsel⟩ := tryProperty_eq_firstHit p
    exact Request.eq_decided hsel
  · obtain ⟨sel, hsel⟩ := tryElement_eq_firstHit n name
    exact Request.eq_decided hsel
  · exact Request.eq_decided (contentAnswer_eq_firstHit n name)
  · have halone : (r.tryContent n name (q.only .ancestors)).2.unset =
        (ownUnset? n name).or (r.tree.ascend r.context name n).unset := by
      rw [unset_tryContent, noted, Request.only, Policy.single, List.take_succ_cons,
        if_pos (List.mem_cons_self ..)]
    rw [unset_tryContent, noted, halone]
    split
    · -- Going up alone puts the node's own property first too.
      rw [← Option.or_assoc, Option.or_self]
    · rfl

end Resolver

end Publishing
