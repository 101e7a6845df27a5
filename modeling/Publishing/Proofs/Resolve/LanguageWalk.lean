import Mathlib.Data.List.Nodup
import Mathlib.Data.List.Perm.Subperm
import Publishing.Proofs.Resolve.LanguageFallback

/-!
# Following fallback links comes to an end

`Languages.chain` ends because a language is taken out of the directory when it is
reached.  A walk that leaves the directory as it is has to remember the codes that it has
followed, and nothing in its shape says that it ends: the links may lead in circles, and
the language it begins with is not among the codes.  Here the walk is taken round by round.

* `Walk.step?` is a round and `Walk.Ends` a walk that comes to an end, with its result and
  the languages in which a value was looked up.
* `Marked` is what a round preserves (`Marked.step?`): the codes followed are codes of the
  directory, none of them twice.  So there are no more of them than languages
  (`Marked.length_le`), which ends every walk (`exists_ends`).
* `Walk.Ends.eq_chain`: the walk reads along the chain that the directory gives when it
  shrinks, up to the first value.

`runs_inChain` puts this together for the language mode.
-/

namespace Publishing.Languages

/-- A walk along fallback links: the language it has come to, and the codes of the links
it has followed, folded. -/
structure Walk where
  place : Language
  followed : List String

/-- One round of a walk.  There is none from a language without a link, nor along a link
whose code was followed before or belongs to no language. -/
def Walk.step? (ls : Languages) (w : Walk) : Option Walk :=
  w.place.fallbackIsoCode.bind fun code =>
    if Culture.fold code ∈ w.followed then none
    else (ls.find? code).map fun next => ⟨next, Culture.fold code :: w.followed⟩

/-- A walk comes to an end, with a result and after look-ups in some languages: each round
looks a value up in the language it leads to, and the first value found ends the walk. -/
inductive Walk.Ends (ls : Languages) (lookup : Variant → Option Json) (v : Variant) :
    Walk → List Language → Option Json → Prop
  | stop {w} : w.step? ls = none → Ends ls lookup v w [] none
  | hit {w next value} : w.step? ls = some next →
      readIn lookup v next.place.isoCode = some value →
      Ends ls lookup v w [next.place] (some value)
  | goOn {w next calls result} : w.step? ls = some next →
      readIn lookup v next.place.isoCode = none → Ends ls lookup v next calls result →
      Ends ls lookup v w (next.place :: calls) result

/-- The language mode, walking: nothing is looked up unless the variant asks for a
language of the directory. -/
inductive Runs (ls : Languages) (lookup : Variant → Option Json) (v : Variant) :
    List Language → Option Json → Prop
  | idle : (∀ l, ¬ ls.Asks v l) → Runs ls lookup v [] none
  | walk {l calls result} : ls.Asks v l → Walk.Ends ls lookup v ⟨l, []⟩ calls result →
      Runs ls lookup v calls result

/-- Codes of the directory, in folded form, none of them twice. -/
structure Marked (ls : Languages) (codes : List String) : Prop where
  nodup : codes.Nodup
  known : ∀ code ∈ codes, code ∈ ls.byCode

variable {ls unread : Languages} {lookup : Variant → Option Json} {v : Variant}
  {w next : Walk} {calls : List Language} {result : Option Json}

/-! ## One round -/

theorem Walk.step?_eq_some_iff :
    w.step? ls = some next ↔
      ∃ code, w.place.fallbackIsoCode = some code ∧ Culture.fold code ∉ w.followed ∧
        ls.find? code = some next.place ∧ next.followed = Culture.fold code :: w.followed := by
  rw [step?, Option.bind_eq_some_iff]
  refine exists_congr fun code => and_congr_right fun _ => ?_
  split
  · next hfollowed => simp [hfollowed]
  · next hfresh =>
    rw [Option.map_eq_some_iff, and_iff_right hfresh]
    constructor
    · rintro ⟨language, hfound, rfl⟩
      exact ⟨hfound, rfl⟩
    · rintro ⟨hfound, hcodes⟩
      exact ⟨next.place, hfound, by rw [← hcodes]⟩

theorem mem_byCode_of_find? {code : String} {l : Language} (h : ls.find? code = some l) :
    Culture.fold code ∈ ls.byCode := by
  rw [Std.ExtTreeMap.mem_iff_isSome_getElem?]
  exact Option.isSome_of_eq_some h

/-- **One round** leads to a language of the directory and marks it, for the first time. -/
theorem Marked.step? (h : ls.Marked w.followed) (hstep : w.step? ls = some next) :
    ls.Marked next.followed ∧ next.place ∈ ls.toList ∧
      next.followed = Culture.fold next.place.isoCode :: w.followed := by
  obtain ⟨code, _, hfresh, hfound, hcodes⟩ := Walk.step?_eq_some_iff.mp hstep
  have hfold : Culture.fold next.place.isoCode = Culture.fold code := fold_of_find? hfound
  refine ⟨⟨?_, ?_⟩, ?_, by rw [hcodes, hfold]⟩
  · rw [hcodes]
    exact List.nodup_cons.mpr ⟨hfresh, h.nodup⟩
  · intro other hother
    rw [hcodes] at hother
    rcases List.mem_cons.mp hother with rfl | hother
    · exact mem_byCode_of_find? hfound
    · exact h.known other hother
  · rw [mem_toList_iff, find?_congr hfold]
    exact hfound

/-! ## Every walk ends -/

theorem marked_nil (ls : Languages) : ls.Marked [] :=
  ⟨List.nodup_nil, by simp⟩

/-- There are no more codes to follow than languages. -/
theorem Marked.length_le {codes : List String} (h : ls.Marked codes) :
    codes.length ≤ ls.size := by
  have hkeys : codes ⊆ ls.byCode.keys := fun code hcode =>
    Std.ExtTreeMap.mem_keys.mpr (h.known code hcode)
  calc codes.length
      ≤ ls.byCode.keys.length := (h.nodup.subperm hkeys).length_le
    _ = ls.size := Std.ExtTreeMap.length_keys

/-- **Every walk ends**, whatever the links and whatever is looked up. -/
theorem exists_ends (lookup : Variant → Option Json) (v : Variant) (h : ls.Marked w.followed) :
    ∃ calls result, Walk.Ends ls lookup v w calls result := by
  -- on the number of languages that have not been marked
  induction hleft : ls.size - w.followed.length using Nat.strong_induction_on generalizing w with
  | _ left ih =>
      cases hstep : w.step? ls with
      | none => exact ⟨_, _, .stop hstep⟩
      | some next =>
          cases hread : readIn lookup v next.place.isoCode with
          | some value => exact ⟨_, _, .hit hstep hread⟩
          | none =>
              obtain ⟨hmarked, _, hcodes⟩ := h.step? hstep
              have hmore : next.followed.length = w.followed.length + 1 := by rw [hcodes]; rfl
              have hle : next.followed.length ≤ ls.size := hmarked.length_le
              obtain ⟨calls, result, hends⟩ := ih _ (by omega) hmarked rfl
              exact ⟨_, _, .goOn hstep hread hends⟩

theorem Walk.Ends.unique {calls' : List Language} {result' : Option Json}
    (h : Walk.Ends ls lookup v w calls result) (h' : Walk.Ends ls lookup v w calls' result') :
    calls' = calls ∧ result' = result := by
  induction h generalizing calls' result' with
  | stop hstep =>
      cases h' with
      | stop _ => exact ⟨rfl, rfl⟩
      | hit hstep' _ | goOn hstep' _ _ => simp [hstep] at hstep'
  | hit hstep hread =>
      cases h' with
      | stop hstep' => simp [hstep] at hstep'
      | hit hstep' hread' =>
          obtain rfl := Option.some.inj (hstep.symm.trans hstep')
          exact ⟨rfl, hread'.symm.trans hread⟩
      | goOn hstep' hread' _ =>
          obtain rfl := Option.some.inj (hstep.symm.trans hstep')
          simp [hread] at hread'
  | goOn hstep hread _ ih =>
      cases h' with
      | stop hstep' => simp [hstep] at hstep'
      | hit hstep' hread' =>
          obtain rfl := Option.some.inj (hstep.symm.trans hstep')
          simp [hread] at hread'
      | goOn hstep' _ hrest =>
          obtain rfl := Option.some.inj (hstep.symm.trans hstep')
          obtain ⟨rfl, rfl⟩ := ih hrest
          exact ⟨rfl, rfl⟩

/-! ## What is looked up on the way -/

/-- The languages looked up are languages of the directory, and they add to the codes
followed, each once. -/
theorem Walk.Ends.marked (h : Walk.Ends ls lookup v w calls result)
    (hmarked : ls.Marked w.followed) :
    (∀ t ∈ calls, t ∈ ls.toList) ∧
      ls.Marked ((calls.map fun t => Culture.fold t.isoCode).reverse ++ w.followed) := by
  induction h with
  | stop _ => exact ⟨by simp, hmarked⟩
  | hit hstep _ =>
      obtain ⟨hnext, hmem, hcodes⟩ := hmarked.step? hstep
      exact ⟨by simpa using hmem, by simpa [← hcodes] using hnext⟩
  | goOn hstep _ _ ih =>
      obtain ⟨hnext, hmem, hcodes⟩ := hmarked.step? hstep
      obtain ⟨hrest, hall⟩ := ih hnext
      exact ⟨List.forall_mem_cons.mpr ⟨hmem, hrest⟩, by simpa [hcodes] using hall⟩

/-- From the start of a walk, no language is looked up twice. -/
theorem Walk.Ends.distinct {l : Language} (h : Walk.Ends ls lookup v ⟨l, []⟩ calls result) :
    calls.length ≤ ls.size ∧ (∀ t ∈ calls, t ∈ ls.toList) ∧
      calls.Pairwise fun a b => Culture.agree a.isoCode b.isoCode = false := by
  obtain ⟨hmem, hmarked⟩ := h.marked (marked_nil ls)
  refine ⟨by simpa using hmarked.length_le, hmem, ?_⟩
  have hnodup : (calls.map fun t => Culture.fold t.isoCode).Nodup := by
    simpa using hmarked.nodup
  exact (List.pairwise_map.mp hnodup).imp fun hne => Culture.agree_eq_false_iff.mpr hne

/-! ## The walk reads along the chain -/

theorem Without.chain_of_step?_none (h : ls.Without unread w.followed)
    (hstep : w.step? ls = none) : unread.chain w.place = [] := by
  cases hlink : w.place.fallbackIsoCode with
  | none => exact chain_of_no_link hlink
  | some code =>
      refine chain_of_dangling hlink ?_
      simpa [Walk.step?, hlink, h code] using hstep

theorem Without.chain_of_step?_some (h : ls.Without unread w.followed)
    (hstep : w.step? ls = some next) :
    ∃ code, unread.chain w.place = next.place :: (unread.erase code).chain next.place ∧
      ls.Without (unread.erase code) next.followed := by
  obtain ⟨code, hlink, hfresh, hfound, hcodes⟩ := Walk.step?_eq_some_iff.mp hstep
  refine ⟨code, chain_of_found hlink ?_, ?_⟩
  · rw [h code, if_neg hfresh, hfound]
  · rw [hcodes]
    exact h.erase code

/-- The languages at which a search for a value along a list looks: those up to the first
one that has a value. -/
def lookedAt (lookup : Variant → Option Json) (v : Variant) (chain : List Language) :
    List Language :=
  chain.take (chain.findIdx (fun t => (readIn lookup v t.isoCode).isSome) + 1)

/-- A walk gives the first value along the chain, and looks where a search along the
chain looks. -/
theorem Walk.Ends.eq_chain (h : Walk.Ends ls lookup v w calls result)
    (hunread : ls.Without unread w.followed) :
    result = (unread.chain w.place).findSome? (fun t => readIn lookup v t.isoCode) ∧
      calls = lookedAt lookup v (unread.chain w.place) := by
  induction h generalizing unread with
  | stop hstep => simp [hunread.chain_of_step?_none hstep, lookedAt]
  | hit hstep hread =>
      obtain ⟨code, hchain, _⟩ := hunread.chain_of_step?_some hstep
      simp [hchain, hread, lookedAt, List.findIdx_cons]
  | goOn hstep hread _ ih =>
      obtain ⟨code, hchain, hrest⟩ := hunread.chain_of_step?_some hstep
      obtain ⟨hresult, hcalls⟩ := ih hrest
      rw [hchain, List.findSome?_cons, hread, hresult, hcalls]
      simp [lookedAt, List.findIdx_cons, hread]

theorem asks_unique {l l' : Language} (h : ls.Asks v l) (h' : ls.Asks v l') : l = l' := by
  obtain ⟨culture, hculture, _, hfound⟩ := h
  obtain ⟨culture', hculture', _, hfound'⟩ := h'
  obtain rfl := Option.some.inj (hculture.symm.trans hculture')
  exact Option.some.inj (hfound.symm.trans hfound')

theorem inChain_of_asks {l : Language} (h : ls.Asks v l) :
    ls.inChain lookup v = (ls.chain l).findSome? fun t => readIn lookup v t.isoCode := by
  apply Option.ext
  intro value
  rw [inChain_eq_some_iff_chain]
  constructor
  · rintro ⟨l', hl', hvalue⟩
    rwa [asks_unique h hl']
  · intro hvalue
    exact ⟨l, h, hvalue⟩

theorem inChain_of_not_asks (h : ∀ l, ¬ ls.Asks v l) : ls.inChain lookup v = none := by
  rw [Option.eq_none_iff_forall_ne_some]
  intro value hvalue
  obtain ⟨l, hl, _⟩ := inChain_eq_some_iff_chain.mp hvalue
  exact h l hl

/-- **The language mode ends on every graph of languages.**  Whatever the links, the
culture asked for and the look-up function, walking along the links comes to an end, in one
way only and with the answer of the mode.  On the way a value is looked up at most once
for each language of the directory, in its own spelling, and nowhere else: along the chain
of the language asked for, up to the first value. -/
theorem runs_inChain (ls : Languages) (lookup : Variant → Option Json) (v : Variant) :
    ∃ calls, Runs ls lookup v calls (ls.inChain lookup v) ∧
      (∀ calls' result, Runs ls lookup v calls' result →
        calls' = calls ∧ result = ls.inChain lookup v) ∧
      calls.length ≤ ls.size ∧ (∀ t ∈ calls, t ∈ ls.toList) ∧
      (calls.Pairwise fun a b => Culture.agree a.isoCode b.isoCode = false) ∧
      ∀ l, ls.Asks v l → calls = lookedAt lookup v (ls.chain l) := by
  by_cases hasks : ∃ l, ls.Asks v l
  · obtain ⟨l, hl⟩ := hasks
    obtain ⟨calls, result, hends⟩ := exists_ends (w := ⟨l, []⟩) lookup v (marked_nil ls)
    have hall : ls.Without ls [] := fun code => by simp
    obtain ⟨hresult, hcalls⟩ := hends.eq_chain hall
    obtain ⟨hlength, hmem, hdistinct⟩ := hends.distinct
    obtain rfl : result = ls.inChain lookup v := by rw [inChain_of_asks hl, hresult]
    refine ⟨calls, .walk hl hends, ?_, hlength, hmem, hdistinct, fun l' hl' => ?_⟩
    · rintro calls' result (hidle | ⟨hl', hends'⟩)
      · exact absurd hl (hidle l)
      · obtain rfl := asks_unique hl hl'
        exact hends.unique hends'
    · rw [asks_unique hl' hl]
      exact hcalls
  · have hidle : ∀ l, ¬ ls.Asks v l := not_exists.mp hasks
    rw [inChain_of_not_asks hidle]
    refine ⟨[], .idle hidle, ?_, by simp, by simp, .nil, fun l hl => absurd hl (hidle l)⟩
    rintro calls' result (_ | ⟨hl, _⟩)
    · exact ⟨rfl, rfl⟩
    · exact absurd hl (hidle _)

/-- The bound is met: where two languages fall back to each other, a request in one of them
that finds no value looks at the other and then at the one it began with. -/
theorem runs_inChain_nordic :
    ∃ calls, Runs nordic (fun _ => none) { culture := some "DA-DK" } calls
        (nordic.inChain (fun _ => none) { culture := some "DA-DK" }) ∧
      calls = [norwegian, danish] ∧ calls.length = nordic.size := by
  have hnorwegian : Walk.step? nordic ⟨danish, []⟩ = some ⟨norwegian, ["nb-no"]⟩ :=
    Walk.step?_eq_some_iff.mpr ⟨"nb-NO", rfl, by simp, by
      rw [find?_nordic, if_pos (by decide +kernel)], by decide +kernel⟩
  have hdanish : Walk.step? nordic ⟨norwegian, ["nb-no"]⟩ = some ⟨danish, ["da-dk", "nb-no"]⟩ :=
    Walk.step?_eq_some_iff.mpr ⟨"DA-dk", rfl, by decide +kernel, by
      rw [find?_nordic, if_neg (by decide +kernel), if_pos (by decide +kernel)], by decide +kernel⟩
  have hback : Walk.step? nordic ⟨danish, ["da-dk", "nb-no"]⟩ = none := by
    rw [Option.eq_none_iff_forall_ne_some]
    intro next hnext
    obtain ⟨code, hlink, hfresh, _⟩ := Walk.step?_eq_some_iff.mp hnext
    obtain rfl := Option.some.inj hlink
    exact hfresh (by decide +kernel)
  have hruns : Runs nordic (fun _ => none) { culture := some "DA-DK" } [norwegian, danish] none :=
    .walk asks_danish (.goOn hnorwegian rfl (.goOn hdanish rfl (.stop hback)))
  obtain ⟨calls, hcalls, hunique, _⟩ := runs_inChain nordic (fun _ => none) { culture := some "DA-DK" }
  obtain ⟨rfl, _⟩ := hunique _ _ hruns
  exact ⟨_, hcalls, rfl, by decide +kernel⟩

end Publishing.Languages
