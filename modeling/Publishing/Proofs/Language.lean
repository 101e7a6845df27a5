import Mathlib.Data.Nat.Find
import Mathlib.Logic.ExistsUnique
import Publishing.Language

/-!
# Fallback links and fallback chains

`Languages.chain` takes every language it reaches out of the directory, so that
a link back to it leads nowhere.  Here the chain is compared with the links
themselves, followed one after another through the whole directory and without
looking back.

* `link?` is the code that the `k`-th link names and `reached?` the language that
  has it.  On a cycle there is no last link.
* `IsTarget`: link `k` leads to a language, and no two links up to it name the
  same culture.
* `getElem?_chain_iff`: the chain lists the targets in order.  The invariant is
  `Without`: what is left of the directory is all of it but the cultures read.
* `existsUnique_return`: a language that its own links lead back to is a target of
  its own, once.
-/

namespace Publishing

theorem Culture.agree_eq_false_iff {a b : String} : agree a b = false ↔ fold a ≠ fold b := by
  rw [← Bool.not_eq_true, agree_iff]

namespace Languages

/-- The code that a link names, when the links before it have been followed. -/
def link? (ls : Languages) : Nat → Language → Option String
  | 0, l => l.fallbackIsoCode
  | k + 1, l => (l.fallbackIsoCode.bind ls.find?).bind (ls.link? k)

/-- The language that a link leads to. -/
def reached? (ls : Languages) (k : Nat) (l : Language) : Option Language :=
  (ls.link? k l).bind ls.find?

/-- Link `k` leads to `t`, and no two of the links up to it name the same culture. -/
structure IsTarget (ls : Languages) (l : Language) (k : Nat) (t : Language) : Prop where
  reached : ls.reached? k l = some t
  fresh : ∀ i j, i < j → j ≤ k → ∀ a ∈ ls.link? i l, ∀ b ∈ ls.link? j l, Culture.agree a b = false

variable {ls unread : Languages} {l t u : Language} {j k : Nat}

/-! ## Looking up -/

theorem find?_congr {a b : String} (h : Culture.fold a = Culture.fold b) :
    ls.find? a = ls.find? b := by
  rw [find?, find?, h]

theorem fold_of_find? {code : String} (h : ls.find? code = some l) :
    Culture.fold l.isoCode = Culture.fold code :=
  (ls.keyed _ l h).symm

theorem find?_add (ls : Languages) (new : Language) (code : String) :
    (ls.add new).find? code =
      if Culture.fold new.isoCode = Culture.fold code then some new else ls.find? code := by
  simp only [find?, add, Std.ExtTreeMap.getElem?_insert, Std.LawfulEqCmp.compare_eq_iff_eq]

theorem find?_erase (ls : Languages) (read code : String) :
    (ls.erase read).find? code =
      if Culture.fold read = Culture.fold code then none else ls.find? code := by
  simp only [find?, erase, Std.ExtTreeMap.getElem?_erase, Std.LawfulEqCmp.compare_eq_iff_eq]

theorem mem_toList_iff : l ∈ ls.toList ↔ ls.find? l.isoCode = some l := by
  have hvalues : ls.toList = ls.byCode.foldr (fun _ l rest => l :: rest) [] := rfl
  rw [hvalues, Std.ExtTreeMap.foldr_eq_foldr_toList, ← List.map_eq_foldr, List.mem_map]
  constructor
  · rintro ⟨⟨code, l⟩, hmem, rfl⟩
    have hstored := Std.ExtTreeMap.mem_toList_iff_getElem?_eq_some.mp hmem
    rw [Languages.find?, ← ls.keyed code l hstored]
    exact hstored
  · intro hfound
    exact ⟨(Culture.fold l.isoCode, l),
      Std.ExtTreeMap.mem_toList_iff_getElem?_eq_some.mpr hfound, rfl⟩

theorem mem_toList_add {new : Language} (h : l ∈ (ls.add new).toList) :
    l = new ∨ l ∈ ls.toList := by
  rw [mem_toList_iff, find?_add] at h
  split at h
  · exact .inl (Option.some.inj h).symm
  · exact .inr (mem_toList_iff.mpr h)

/-! ## Following links -/

/-- From the language that a link leads to, the links go on as before. -/
theorem link?_add (ls : Languages) (j k : Nat) (l : Language) :
    ls.link? (j + 1 + k) l = (ls.reached? j l).bind (ls.link? k) := by
  induction j generalizing l with
  | zero => rw [Nat.zero_add, Nat.add_comm 1 k]; rfl
  | succ j ih =>
      rw [show j + 1 + 1 + k = j + 1 + k + 1 by omega, link?]
      cases hnext : l.fallbackIsoCode.bind ls.find? with
      | none => simp [reached?, link?, hnext]
      | some next =>
          rw [Option.bind_some, ih next]
          simp only [reached?, link?, hnext, Option.bind_some]

theorem link?_succ_of_reached (h : ls.reached? 0 l = some u) (k : Nat) :
    ls.link? (k + 1) l = ls.link? k u := by
  rw [show k + 1 = 0 + 1 + k by omega, link?_add, h, Option.bind_some]

theorem reached?_succ_of_reached (h : ls.reached? 0 l = some u) (k : Nat) :
    ls.reached? (k + 1) l = ls.reached? k u := by
  rw [reached?, link?_succ_of_reached h, ← reached?]

/-- A link leads to the language of the culture it names. -/
theorem fold_of_reached {code : String} (ht : ls.reached? k l = some t)
    (hcode : ls.link? k l = some code) : Culture.fold t.isoCode = Culture.fold code := by
  rw [reached?, hcode, Option.bind_some] at ht
  exact fold_of_find? ht

/-! ## The chain lists the targets -/

/-- What is left of a directory when some cultures have been read. -/
def Without (ls unread : Languages) (read : List String) : Prop :=
  ∀ code, unread.find? code = if Culture.fold code ∈ read then none else ls.find? code

theorem Without.erase {read : List String} (h : ls.Without unread read) (code : String) :
    ls.Without (unread.erase code) (Culture.fold code :: read) := by
  intro other
  rw [find?_erase, h other]
  by_cases hsame : Culture.fold code = Culture.fold other
  · rw [if_pos hsame, if_pos (List.mem_cons.mpr (.inl hsame.symm))]
  · simp [hsame, Ne.symm hsame]

theorem chain_of_no_link (hlink : l.fallbackIsoCode = none) : ls.chain l = [] := by
  rw [chain]
  split
  · rfl
  · next h => exact absurd (hlink.symm.trans h) (by simp)

theorem chain_of_dangling {code : String} (hlink : l.fallbackIsoCode = some code)
    (hfound : ls.find? code = none) : ls.chain l = [] := by
  rw [chain]
  simp only [hlink]
  split
  · rfl
  · next h => exact absurd (hfound.symm.trans h) (by simp)

theorem chain_of_found {code : String} {next : Language} (hlink : l.fallbackIsoCode = some code)
    (hfound : ls.find? code = some next) : ls.chain l = next :: (ls.erase code).chain next := by
  rw [chain]
  simp only [hlink]
  split
  · next h => exact absurd (hfound.symm.trans h) (by simp)
  · next h => rw [Option.some.inj (hfound.symm.trans h)]

theorem getElem?_zero_chain (unread : Languages) (l : Language) :
    (unread.chain l)[0]? = l.fallbackIsoCode.bind unread.find? := by
  cases hlink : l.fallbackIsoCode with
  | none => rw [chain_of_no_link hlink]; rfl
  | some code =>
      rw [Option.bind_some]
      cases hfound : unread.find? code with
      | none => rw [chain_of_dangling hlink hfound]; rfl
      | some next => rw [chain_of_found hlink hfound]; rfl

theorem getElem?_succ_chain (unread : Languages) (l : Language) (k : Nat) :
    (unread.chain l)[k + 1]? =
      l.fallbackIsoCode.bind fun code => (unread.find? code).bind fun next =>
        ((unread.erase code).chain next)[k]? := by
  cases hlink : l.fallbackIsoCode with
  | none => rw [chain_of_no_link hlink]; rfl
  | some code =>
      rw [Option.bind_some]
      cases hfound : unread.find? code with
      | none => rw [chain_of_dangling hlink hfound]; rfl
      | some next => rw [chain_of_found hlink hfound]; rfl

/-- The links up to `k` name no culture that has been read. -/
def Avoids (ls : Languages) (l : Language) (k : Nat) (read : List String) : Prop :=
  ∀ j ≤ k, ∀ a ∈ ls.link? j l, Culture.fold a ∉ read

theorem avoids_cons_iff {culture : String} {read : List String} :
    ls.Avoids l k (culture :: read) ↔ ls.Avoids l k [culture] ∧ ls.Avoids l k read := by
  simp only [Avoids, List.mem_cons, List.not_mem_nil, or_false, not_or]
  constructor
  · intro h
    exact ⟨fun j hj a ha => (h j hj a ha).1, fun j hj a ha => (h j hj a ha).2⟩
  · rintro ⟨hculture, hread⟩ j hj a ha
    exact ⟨hculture j hj a ha, hread j hj a ha⟩

section

variable {code : String} {next : Language} {read : List String}

theorem reached?_zero_of_link (hlink : l.fallbackIsoCode = some code) :
    ls.reached? 0 l = ls.find? code := by
  rw [reached?, link?, hlink, Option.bind_some]

theorem avoids_zero_iff (hlink : l.fallbackIsoCode = some code) :
    ls.Avoids l 0 read ↔ Culture.fold code ∉ read := by
  constructor
  · intro h
    exact h 0 le_rfl code hlink
  · intro h j hj a ha
    obtain rfl : j = 0 := by omega
    obtain rfl := Option.some.inj (hlink.symm.trans ha)
    exact h

theorem avoids_succ_iff (hlink : l.fallbackIsoCode = some code)
    (hfound : ls.find? code = some next) :
    ls.Avoids l (k + 1) read ↔ Culture.fold code ∉ read ∧ ls.Avoids next k read := by
  have hnext : ls.reached? 0 l = some next := by rw [reached?_zero_of_link hlink, hfound]
  constructor
  · intro h
    refine ⟨h 0 (by omega) code hlink, fun j hj a ha => h (j + 1) (by omega) a ?_⟩
    rwa [link?_succ_of_reached hnext]
  · rintro ⟨hcode, hread⟩ j hj a ha
    cases j with
    | zero => exact (avoids_zero_iff hlink).mpr hcode 0 le_rfl a ha
    | succ j =>
        rw [link?_succ_of_reached hnext] at ha
        exact hread j (by omega) a ha

theorem isTarget_zero_iff : ls.IsTarget l 0 t ↔ ls.reached? 0 l = some t := by
  constructor
  · exact IsTarget.reached
  · intro h
    exact ⟨h, fun i j hij hj => by omega⟩

/-- A later target is one of the next language, as long as no link leads back there. -/
theorem isTarget_succ_iff (hlink : l.fallbackIsoCode = some code)
    (hfound : ls.find? code = some next) :
    ls.IsTarget l (k + 1) t ↔ ls.IsTarget next k t ∧ ls.Avoids next k [Culture.fold code] := by
  have hnext : ls.reached? 0 l = some next := by rw [reached?_zero_of_link hlink, hfound]
  have hshift : ∀ j, ls.link? (j + 1) l = ls.link? j next := link?_succ_of_reached hnext
  constructor
  · rintro ⟨hreached, hfresh⟩
    rw [reached?_succ_of_reached hnext] at hreached
    refine ⟨⟨hreached, ?_⟩, ?_⟩
    · intro i j hij hj a ha b hb
      rw [← hshift] at ha hb
      exact hfresh (i + 1) (j + 1) (by omega) (by omega) a ha b hb
    · intro j hj a ha
      rw [← hshift] at ha
      have hne := hfresh 0 (j + 1) (by omega) (by omega) code hlink a ha
      simpa using (Culture.agree_eq_false_iff.mp hne).symm
  · rintro ⟨⟨hreached, hfresh⟩, havoid⟩
    rw [← reached?_succ_of_reached hnext] at hreached
    refine ⟨hreached, ?_⟩
    intro i j hij hj a ha b hb
    obtain ⟨j, rfl⟩ : ∃ m, j = m + 1 := ⟨j - 1, by omega⟩
    rw [hshift] at hb
    cases i with
    | zero =>
        obtain rfl := Option.some.inj (hlink.symm.trans ha)
        have hne := havoid j (by omega) b hb
        exact Culture.agree_eq_false_iff.mpr fun hsame => hne (by simp [hsame])
    | succ i =>
        rw [hshift] at ha
        exact hfresh i j (by omega) (by omega) a ha b hb

end

/-- With some cultures read, the chain lists the targets up to the first of these. -/
theorem Without.getElem?_chain_iff {read : List String} (h : ls.Without unread read) :
    (unread.chain l)[k]? = some t ↔ ls.IsTarget l k t ∧ ls.Avoids l k read := by
  -- Each link takes its culture from the directory left and adds it to those read.
  induction k generalizing unread read l with
  | zero =>
      rw [getElem?_zero_chain, isTarget_zero_iff]
      cases hlink : l.fallbackIsoCode with
      | none => simp [reached?, link?, hlink]
      | some code =>
          rw [avoids_zero_iff hlink, reached?_zero_of_link hlink, Option.bind_some, h code]
          split <;> simp [*]
  | succ k ih =>
      rw [getElem?_succ_chain]
      cases hlink : l.fallbackIsoCode with
      | none =>
          have hnone : ¬ ls.IsTarget l (k + 1) t := fun ht => by
            simpa [reached?, link?, hlink] using ht.reached
          simp [hnone]
      | some code =>
          rw [Option.bind_some, h code]
          cases hfound : ls.find? code with
          | none =>
              have hnone : ¬ ls.IsTarget l (k + 1) t := fun ht => by
                simpa [reached?, link?, hlink, hfound] using ht.reached
              simp [hnone]
          | some next =>
              rw [isTarget_succ_iff hlink hfound, avoids_succ_iff hlink hfound]
              by_cases hread : Culture.fold code ∈ read
              · simp [hread]
              · rw [if_neg hread, Option.bind_some, ih (h.erase code), avoids_cons_iff]
                simp [hread, and_assoc]

/-- **The chain of a language lists its targets in order.** -/
theorem getElem?_chain_iff : (ls.chain l)[k]? = some t ↔ ls.IsTarget l k t := by
  have hall : ls.Without ls [] := fun code => by simp
  rw [hall.getElem?_chain_iff]
  exact and_iff_left fun j _ a _ => List.not_mem_nil

/-! ## No culture twice -/

theorem IsTarget.place_unique (ht : ls.IsTarget l j t) (hu : ls.IsTarget l k u)
    (hsame : Culture.fold t.isoCode = Culture.fold u.isoCode) : j = k := by
  obtain ⟨a, ha, _⟩ := Option.bind_eq_some_iff.mp ht.reached
  obtain ⟨b, hb, _⟩ := Option.bind_eq_some_iff.mp hu.reached
  have hcodes : Culture.fold a = Culture.fold b :=
    calc Culture.fold a
        = Culture.fold t.isoCode := (fold_of_reached ht.reached ha).symm
      _ = Culture.fold u.isoCode := hsame
      _ = Culture.fold b := fold_of_reached hu.reached hb
  by_contra hne
  rcases Nat.lt_or_gt_of_ne hne with hlt | hgt
  · exact Culture.agree_eq_false_iff.mp (hu.fresh j k hlt le_rfl a ha b hb) hcodes
  · exact Culture.agree_eq_false_iff.mp (ht.fresh k j hgt le_rfl b hb a ha) hcodes.symm

/-- The first link back to a language closes a cycle on which no culture occurs twice. -/
theorem isTarget_of_first_return (hback : ls.reached? k l = some l)
    (hearlier : ∀ j < k, ls.reached? j l ≠ some l) : ls.IsTarget l k l := by
  refine ⟨hback, fun i j hij hj a ha b hb => Culture.agree_eq_false_iff.mpr fun hagree => ?_⟩
  have hsame : ls.reached? i l = ls.reached? j l := by
    rw [reached?, reached?, ha, hb, Option.bind_some, Option.bind_some, find?_congr hagree]
  rcases Nat.lt_or_eq_of_le hj with hlt | rfl
  · -- Two links to one culture go on alike, so the way back would have been shorter.
    obtain ⟨m, rfl⟩ : ∃ m, k = j + 1 + m := ⟨k - (j + 1), by omega⟩
    refine hearlier (i + 1 + m) (by omega) ?_
    calc ls.reached? (i + 1 + m) l
        = ((ls.reached? i l).bind (ls.link? m)).bind ls.find? := by rw [reached?, link?_add]
      _ = ((ls.reached? j l).bind (ls.link? m)).bind ls.find? := by rw [hsame]
      _ = ls.reached? (j + 1 + m) l := by rw [← link?_add, ← reached?]
      _ = some l := hback
  · exact hearlier i hij (hsame.trans hback)

/-- **A language that its links lead back to is its own target, once.** -/
theorem existsUnique_return (h : ls.reached? k l = some l) : ∃! j, ls.IsTarget l j l := by
  have hex : ∃ j, ls.reached? j l = some l := ⟨k, h⟩
  have hfirst : ls.IsTarget l (Nat.find hex) l :=
    isTarget_of_first_return (Nat.find_spec hex) fun j => Nat.find_min hex
  exact ⟨Nat.find hex, hfirst, fun j hj => hj.place_unique hfirst rfl⟩

end Languages

end Publishing
