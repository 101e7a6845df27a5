import Publishing.Proofs.Language
import Publishing.Resolve.LanguageFallback

/-!
# What fallback languages read

Following the fallback links of the requested language reads the targets in
order and stops at the first value.  `inChain_iff_first_target` says so without
the directory shrinking on the way: the targets are those of `IsTarget`, where
links are followed through the whole directory.

`nordic` is a site whose two languages fall back to each other.
-/

namespace Publishing.Languages

/-- A language of the directory that a variant asks for. -/
def Asks (ls : Languages) (v : Variant) (l : Language) : Prop :=
  ∃ culture, v.culture = some culture ∧ Text.isBlank culture = false ∧ ls.find? culture = some l

/-- A look-up gives a value other than `null` in a language, spelled as that language
spells itself, and in the segment of a variant. -/
def Reads (lookup : Variant → Option Json) (v : Variant) (t : Language) (value : Json) : Prop :=
  lookup ⟨some t.isoCode, v.segment⟩ = some value ∧ value ≠ .null

variable {ls : Languages} {lookup : Variant → Option Json} {v : Variant}

theorem readIn_eq_some_iff {t : Language} {value : Json} :
    readIn lookup v t.isoCode = some value ↔ Reads lookup v t value := by
  rw [readIn, Option.filter_eq_some_iff, Reads]
  refine and_congr_right fun _ => ?_
  cases value <;> simp [Json.isNull]

/-- The mode reads along the chain of the language asked for. -/
theorem inChain_eq_some_iff_chain {value : Json} :
    ls.inChain lookup v = some value ↔
      ∃ l, ls.Asks v l ∧
        (ls.chain l).findSome? (fun t => readIn lookup v t.isoCode) = some value := by
  simp only [inChain, askedFor, Asks, Option.bind_eq_bind, Option.bind_eq_some_iff,
    Option.filter_eq_some_iff]
  constructor
  · rintro ⟨culture, ⟨hculture, hblank⟩, l, hfound, hvalue⟩
    exact ⟨l, ⟨culture, hculture, by simpa using hblank, hfound⟩, hvalue⟩
  · rintro ⟨l, ⟨culture, hculture, hblank, hfound⟩, hvalue⟩
    exact ⟨culture, ⟨hculture, by simpa using hblank⟩, l, hfound, hvalue⟩

/-- The mode reads the default language, unless it is the one asked for. -/
theorem inDefault_eq_some_iff {value : Json} :
    ls.inDefault lookup v = some value ↔
      ∃ culture default, v.culture = some culture ∧ Text.isBlank culture = false ∧
        ls.defaultIsoCode? = some default ∧ Culture.agree culture default = false ∧
        readIn lookup v default = some value := by
  simp only [inDefault, askedFor, Option.bind_eq_bind, Option.bind_eq_some_iff,
    Option.filter_eq_some_iff]
  constructor
  · rintro ⟨culture, ⟨hculture, hblank⟩, default, hdefault, hvalue⟩
    split at hvalue
    · cases hvalue
    · next hother =>
      exact ⟨culture, default, hculture, by simpa using hblank, hdefault,
        Bool.eq_false_iff.mpr hother, hvalue⟩
  · rintro ⟨culture, default, hculture, hblank, hdefault, hother, hvalue⟩
    exact ⟨culture, ⟨hculture, by simpa using hblank⟩, default, hdefault, by rwa [hother]⟩

/-- The first element with an answer, by its place. -/
theorem findSome?_eq_some_iff_place {α β : Type} {f : α → Option β} {xs : List α} {b : β} :
    xs.findSome? f = some b ↔
      ∃ (k : Nat) (a : α), xs[k]? = some a ∧ f a = some b ∧
        ∀ j < k, ∀ c, xs[j]? = some c → f c = none := by
  rw [List.findSome?_eq_some_iff]
  constructor
  · rintro ⟨before, a, after, rfl, ha, hbefore⟩
    refine ⟨before.length, a, by simp, ha, fun j hj c hc => hbefore c ?_⟩
    rw [List.getElem?_append_left hj] at hc
    exact List.mem_of_getElem? hc
  · rintro ⟨k, a, hk, ha, hbefore⟩
    obtain ⟨hlt, hget⟩ := List.getElem?_eq_some_iff.mp hk
    refine ⟨xs.take k, a, xs.drop (k + 1), ?_, ha, fun c hc => ?_⟩
    · rw [← hget, List.getElem_cons_drop, List.take_append_drop]
    · obtain ⟨j, hj⟩ := List.mem_iff_getElem?.mp hc
      rw [List.getElem?_take] at hj
      split at hj
      · next hjk => exact hbefore j hjk c hj
      · cases hj

/-- **The language mode reads the first target that has a value.**  It misses unless
the variant asks for a language.  The language asked for is not a target to begin
with; if links lead back to it, it becomes one, once. -/
theorem inChain_iff_first_target (ls : Languages) (lookup : Variant → Option Json) (v : Variant) :
    (∀ value, ls.inChain lookup v = some value ↔
      ∃ l k t, ls.Asks v l ∧ ls.IsTarget l k t ∧ Reads lookup v t value ∧
        ∀ j < k, ∀ u, ls.IsTarget l j u → ∀ other, ¬ Reads lookup v u other) ∧
    ∀ l k, ls.reached? k l = some l → ∃! j, ls.IsTarget l j l := by
  refine ⟨fun value => ?_, fun l k => existsUnique_return⟩
  rw [inChain_eq_some_iff_chain]
  refine exists_congr fun l => ?_
  simp only [findSome?_eq_some_iff_place, getElem?_chain_iff, readIn_eq_some_iff,
    Option.eq_none_iff_forall_ne_some, ne_eq, exists_and_left]

/-! ### Two languages that fall back to each other -/

def danish : Language where
  isoCode := "da-DK"
  fallbackIsoCode := some "nb-NO"

def norwegian : Language where
  isoCode := "nb-NO"
  fallbackIsoCode := some "DA-dk"

def nordic : Languages := (empty.add danish).add norwegian

/-- A store with a value in Danish only. -/
def greeting (v : Variant) : Option Json :=
  if v.culture = some "da-DK" then some (.str "Hej") else none

theorem find?_nordic (code : String) :
    nordic.find? code =
      if "nb-no" = Culture.fold code then some norwegian
      else if "da-dk" = Culture.fold code then some danish else none := by
  have hdanish : Culture.fold danish.isoCode = "da-dk" := by decide +kernel
  have hnorwegian : Culture.fold norwegian.isoCode = "nb-no" := by decide +kernel
  have hempty : empty.find? code = none := by simp [find?, empty]
  rw [nordic, find?_add, find?_add, hdanish, hnorwegian, hempty]

theorem reached?_zero_danish : nordic.reached? 0 danish = some norwegian := by
  rw [reached?_zero_of_link rfl, find?_nordic, if_pos (by decide +kernel)]

theorem reached?_one_danish : nordic.reached? 1 danish = some danish := by
  rw [reached?_succ_of_reached reached?_zero_danish, reached?_zero_of_link rfl, find?_nordic,
    if_neg (by decide +kernel), if_pos (by decide +kernel)]

theorem isTarget_danish : nordic.IsTarget danish 1 danish := by
  refine isTarget_of_first_return reached?_one_danish fun j hj => ?_
  obtain rfl : j = 0 := by omega
  rw [reached?_zero_danish]
  decide

theorem asks_danish : nordic.Asks { culture := some "DA-DK" } danish :=
  ⟨"DA-DK", rfl, by decide, by
    rw [find?_nordic, if_neg (by decide +kernel), if_pos (by decide +kernel)]⟩

/-- A request in Danish comes to the Danish value by way of Norwegian. -/
theorem inChain_iff_first_target_nordic :
    nordic.reached? 1 danish = some danish ∧ (∃! j, nordic.IsTarget danish j danish) ∧
      nordic.inChain greeting { culture := some "DA-DK" } = some (.str "Hej") := by
  have hspec := inChain_iff_first_target nordic greeting { culture := some "DA-DK" }
  refine ⟨reached?_one_danish, hspec.2 danish 1 reached?_one_danish, ?_⟩
  refine (hspec.1 _).mpr ⟨danish, 1, danish, asks_danish, isTarget_danish, ?_, ?_⟩
  · simp [Reads, greeting, danish]
  · intro j hj u hu other hread
    obtain rfl : j = 0 := by omega
    have hu' : some norwegian = some u := reached?_zero_danish.symm.trans hu.reached
    rw [← Option.some.inj hu'] at hread
    simp [Reads, greeting, norwegian] at hread

end Publishing.Languages
