import Std.Data.ExtTreeMap
import Publishing.Culture

/-!
# Languages

A language is identified by its culture code and may name another language to
fall back to.  The fallback links are arbitrary: they may form cycles, point at
the language itself or at a code that no language has.

`Languages` holds the languages of a site, at most one to a culture.  Beside
look-up it offers `Languages.chain`, the fallback targets of a language in the
order in which they are reached.
-/

namespace Publishing

/-- A language of the site. -/
structure Language where
  /-- The culture code, such as `en-US`. -/
  isoCode : String
  cultureName : Option String := none
  isDefault : Bool := false
  isMandatory : Bool := false
  /-- The code of the language to fall back to. -/
  fallbackIsoCode : Option String := none
deriving DecidableEq

namespace Language

/-- The language with another one to fall back to. -/
def withFallback (l : Language) (isoCode : String) : Language :=
  { l with fallbackIsoCode := some isoCode }

/-- The language under the name of its culture. -/
def withCultureName (l : Language) (name : String) : Language :=
  { l with cultureName := some name }

/-- The language as the default one. -/
def asDefault (l : Language) : Language := { l with isDefault := true }

/-- The language as a mandatory one. -/
def asMandatory (l : Language) : Language := { l with isMandatory := true }

/-- Whether a culture code names the language. -/
def matchesCulture (l : Language) (culture : String) : Bool :=
  Culture.agree l.isoCode culture

end Language

/-- The languages of a site, by folded culture code. -/
@[ext] structure Languages where
  byCode : Std.ExtTreeMap String Language
  keyed : ∀ code l, byCode[code]? = some l → code = Culture.fold l.isoCode
deriving DecidableEq

namespace Languages

/-- No language. -/
def empty : Languages := ⟨∅, by simp⟩

/-- Adds a language; one with the same culture is replaced. -/
def add (ls : Languages) (l : Language) : Languages where
  byCode := ls.byCode.insert (Culture.fold l.isoCode) l
  keyed code l' h := by
    rw [Std.ExtTreeMap.getElem?_insert] at h
    split at h
    · next heq =>
      obtain rfl := Option.some.inj h
      exact (Std.LawfulEqOrd.eq_of_compare heq).symm
    · exact ls.keyed code l' h

/-- The language that a culture code names. -/
def find? (ls : Languages) (culture : String) : Option Language :=
  ls.byCode[Culture.fold culture]?

/-- The languages without the one that a culture code names. -/
def erase (ls : Languages) (culture : String) : Languages where
  byCode := ls.byCode.erase (Culture.fold culture)
  keyed code l h := by
    rw [Std.ExtTreeMap.getElem?_erase] at h
    split at h
    · exact absurd h (by simp)
    · exact ls.keyed code l h

/-- The number of languages. -/
def size (ls : Languages) : Nat := ls.byCode.size

/-- The languages, ordered by folded code. -/
def toList (ls : Languages) : List Language := ls.byCode.values

/-- The code of the default language. -/
def defaultIsoCode? (ls : Languages) : Option String :=
  (ls.toList.find? Language.isDefault).map Language.isoCode

theorem size_erase_lt {ls : Languages} {culture : String} {l : Language}
    (h : ls.find? culture = some l) : (ls.erase culture).size < ls.size := by
  have hmem : Culture.fold culture ∈ ls.byCode := by
    rw [Std.ExtTreeMap.mem_iff_isSome_getElem?]
    exact Option.isSome_of_eq_some h
  have hpos : ls.byCode.size ≠ 0 := by
    intro hzero
    simp [Std.ExtTreeMap.eq_empty_iff_size_eq_zero.mpr hzero] at hmem
  simp only [erase, size, Std.ExtTreeMap.size_erase, Std.ExtTreeMap.contains_iff_mem.mpr hmem,
    if_true]
  omega

/-- The languages reached from `l` through fallback links, among `unread`.
A language is taken out of `unread` when it is reached, so a link back to it ends
the chain, as does a link to a code that no language has. -/
def chain (unread : Languages) (l : Language) : List Language :=
  match l.fallbackIsoCode with
  | none => []
  | some code =>
    match _h : unread.find? code with
    | none => []
    | some next => next :: chain (unread.erase code) next
termination_by unread.size
decreasing_by exact size_erase_lt _h

end Languages

end Publishing
