import Mathlib.Data.List.Induction
import Mathlib.Data.List.Nodup
import Mathlib.Data.String.Basic
import Publishing.ContentType

/-!
# The names of a content type

A content type is made from property types and then added to, one call at a time.
A call is refused if the name is taken; the caller goes on with the content type as
the call has left it.  This file says what such a content type holds, whatever calls
were made on it and whichever of them were refused.

* `Made` is the invariant: the property types that were accepted have distinct names,
  and looking a name up finds the first of them that has it.
* `Made.add` and `Made.add_of_taken` are the step, `Made.addAll` and `Made.callEach` the
  runs: up to a refusal, and past it.
* `FirstRepeat` is the property type for which making a content type fails.
* `names_stay_distinct`: names are never shared, entries never lost or replaced, and
  a refused call leaves no trace.
-/

namespace Publishing.ContentType

variable {name : String} {variation : Variation} {ps qs : List PropertyType} {p : PropertyType}
  {t : ContentType}

/-! ## Calls on a content type -/

/-- The property types whose calls were not refused. -/
def accepted (calls : List PropertyType) (answers : List (Except DuplicateProperty Unit)) :
    List PropertyType :=
  ((calls.zip answers).filter fun call => call.2.isOk).map Prod.fst

/-- Adding in place is adding, with the content type kept where adding fails. -/
theorem call_eq (t : ContentType) (p : PropertyType) :
    t.call p =
      match t.add p with
      | .ok larger => (.ok (), larger)
      | .error e => (.error e, t) := by
  have hread : t.call p =
      (if t.defines p.name then throw ⟨t.name, p.name⟩
        else set { t with properties := t.properties.insert p.name p } :
          ExceptT DuplicateProperty (StateM ContentType) Unit).run.run t := rfl
  rw [hread, add]
  by_cases htaken : t.defines p.name
  · rw [if_pos htaken, if_pos htaken]
    rfl
  · rw [if_neg htaken, if_neg htaken]
    rfl

theorem callEach_cons (t : ContentType) (p : PropertyType) (calls : List PropertyType) :
    t.callEach (p :: calls) =
      ((t.call p).1 :: ((t.call p).2.callEach calls).1, ((t.call p).2.callEach calls).2) := by
  rw [callEach, List.mapM_cons]
  rfl

/-! ## What a content type holds -/

theorem nodup_append_singleton_iff :
    ((ps ++ [p]).map PropertyType.name).Nodup ↔
      (ps.map PropertyType.name).Nodup ∧ p.name ∉ ps.map PropertyType.name := by
  rw [List.map_append, List.map_singleton, ← List.concat_eq_append, List.nodup_concat, and_comm]

/-- A map lists its values in the order of their keys. -/
theorem values_eq_map_snd (entries : Std.ExtTreeMap String PropertyType) :
    entries.values = entries.toList.map Prod.snd := by
  have hfold : entries.values = entries.foldr (fun _ p listed => p :: listed) [] := by
    obtain ⟨⟨tree⟩⟩ := entries
    induction tree using Quotient.ind
    rfl
  rw [hfold, Std.ExtTreeMap.foldr_eq_foldr_toList, List.map_eq_foldr]

/-- What a content type is made from: its own name and variation, and the property types
that were added to it, in order. -/
structure Made (name : String) (variation : Variation) (ps : List PropertyType)
    (t : ContentType) : Prop where
  name_eq : t.name = name
  variation_eq : t.variation = variation
  distinct : (ps.map PropertyType.name).Nodup
  /-- A name leads to the first property type that has it. -/
  property?_eq : ∀ key, t.property? key = ps.find? fun p => p.name = key

theorem made_empty (name : String) (variation : Variation) :
    Made name variation [] ⟨name, variation, ∅⟩ :=
  ⟨rfl, rfl, List.nodup_nil, by simp [property?]⟩

namespace Made

theorem getElem?_eq_some_iff (h : Made name variation ps t) {key : String} :
    t.properties[key]? = some p ↔ p ∈ ps ∧ p.name = key := by
  have hlookup : t.properties[key]? = ps.find? fun p => p.name = key := h.property?_eq key
  rw [hlookup]
  constructor
  · intro hfound
    exact ⟨List.mem_of_find?_eq_some hfound, by simpa using List.find?_some hfound⟩
  · rintro ⟨hp, rfl⟩
    obtain ⟨q, hq⟩ : ∃ q, ps.find? (fun q => q.name = p.name) = some q := by
      rw [← Option.isSome_iff_exists, List.find?_isSome]
      exact ⟨p, hp, by simp⟩
    have hsame : q.name = p.name := by simpa using List.find?_some hq
    rw [hq, List.inj_on_of_nodup_map h.distinct (List.mem_of_find?_eq_some hq) hp hsame]

theorem defines_iff (h : Made name variation ps t) {key : String} :
    t.defines key = true ↔ key ∈ ps.map PropertyType.name := by
  rw [defines, h.property?_eq, List.find?_isSome, List.mem_map]
  simp

/-- **A new name.**  It is added behind the others and changes none of them. -/
theorem add (h : Made name variation ps t) (hnew : p.name ∉ ps.map PropertyType.name) :
    ∃ larger, t.add p = .ok larger ∧ Made name variation (ps ++ [p]) larger := by
  have hfree : ¬ t.defines p.name = true := mt h.defines_iff.mp hnew
  refine ⟨_, if_neg hfree, h.name_eq, h.variation_eq, ?_, ?_⟩
  · exact nodup_append_singleton_iff.mpr ⟨h.distinct, hnew⟩
  · intro key
    have hold : t.properties[key]? = ps.find? fun p => p.name = key := h.property?_eq key
    rw [property?, Std.ExtTreeMap.getElem?_insert, List.find?_append, hold]
    simp only [Std.LawfulEqCmp.compare_eq_iff_eq]
    by_cases hkey : p.name = key
    · -- no earlier property type has the name
      have hnone : ps.find? (fun p => p.name = key) = none := by
        rw [List.find?_eq_none]
        intro q hq hname
        apply hnew
        rw [hkey, ← of_decide_eq_true hname]
        exact List.mem_map_of_mem hq
      simp [hkey, hnone]
    · simp [hkey]

/-- **A name that is taken.**  It is refused with a report on it. -/
theorem add_of_taken (h : Made name variation ps t) (htaken : p.name ∈ ps.map PropertyType.name) :
    t.add p = .error ⟨name, p.name⟩ := by
  rw [ContentType.add, if_pos (h.defines_iff.mpr htaken), h.name_eq]

/-! ## Listing property types -/

theorem mem_propertyTypes_iff (h : Made name variation ps t) : p ∈ t.propertyTypes ↔ p ∈ ps := by
  rw [propertyTypes, values_eq_map_snd, List.mem_map]
  constructor
  · rintro ⟨⟨key, p⟩, hmem, rfl⟩
    exact (h.getElem?_eq_some_iff.mp (Std.ExtTreeMap.mem_toList_iff_getElem?_eq_some.mp hmem)).1
  · intro hp
    refine ⟨(p.name, p), ?_, rfl⟩
    rw [Std.ExtTreeMap.mem_toList_iff_getElem?_eq_some]
    exact h.getElem?_eq_some_iff.mpr ⟨hp, rfl⟩

/-- Names and the keys that property types stand under are the same. -/
theorem map_name_propertyTypes (h : Made name variation ps t) :
    t.propertyTypes.map PropertyType.name = t.properties.toList.map Prod.fst := by
  rw [propertyTypes, values_eq_map_snd, List.map_map]
  apply List.map_congr_left
  rintro ⟨key, p⟩ hmem
  exact (h.getElem?_eq_some_iff.mp (Std.ExtTreeMap.mem_toList_iff_getElem?_eq_some.mp hmem)).2

theorem ascending_propertyTypes (h : Made name variation ps t) :
    (t.propertyTypes.map PropertyType.name).Pairwise (· < ·) := by
  rw [h.map_name_propertyTypes, List.pairwise_map]
  apply Std.ExtTreeMap.ordered_keys_toList.imp
  intro a b hlt
  exact compare_lt_iff_lt.mp hlt

/-- All that was added is listed, each property type once. -/
theorem propertyTypes_perm (h : Made name variation ps t) : t.propertyTypes.Perm ps := by
  have hlisted : (t.propertyTypes.map PropertyType.name).Nodup :=
    h.ascending_propertyTypes.imp fun hlt => ne_of_lt hlt
  rw [List.perm_ext_iff_of_nodup hlisted.of_map h.distinct.of_map]
  intro p
  exact h.mem_propertyTypes_iff

/-! ## Runs -/

/-- Property types with distinct new names are all added. -/
theorem addAll (h : Made name variation ps t) (hnew : ((ps ++ qs).map PropertyType.name).Nodup) :
    ∃ larger, t.addAll qs = .ok larger ∧ Made name variation (ps ++ qs) larger := by
  induction qs generalizing ps t with
  | nil => exact ⟨t, rfl, by rwa [List.append_nil]⟩
  | cons p qs ih =>
      have happend : ps ++ p :: qs = ps ++ [p] ++ qs := by simp
      rw [happend] at hnew ⊢
      have hfirst : ((ps ++ [p]).map PropertyType.name).Nodup := by
        rw [List.map_append] at hnew
        exact hnew.of_append_left
      obtain ⟨next, hadd, hnext⟩ := h.add (nodup_append_singleton_iff.mp hfirst).2
      obtain ⟨larger, hrest, hlarger⟩ := ih hnext hnew
      refine ⟨larger, ?_, hlarger⟩
      rw [ContentType.addAll, hadd]
      exact hrest

/-- **A run of calls.**  A content type that calls were made on holds what was accepted,
in the order of the calls. -/
theorem callEach (h : Made name variation ps t) (calls : List PropertyType) :
    Made name variation (ps ++ accepted calls (t.callEach calls).1) (t.callEach calls).2 := by
  induction calls generalizing ps t with
  | nil =>
      have hrun : t.callEach [] = ([], t) := rfl
      simpa [hrun, accepted] using h
  | cons p calls ih =>
      rw [callEach_cons, call_eq]
      by_cases htaken : p.name ∈ ps.map PropertyType.name
      · -- a refused call is not among the accepted ones and leaves `t` to the rest
        rw [h.add_of_taken htaken]
        exact ih h
      · -- the first to be accepted comes before those of the rest
        obtain ⟨larger, hadd, hlarger⟩ := h.add htaken
        rw [hadd]
        have hrest := ih hlarger
        rw [List.append_assoc] at hrest
        exact hrest

/-- **A refused call.**  A call is refused exactly if the name is taken, with a report on
it, and then changes nothing. -/
theorem call_eq_error_iff (h : Made name variation ps t) {e : DuplicateProperty}
    {after : ContentType} :
    t.call p = (.error e, after) ↔
      p.name ∈ ps.map PropertyType.name ∧ e = ⟨name, p.name⟩ ∧ after = t := by
  rw [call_eq]
  by_cases htaken : p.name ∈ ps.map PropertyType.name
  · rw [h.add_of_taken htaken]
    simp [htaken, eq_comm]
  · obtain ⟨larger, hadd, _⟩ := h.add htaken
    rw [hadd]
    simp [htaken]

end Made

/-! ## Making a content type -/

/-- The first property type of a list whose name an earlier one has. -/
def FirstRepeat (ps : List PropertyType) (p : PropertyType) : Prop :=
  ∃ before after, ps = before ++ p :: after ∧ (before.map PropertyType.name).Nodup ∧
    p.name ∈ before.map PropertyType.name

/-- Names are distinct, or one of them is the first to come again. -/
theorem nodup_or_firstRepeat (ps : List PropertyType) :
    (ps.map PropertyType.name).Nodup ∨ ∃ p, FirstRepeat ps p := by
  induction ps using List.reverseRecOn with
  | nil => exact .inl List.nodup_nil
  | append_singleton ps q ih =>
      rcases ih with hdistinct | ⟨p, before, after, rfl, hbefore, hp⟩
      · by_cases hq : q.name ∈ ps.map PropertyType.name
        · exact .inr ⟨q, ps, [], rfl, hdistinct, hq⟩
        · exact .inl (nodup_append_singleton_iff.mpr ⟨hdistinct, hq⟩)
      · exact .inr ⟨p, before, after ++ [q], by simp, hbefore, hp⟩

theorem addAll_append (t : ContentType) (ps qs : List PropertyType) :
    t.addAll (ps ++ qs) = (t.addAll ps).bind fun t => t.addAll qs := by
  induction ps generalizing t with
  | nil => rfl
  | cons p ps ih =>
      rw [List.cons_append, addAll, addAll]
      cases t.add p with
      | error e => rfl
      | ok larger => exact ih larger

theorem build_of_nodup (name : String) (variation : Variation)
    (h : (ps.map PropertyType.name).Nodup) :
    ∃ t, build name variation ps = .ok t ∧ Made name variation ps t :=
  (made_empty name variation).addAll h

theorem build_of_firstRepeat (name : String) (variation : Variation) (h : FirstRepeat ps p) :
    build name variation ps = .error ⟨name, p.name⟩ := by
  obtain ⟨before, after, rfl, hbefore, hp⟩ := h
  obtain ⟨t, ht, hmade⟩ := build_of_nodup name variation hbefore
  rw [build] at ht
  calc build name variation (before ++ p :: after)
      = t.addAll (p :: after) := by rw [build, addAll_append, ht]; rfl
    _ = (t.add p).bind fun t => t.addAll after := rfl
    _ = .error ⟨name, p.name⟩ := by rw [hmade.add_of_taken hp]; rfl

theorem build_eq_error_iff {e : DuplicateProperty} :
    build name variation ps = .error e ↔ ∃ p, FirstRepeat ps p ∧ e = ⟨name, p.name⟩ := by
  constructor
  · intro he
    rcases nodup_or_firstRepeat ps with hdistinct | ⟨p, hp⟩
    · obtain ⟨t, ht, _⟩ := build_of_nodup name variation hdistinct
      rw [ht] at he
      cases he
    · rw [build_of_firstRepeat name variation hp] at he
      exact ⟨p, hp, (Except.error.inj he).symm⟩
  · rintro ⟨p, hp, rfl⟩
    exact build_of_firstRepeat name variation hp

theorem made_of_build (h : build name variation ps = .ok t) : Made name variation ps t := by
  rcases nodup_or_firstRepeat ps with hdistinct | ⟨p, hp⟩
  · obtain ⟨made, hbuild, hmade⟩ := build_of_nodup name variation hdistinct
    obtain rfl := Except.ok.inj (hbuild.symm.trans h)
    exact hmade
  · rw [build_of_firstRepeat name variation hp] at h
    cases h

theorem exists_build_eq_ok_iff :
    (∃ t, build name variation ps = .ok t) ↔ (ps.map PropertyType.name).Nodup := by
  constructor
  · rintro ⟨t, ht⟩
    exact (made_of_build ht).distinct
  · intro hdistinct
    obtain ⟨t, ht, _⟩ := build_of_nodup name variation hdistinct
    exact ⟨t, ht⟩

/-! ## The main result -/

/-- **Names are never shared and nothing added is lost.**  A content type is made exactly
from property types with distinct names; otherwise the report is on the first that has the
name of an earlier one.  Whatever calls are made on it then, and whichever of them are
refused: every property type stands under its own name, a name leads to the first that was
accepted with it, the list holds each of those accepted once, by ascending names, and a
call that is refused leaves the content type as it was. -/
theorem names_stay_distinct (name : String) (variation : Variation) (ps : List PropertyType) :
    ((∃ t, build name variation ps = .ok t) ↔ (ps.map PropertyType.name).Nodup) ∧
      (∀ e, build name variation ps = .error e ↔ ∃ p, FirstRepeat ps p ∧ e = ⟨name, p.name⟩) ∧
      ∀ t, build name variation ps = .ok t → ∀ calls answers last,
        t.callEach calls = (answers, last) →
          last.name = name ∧ last.variation = variation ∧
          (∀ (key : String) (p : PropertyType), last.properties[key]? = some p → p.name = key) ∧
          (∀ key, last.property? key = (ps ++ accepted calls answers).find? fun p => p.name = key) ∧
          last.propertyTypes.Perm (ps ++ accepted calls answers) ∧
          (last.propertyTypes.map PropertyType.name).Pairwise (· < ·) ∧
          ∀ p e after, last.call p = (.error e, after) ↔
            (last.defines p.name = true ∧ e = ⟨name, p.name⟩ ∧ after = last) := by
  refine ⟨exists_build_eq_ok_iff, fun e => build_eq_error_iff, ?_⟩
  intro t ht calls answers last hrun
  have hmade : Made name variation (ps ++ accepted calls answers) last := by
    have hcalls := (made_of_build ht).callEach calls
    rwa [hrun] at hcalls
  refine ⟨hmade.name_eq, hmade.variation_eq, ?_, hmade.property?_eq, hmade.propertyTypes_perm,
    hmade.ascending_propertyTypes, ?_⟩
  · intro key p hp
    exact (hmade.getElem?_eq_some_iff.mp hp).2
  · intro p e after
    rw [hmade.call_eq_error_iff, hmade.defines_iff]

/-- What a blog post has. -/
def postProperties : List PropertyType :=
  [⟨"title", .culture⟩, ⟨"author", .nothing⟩]

/-- A name in another case is a name of its own; the same name again is refused. -/
theorem names_stay_distinct_post :
    ∃ t last, build "post" .culture postProperties = .ok t ∧
      t.callEach [⟨"Title", .nothing⟩, ⟨"title", .nothing⟩] =
        ([.ok (), .error ⟨"post", "title"⟩], last) ∧
      last.property? "title" = some ⟨"title", .culture⟩ ∧
      last.propertyTypes.Perm (postProperties ++ [⟨"Title", .nothing⟩]) ∧
      last.call ⟨"author", .culture⟩ = (.error ⟨"post", "author"⟩, last) := by
  obtain ⟨hmakes, _, hruns⟩ := names_stay_distinct "post" .culture postProperties
  obtain ⟨t, ht⟩ := hmakes.mpr (by decide)
  have hanswers : (t.callEach [⟨"Title", .nothing⟩, ⟨"title", .nothing⟩]).1 =
      [.ok (), .error ⟨"post", "title"⟩] := by
    obtain rfl := Except.ok.inj ht
    rfl
  refine ⟨t, _, ht, Prod.ext hanswers rfl, ?_⟩
  obtain ⟨_, _, _, hfirst, hlisted, _, hrefused⟩ := hruns t ht _ _ _ (Prod.ext hanswers rfl)
  refine ⟨hfirst "title", hlisted, (hrefused _ _ _).mpr ⟨?_, rfl, rfl⟩⟩
  rw [defines, hfirst "author"]
  rfl

end Publishing.ContentType
