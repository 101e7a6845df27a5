import Publishing.Proofs.Resolve.Levels
import Publishing.Proofs.Resolve.Subject
import Publishing.Proofs.Resolve.UnsetReport

/-!
# Conversion comes last

A value is converted to the type that the caller wants after it has been selected.
Nothing would change if it were converted where it is met: a value that cannot be
converted ends the search just as well as one that can.

* `tryEagerly` and `readEagerly` convert at every place where a call can end, and
  name the property that they read; `tryEagerly_eq` and `readEagerly_eq` say that
  they answer as the calls do.
* `Request.verbatim` asks for the stored value itself, and `Request.decode` is what
  the wanted type adds to it.
* `answers_eq_decoded` puts this together, for all six calls.
-/

namespace Publishing

namespace Request

variable {α ε σ : Type}

/-- Tries modes in order, and converts a value as soon as a mode selects one. -/
def tryEagerly (q : Request α ε) (name : String) (attempt : Mode → σ → Selection × σ) :
    List Mode → σ → Except (ResolveError ε) (Resolution α) × σ
  | [], notes => (.ok .notFound, notes)
  | m :: ms, notes =>
    match attempt m notes with
    | (.miss, notes) => q.tryEagerly name attempt ms notes
    | (.stored v, notes) => ((convert q.read name v).map .found, notes)
    | (.callerDefault, notes) => (.ok (.found q.default), notes)
    | (.unsupported mode level, notes) => (.error (.unsupported mode level), notes)

/-- Converting at once comes to the same as converting at the end. -/
theorem tryEagerly_eq (q : Request α ε) (name : String) (attempt : Mode → σ → Selection × σ)
    (ms : List Mode) (notes : σ) :
    q.tryEagerly name attempt ms notes =
      (q.resolution name (tryModes attempt ms notes).1, (tryModes attempt ms notes).2) := by
  induction ms generalizing notes with
  | nil => rfl
  | cons m ms ih =>
      rw [tryEagerly, tryModes]
      rcases attempt m notes with ⟨selected, between⟩
      cases selected with
      | miss => exact ih between
      | stored v => rfl
      | callerDefault => rfl
      | unsupported mode level => rfl

/-! ## The stored value itself -/

/-- The request for the stored value as it is, with `none` in the place of the default, so
that a default is told from a stored value. -/
def verbatim (q : Request α ε) : Request (Option Json) Empty where
  variant := q.variant
  policy := q.policy
  read v := .ok (some v)
  default := some none

/-- A stored value in the type that the caller wants, or the caller's default. -/
def decode (q : Request α ε) (name : String) : Option Json → Except (ResolveError ε) (Option α)
  | some v =>
    match q.read v with
    | .ok a => .ok (some a)
    | .error cause => .error (.conversion name cause)
  | none => .ok q.default

/-- What a call that tells a miss apart answers in the type that the caller wants. -/
def decodeResolution (q : Request α ε) (name : String) :
    Except (ResolveError Empty) (Resolution (Option Json)) →
      Except (ResolveError ε) (Resolution α)
  | .ok (.found (some selected)) => (q.decode name selected).map .found
  | .ok (.found none) => .ok (.found none)
  | .ok .notFound => .ok .notFound
  | .error (.unsupported mode level) => .error (.unsupported mode level)

/-- What a reading answers in the type that the caller wants. -/
def decodeValue (q : Request α ε) (name : String) :
    Except (ResolveError Empty) (Option (Option Json)) → Except (ResolveError ε) (Option α)
  | .ok (some selected) => q.decode name selected
  | .ok none => .ok none
  | .error (.unsupported mode level) => .error (.unsupported mode level)

/-- A value other than `null` is converted by what the caller wants and nothing else. -/
theorem convert_eq_decode {v : Json} (hv : v ≠ .null) (q : Request α ε) (name : String) :
    convert q.read name v = q.decode name (some v) := by
  have hnull : v.isNull = false := by
    cases v with
    | null => exact absurd rfl hv
    | bool _ | int _ | float _ | str _ | arr _ | obj _ => rfl
  rw [convert, hnull]
  rfl

theorem resolution_eq_decoded (q : Request α ε) (name : String) (selected : Selection) :
    q.resolution name selected =
      q.decodeResolution name (q.verbatim.resolution name selected) := by
  cases selected with
  | stored v =>
      simp only [resolution, Selection.resolution, convert, verbatim]
      split
      · rfl
      · cases h : q.read v <;> simp [decodeResolution, decode, h, Except.map]
  | callerDefault => rfl
  | unsupported mode level => rfl
  | miss => rfl

theorem value_eq_decoded (q : Request α ε) (name : String) (selected : Selection) :
    q.value name selected = q.decodeValue name (q.verbatim.value name selected) := by
  cases selected with
  | stored v =>
      simp only [value, Selection.value, convert, verbatim]
      split
      · rfl
      · cases h : q.read v <;> simp [decodeValue, decode, h]
  | callerDefault => rfl
  | unsupported mode level => rfl
  | miss => rfl

/-- The request with more modes behind those of its policy. -/
def followedBy (q : Request α ε) (later : List Mode) : Request α ε :=
  { q with policy := ⟨q.policy.modes ++ later⟩ }

end Request

/-! ## Where a search ends -/

section

variable {sel : Mode → Selection} {m : Mode} {ms : List Mode}

theorem firstHit_of_getElem? (h : ms[hits sel ms]? = some m) :
    firstHit sel ms = sel m ∧ sel m ≠ .miss := by
  induction ms with
  | nil => simp at h
  | cons a ms ih =>
      by_cases ha : sel a = .miss
      · rw [hits_cons_of_miss ha, List.getElem?_cons_succ] at h
        rw [firstHit_cons_of_miss ha]
        exact ih h
      · rw [hits_cons_of_hit ha] at h
        obtain rfl : a = m := Option.some.inj h
        exact ⟨firstHit_cons_of_hit ha, ha⟩

end

namespace Resolver

variable {α ε : Type} {r : Resolver} {q : Request α ε} {s : Subject} {m : Mode}

/-- The mode that ends the search: the first that does not miss on its own. -/
def endsWith? (r : Resolver) (q : Request α ε) (s : Subject) : Option Mode :=
  q.policy.modes[q.decisive fun q => (r.tryOn q s).1]?

theorem endsWith?_eq (r : Resolver) (q : Request α ε) (s : Subject) :
    r.endsWith? q s = q.policy.modes[hits (r.selectionOn q.variant s) q.policy.modes]? := by
  have hask : ∀ policy, (r.tryOn { q with policy := policy } s).1 =
      q.resolution s.name (firstHit (r.selectionOn q.variant s) policy.modes) := fun policy => by
    rw [tryOn_eq, fst_selectOn]
    rfl
  have hplace : q.decisive (fun q => (r.tryOn q s).1) =
      hits (r.selectionOn q.variant s) q.policy.modes := Request.decisive_eq_hits hask
  rw [endsWith?, hplace]

/-- **The caller's default is selected exactly if that mode ends the search.** -/
theorem selectOn_callerDefault_iff :
    (r.selectOn q.variant q.policy s).1 = .callerDefault ↔
      r.endsWith? q s = some .defaultValue := by
  rw [fst_selectOn, endsWith?_eq]
  cases hlast : q.policy.modes[hits (r.selectionOn q.variant s) q.policy.modes]? with
  | none => simp [firstHit, hlast]
  | some m =>
      obtain ⟨hfirst, hhit⟩ := firstHit_of_getElem? hlast
      rw [hfirst, Option.some_inj]
      refine ⟨selectionOn_callerDefault, ?_⟩
      rintro rfl
      exact (selectionOn_defaultValue s).resolve_right hhit

theorem selectOn_stored {value : Json} {requested : Variant} {policy : Policy}
    (h : (r.selectOn requested policy s).1 = .stored value) : value ≠ .null := by
  rw [fst_selectOn] at h
  cases hlast : policy.modes[hits (r.selectionOn requested s) policy.modes]? with
  | none => simp [firstHit, hlast] at h
  | some m =>
      rw [(firstHit_of_getElem? hlast).1] at h
      exact selectionOn_stored h

/-! ## Converting where a value is met -/

/-- Runs the policy, and converts a value as soon as a mode selects one. -/
def tryEagerly (r : Resolver) (q : Request α ε) (s : Subject) :
    Except (ResolveError ε) (Resolution α) × Trail :=
  q.tryEagerly s.name (r.attemptOn q.variant s) q.policy.modes s.start

/-- Reads a property, and converts a value where it is met: the own value, that of the
policy, or what a property stores for "no value", by the name of that property. -/
def readEagerly (r : Resolver) (q : Request α ε) (s : Subject) :
    Except (ResolveError ε) (Option α) × Nat :=
  match r.ownOn? q.variant s with
  | some v => (convert q.read s.name v, 0)
  | none =>
    match r.tryEagerly q s with
    | (.ok (.found value), trail) => (.ok value, trail.steps)
    | (.ok .notFound, trail) =>
      match r.noValueOn? q.variant trail.unset s with
      | some (name, v) => (convert q.read name v, trail.steps)
      | none => (.ok none, trail.steps)
    | (.error e, trail) => (.error e, trail.steps)

end Resolver

/-- The nodes that a call may read are drafts in their place. -/
def Subject.Placed (t : Tree) : Subject → Prop
  | .property _ => True
  | .element n _ => n.Placed
  | .content n _ => n.Placed ∧ ∀ id m, t.find? id = some m → m.Placed

namespace Resolver

variable {α ε : Type} {r : Resolver} {q : Request α ε} {s : Subject} {requested : Variant}
  {policy : Policy}

/-- The property noted on a node stands under the name that was asked for. -/
theorem name_of_unset_selectOn {n : Node} {name : String} {u : Unset}
    (hplaced : (Subject.content n name).Placed r.tree)
    (hu : (r.selectOn requested policy (.content n name)).2.unset = some u) :
    u.property.name = name := by
  rw [selectOn, attemptOn, unset_tryModes, Option.or_eq_some_iff] at hu
  rcases hu with hown | ⟨_, hnoted⟩
  · obtain ⟨_, property, _, hproperty, rfl⟩ := ownUnset?_eq_some hown
    exact hplaced.1.byName name property hproperty
  · unfold noted at hnoted
    split at hnoted
    · obtain ⟨a, ha, _, property, _, hproperty, _, rfl⟩ := Tree.lacks_of_ascendWithin hnoted
      have hstored := Tree.stored_of_mem_ancestorsWithin ha
      exact (hplaced.2 a.id a hstored).byName name property hproperty
    · cases hnoted

theorem name_of_noValueOn? {name : String} {v : Json} (hplaced : s.Placed r.tree)
    (h : r.noValueOn? requested (r.selectOn requested policy s).2.unset s = some (name, v)) :
    name = s.name := by
  cases s with
  | property p =>
      obtain ⟨_, _, heq⟩ := Option.map_eq_some_iff.mp h
      exact (Prod.mk.inj heq).1.symm
  | element n asked =>
      obtain ⟨p, hp, hstored⟩ := Option.bind_eq_some_iff.mp h
      obtain ⟨_, _, heq⟩ := Option.map_eq_some_iff.mp hstored
      exact (Prod.mk.inj heq).1.symm.trans (Node.Placed.byName hplaced asked p hp)
  | content n asked =>
      obtain ⟨u, hu, hstored⟩ := Option.bind_eq_some_iff.mp h
      obtain ⟨_, _, heq⟩ := Option.map_eq_some_iff.mp hstored
      exact (Prod.mk.inj heq).1.symm.trans (name_of_unset_selectOn hplaced hu)

theorem tryEagerly_eq (r : Resolver) (q : Request α ε) (s : Subject) :
    r.tryEagerly q s = r.tryOn q s := by
  rw [tryEagerly, Request.tryEagerly_eq, tryOn_eq]
  rfl

/-- **Converting where a value is met comes to the same**, down to the name that a
failed conversion reports. -/
theorem readEagerly_eq (hplaced : s.Placed r.tree) : r.readEagerly q s = r.readOn q s := by
  have hname : ∀ name v,
      r.noValueOn? q.variant (r.selectOn q.variant q.policy s).2.unset s = some (name, v) →
        name = s.name := fun _ _ => name_of_noValueOn? hplaced
  rw [readOn_eq, readEagerly, tryEagerly_eq, tryOn_eq]
  generalize r.selectOn q.variant q.policy s = run at hname ⊢
  obtain ⟨selected, trail⟩ := run
  cases r.ownOn? q.variant s with
  | some v => rfl
  | none =>
      cases selected with
      | miss =>
          simp only [Request.resolution, Selection.resolution]
          cases hrest : r.noValueOn? q.variant trail.unset s with
          | none => rfl
          | some named =>
              obtain ⟨name, v⟩ := named
              rw [hname name v hrest]
              rfl
      | stored v =>
          simp only [Request.resolution, Selection.resolution]
          cases hv : convert q.read s.name v with
          | ok value => exact Prod.ext hv.symm rfl
          | error e => exact Prod.ext hv.symm rfl
      | callerDefault => rfl
      | unsupported mode level => rfl

/-! ## Conversion comes last -/

/-- A selected value other than `null` is never answered by no value. -/
theorem resolution_eq_found_none_iff {name : String} {selected : Selection}
    (hselected : ∀ v, selected = .stored v → v ≠ .null) :
    q.resolution name selected = .ok (.found none) ↔
      selected = .callerDefault ∧ q.default = none := by
  cases selected with
  | stored v =>
      simp only [Request.resolution, Selection.resolution,
        q.convert_eq_decode (hselected v rfl), Request.decode]
      cases q.read v <;> simp [Except.map]
  | callerDefault => simp [Request.resolution, Selection.resolution]
  | unsupported mode level => simp [Request.resolution, Selection.resolution]
  | miss => simp [Request.resolution, Selection.resolution]

/-- Modes behind the one that ends the search are never tried. -/
theorem selectOn_followedBy (later : List Mode) (h : missed (r.tryOn q s).1 = false) :
    r.selectOn q.variant (q.followedBy later).policy s = r.selectOn q.variant q.policy s := by
  refine tryModes_append_of_hit (fun hmiss => ?_) later
  rw [tryOn_eq, Request.missed_resolution, selectOn, hmiss] at h
  cases h

/-- **Conversion never influences what is selected.**  For any of the six calls and
whatever type is wanted:

* converting a value where it is met, at every place where a call can end, answers
  the same as the call;
* the answer is that of the same call for the stored value itself, with the value
  converted afterwards, or the caller's default put in, and the trail is that of
  that call;
* the mode that ends the search is the same, and if it is the one for the default,
  the answer is exactly the caller's default;
* a search finds no value only if it ends with that mode and no default was given;
* no mode behind the one that ends the search makes any difference, and none at all
  where a reading finds a value of the property's own, even if the value cannot be
  converted. -/
theorem answers_eq_decoded (r : Resolver) (q : Request α ε) (hplaced : s.Placed r.tree) :
    (r.tryEagerly q s = r.tryOn q s ∧ r.readEagerly q s = r.readOn q s) ∧
      (r.tryOn q s = (q.decodeResolution s.name (r.tryOn q.verbatim s).1,
          (r.tryOn q.verbatim s).2) ∧
        r.readOn q s = (q.decodeValue s.name (r.readOn q.verbatim s).1,
          (r.readOn q.verbatim s).2)) ∧
      (r.endsWith? q s = r.endsWith? q.verbatim s ∧
        (r.endsWith? q s = some .defaultValue → (r.tryOn q s).1 = .ok (.found q.default) ∧
          (r.ownOn? q.variant s = none → (r.readOn q s).1 = .ok q.default))) ∧
      ((r.tryOn q s).1 = .ok (.found none) ↔
        r.endsWith? q s = some .defaultValue ∧ q.default = none) ∧
      (missed (r.tryOn q s).1 = false → ∀ later,
        r.tryOn (q.followedBy later) s = r.tryOn q s ∧
          r.readOn (q.followedBy later) s = r.readOn q s) ∧
      ∀ v, r.ownOn? q.variant s = some v → ∀ policy,
        r.readOn { q with policy := policy } s = (q.decode s.name (some v), 0) := by
  refine ⟨⟨tryEagerly_eq r q s, readEagerly_eq hplaced⟩, ⟨?_, ?_⟩, ⟨?_, ?_⟩, ?_, ?_, ?_⟩
  · rw [tryOn_eq, tryOn_eq, q.resolution_eq_decoded]
    rfl
  · rw [readOn_eq, readOn_eq, q.value_eq_decoded]
    rfl
  · rw [endsWith?_eq, endsWith?_eq]
    rfl
  · intro hlast
    have hselected := selectOn_callerDefault_iff.mpr hlast
    refine ⟨by rw [tryOn_eq, hselected]; rfl, fun hown => ?_⟩
    rw [readOn_eq, hselected, hown]
    rfl
  · rw [tryOn_eq, ← selectOn_callerDefault_iff]
    exact resolution_eq_found_none_iff fun v => selectOn_stored
  · intro hhit later
    have hsame := selectOn_followedBy later hhit
    constructor
    · rw [tryOn_eq, tryOn_eq, ← hsame]
      rfl
    · rw [readOn_eq, readOn_eq, ← hsame]
      rfl
  · intro v hown policy
    rw [readOn_eq, hown, ← q.convert_eq_decode (ne_null_of_ownOn? hown)]
    rfl

/-! ### A title read as a number -/

/-- Asks for the Danish title, and if there is none for zero.  No value is a number. -/
def asNumber : Request Nat String where
  variant := { culture := some "DA-dk" }
  policy := .single .defaultValue
  read _ := .error "not a number"
  default := some 0

theorem placed_englishSite : (Subject.content home "title").Placed englishSite.tree := by
  refine ⟨placed_home, fun id m hm => ?_⟩
  simp only [englishSite, Tree.find?_put] at hm
  split at hm
  · obtain rfl := Option.some.inj hm
    exact ⟨⟨contactPage.id, contactPage.type, [], true⟩, some home.id, contactPage.path, rfl⟩
  split at hm
  · obtain rfl := Option.some.inj hm
    exact placed_home
  · simp [Tree.find?, Tree.empty] at hm

/-- The title of the home page is no number, and the default does not make up for it. -/
theorem answers_eq_decoded_home :
    (Subject.content home "title").Placed englishSite.tree ∧
      englishSite.endsWith? asNumber (.content home "title") = some .defaultValue ∧
      (englishSite.tryOn asNumber (.content home "title")).1 = .ok (.found (some 0)) ∧
      englishSite.ownOn? asNumber.variant (.content home "title") = some (.str "Hej") ∧
      englishSite.readOn asNumber (.content home "title") =
        (.error (.conversion "title" "not a number"), 0) := by
  have hlast : englishSite.endsWith? asNumber (.content home "title") = some .defaultValue := by
    rw [endsWith?_eq]
    rfl
  have hproperty : home.property? "title" = some danishTitle := rfl
  have hvariant : englishSite.variant danishTitle.type.variation (some home.id)
      asNumber.variant = asNumber.variant := rfl
  have hvalue : danishTitle.value? asNumber.variant = some (.str "Hej") := by
    rw [asNumber, Property.value?, stored?_danishTitle]
    rfl
  have hown : englishSite.ownOn? asNumber.variant (.content home "title") =
      some (.str "Hej") := by
    rw [ownOn?, ownValue?, hproperty, Option.bind_some, hvariant, hvalue]
  obtain ⟨_, _, ⟨_, hdefault⟩, _, _, hread⟩ :=
    answers_eq_decoded englishSite asNumber placed_englishSite
  exact ⟨placed_englishSite, hlast, (hdefault hlast).1, hown, hread _ hown asNumber.policy⟩

end Resolver

end Publishing
