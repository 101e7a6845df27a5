import Mathlib.Data.List.Forall2
import Publishing.Proofs.Culture
import Publishing.Proofs.Language
import Publishing.Proofs.Tree
import Publishing.RenderContext

/-!
# The same site, with its culture codes in another case

A site is written down once more, with the same languages, properties and nodes in
the same order, and with culture codes that differ from those before in case only.

* `Language.Recased`, `Property.Recased`, `Node.Recased` and so on say what this means
  for one thing after the other.
* Languages are looked up alike (`Languages.Recased.findsAlike`), have chains alike
  (`Languages.FindsAlike.chain`) and the same default language, provided there is only
  one (`Languages.Recased.defaultIsoCode?`).
* Properties store the same for variants that agree (`Property.Recased.stored?`).
* Nodes have lineages alike, of equal length (`Tree.Recased.lineage`); and if there is
  no cycle in one tree, there is none in the other (`Tree.Recased.acyclic`).
-/

namespace Publishing

/-! ## What it is to be recased -/

/-- The same culture, or none on both sides. -/
def Culture.SameCode (a b : Option String) : Prop :=
  Option.Rel (fun a b => fold b = fold a) a b

/-- The same language as far as falling back is concerned, with codes that may differ in
case. -/
structure Language.Recased (l l' : Language) : Prop where
  isoCode : Culture.fold l'.isoCode = Culture.fold l.isoCode
  isDefault : l'.isDefault = l.isDefault
  fallback : Culture.SameCode l.fallbackIsoCode l'.fallbackIsoCode

/-- The same languages, added in the same order. -/
inductive Languages.Recased : Languages → Languages → Prop
  | empty : Recased .empty .empty
  | add {ls ls' : Languages} {l l' : Language} (hls : Recased ls ls') (hl : l.Recased l') :
      Recased (ls.add l) (ls'.add l')

/-- The same values, written in the same order. -/
structure Property.Recased (p p' : Property) : Prop where
  type : p'.type = p.type
  writes : List.Forall₂ (fun w w' => w.1.agree w'.1 = true ∧ w'.2 = w.2) p.writes p'.writes

/-- The same node, with the same properties. -/
structure Node.Recased (n n' : Node) : Prop where
  id : n'.id = n.id
  parent : n'.parent = n.parent
  type : n'.type = n.type
  properties : ∀ name, Option.Rel Property.Recased (n.property? name) (n'.property? name)
  published : n'.published = n.published

/-- The same draft, with the same properties in the same order. -/
structure Draft.Recased (d d' : Draft) : Prop where
  id : d'.id = d.id
  type : d'.type = d.type
  properties : List.Forall₂ Property.Recased d.properties d'.properties
  published : d'.published = d.published

/-- The same nodes, shown in the same way. -/
structure Tree.Recased (t t' : Tree) : Prop where
  nodes : ∀ id, Option.Rel Node.Recased (t.find? id) (t'.find? id)
  preview : t'.preview = t.preview

/-- The same context. -/
structure RenderContext.Recased (c c' : RenderContext) : Prop where
  culture : Culture.SameCode c.culture c'.culture
  segment : c'.segment = c.segment
  nodeSegments : c'.nodeSegments = c.nodeSegments

/-- No two languages are the default language. -/
def Languages.OneDefault (ls : Languages) : Prop :=
  ∀ l ∈ ls.toList, ∀ m ∈ ls.toList, l.isDefault = true → m.isDefault = true → l = m

/-! ## Options and lists, side by side -/

section

variable {α β γ : Type} {R : α → β → Prop}

theorem eq_none_of_rel {b : Option β} (h : Option.Rel R none b) : b = none := by
  cases h
  rfl

theorem exists_of_rel_some {a : α} {b : Option β} (h : Option.Rel R (some a) b) :
    ∃ b', b = some b' ∧ R a b' := by
  cases h with
  | some hab => exact ⟨_, rfl, hab⟩

theorem exists_of_rel_some_right {a : Option α} {b : β} (h : Option.Rel R a (some b)) :
    ∃ a', a = some a' ∧ R a' b := by
  cases h with
  | some hab => exact ⟨_, rfl, hab⟩

theorem bind_eq_of_rel {f : α → Option γ} {g : β → Option γ} {a : Option α} {b : Option β}
    (h : Option.Rel R a b) (hsame : ∀ a b, R a b → g b = f a) : b.bind g = a.bind f := by
  cases h with
  | none => rfl
  | some hab => exact hsame _ _ hab

theorem rel_filter {f : α → Bool} {g : β → Bool} {a : Option α} {b : Option β}
    (h : Option.Rel R a b) (hsame : ∀ a b, R a b → g b = f a) :
    Option.Rel R (a.filter f) (b.filter g) := by
  cases h with
  | none => exact .none
  | some hab =>
      rw [Option.filter_some, Option.filter_some, hsame _ _ hab]
      split
      · exact .some hab
      · exact .none

theorem findSome?_eq_of_forall₂ {f : α → Option γ} {g : β → Option γ} {as : List α} {bs : List β}
    (hsame : ∀ a b, R a b → g b = f a) (h : List.Forall₂ R as bs) :
    bs.findSome? g = as.findSome? f := by
  induction h with
  | nil => rfl
  | cons hab _ ih => rw [List.findSome?_cons, List.findSome?_cons, hsame _ _ hab, ih]

end

/-! ## Codes -/

namespace Culture

theorem sameCode_iff {a b : Option String} : SameCode a b ↔ a.map fold = b.map fold := by
  constructor
  · rintro (h | _)
    · exact congrArg some h.symm
    · rfl
  · intro h
    cases a with
    | none =>
        obtain rfl : b = none := by simpa using h.symm
        exact .none
    | some a =>
        obtain ⟨b, rfl, hb⟩ := Option.map_eq_some_iff.mp h.symm
        exact .some hb

theorem SameCode.symm {a b : Option String} (h : SameCode a b) : SameCode b a :=
  sameCode_iff.mpr (sameCode_iff.mp h).symm

end Culture

/-! ## Languages -/

theorem Language.Recased.symm {l l' : Language} (h : l.Recased l') : l'.Recased l :=
  ⟨h.isoCode.symm, h.isDefault.symm, h.fallback.symm⟩

namespace Languages

variable {ls ls' : Languages} {l l' : Language} {code code' : String}

theorem Recased.symm (h : ls.Recased ls') : ls'.Recased ls := by
  induction h with
  | empty => exact .empty
  | add _ hl ih => exact ih.add hl.symm

/-- Two directories in which the same languages are found. -/
def FindsAlike (ls ls' : Languages) : Prop :=
  ∀ code code', Culture.fold code' = Culture.fold code →
    Option.Rel Language.Recased (ls.find? code) (ls'.find? code')

theorem Recased.findsAlike (h : ls.Recased ls') : ls.FindsAlike ls' := by
  intro code code' hcode
  induction h with
  | empty =>
      have hempty : ∀ code, Languages.empty.find? code = none := fun code => by
        simp [Languages.find?, Languages.empty]
      rw [hempty, hempty]
      exact .none
  | add _ hl ih =>
      rw [find?_add, find?_add, hl.isoCode, hcode]
      split
      · exact .some hl
      · exact ih

/-! ### Chains -/

theorem FindsAlike.erase (h : ls.FindsAlike ls') (hcode : Culture.fold code' = Culture.fold code) :
    (ls.erase code).FindsAlike (ls'.erase code') := by
  intro other other' hother
  rw [find?_erase, find?_erase, hcode, hother]
  split
  · exact .none
  · exact h other other' hother

/-- **Chains alike.**  A language is reached on one side when one that is the same but
for its case is reached on the other. -/
theorem FindsAlike.chain (h : ls.FindsAlike ls') (hl : l.Recased l') :
    List.Forall₂ Language.Recased (ls.chain l) (ls'.chain l') := by
  induction ls, l using Languages.chain.induct generalizing ls' l' with
  | case1 ls l hlink =>
      have hlink' : l'.fallbackIsoCode = none := eq_none_of_rel (hlink ▸ hl.fallback)
      rw [chain_of_no_link hlink, chain_of_no_link hlink']
      exact .nil
  | case2 ls l code hlink hfound =>
      obtain ⟨code', hlink', hcode⟩ := exists_of_rel_some (hlink ▸ hl.fallback)
      have hfound' : ls'.find? code' = none := eq_none_of_rel (hfound ▸ h code code' hcode)
      rw [chain_of_dangling hlink hfound, chain_of_dangling hlink' hfound']
      exact .nil
  | case3 ls l code hlink next hfound ih =>
      obtain ⟨code', hlink', hcode⟩ := exists_of_rel_some (hlink ▸ hl.fallback)
      obtain ⟨next', hfound', hnext⟩ := exists_of_rel_some (hfound ▸ h code code' hcode)
      rw [chain_of_found hlink hfound, chain_of_found hlink' hfound']
      exact .cons hnext (ih (h.erase hcode) hnext)

/-! ### The default language -/

theorem Recased.exists_of_mem (h : ls.Recased ls') (hl : l ∈ ls.toList) :
    ∃ l' ∈ ls'.toList, l.Recased l' := by
  have hfound := h.findsAlike l.isoCode l.isoCode rfl
  rw [mem_toList_iff.mp hl] at hfound
  obtain ⟨l', hfound', hsame⟩ := exists_of_rel_some hfound
  refine ⟨l', mem_toList_iff.mpr ?_, hsame⟩
  rw [find?_congr hsame.isoCode, hfound']

theorem Recased.defaultIsoCode? (h : ls.Recased ls') (hone : ls.OneDefault) :
    Culture.SameCode ls.defaultIsoCode? ls'.defaultIsoCode? := by
  unfold Languages.defaultIsoCode?
  cases hdefault : ls.toList.find? Language.isDefault with
  | none =>
      have hnone : ls'.toList.find? Language.isDefault = none := by
        rw [List.find?_eq_none] at hdefault ⊢
        intro l' hl'
        obtain ⟨l, hl, hsame⟩ := h.symm.exists_of_mem hl'
        rw [← hsame.isDefault]
        exact hdefault l hl
      rw [hnone]
      exact .none
  | some l =>
      have hl : l ∈ ls.toList := List.mem_of_find?_eq_some hdefault
      have hlDefault : l.isDefault = true := List.find?_some hdefault
      cases hdefault' : ls'.toList.find? Language.isDefault with
      | none =>
          obtain ⟨l', hl', hsame⟩ := h.exists_of_mem hl
          have hnot := List.find?_eq_none.mp hdefault' l' hl'
          exact absurd (hsame.isDefault.trans hlDefault) hnot
      | some m' =>
          -- Another default language on that side would be one on this side too.
          obtain ⟨m, hm, hsame⟩ := h.symm.exists_of_mem (List.mem_of_find?_eq_some hdefault')
          have hmDefault : m.isDefault = true :=
            hsame.isDefault.trans (List.find?_some hdefault')
          obtain rfl := hone l hl m hm hlDefault hmDefault
          exact .some hsame.isoCode.symm

end Languages

/-! ## Properties and nodes -/

namespace Property

variable {p p' : Property} {v v' : Variant}

/-- **The same is stored** for variants that agree. -/
theorem Recased.stored? (h : p.Recased p') (hv : v.agree v' = true) :
    p'.stored? v' = p.stored? v := by
  obtain ⟨_, hwrites⟩ := h
  unfold Property.stored?
  generalize p.writes = writes, p'.writes = writes' at hwrites
  induction hwrites with
  | nil => rfl
  | @cons w w' writes writes' hw _ ih =>
      obtain ⟨hwritten, hvalue⟩ := hw
      rw [List.find?_cons, List.find?_cons, Variant.agree_congr hwritten hv]
      split
      · exact congrArg some hvalue
      · exact ih

theorem Recased.value? (h : p.Recased p') (hv : v.agree v' = true) :
    p'.value? v' = p.value? v := by
  rw [Property.value?, Property.value?, h.stored? hv]

end Property

namespace Node

variable {n n' : Node} {v v' : Variant}

theorem Recased.value? (h : n.Recased n') (name : String) (hv : v.agree v' = true) :
    n'.value? name v' = n.value? name v :=
  bind_eq_of_rel (h.properties name) fun _ _ hp => hp.value? hv

end Node

/-- The same properties under every name. -/
def StoredAlike (stored stored' : Std.ExtTreeMap String Property) : Prop :=
  ∀ name : String, Option.Rel Property.Recased stored[name]? stored'[name]?

section

variable {stored stored' : Std.ExtTreeMap String Property}

theorem StoredAlike.insert (h : StoredAlike stored stored') {p p' : Property} (hp : p.Recased p') :
    StoredAlike (stored.insert p.name p) (stored'.insert p'.name p') := by
  have hname : p'.name = p.name := congrArg PropertyType.name hp.type
  intro name
  rw [Std.ExtTreeMap.getElem?_insert, Std.ExtTreeMap.getElem?_insert, hname]
  split
  · exact .some hp
  · exact h name

theorem StoredAlike.insertMany (h : StoredAlike stored stored') {ps ps' : List Property}
    (hps : List.Forall₂ Property.Recased ps ps') :
    StoredAlike (stored.insertMany (ps.map fun p => (p.name, p)))
      (stored'.insertMany (ps'.map fun p => (p.name, p))) := by
  induction hps generalizing stored stored' with
  | nil => simpa using h
  | cons hp _ ih =>
      rw [List.map_cons, List.map_cons, Std.ExtTreeMap.insertMany_cons,
        Std.ExtTreeMap.insertMany_cons]
      exact ih (h.insert hp)

end

/-- **Drafts become nodes alike.** -/
theorem Draft.Recased.place {d d' : Draft} (h : d.Recased d') (parent : Option NodeId)
    (path : Path) : (d.place parent path).Recased (d'.place parent path) where
  id := h.id
  parent := rfl
  type := h.type
  properties := by
    have hempty : StoredAlike ∅ ∅ := fun name => by simp
    simp only [Draft.place, Std.ExtTreeMap.ofList_eq_insertMany_empty]
    exact hempty.insertMany h.properties
  published := h.published

/-! ## Trees -/

namespace Tree

variable {t t' : Tree} {n n' : Node}

theorem recased_empty : empty.Recased empty :=
  ⟨fun id => by simp [Tree.find?, empty], rfl⟩

theorem Recased.put (h : t.Recased t') (hn : n.Recased n') : (t.put n).Recased (t'.put n') := by
  refine ⟨fun id => ?_, h.preview⟩
  rw [find?_put, find?_put, hn.id]
  split
  · exact .some hn
  · exact h.nodes id

theorem Recased.parent? (h : t.Recased t') (hn : n.Recased n') :
    Option.Rel Node.Recased (t.parent? n) (t'.parent? n') := by
  have hlink : Option.Rel Node.Recased (n.parent.bind t.find?) (n'.parent.bind t'.find?) := by
    rw [hn.parent]
    cases n.parent with
    | none => exact .none
    | some id => exact h.nodes id
  have hshows : ∀ p p' : Node, p.Recased p' → t'.shows p' = t.shows p := by
    intro p p' hp
    rw [shows, shows, hp.published, h.preview]
  exact rel_filter hlink hshows

/-- **Lineages alike.** -/
theorem Recased.lineage (h : t.Recased t') {as : List Node} (hn : n.Recased n')
    (has : t.Lineage n as) : ∃ as', t'.Lineage n' as' ∧ List.Forall₂ Node.Recased as as' := by
  induction has generalizing n' with
  | top htop => exact ⟨[], .top (eq_none_of_rel (htop ▸ h.parent? hn)), .nil⟩
  | @step n p above hstep _ ih =>
      unfold StepUp at hstep
      obtain ⟨p', hstep', hp⟩ := exists_of_rel_some (hstep ▸ h.parent? hn)
      obtain ⟨above', habove, hsame⟩ := ih hp
      exact ⟨p' :: above', .step hstep' habove, .cons hp hsame⟩

theorem Recased.above (h : t.Recased t') {a' : Node} (hn : n.Recased n')
    (habove : Relation.TransGen t'.StepUp n' a') :
    ∃ a, Relation.TransGen t.StepUp n a ∧ a.Recased a' := by
  induction habove with
  | single hstep =>
      obtain ⟨a, hstep', ha⟩ := exists_of_rel_some_right (hstep ▸ h.parent? hn)
      exact ⟨a, .single hstep', ha⟩
  | tail _ hstep ih =>
      obtain ⟨b, hb, hsame⟩ := ih
      obtain ⟨a, hstep', ha⟩ := exists_of_rel_some_right (hstep ▸ h.parent? hsame)
      exact ⟨a, hb.tail hstep', ha⟩

/-- **No cycle is added**: a node above itself would be one above itself before. -/
theorem Recased.acyclic (h : t.Recased t') (hacyclic : t.Acyclic) : t'.Acyclic := by
  intro n' hcycle
  obtain ⟨n, hfound, hn⟩ := exists_of_rel_some_right (stored_of_above hcycle ▸ h.nodes n'.id)
  obtain ⟨a, habove, ha⟩ := h.above hn hcycle
  have hsame : some a = some n := by
    rw [← stored_of_above habove, ← ha.id, hfound]
  obtain rfl := Option.some.inj hsame
  exact hacyclic a habove

end Tree

end Publishing
