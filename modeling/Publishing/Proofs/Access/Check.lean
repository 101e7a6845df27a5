import Publishing.Proofs.Access.Permissions

/-!
# Every check has an outcome

A check asks for entry to a path and for what is held there.  Either question can
fail, but only on a text that is no path, and a check never asks about one: it asks
about the path of an entity or about the id of a system node, which is a path of
one step.

* `checkedPath?` is the path that a check asks about, and `Admits` the access that it
  asks for.
* `mayEnter_checkedPath` and `permissionsAt_checkedPath`: neither question fails.
* `check_outcome` is the table of outcomes.
-/

namespace Publishing.Access.Realm

variable {r : Realm} {u : User} {node : NodeId} {path : String}

/-- A system node: the root or the recycle bin of content. -/
def Reserved (r : Realm) (node : NodeId) : Prop :=
  node = r.reserved.root ∨ node = r.reserved.contentBin

instance : Decidable (r.Reserved node) :=
  inferInstanceAs (Decidable (_ ∨ _))

/-- The path that a check asks about: of a system node its id, of any other node that of
its entity. -/
def checkedPath? (r : Realm) (node : NodeId) : Option String :=
  if r.Reserved node then some node.text else (r.entity? node).map fun e => e.path.text

/-- A user has the access that a check asks for: to the root for a system node, to its
path for any other one. -/
def Admits (r : Realm) (u : User) (node : NodeId) : Prop :=
  (r.Reserved node ∧ r.hasRootAccess u = true) ∨
    (¬ r.Reserved node ∧ ∃ e, r.entity? node = some e ∧ r.mayEnter u e.path.text = .ok true)

/-! ## The questions a check asks -/

/-- What a check asks about is the text of a path, though nobody has read it. -/
theorem exists_path_of_checkedPath? (h : r.checkedPath? node = some path) :
    ∃ p : Path, p.text = path := by
  unfold checkedPath? at h
  split at h
  · exact ⟨Path.ofId node, (Path.text_ofId node).trans (Option.some.inj h)⟩
  · obtain ⟨e, _, hpath⟩ := Option.map_eq_some_iff.mp h
    exact ⟨e.path, hpath⟩

theorem mayEnter_checkedPath (h : r.checkedPath? node = some path) :
    ∃ allowed, r.mayEnter u path = .ok allowed := by
  obtain ⟨p, rfl⟩ := exists_path_of_checkedPath? h
  exact ⟨_, mayEnter_text p⟩

theorem permissionsAt_checkedPath (u : User) (h : r.checkedPath? node = some path) :
    ∃ held, permissionsAt u path = .ok held := by
  obtain ⟨p, rfl⟩ := exists_path_of_checkedPath? h
  exact ⟨_, permissionsAt_text u p⟩

theorem holds_iff_permissionsAt (u : User) (p : Path) (required : List String) :
    (∀ permission ∈ required, u.Holds p.ids permission) ↔
      ∃ held, permissionsAt u p.text = .ok held ∧
        ∀ permission ∈ required, permission ∈ held.held := by
  simp only [permissionsAt_text, Except.ok.injEq, exists_eq_left', mem_grantedAlong]

/-! ## The table of outcomes -/

theorem ite_granted_iff {condition : Prop} [Decidable condition] :
    (if condition then Verdict.granted else .denied) = .granted ↔ condition := by
  split <;> simp [*]

theorem ite_ne_notFound {condition : Prop} [Decidable condition] :
    (if condition then Verdict.granted else .denied) ≠ .notFound := by
  split <;> simp

theorem admits_iff_of_reserved (h : r.Reserved node) :
    r.Admits u node ↔ r.hasRootAccess u = true := by
  simp [Admits, h]

theorem admits_iff_of_entity {e : Entity} (h : ¬ r.Reserved node)
    (he : r.entity? node = some e) : r.Admits u node ↔ r.Opens u e.path.text := by
  simp [Admits, h, he, mayEnter_text]

theorem checkedPath?_eq_none_iff :
    r.checkedPath? node = none ↔ ¬ r.Reserved node ∧ r.entity? node = none := by
  unfold checkedPath?
  split <;> simp [*]

/-- **The check of a node that is known.**  It is granted to whoever has access and
holds what is required at the path that the check asks about. -/
theorem check_of_checkedPath? (h : r.checkedPath? node = some path) (u : User)
    (required : List String) :
    ∃ c, r.check node u required = .ok c ∧ c.verdict ≠ .notFound ∧
      (c.verdict = .granted ↔ r.Admits u node ∧ ∃ held, permissionsAt u path = .ok held ∧
        ∀ permission ∈ required, permission ∈ held.held) ∧
      c.entity = if r.Reserved node then none else r.entity? node := by
  unfold checkedPath? at h
  by_cases hreserved : r.Reserved node
  · rw [if_pos hreserved] at h
    obtain rfl := Option.some.inj h
    refine ⟨_, check_of_reserved hreserved required, ite_ne_notFound, ?_, by rw [if_pos hreserved]⟩
    rw [ite_granted_iff, admits_iff_of_reserved hreserved, ← Path.text_ofId node,
      ← holds_iff_permissionsAt, Path.ids_ofId]
  · rw [if_neg hreserved] at h
    obtain ⟨e, he, rfl⟩ := Option.map_eq_some_iff.mp h
    obtain ⟨hroot, hbin⟩ := not_or.mp hreserved
    refine ⟨_, check_of_entity hroot hbin he required, ite_ne_notFound, ?_,
      by rw [if_neg hreserved, he]⟩
    rw [ite_granted_iff, admits_iff_of_entity hreserved he, ← holds_iff_permissionsAt]

theorem check_of_no_path (h : r.checkedPath? node = none) (u : User) (required : List String) :
    r.check node u required = .ok ⟨.notFound, none⟩ := by
  obtain ⟨hreserved, hnone⟩ := checkedPath?_eq_none_iff.mp h
  obtain ⟨hroot, hbin⟩ := not_or.mp hreserved
  exact check_of_unknown hroot hbin hnone required

/-- Where nothing is required the general rule asks for no permission, and the question
for permissions does not fail. -/
theorem check_nil_granted_iff :
    (∃ entity, r.check node u [] = .ok ⟨.granted, entity⟩) ↔ r.Admits u node := by
  cases hpath : r.checkedPath? node with
  | none =>
      obtain ⟨hreserved, hnone⟩ := checkedPath?_eq_none_iff.mp hpath
      simp [check_of_no_path hpath, Admits, hreserved, hnone]
  | some path =>
      obtain ⟨⟨verdict, entity⟩, hc, _, hgranted, _⟩ := check_of_checkedPath? hpath u []
      obtain ⟨held, hheld⟩ := permissionsAt_checkedPath u hpath
      have hrule : verdict = .granted ↔ r.Admits u node := by simpa [hheld] using hgranted
      simp [hc, ← hrule]

/-- **Every check has an outcome.**  Whatever entities there are, whichever the system
nodes, for any user and any permissions:

* a check does not fail, and neither does any question that it asks;
* it finds no node exactly if the node is neither a system node nor known;
* it is granted exactly if the user has access and holds every required permission
  at the path that it asks about;
* it brings the entity exactly if the node is no system node and known;
* if nothing is required, access alone decides. -/
theorem check_outcome (r : Realm) (u : User) (node : NodeId) (required : List String) :
    (∃ c, r.check node u required = .ok c ∧
      (c.verdict = .notFound ↔ ¬ r.Reserved node ∧ r.entity? node = none) ∧
      (c.verdict = .granted ↔ r.Admits u node ∧ ∃ path held,
        r.checkedPath? node = some path ∧ permissionsAt u path = .ok held ∧
          ∀ permission ∈ required, permission ∈ held.held) ∧
      ∀ e, c.entity = some e ↔ ¬ r.Reserved node ∧ r.entity? node = some e) ∧
    ((∃ entity, r.check node u [] = .ok ⟨.granted, entity⟩) ↔ r.Admits u node) ∧
    ∀ path ∈ r.checkedPath? node,
      (∃ allowed, r.mayEnter u path = .ok allowed) ∧ ∃ held, permissionsAt u path = .ok held := by
  refine ⟨?_, check_nil_granted_iff, fun path hpath =>
    ⟨mayEnter_checkedPath hpath, permissionsAt_checkedPath u hpath⟩⟩
  cases hpath : r.checkedPath? node with
  | none =>
      refine ⟨_, check_of_no_path hpath u required, ?_⟩
      simp [checkedPath?_eq_none_iff.mp hpath]
  | some path =>
      obtain ⟨c, hc, hfound, hgranted, hentity⟩ := check_of_checkedPath? hpath u required
      refine ⟨c, hc, ?_, by simpa using hgranted, fun e => ?_⟩
      · rw [← checkedPath?_eq_none_iff, hpath]
        simpa using hfound
      · rw [hentity]
        split <;> simp [*]

end Publishing.Access.Realm
