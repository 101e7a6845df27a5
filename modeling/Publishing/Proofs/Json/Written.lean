import Publishing.Json.Written
import Publishing.Proofs.Json.Token

/-!
# Trees read back

The reader takes the tokens of a tree one by one and ends where it would be if it had been
handed the tree.  This is so whatever arrays and objects are open around the tree, and the
statement for the items of an array and the fields of an object is by induction on them, for
whatever stands before them.

* `Reads`: reading the tokens of a tree completes the tree.
* `Reads.array`, `Reads.object`: it is so for an array or object if it is so for all in it.
* `ofTokens?_tokens`: the tokens of a tree give the tree.
-/

namespace Publishing.Json.Written

open Reader

variable {w v : Written} {items : List Written} {fields : List (List Char × Written)}

/-- Reading the tokens of a tree where a value is waited for completes the tree. -/
def Reads (w : Written) : Prop :=
  ∀ opened, w.tokens.foldlM step (.value opened) = some (complete w opened)

/-! ## Arrays -/

/-- The tokens of a tree begin with one that is no end of an array. -/
theorem tokens_eq_cons (w : Written) : ∃ t ts, w.tokens = t :: ts ∧ t ≠ .closeArray := by
  cases w <;> simp [tokens]

/-- The items of an array begin with the tokens of the first one. -/
theorem itemTokens_eq_append (v : Written) (items : List Written) :
    ∃ more, itemTokens (v :: items) = v.tokens ++ more := by
  cases items with
  | nil => exact ⟨[], by simp [itemTokens]⟩
  | cons w items => exact ⟨.comma :: itemTokens (w :: items), by simp [itemTokens]⟩

/-- The first item of an array is read like any other. -/
theorem read_firstItem (v : Written) (items : List Written) (rest : List Token)
    (opened : List Frame) :
    (itemTokens (v :: items) ++ rest).foldlM step (.firstItem opened) =
      (itemTokens (v :: items) ++ rest).foldlM step (.value (.array [] :: opened)) := by
  obtain ⟨more, hmore⟩ := itemTokens_eq_append v items
  obtain ⟨t, ts, hv, ht⟩ := tokens_eq_cons v
  have hstep : step (.firstItem opened) t = step (.value (.array [] :: opened)) t := by
    cases t <;> first | rfl | exact absurd rfl ht
  simp only [hmore, hv, List.cons_append, List.foldlM_cons, hstep]

/-- Items and the end of their array complete the array, with the items before them. -/
theorem read_items (hv : Reads v) (h : ∀ w ∈ items, Reads w) (before : List Written)
    (opened : List Frame) :
    (itemTokens (v :: items) ++ [Token.closeArray]).foldlM step (.value (.array before :: opened)) =
      some (complete (.array (before.reverse ++ v :: items)) opened) := by
  induction items generalizing v before with
  | nil =>
      rw [itemTokens, List.foldlM_append, hv]
      exact congrArg (fun vs => some (complete (.array vs) opened)) List.reverse_cons
  | cons w items ih =>
      obtain ⟨hw, hitems⟩ := List.forall_mem_cons.mp h
      have hrest := ih hw hitems (v :: before)
      rw [List.reverse_cons, List.append_assoc] at hrest
      rw [itemTokens, List.append_assoc, List.foldlM_append, hv]
      · exact hrest
      · exact List.cons_ne_nil w items

theorem Reads.array (h : ∀ v ∈ items, Reads v) : Reads (.array items) := by
  intro opened
  cases items with
  | nil => rfl
  | cons v items =>
      obtain ⟨hv, hitems⟩ := List.forall_mem_cons.mp h
      exact (read_firstItem v items _ opened).trans (read_items hv hitems [] opened)

/-! ## Objects -/

/-- A key, a colon and the tokens of a value add a field. -/
theorem read_field (k : List Char) (hv : Reads v) (rest : List Token)
    (before : List (List Char × Written)) (opened : List Frame) :
    (.string k :: .colon :: (v.tokens ++ rest)).foldlM step (.nextKey before opened) =
      rest.foldlM step (.afterField ((k, v) :: before) opened) := by
  have hvalue : (v.tokens ++ rest).foldlM step (.value (.object before k :: opened)) =
      rest.foldlM step (.afterField ((k, v) :: before) opened) := by
    rw [List.foldlM_append, hv]
    rfl
  exact hvalue

/-- Fields and the end of their object complete the object, with the fields before them. -/
theorem read_fields {k : List Char} (hv : Reads v) (h : ∀ f ∈ fields, Reads f.2)
    (before : List (List Char × Written)) (opened : List Frame) :
    (fieldTokens ((k, v) :: fields) ++ [Token.closeObject]).foldlM step
        (.nextKey before opened) =
      some (complete (.object (before.reverse ++ (k, v) :: fields)) opened) := by
  induction fields generalizing k v before with
  | nil =>
      rw [fieldTokens, List.cons_append, List.cons_append, read_field k hv]
      exact congrArg (fun fs => some (complete (.object fs) opened)) List.reverse_cons
  | cons f fields ih =>
      obtain ⟨hw, hfields⟩ := List.forall_mem_cons.mp h
      have hrest := ih (k := f.1) hw hfields ((k, v) :: before)
      rw [List.reverse_cons, List.append_assoc] at hrest
      rw [fieldTokens, List.append_assoc, List.cons_append, List.cons_append, read_field k hv]
      · exact hrest
      · exact List.cons_ne_nil f fields

theorem Reads.object (h : ∀ f ∈ fields, Reads f.2) : Reads (.object fields) := by
  intro opened
  cases fields with
  | nil => rfl
  | cons f fields =>
      obtain ⟨hv, hfields⟩ := List.forall_mem_cons.mp h
      have hrest := read_fields (k := f.1) hv hfields [] opened
      cases fields <;> exact hrest

/-! ## Trees -/

/-- **Every tree is read back from its tokens.** -/
theorem reads (w : Written) : Reads w := by
  match w with
  | .null => exact fun _ => rfl
  | .bool _ => exact fun _ => rfl
  | .number _ => exact fun _ => rfl
  | .string _ => exact fun _ => rfl
  | .array items => exact Reads.array fun v hv => reads v
  | .object fields => exact Reads.object fun f hf => reads f.2
termination_by w
decreasing_by
  · simp only [array.sizeOf_spec]
    exact Nat.lt_add_left 1 (List.sizeOf_lt_of_mem hv)
  · have hfst : sizeOf f = 1 + sizeOf f.1 + sizeOf f.2 := rfl
    have hmem := List.sizeOf_lt_of_mem hf
    simp only [object.sizeOf_spec]
    omega

theorem ofTokens?_tokens (w : Written) : ofTokens? w.tokens = some w := by
  rw [ofTokens?, reads w []]
  rfl

end Publishing.Json.Written
