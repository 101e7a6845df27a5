import Publishing.Json.Value
import Publishing.Proofs.Json.Written

/-!
# Values read back

The text of a value without floating-point numbers is read back as the tree that was
written: its tokens are found in the text, and they give the tree.  Floating-point numbers
are left out because data in JSON form holds none.

* `Integral`: there is no floating-point number in a value.
* `Integral.scans`: the tokens of such a value are found in its text.
* `Integral.parse?_render`: the text gives the tree.
-/

namespace Publishing

namespace Json.Written

open Token

/-! ## The tokens of a tree in its text -/

theorem itemTokens_eq (items : List Written) :
    itemTokens items = [Token.comma].intercalate (items.map tokens) := by
  induction items with
  | nil => rfl
  | cons v items ih =>
      cases items with
      | nil => simp [itemTokens]
      | cons w items =>
          rw [itemTokens, ih, List.map_cons, List.map_cons, List.map_cons,
            List.intercalate_cons_cons]
          · simp
          · exact List.cons_ne_nil w items

theorem fieldTokens_eq (fields : List (List Char × Written)) :
    fieldTokens fields = [Token.comma].intercalate
      (fields.map fun f => .string f.1 :: .colon :: f.2.tokens) := by
  induction fields with
  | nil => rfl
  | cons f fields ih =>
      cases fields with
      | nil => simp [fieldTokens]
      | cons g fields =>
          rw [fieldTokens, ih, List.map_cons, List.map_cons, List.map_cons,
            List.intercalate_cons_cons]
          · simp
          · exact List.cons_ne_nil g fields

theorem scans_array {items : List Written} (h : ∀ w ∈ items, Scans w.tokens) :
    Scans (array items).tokens := by
  have hitems : Scans (itemTokens items) := by
    rw [itemTokens_eq]
    exact scans_intercalate (List.forall_mem_map.mpr h)
  rw [tokens]
  exact (scans_nil.mark (c := '[') rfl hitems).mark (c := ']') rfl scans_nil

theorem scans_object {fields : List (List Char × Written)}
    (h : ∀ f ∈ fields, Scans [.string f.1] ∧ Scans f.2.tokens) :
    Scans (object fields).tokens := by
  have hfields : Scans (fieldTokens fields) := by
    rw [fieldTokens_eq]
    refine scans_intercalate (List.forall_mem_map.mpr fun f hf => ?_)
    obtain ⟨hkey, hvalue⟩ := h f hf
    exact hkey.mark (c := ':') rfl hvalue
  rw [tokens]
  exact (scans_nil.mark (c := '\x7b') rfl hfields).mark (c := '\x7d') rfl scans_nil

/-- A tree whose tokens are found in its text is read back from it. -/
theorem parse?_render {w : Written} (h : Scans w.tokens) : parse? w.render = some w := by
  have hscan : Token.scan (w.tokens.flatMap Token.chars) = some w.tokens := by
    have hnil : Token.scan [] = some [] := by rw [Token.scan]
    have hall := h [] (by simp [Closes])
    rw [List.append_nil, hnil] at hall
    simpa using hall
  rw [parse?, render, String.toList_ofList, hscan, Option.bind_some, ofTokens?_tokens]

end Json.Written

namespace Json

/-- There is no floating-point number in a value. -/
inductive Integral : Json → Prop where
  | null : Integral .null
  | bool (b : Bool) : Integral (.bool b)
  | int (n : Int) : Integral (.int n)
  | str (s : String) : Integral (.str s)
  | arr {items : List Json} (h : ∀ v ∈ items, Integral v) : Integral (.arr items)
  | obj {fields : List (String × Json)} (h : ∀ f ∈ fields, Integral f.2) : Integral (.obj fields)

theorem writtenItems_eq (items : List Json) : writtenItems items = items.map written := by
  induction items with
  | nil => rfl
  | cons v items ih => rw [writtenItems, ih, List.map_cons]

theorem writtenFields_eq (fields : List (String × Json)) :
    writtenFields fields = fields.map fun f => (writtenText f.1, written f.2) := by
  induction fields with
  | nil => rfl
  | cons f fields ih => rw [writtenFields, ih, List.map_cons]

/-- The tokens of a value are found in its text. -/
theorem Integral.scans {v : Json} (h : v.Integral) : Token.Scans v.written.tokens := by
  induction h with
  | null => exact Token.scans_null
  | bool b => exact Token.scans_bool b
  | int n => exact Token.scans_int n
  | str s => exact Token.scans_string s.toList
  | arr _ ih =>
      rw [written, writtenItems_eq]
      exact Written.scans_array (List.forall_mem_map.mpr ih)
  | obj _ ih =>
      rw [written, writtenFields_eq]
      refine Written.scans_object (List.forall_mem_map.mpr fun f hf => ?_)
      exact ⟨Token.scans_string f.1.toList, ih f hf⟩

/-- **The text of a value without floating-point numbers gives the tree that was written.** -/
theorem Integral.parse?_render {v : Json} (h : v.Integral) :
    Written.parse? v.render = some v.written :=
  Written.parse?_render h.scans

end Json

end Publishing
