import Mathlib.Data.List.Basic
import Publishing.Proofs.Json.Value
import Publishing.Proofs.Path
import Publishing.Serial

/-!
# Data read back from JSON

A type is `LawfulSerial` if its values are read back from the trees in which they are
written.  The trees hold no floating-point numbers, so the text of a value gives its tree,
and the value is read back from the text: `LawfulSerial.parse?_render`.

A reader of a tree finds in it what was written:

* `optional?_optionJson`: what was left open is `null` and is left open again;
* `nodeMap?_nodeMapJson`: a map by node id stands under the texts of the ids, and a text that
  is written for an id is read as this id, negative or not;
* `record?_written` and the lemmas on `Fields.written`: every field of a record is found
  under its name, so that a `LawfulRecord` is read back.
-/

namespace Publishing

open Json

/-- A type whose values are read back from the trees in which they are written. -/
class LawfulSerial (α : Type) [Serial α] : Prop where
  /-- Only what is left open is written as `null`. -/
  ne_null (a : α) : (Serial.toJson a).written ≠ .null
  integral (a : α) : (Serial.toJson a).Integral
  ofWritten?_written (a : α) : Serial.ofWritten? (Serial.toJson a).written = some a

attribute [simp] LawfulSerial.integral LawfulSerial.ofWritten?_written

variable {α : Type} [Serial α]

/-- **A value is read back from its text.** -/
theorem LawfulSerial.parse?_render [LawfulSerial α] (a : α) :
    Serial.parse? α (Serial.render a) = some a := by
  rw [Serial.parse?, Serial.render, (integral a).parse?_render, Option.bind_some,
    ofWritten?_written]

namespace Json

/-! ## Texts, integers and lists -/

@[simp] theorem text?_written_str (s : String) : (Json.str s).written.text? = some s := by
  simp [written, Written.text?, writtenText]

@[simp] theorem tag?_written_str (s : String) : (Json.str s).written.tag? = some s := by
  simp [written, Written.tag?, writtenText]

@[simp] theorem integer?_written_int (n : Int) : (Json.int n).written.integer? = some n := by
  simp [written, Written.integer?]

@[simp] theorem bool?_written_bool (b : Bool) : (Json.bool b).written.bool? = some b := rfl

/-- Things that are each read back are read back together. -/
theorem mapM_map_eq_some {β γ : Type} {write : β → γ} {read : γ → Option β}
    (h : ∀ b, read (write b) = some b) (bs : List β) :
    (bs.map write).mapM read = some bs := by
  have hread : read ∘ write = fun b => some b := funext h
  rw [List.mapM_map, hread]
  exact List.mapM_pure.trans (congrArg some (List.map_id bs))

theorem list?_written {β : Type} {read : Written → Option β} {write : β → Json}
    (h : ∀ b, read (write b).written = some b) (bs : List β) :
    (Json.arr (bs.map write)).written.list? read = some bs := by
  rw [written, writtenItems_eq, List.map_map, Written.list?]
  exact mapM_map_eq_some h bs

/-- What was left open is left open again, and what was not is read. -/
@[simp] theorem optional?_optionJson [LawfulSerial α] (o : Option α) :
    (Serial.optionJson o).written.optional? Serial.ofWritten? = some o := by
  cases o with
  | none => rfl
  | some a =>
      rw [Serial.optionJson, Written.optional?, LawfulSerial.ofWritten?_written]
      · rfl
      · exact LawfulSerial.ne_null a

theorem integral_optionJson [LawfulSerial α] (o : Option α) :
    (Serial.optionJson o).Integral := by
  cases o with
  | none => exact .null
  | some a => exact LawfulSerial.integral a

/-! ## Maps -/

theorem entries?_written {κ : Type} {readKey : List Char → Option κ} [LawfulSerial α]
    (name : κ → String) (h : ∀ k, readKey (writtenText (name k)) = some k)
    (entries : List (κ × α)) :
    (Json.obj (entries.map fun (k, a) => (name k, Serial.toJson a))).written.entries?
      readKey Serial.ofWritten? = some entries := by
  rw [written, writtenFields_eq, List.map_map, Written.entries?]
  exact mapM_map_eq_some (fun entry => by simp [h]) entries

theorem integral_entries {κ : Type} [LawfulSerial α] (name : κ → String)
    (entries : List (κ × α)) :
    (Json.obj (entries.map fun (k, a) => (name k, Serial.toJson a))).Integral :=
  .obj (List.forall_mem_map.mpr fun (_, a) _ => LawfulSerial.integral a)

/-- A map is made up of its entries, in whatever order they are given. -/
theorem ofList_of_perm {κ β : Type} [BEq κ] [Ord κ] [Std.TransOrd κ] [Std.LawfulEqOrd κ]
    [Std.LawfulBEqOrd κ] {m : Std.ExtTreeMap κ β} {entries : List (κ × β)}
    (h : entries.Perm m.toList) : Std.ExtTreeMap.ofList entries = m := by
  have hdistinct : entries.Pairwise fun a b => ¬ compare a.1 b.1 = .eq :=
    (h.pairwise_iff fun hab hba => hab (Std.OrientedCmp.eq_symm hba)).mpr
      Std.ExtTreeMap.distinct_keys_toList
  refine Std.ExtTreeMap.ext_getElem? fun k => ?_
  cases hk : m[k]? with
  | some b =>
      have hmem : (k, b) ∈ entries :=
        h.mem_iff.mpr (Std.ExtTreeMap.mem_toList_iff_getElem?_eq_some.mpr hk)
      exact Std.ExtTreeMap.getElem?_ofList_of_mem Std.ReflCmp.compare_self hdistinct hmem
  | none =>
      refine Std.ExtTreeMap.getElem?_ofList_of_contains_eq_false ?_
      have hkeys : (entries.map Prod.fst).Perm m.keys := by
        rw [← Std.ExtTreeMap.map_fst_toList_eq_keys]
        exact h.map Prod.fst
      have hkey : k ∉ m.keys := by simp [Std.ExtTreeMap.mem_iff_isSome_getElem?, hk]
      simpa using hkeys.mem_iff.not.mpr hkey

@[simp] theorem ofList_toList {κ β : Type} [BEq κ] [Ord κ] [Std.TransOrd κ] [Std.LawfulEqOrd κ]
    [Std.LawfulBEqOrd κ] (m : Std.ExtTreeMap κ β) : Std.ExtTreeMap.ofList m.toList = m :=
  ofList_of_perm (.refl m.toList)

end Json

/-- A digit or sign needs no escape. -/
theorem Json.Quoted.encodeChar_of_isDigit {c : Char} (h : c.isDigit = true ∨ c = '-') :
    encodeChar c = [c] := by
  unfold encodeChar
  split
  case h_8 =>
    have hcode : ¬ c.toNat < 0x20 := by
      rcases h with hdigit | rfl
      · have hrange := Text.Decimal.isDigit_iff.mp hdigit
        omega
      · decide
    rw [if_neg hcode]
  all_goals exact absurd h (by decide)

/-- The text of an id needs no escapes. -/
theorem NodeId.writtenText_text (id : NodeId) :
    writtenText id.text = Text.Decimal.ofInt id.val := by
  rw [writtenText, NodeId.text, String.toList_ofList, Quoted.encode]
  calc (Text.Decimal.ofInt id.val).flatMap Quoted.encodeChar
      = (Text.Decimal.ofInt id.val).flatMap fun c => [c] := by
        refine List.flatMap_congr fun c hc => ?_
        exact Quoted.encodeChar_of_isDigit (Text.Decimal.mem_ofInt hc)
    _ = Text.Decimal.ofInt id.val := List.flatMap_singleton' _

/-- **The text of an id is a key that spells the id**, the minus sign of a negative one
included. -/
theorem NodeId.ofKey?_writtenText (id : NodeId) :
    NodeId.ofKey? (writtenText id.text) = some id := by
  rw [NodeId.writtenText_text, NodeId.ofKey?, Numeral.ofChars?_ofInt, Option.bind_some,
    Numeral.integer?_ofInt, Option.bind_some, NodeId.ofInt?_val]

@[simp] theorem Json.nodeMap?_nodeMapJson [LawfulSerial α] (m : Std.ExtTreeMap NodeId α) :
    Serial.nodeMap? (Serial.nodeMapJson m).written = some m := by
  rw [Serial.nodeMap?, Serial.nodeMapJson, entries?_written NodeId.text NodeId.ofKey?_writtenText,
    Option.map_some, ofList_toList]

/-! ## Records -/

/-- The fields that an object holds. -/
def Fields.written (fields : List (String × Json)) : Fields :=
  ⟨fields.map fun f => (f.1, f.2.written)⟩

namespace Json

theorem knownFields?_written {names : List String} {fields : List (String × Json)}
    (hknown : ∀ f ∈ fields, f.1 ∈ names) (hnodup : (fields.map Prod.fst).Nodup) :
    Written.knownFields? names (writtenFields fields) = some (Fields.written fields).given := by
  induction fields with
  | nil => rfl
  | cons f fields ih =>
      obtain ⟨name, v⟩ := f
      obtain ⟨hname, hrest⟩ := List.forall_mem_cons.mp hknown
      obtain ⟨hnotMem, hnodup'⟩ := List.nodup_cons.mp hnodup
      have hfresh : (Fields.written fields).given.any (fun g => g.1 == name) = false := by
        rw [List.any_eq_false]
        rintro g hg heq
        obtain ⟨f, hf, rfl⟩ := List.mem_map.mp hg
        exact hnotMem (List.mem_map.mpr ⟨f, hf, beq_iff_eq.mp heq⟩)
      have hdecode : (Quoted.decode (writtenText name)).map String.ofList = some name :=
        text?_written_str name
      rw [writtenFields, Written.knownFields?, hdecode, ih hrest hnodup']
      simp only [Option.bind_eq_bind, Option.bind_some, List.contains_iff_mem.mpr hname, if_true,
        hfresh, Bool.false_eq_true, if_false]
      rfl

/-- An object gives its fields, if they all are of the record and no two of one name. -/
theorem record?_written {names : List String} {fields : List (String × Json)} {atLeast : Nat}
    (hknown : ∀ f ∈ fields, f.1 ∈ names) (hnodup : (fields.map Prod.fst).Nodup) :
    (Json.obj fields).written.record? names atLeast = some (Fields.written fields) := by
  rw [written, Written.record?, knownFields?_written hknown hnodup]
  rfl

/-- A record is read from its object if it is read from its fields. -/
theorem bind_record?_written {β : Type} {names : List String} {fields : List (String × Json)}
    {atLeast : Nat} {read : Fields → Option β} {b : β} (hknown : ∀ f ∈ fields, f.1 ∈ names)
    (hnodup : (fields.map Prod.fst).Nodup) (hread : read (Fields.written fields) = some b) :
    ((Json.obj fields).written.record? names atLeast).bind read = some b := by
  rw [record?_written hknown hnodup, Option.bind_some, hread]

end Json

/-- A record whose values are read back from the objects in which they are written. -/
class LawfulRecord (α : Type) [Record α] : Prop where
  /-- All fields are written, in their order. -/
  map_fst_fields (a : α) : (Record.fields a).map Prod.fst = Record.names α
  /-- No two fields have one name. -/
  nodup_names : (Record.names α).Nodup
  integral (a : α) : ∀ f ∈ Record.fields a, f.2.Integral
  /-- The value is made up of its fields again. -/
  ofFields?_written (a : α) : Record.ofFields? (Fields.written (Record.fields a)) = some a

namespace LawfulRecord

variable {β : Type} [Record β] [LawfulRecord β] (b : β)

/-- The reader knows every field that is written. -/
theorem known : ∀ f ∈ Record.fields b, f.1 ∈ Record.names β := by
  intro f hf
  rw [← map_fst_fields b]
  exact List.mem_map_of_mem hf

theorem nodup_fields : ((Record.fields b).map Prod.fst).Nodup := by
  rw [map_fst_fields]
  exact nodup_names

instance : LawfulSerial β where
  ne_null _ := nofun
  integral b := .obj (LawfulRecord.integral b)
  ofWritten?_written b :=
    bind_record?_written (known b) (nodup_fields b) (ofFields?_written b)

end LawfulRecord

namespace Fields

/-- What is looked for behind a field of another name.  The equation of `lookup` would have
the names compared by evaluation. -/
@[simp] theorem lookup_cons_of_ne {name other : String} (h : name ≠ other) (v : Json)
    (fields : List (String × Json)) : ((other, v) :: fields).lookup name = fields.lookup name := by
  rw [List.lookup_cons, beq_eq_false_iff_ne.mpr h]

variable {β : Type} (fields : List (String × Json)) (name : String) (read : Written → Option β)

theorem get?_written :
    (Fields.written fields).get? name = (fields.lookup name).map Json.written := by
  induction fields with
  | nil => rfl
  | cons f fields ih =>
      obtain ⟨other, v⟩ := f
      have hcons : (Fields.written ((other, v) :: fields)).get? name =
          match name == other with
          | true => some v.written
          | false => (Fields.written fields).get? name := List.lookup_cons
      rw [hcons, ih, List.lookup_cons]
      cases name == other <;> rfl

@[simp] theorem required_written :
    (Fields.written fields).required name read =
      (fields.lookup name).bind fun v => read v.written := by
  rw [required, get?_written, Option.bind_map]
  rfl

@[simp] theorem optional_written :
    (Fields.written fields).optional name read =
      ((fields.lookup name).map fun v => v.written.optional? read).getD (some none) := by
  rw [optional, get?_written]
  cases fields.lookup name <;> rfl

@[simp] theorem defaulted_written (default : β) :
    (Fields.written fields).defaulted name default read =
      ((fields.lookup name).map fun v => read v.written).getD (some default) := by
  rw [defaulted, get?_written]
  cases fields.lookup name <;> rfl

end Fields

end Publishing
