import Publishing.Proofs.Serial.Lawful
import Publishing.Serial.Content

/-!
# Content data read back

Paths, languages, content types, policies, settings and rendering contexts are read back
from their JSON forms.
-/

namespace Publishing

open Json

variable {α : Type} [Serial α]

/-! ## Single values and lists -/

@[simp] theorem Json.ofWritten?_str (s : String) :
    Serial.ofWritten? (Json.str s).written = some s :=
  text?_written_str s

@[simp] theorem Json.ofWritten?_bool (b : Bool) :
    Serial.ofWritten? (Json.bool b).written = some b :=
  bool?_written_bool b

instance : LawfulSerial String where
  ne_null _ := nofun
  integral s := .str s
  ofWritten?_written := ofWritten?_str

instance [LawfulSerial α] : LawfulSerial (List α) where
  ne_null _ := nofun
  integral _ := .arr (List.forall_mem_map.mpr fun a _ => LawfulSerial.integral a)
  ofWritten?_written := list?_written LawfulSerial.ofWritten?_written

instance : LawfulSerial NodeId where
  ne_null _ := nofun
  integral id := .int id.val
  ofWritten?_written id := Option.bind_eq_some_iff.mpr
    ⟨id.val, integer?_written_int id.val, NodeId.ofInt?_val id⟩

instance : LawfulSerial Path where
  ne_null _ := nofun
  integral p := .str p.text
  ofWritten?_written p := Option.bind_eq_some_iff.mpr
    ⟨p.text, text?_written_str p.text, by rw [Path.parse_text]; rfl⟩

instance : LawfulSerial Variation where
  ne_null _ := nofun
  integral v := .str v.name
  ofWritten?_written v := Option.bind_eq_some_iff.mpr
    ⟨v.name, tag?_written_str v.name, by cases v <;> rfl⟩

instance : LawfulSerial Mode where
  ne_null _ := nofun
  integral m := .str m.name
  ofWritten?_written m := Option.bind_eq_some_iff.mpr
    ⟨m.name, tag?_written_str m.name, by cases m <;> rfl⟩

instance : LawfulSerial Policy where
  ne_null _ := nofun
  integral p := LawfulSerial.integral p.modes
  ofWritten?_written p := Option.map_eq_some_iff.mpr
    ⟨p.modes, LawfulSerial.ofWritten?_written p.modes, rfl⟩

/-! ## Identifiers -/

namespace Uuid

theorem digit?_digitChar : ∀ d : Fin 16, digit? (Nat.digitChar d.val) = some d := by decide

theorem digitChar_ne_hyphen : ∀ d : Fin 16, Nat.digitChar d.val ≠ '-' := by decide

/-- The groups of digits that are shown with hyphens between them. -/
def groups (cs : List Char) : List (List Char) :=
  [(cs.drop 0).take 8, (cs.drop 8).take 4, (cs.drop 12).take 4, (cs.drop 16).take 4,
    (cs.drop 20).take 12]

variable {cs : List Char}

/-- The groups are all of the digits. -/
theorem flatten_groups (h : cs.length = 32) : (groups cs).flatten = cs := by
  have hlast : (cs.drop 20).take 12 = cs.drop 20 := List.take_of_length_le (by simp [h])
  have hjoin : ∀ start length, (cs.drop start).take length ++ cs.drop (start + length) =
      cs.drop start := by
    intro start length
    rw [← List.drop_drop, List.take_append_drop]
  simp only [groups, List.flatten_cons, List.flatten_nil, List.append_nil, hlast]
  rw [hjoin 16 4, hjoin 12 4, hjoin 8 4, hjoin 0 8, List.drop_zero]

/-- The hyphens are found again, since no digit is one. -/
theorem bare?_intercalate (h : cs.length = 32) (hhyphen : '-' ∉ cs) :
    bare? (['-'].intercalate (groups cs)) = some cs := by
  have hpart : ∀ start length, '-' ∉ (cs.drop start).take length := fun _ _ hmem =>
    hhyphen (List.mem_of_mem_drop (List.mem_of_mem_take hmem))
  have hgroup : ∀ group ∈ groups cs, '-' ∉ group := by
    simp only [groups, List.mem_cons, List.not_mem_nil, or_false, forall_eq_or_imp, forall_eq,
      hpart, not_false_eq_true, and_self]
  have hlengths : (groups cs).map List.length = groupLengths := by
    simp [groups, h, groupLengths]
  have hlength : (['-'].intercalate (groups cs)).length = 36 := by simp [groups, h]
  rw [bare?, if_neg (by omega), if_pos hlength, ungrouped?,
    List.splitOn_intercalate '-' hgroup (by simp [groups])]
  rw [if_pos hlengths, flatten_groups h]

/-- **An identifier is read back from its hyphenated text.** -/
theorem ofText?_text (u : Uuid) : ofText? u.text = some u := by
  have hbare : bare? u.text.toList = some (u.digits.map fun d => Nat.digitChar d.val) := by
    rw [text, String.toList_ofList]
    exact bare?_intercalate (by simp [u.size]) (by simp [digitChar_ne_hyphen])
  rw [ofText?, hbare, Option.bind_some, mapM_map_eq_some digit?_digitChar, Option.bind_some,
    dif_pos u.size]

end Uuid

instance : LawfulSerial Uuid where
  ne_null _ := nofun
  integral u := .str u.text
  ofWritten?_written u := Option.bind_eq_some_iff.mpr
    ⟨u.text, text?_written_str u.text, Uuid.ofText?_text u⟩

/-! ## Records

An object holds the fields that the reader knows, each once.  What differs is how the value
is made up of them again.
-/

instance : LawfulRecord Language where
  map_fst_fields _ := rfl
  nodup_names := by decide
  integral _ := by simp [Record.fields, integral_optionJson, Integral.str, Integral.bool]
  ofFields?_written _ := by simp [Record.fields, Record.ofFields?]

instance : LawfulRecord PropertyType where
  map_fst_fields _ := rfl
  nodup_names := by decide
  integral _ := by simp [Record.fields, Integral.str]
  ofFields?_written _ := by simp [Record.fields, Record.ofFields?]

instance : LawfulRecord RenderContext where
  map_fst_fields _ := rfl
  nodup_names := by decide
  integral _ := by
    simp [Record.fields, integral_optionJson, Serial.nodeMapJson, integral_entries]
  ofFields?_written _ := by simp [Record.fields, Record.ofFields?]

instance : LawfulRecord ReservedIds where
  map_fst_fields _ := rfl
  nodup_names := by decide
  integral _ := by simp [Record.fields]
  ofFields?_written _ := by simp [Record.fields, Record.ofFields?]

/-- The property types stand under their names, whatever the names are. -/
@[simp] theorem ContentType.entries?_written (properties : List (String × PropertyType)) :
    Written.entries? (fun k => (Quoted.decode k).map String.ofList) Serial.ofWritten?
      (Json.obj (properties.map fun e => (e.1, Serial.toJson e.2))).written = some properties :=
  Json.entries?_written id text?_written_str properties

instance : LawfulRecord ContentType where
  map_fst_fields _ := rfl
  nodup_names := by decide
  integral t := by
    have hproperties := integral_entries id t.properties.toList
    simpa [Record.fields, Integral.str] using hproperties
  ofFields?_written _ := by simp [Record.fields, Record.ofFields?]

@[simp] theorem Settings.policySection?_written (p : Policy) :
    policySection? (Json.obj [("default", Serial.toJson p)]).written = some p := by
  have hknown : ∀ f ∈ [("default", Serial.toJson p)], f.1 ∈ ["default"] := by simp
  have hnodup : ([("default", Serial.toJson p)].map Prod.fst).Nodup := by simp
  rw [policySection?, record?_written hknown hnodup]
  simp

@[simp] theorem Settings.variantSection?_written (culture segment : Option String) :
    variantSection? (Json.obj
      [("culture", Serial.optionJson culture), ("segment", Serial.optionJson segment)]).written =
      some ⟨culture, segment⟩ := by
  have hknown : ∀ f ∈ [("culture", Serial.optionJson culture),
      ("segment", Serial.optionJson segment)], f.1 ∈ ["culture", "segment"] := by simp
  have hnodup : ([("culture", Serial.optionJson culture),
      ("segment", Serial.optionJson segment)].map Prod.fst).Nodup := by simp
  rw [variantSection?, record?_written hknown hnodup]
  simp

instance : LawfulRecord Settings where
  map_fst_fields _ := rfl
  nodup_names := by decide
  integral s := by
    have hpolicy : (Json.obj [("default", Serial.toJson s.policy)]).Integral := .obj (by simp)
    have hvariant : (Json.obj [("culture", Serial.optionJson s.culture),
        ("segment", Serial.optionJson s.segment)]).Integral :=
      .obj (by simp [integral_optionJson])
    simp [Record.fields, hpolicy, hvariant]
  ofFields?_written _ := by simp [Record.fields, Record.ofFields?]

end Publishing
