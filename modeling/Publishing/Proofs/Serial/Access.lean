import Publishing.Proofs.Serial.Content
import Publishing.Serial.Access

/-!
# Access data read back

Permissions, groups, users and entities are read back from their JSON forms.
-/

namespace Publishing

open Json

/-- A set is written as the list of what is in it. -/
theorem Access.ofList_toList_permissions (s : Access.PermissionSet) :
    Std.ExtTreeSet.ofList s.toList = s :=
  Std.ExtTreeSet.ext_mem fun _ => by simp

namespace Access

instance : LawfulSerial PermissionSet where
  ne_null _ := nofun
  integral s := LawfulSerial.integral s.toList
  ofWritten?_written s := Option.map_eq_some_iff.mpr
    ⟨s.toList, LawfulSerial.ofWritten?_written s.toList, ofList_toList_permissions s⟩

instance : LawfulRecord NodePermissions where
  map_fst_fields _ := rfl
  nodup_names := by decide
  integral _ := by simp [Record.fields]
  ofFields?_written _ := by simp [Record.fields, Record.ofFields?]

instance : LawfulRecord Group where
  map_fst_fields _ := rfl
  nodup_names := by decide
  integral _ := by
    simp [Record.fields, Integral.str, integral_optionJson, Serial.nodeMapJson, integral_entries]
  ofFields?_written _ := by simp [Record.fields, Record.ofFields?]

instance : LawfulRecord User where
  map_fst_fields _ := rfl
  nodup_names := by decide
  integral _ := by simp [Record.fields, Integral.str]
  ofFields?_written _ := by simp [Record.fields, Record.ofFields?]

instance : LawfulRecord Entity where
  map_fst_fields _ := rfl
  nodup_names := by decide
  integral _ := by simp [Record.fields, Integral.str]
  ofFields?_written _ := by simp [Record.fields, Record.ofFields?]

end Access

end Publishing
