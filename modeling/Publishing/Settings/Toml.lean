import Publishing.Serial.Content
import Publishing.Toml.Document

/-!
# Settings as TOML

Settings have three sections, each of which may be missing, as may every field
of a section.  A section is a table with fields, or an array of its fields in
order; what goes beyond the known fields is skipped.  A date in the place of a
section has no known field, so it leaves the section at its defaults.
-/

namespace Publishing

namespace Toml.Value

/-- A text. -/
def text? : Value → Option String
  | .string s => some s
  | _ => none

/-- The id of a node. -/
def nodeId? : Value → Option NodeId
  | .integer n => NodeId.ofInt? n
  | _ => none

/-- Whether a value is an array or a table that holds nothing. -/
def isHollow : Value → Bool
  | .array items => items.isEmpty
  | .table fields => fields.isEmpty
  | _ => false

/-- The name of an alternative without data: the name itself, or a table whose one
field has the name and holds nothing. -/
def tag? : Value → Option String
  | .string s => some s
  | .table [(name, v)] => if v.isHollow then some name else none
  | _ => none

/-- The items of an array, each read in the same way. -/
def list? {α : Type} (read : Value → Option α) : Value → Option (List α)
  | .array items => items.mapM read
  | _ => none

/-- The known fields of a record that were given. -/
def record? (names : List String) : Value → Option (List (String × Value))
  | .table fields => some (fields.filter fun f => names.contains f.1)
  | .array items => some (names.zip items)
  | .date => some []
  | _ => none

end Toml.Value

namespace Settings

/-- A field of a section with a default for when it is left out. -/
def field? {α : Type} (fields : List (String × Toml.Value)) (name : String) (default : α)
    (read : Toml.Value → Option α) : Option α :=
  match fields.lookup name with
  | none => some default
  | some v => read v

/-- A policy. -/
def policyOfToml? (v : Toml.Value) : Option Policy :=
  (v.list? fun v => v.tag?.bind Mode.ofName?).map Policy.mk

/-- The settings that a TOML value denotes. -/
def ofToml? (v : Toml.Value) : Option Settings := do
  let sections ← v.record? ["fallback", "variation", "tree"]
  let policy ← field? sections "fallback" Policy.empty fun v => do
    field? (← v.record? ["default"]) "default" Policy.empty policyOfToml?
  let variant ← field? sections "variation" {} fun v => do
    let fields ← v.record? ["culture", "segment"]
    some
      { culture := ← field? fields "culture" none fun v => v.text?.map some
        segment := ← field? fields "segment" none fun v => v.text?.map some : Variant }
  let reserved ← field? sections "tree" {} fun v => do
    let fields ← v.record? ["root_id", "content_recycle_bin_id", "media_recycle_bin_id"]
    some
      { root := ← field? fields "root_id" NodeId.root Toml.Value.nodeId?
        contentBin := ← field? fields "content_recycle_bin_id" NodeId.contentBin Toml.Value.nodeId?
        mediaBin := ← field? fields "media_recycle_bin_id" NodeId.mediaBin Toml.Value.nodeId? :
        ReservedIds }
  some { policy := policy, culture := variant.culture, segment := variant.segment,
         reserved := reserved }

/-- The settings in a TOML document. -/
def parse? (text : String) : Option Settings :=
  (Toml.parse? text).bind ofToml?

/-! ## Settings files -/

/-- Where settings are loaded from. -/
inductive Source where
  /-- No file is named. -/
  | unnamed
  /-- The file does not exist. -/
  | missing
  | directory
  /-- A file with its bytes. -/
  | file (bytes : ByteArray)

/-- Why settings could not be loaded. -/
inductive LoadError where
  /-- There is no text to read. -/
  | unreadable
  /-- The text holds no settings. -/
  | malformed
deriving DecidableEq

/-- Loads settings.  Without a file they are the defaults. -/
def load : Source → Except LoadError Settings
  | .unnamed => .ok {}
  | .missing => .ok {}
  | .directory => .error .unreadable
  | .file bytes =>
    match String.fromUTF8? bytes with
    | none => .error .unreadable
    | some text =>
      match parse? text with
      | none => .error .malformed
      | some s => .ok s

end Settings

end Publishing
