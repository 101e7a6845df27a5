import Publishing.Access.Realm
import Publishing.Serial.Content

/-!
# JSON forms of access data

The forms of permissions, groups, users, entities and the outcomes of checks.
-/

namespace Publishing.Access

instance : Serial PermissionSet where
  toJson s := Serial.toJson s.toList
  ofWritten? w := (w.list? Serial.ofWritten?).map fun ps : List String => Std.ExtTreeSet.ofList ps

instance : Record NodePermissions where
  names := ["entity_id", "permissions"]
  atLeast := 2
  fields p := [("entity_id", Serial.toJson p.node), ("permissions", Serial.toJson p.held)]
  ofFields? fields := do
    some
      { node := ← fields.required "entity_id" Serial.ofWritten?
        held := ← fields.required "permissions" Serial.ofWritten? }

instance : Record Group where
  names := ["alias", "start_content_id", "default_permissions", "granular_permissions"]
  atLeast := 3
  fields g :=
    [("alias", .str g.name),
     ("start_content_id", Serial.optionJson g.start),
     ("default_permissions", Serial.toJson g.defaults),
     ("granular_permissions", Serial.nodeMapJson g.granular)]
  ofFields? fields := do
    some
      { name := ← fields.required "alias" Serial.ofWritten?
        start := ← fields.optional "start_content_id" Serial.ofWritten?
        defaults := ← fields.required "default_permissions" Serial.ofWritten?
        granular := ← fields.defaulted "granular_permissions" ∅ Serial.nodeMap? }

instance : Record User where
  names := ["id", "name", "start_content_ids", "groups"]
  atLeast := 4
  fields u :=
    [("id", Serial.toJson u.id),
     ("name", .str u.name),
     ("start_content_ids", Serial.toJson u.starts),
     ("groups", Serial.toJson u.groups)]
  ofFields? fields := do
    some
      { id := ← fields.required "id" Serial.ofWritten?
        name := ← fields.required "name" Serial.ofWritten?
        starts := ← fields.required "start_content_ids" Serial.ofWritten?
        groups := ← fields.required "groups" Serial.ofWritten? }

instance : Record Entity where
  names := ["id", "key", "name", "parent_id", "path"]
  atLeast := 5
  fields e :=
    [("id", Serial.toJson e.id),
     ("key", Serial.toJson e.key),
     ("name", .str e.name),
     ("parent_id", Serial.toJson e.parent),
     ("path", Serial.toJson e.path)]
  ofFields? fields := do
    some
      { id := ← fields.required "id" Serial.ofWritten?
        key := ← fields.required "key" Serial.ofWritten?
        name := ← fields.required "name" Serial.ofWritten?
        parent := ← fields.required "parent_id" Serial.ofWritten?
        path := ← fields.required "path" Serial.ofWritten? }

namespace Standing

/-- The name under which a standing is written. -/
def name : Standing → String
  | .outside => "not_in_branch"
  | .navigable => "navigable"
  | .accessible => "accessible"

/-- The standing with a given name. -/
def ofName? (s : String) : Option Standing :=
  [outside, navigable, accessible].find? fun v => v.name == s

end Standing

namespace Verdict

/-- The name under which a verdict is written. -/
def name : Verdict → String
  | .granted => "granted"
  | .denied => "denied"
  | .notFound => "not_found"

/-- The verdict with a given name. -/
def ofName? (s : String) : Option Verdict :=
  [granted, denied, notFound].find? fun v => v.name == s

end Verdict

instance : Serial Standing :=
  ⟨fun v => .str v.name, fun w => w.tag?.bind Standing.ofName?⟩

instance : Serial Verdict :=
  ⟨fun v => .str v.name, fun w => w.tag?.bind Verdict.ofName?⟩

end Publishing.Access
