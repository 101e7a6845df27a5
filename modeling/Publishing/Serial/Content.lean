import Publishing.ContentType
import Publishing.Language
import Publishing.Path
import Publishing.Serial
import Publishing.Settings
import Publishing.Uuid

/-!
# JSON forms of content data

The forms of paths, languages, content types, policies, settings and rendering
contexts.
-/

namespace Publishing

namespace Variation

/-- The name under which a variation is written. -/
def name : Variation → String
  | .nothing => "nothing"
  | .culture => "culture"
  | .segment => "segment"
  | .cultureAndSegment => "culture_and_segment"

/-- The variation with a given name. -/
def ofName? (s : String) : Option Variation :=
  [nothing, culture, segment, cultureAndSegment].find? fun v => v.name == s

end Variation

/-- The mode with a given name. -/
def Mode.ofName? (s : String) : Option Mode :=
  all.find? fun m => m.name == s

instance : Serial Variation :=
  ⟨fun v => .str v.name, fun w => w.tag?.bind Variation.ofName?⟩

instance : Serial Mode :=
  ⟨fun m => .str m.name, fun w => w.tag?.bind Mode.ofName?⟩

instance : Serial Policy :=
  ⟨fun p => Serial.toJson p.modes, fun w => (Serial.ofWritten? w).map Policy.mk⟩

instance : Serial Path :=
  ⟨fun p => .str p.text, fun w => w.text?.bind fun s => (Path.parse s).toOption⟩

instance : Serial Uuid :=
  ⟨fun u => .str u.text, fun w => w.text?.bind Uuid.ofText?⟩

instance : Record Language where
  names := ["iso_code", "culture_name", "is_default", "is_mandatory", "fallback_iso_code"]
  atLeast := 5
  fields l :=
    [("iso_code", .str l.isoCode),
     ("culture_name", Serial.optionJson l.cultureName),
     ("is_default", .bool l.isDefault),
     ("is_mandatory", .bool l.isMandatory),
     ("fallback_iso_code", Serial.optionJson l.fallbackIsoCode)]
  ofFields? fields := do
    some
      { isoCode := ← fields.required "iso_code" Serial.ofWritten?
        cultureName := ← fields.optional "culture_name" Serial.ofWritten?
        isDefault := ← fields.required "is_default" Serial.ofWritten?
        isMandatory := ← fields.required "is_mandatory" Serial.ofWritten?
        fallbackIsoCode := ← fields.optional "fallback_iso_code" Serial.ofWritten? }

instance : Record PropertyType where
  names := ["alias", "variation"]
  atLeast := 2
  fields p := [("alias", .str p.name), ("variation", Serial.toJson p.variation)]
  ofFields? fields := do
    some
      { name := ← fields.required "alias" Serial.ofWritten?
        variation := ← fields.required "variation" Serial.ofWritten? }

instance : Record ContentType where
  names := ["alias", "variation", "property_types"]
  atLeast := 3
  fields t :=
    [("alias", .str t.name),
     ("variation", Serial.toJson t.variation),
     ("property_types", .obj (t.properties.toList.map fun (name, p) => (name, Serial.toJson p)))]
  ofFields? fields := do
    let entries (w : Json.Written) : Option (Std.ExtTreeMap String PropertyType) :=
      (w.entries? (fun k => (Json.Quoted.decode k).map String.ofList) Serial.ofWritten?).map
        fun entries => Std.ExtTreeMap.ofList entries
    some
      { name := ← fields.required "alias" Serial.ofWritten?
        variation := ← fields.required "variation" Serial.ofWritten?
        properties := ← fields.required "property_types" entries }

instance : Record RenderContext where
  names := ["culture", "segment", "node_segments"]
  atLeast := 2
  fields c :=
    [("culture", Serial.optionJson c.culture),
     ("segment", Serial.optionJson c.segment),
     ("node_segments", Serial.nodeMapJson c.nodeSegments)]
  ofFields? fields := do
    some
      { culture := ← fields.optional "culture" Serial.ofWritten?
        segment := ← fields.optional "segment" Serial.ofWritten?
        nodeSegments := ← fields.defaulted "node_segments" ∅ Serial.nodeMap? }

instance : Record ReservedIds where
  names := ["root_id", "content_recycle_bin_id", "media_recycle_bin_id"]
  atLeast := 0
  fields r :=
    [("root_id", Serial.toJson r.root),
     ("content_recycle_bin_id", Serial.toJson r.contentBin),
     ("media_recycle_bin_id", Serial.toJson r.mediaBin)]
  ofFields? fields := do
    some
      { root := ← fields.defaulted "root_id" NodeId.root Serial.ofWritten?
        contentBin := ← fields.defaulted "content_recycle_bin_id" NodeId.contentBin Serial.ofWritten?
        mediaBin := ← fields.defaulted "media_recycle_bin_id" NodeId.mediaBin Serial.ofWritten? }

/-- Reads the section of the settings with the default policy. -/
def Settings.policySection? (w : Json.Written) : Option Policy := do
  let fields ← w.record? ["default"] 0
  fields.defaulted "default" Policy.empty Serial.ofWritten?

/-- Reads the section of the settings with the culture and the segment of a request. -/
def Settings.variantSection? (w : Json.Written) : Option Variant := do
  let fields ← w.record? ["culture", "segment"] 0
  some
    { culture := ← fields.optional "culture" Serial.ofWritten?
      segment := ← fields.optional "segment" Serial.ofWritten? }

instance : Record Settings where
  names := ["fallback", "variation", "tree"]
  atLeast := 0
  fields s :=
    [("fallback", .obj [("default", Serial.toJson s.policy)]),
     ("variation", .obj
       [("culture", Serial.optionJson s.culture), ("segment", Serial.optionJson s.segment)]),
     ("tree", Serial.toJson s.reserved)]
  ofFields? fields := do
    let policy ← fields.defaulted "fallback" Policy.empty Settings.policySection?
    let variant ← fields.defaulted "variation" {} Settings.variantSection?
    let reserved ← fields.defaulted "tree" {} Serial.ofWritten?
    some
      { policy := policy
        culture := variant.culture
        segment := variant.segment
        reserved := reserved }

end Publishing
