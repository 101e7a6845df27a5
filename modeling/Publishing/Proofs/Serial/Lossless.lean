import Publishing.Proofs.Serial.Access

/-!
# JSON texts lose nothing

What is written as JSON comes back as it was.  `Serial.texts_lossless` says so for all of
the data that is stored in this form, and says what the texts are where writer and reader
could drift apart:

* maps stand under the decimal texts of ids, in whatever order (`DecimalKeys`);
* a path is put to the same test as any text for a path (`parse?_str_path`);
* a field that is `null` may as well be left out (`parse?_withoutNulls_context`,
  `parse?_withoutNulls_language`), and so may a section of the settings
  (`parse?_keep_settings`).
-/

namespace Publishing

open Json

/-! ## Objects with fields left out -/

namespace Json

/-- An object with only those of its fields that are to be kept. -/
def keep (p : String × Json → Bool) : Json → Json
  | .obj fields => .obj (fields.filter p)
  | v => v

/-- An object without the fields that are `null`. -/
def withoutNulls : Json → Json :=
  keep fun f => !f.2.isNull

theorem Integral.keep {v : Json} (h : v.Integral) (p : String × Json → Bool) :
    (v.keep p).Integral := by
  cases h with
  | null => exact .null
  | bool b => exact .bool b
  | int n => exact .int n
  | str s => exact .str s
  | arr h => exact .arr h
  | obj h => exact .obj fun f hf => h f (List.mem_of_mem_filter hf)

end Json

namespace Fields

variable {β : Type} {fields : List (String × Json)} (hnodup : (fields.map Prod.fst).Nodup)
  (name : String) (read : Written → Option β)
include hnodup

/-- A field that is `null` is no longer found, any other one is. -/
theorem lookup_filter_isNull :
    (fields.filter fun f => !f.2.isNull).lookup name =
      (fields.lookup name).filter fun v => !v.isNull := by
  induction fields with
  | nil => rfl
  | cons f fields ih =>
      obtain ⟨other, v⟩ := f
      obtain ⟨hother, hnodup'⟩ := List.nodup_cons.mp hnodup
      by_cases hname : name = other
      · subst hname
        have hrest : fields.lookup name = none := by
          rw [List.lookup_eq_none_iff]
          rintro f hf
          exact bne_iff_ne.mpr fun heq => hother (List.mem_map.mpr ⟨f, hf, heq.symm⟩)
        cases hv : v.isNull
        · simp [Option.filter, hv]
        · simp [Option.filter, hv, ih hnodup', hrest]
      · cases hv : v.isNull <;> simp [hv, hname, ih hnodup']

/-- An optional field is read alike whether it is `null` or left out. -/
theorem optional_filter_isNull :
    (Fields.written (fields.filter fun f => !f.2.isNull)).optional name read =
      (Fields.written fields).optional name read := by
  rw [optional_written, optional_written, lookup_filter_isNull hnodup]
  cases fields.lookup name with
  | none => rfl
  | some v => cases v <;> rfl

end Fields

namespace Serial

/-- A record is read from its text with fields left out, if it is made up of the fields that
are left. -/
theorem parse?_keep {α : Type} [Record α] [LawfulRecord α] {a b : α}
    {p : String × Json → Bool}
    (h : Record.ofFields? (Fields.written ((Record.fields a).filter p)) = some b) :
    parse? α ((toJson a).keep p).render = some b := by
  have hknown : ∀ f ∈ (Record.fields a).filter p, f.1 ∈ Record.names α := fun f hf =>
    LawfulRecord.known a f (List.mem_of_mem_filter hf)
  have hnodup : (((Record.fields a).filter p).map Prod.fst).Nodup :=
    (List.filter_sublist.map Prod.fst).nodup (LawfulRecord.nodup_fields a)
  rw [parse?, ((LawfulSerial.integral a).keep p).parse?_render, Option.bind_some]
  exact bind_record?_written hknown hnodup h

theorem parse?_withoutNulls_context (c : RenderContext) :
    parse? RenderContext (toJson c).withoutNulls.render = some c := by
  have hnodup := LawfulRecord.nodup_fields c
  refine parse?_keep ?_
  simp only [Record.ofFields?, Fields.optional_filter_isNull hnodup, Fields.defaulted_written,
    Fields.lookup_filter_isNull hnodup]
  have hsegments : (nodeMapJson c.nodeSegments).isNull = false := rfl
  simp [Record.fields, Option.filter, hsegments]

theorem parse?_withoutNulls_language (l : Language) :
    parse? Language (toJson l).withoutNulls.render = some l := by
  have hnodup := LawfulRecord.nodup_fields l
  refine parse?_keep ?_
  simp only [Record.ofFields?, Fields.optional_filter_isNull hnodup, Fields.required_written,
    Fields.lookup_filter_isNull hnodup]
  simp [Record.fields, Option.filter, isNull]

/-- The sections of the settings that are kept count, the others have their defaults. -/
theorem parse?_keep_settings (s : Settings) (kept : String → Bool) :
    parse? Settings ((toJson s).keep fun f => kept f.1).render =
      some
        { policy := if kept "fallback" then s.policy else Policy.empty
          culture := if kept "variation" then s.culture else none
          segment := if kept "variation" then s.segment else none
          reserved := if kept "tree" then s.reserved else {} } := by
  refine parse?_keep ?_
  -- which sections are there at all: each is looked for under its own name only
  cases hfallback : kept "fallback" <;> cases hvariation : kept "variation" <;>
    cases htree : kept "tree" <;>
    simp [Record.fields, Record.ofFields?, hfallback, hvariation, htree]

/-! ## Keys and paths -/

/-- Maps by node id are written under the decimal texts of the ids, without escapes, and are
read back from such entries in any order. -/
structure DecimalKeys (α : Type) [Serial α] : Prop where
  written : ∀ m : Std.ExtTreeMap NodeId α, (nodeMapJson m).written =
    .object (m.toList.map fun (id, a) => (Text.Decimal.ofInt id.val, (toJson a).written))
  nodeMap?_of_perm : ∀ (m : Std.ExtTreeMap NodeId α) (entries : List (NodeId × α)),
    entries.Perm m.toList →
      nodeMap? (.object (entries.map fun (id, a) =>
        (Text.Decimal.ofInt id.val, (toJson a).written))) = some m

theorem written_nodeEntries {α : Type} [Serial α] (entries : List (NodeId × α)) :
    (Json.obj (entries.map fun (id, a) => (id.text, toJson a))).written =
      .object (entries.map fun (id, a) =>
        (Text.Decimal.ofInt id.val, (toJson a).written)) := by
  rw [written, writtenFields_eq, List.map_map]
  refine congrArg Written.object (List.map_congr_left fun entry _ => ?_)
  exact Prod.ext (NodeId.writtenText_text entry.1) rfl

theorem decimalKeys (α : Type) [Serial α] [LawfulSerial α] : DecimalKeys α where
  written m := written_nodeEntries m.toList
  nodeMap?_of_perm m entries h := by
    rw [← written_nodeEntries, nodeMap?, entries?_written NodeId.text NodeId.ofKey?_writtenText,
      Option.map_some, ofList_of_perm h]

/-- A text is taken for a path just if it can be read as one. -/
theorem parse?_str_path (s : String) :
    parse? Path (Json.str s).render = (Path.parse s).toOption := by
  rw [parse?, (Integral.str s).parse?_render, Option.bind_some]
  exact congrArg (Option.bind · fun s => (Path.parse s).toOption) (text?_written_str s)

/-! ## Whole texts -/

/-- A value is read back from its text, and a value that was read from some text is read
back from the text it is written as, which may be another one. -/
structure Lossless (α : Type) [Serial α] : Prop where
  parse?_render : ∀ a : α, parse? α (render a) = some a
  parse?_again : ∀ (text : String) (a : α), parse? α text = some a →
    parse? α (render a) = some a

theorem lossless (α : Type) [Serial α] [LawfulSerial α] : Lossless α where
  parse?_render := LawfulSerial.parse?_render
  parse?_again _ a _ := LawfulSerial.parse?_render a

/-- **What is written as JSON comes back as it was.**  This covers users with their groups,
entities, permissions, rendering contexts, content types, languages, policies and settings.
In the texts, maps stand under the decimal texts of ids, a path has to be a path when it is
read, `null` may be left out, and what is left out of the settings has its default. -/
theorem texts_lossless :
    (Lossless Access.User ∧ Lossless Access.Entity ∧ Lossless Access.NodePermissions ∧
      Lossless RenderContext ∧ Lossless ContentType ∧ Lossless Language ∧ Lossless Policy ∧
      Lossless Settings) ∧
    (DecimalKeys Access.PermissionSet ∧ DecimalKeys String) ∧
    (∀ s, parse? Path (Json.str s).render = (Path.parse s).toOption) ∧
    (∀ c : RenderContext, parse? RenderContext (toJson c).withoutNulls.render = some c) ∧
    (∀ l : Language, parse? Language (toJson l).withoutNulls.render = some l) ∧
    (∀ (s : Settings) (kept : String → Bool),
      parse? Settings ((toJson s).keep fun f => kept f.1).render =
        some
          { policy := if kept "fallback" then s.policy else Policy.empty
            culture := if kept "variation" then s.culture else none
            segment := if kept "variation" then s.segment else none
            reserved := if kept "tree" then s.reserved else {} }) :=
  ⟨⟨lossless _, lossless _, lossless _, lossless _, lossless _, lossless _, lossless _,
      lossless _⟩,
    ⟨decimalKeys _, decimalKeys _⟩, parse?_str_path, parse?_withoutNulls_context,
    parse?_withoutNulls_language, parse?_keep_settings⟩

/-- A context in which the root and the recycle bin have segments of their own. -/
def seasonal : RenderContext :=
  (({} : RenderContext).withNodeSegment NodeId.root "spring").withNodeSegment
    NodeId.contentBin "archive"

/-- A text for it with white space, without what is left open and with the root first. -/
def seasonalText : String :=
  "\x7b \"node_segments\": \x7b\"-1\": \"spring\", \"-20\": \"archive\"\x7d \x7d"

/-- The context is not written as the text that it was read from, but is read back all the
same, and its segments are found under `-1` and `-20` in either order. -/
theorem texts_lossless_seasonal :
    parse? RenderContext seasonalText = some seasonal ∧ render seasonal ≠ seasonalText ∧
      parse? RenderContext (render seasonal) = some seasonal ∧
      [(NodeId.root, "spring"), (NodeId.contentBin, "archive")].Perm
        seasonal.nodeSegments.toList ∧
      nodeMap? (.object [(['-', '1'], (toJson "spring").written),
        (['-', '2', '0'], (toJson "archive").written)]) = some seasonal.nodeSegments := by
  obtain ⟨⟨_, _, _, hcontext, _⟩, ⟨_, hkeys⟩, _⟩ := texts_lossless
  have hparse : parse? RenderContext seasonalText = some seasonal := by decide +kernel
  have hrender : render seasonal ≠ seasonalText := by decide +kernel
  have hperm : [(NodeId.root, "spring"), (NodeId.contentBin, "archive")].Perm
      seasonal.nodeSegments.toList := by decide
  exact ⟨hparse, hrender, hcontext.parse?_again seasonalText seasonal hparse, hperm,
    hkeys.nodeMap?_of_perm _ _ hperm⟩

end Serial

end Publishing
