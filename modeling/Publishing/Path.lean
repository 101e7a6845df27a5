import Publishing.NodeId
import Publishing.Text.Blank
import Publishing.Text.Segments

/-!
# Materialized paths

A path is the text of the ids from the root of the tree down to a node, with
commas between them: `-1,1116,2112`.  The text is kept as it was written, so a
path may spell an id with a plus sign or leading zeros; what the type promises
is that every segment is the text of some id.

* `Path.parse` reads a text, `Path.ofIds` writes a chain of ids.
* `Path.child` goes one step down and needs no reading: `valid_child`.
-/

namespace Publishing

/-- A text whose every comma-separated segment is the text of a node id. -/
@[ext] structure Path where
  text : String
  valid : ∀ part ∈ Text.segments text, (NodeId.ofText? part).isSome = true
deriving DecidableEq

/-- What keeps a text from being a path. -/
inductive PathFlaw where
  /-- The text is blank. -/
  | empty
  /-- The leftmost segment that is not the text of an id. -/
  | badSegment (segment : String)
deriving DecidableEq

/-- A text that is not a path, with its flaw. -/
structure InvalidPath where
  text : String
  flaw : PathFlaw
deriving DecidableEq

/-- The flaw in words. -/
def PathFlaw.message : PathFlaw → String
  | .empty => "path is empty"
  | .badSegment segment => "segment '" ++ segment ++ "' is not a node id"

/-- The report on a text that is not a path. -/
def InvalidPath.message (e : InvalidPath) : String :=
  "invalid materialized path '" ++ e.text ++ "': " ++ e.flaw.message

namespace Path

/-- The leftmost segment of a text that is not the text of an id. -/
def badSegment? (text : String) : Option (List Char) :=
  (Text.segments text).find? fun part => (NodeId.ofText? part).isNone

theorem valid_of_badSegment?_eq_none {text : String} (h : badSegment? text = none) :
    ∀ part ∈ Text.segments text, (NodeId.ofText? part).isSome = true := by
  intro part hpart
  have := List.find?_eq_none.mp h part hpart
  simpa [Option.isNone_iff_eq_none, Option.isSome_iff_ne_none] using this

/-- Reads a path, keeping the text as it is. -/
def parse (text : String) : Except InvalidPath Path :=
  if Text.isBlank text then .error ⟨text, .empty⟩
  else match h : badSegment? text with
    | some segment => .error ⟨text, .badSegment (String.ofList segment)⟩
    | none => .ok ⟨text, valid_of_badSegment?_eq_none h⟩

/-- The path of the root. -/
def root : Path :=
  ⟨"-1", by decide⟩

/-- The text of a path one step further down. -/
def childText (text : String) (id : NodeId) : String :=
  text ++ String.ofList (Text.separator :: id.text.toList)

theorem separator_notMem_text (id : NodeId) : Text.separator ∉ id.text.toList := by
  simpa [NodeId.text, Text.separator] using Text.Decimal.comma_notMem_ofInt id.val

@[simp] theorem segments_childText (text : String) (id : NodeId) :
    Text.segments (childText text id) = Text.segments text ++ [id.text.toList] :=
  Text.segments_append_separator text (separator_notMem_text id)

theorem valid_child (p : Path) (id : NodeId) :
    ∀ part ∈ Text.segments (childText p.text id), (NodeId.ofText? part).isSome = true := by
  intro part hpart
  rw [segments_childText] at hpart
  rcases List.mem_append.mp hpart with h | h
  · exact p.valid part h
  · obtain rfl := List.mem_singleton.mp h
    simp

/-- The path of a child of the node at a path. -/
def child (p : Path) (id : NodeId) : Path :=
  ⟨childText p.text id, p.valid_child id⟩

/-- The path that lists the given ids, root first. -/
def ofIds (ids : List NodeId) : Except InvalidPath Path :=
  parse (Text.joined (ids.map fun id => id.text.toList))

/-- The ids along a path, root first. -/
def ids (p : Path) : List NodeId :=
  (Text.segments p.text).filterMap NodeId.ofText?

/-- The number of steps below the root; the path of the root has level 0. -/
def level (p : Path) : Nat :=
  (Text.segments p.text).length - 1

/-- Whether the decimal text of an id is one of the segments of a path. -/
def containsId (p : Path) (id : NodeId) : Bool :=
  Text.holdsSegment p.text id.text

@[simp] theorem ids_child (p : Path) (id : NodeId) : (p.child id).ids = p.ids ++ [id] := by
  simp [ids, child]

theorem ids_ne_nil (p : Path) : p.ids ≠ [] := by
  obtain ⟨part, rest, h⟩ := List.exists_cons_of_ne_nil (Text.segments_ne_nil p.text)
  obtain ⟨id, hid⟩ := Option.isSome_iff_exists.mp (p.valid part (by simp [h]))
  simp [ids, h, hid]

/-- The id of the node that a path leads to. -/
def id (p : Path) : NodeId :=
  p.ids.getLast p.ids_ne_nil

end Path

end Publishing
