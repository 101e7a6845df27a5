/-!
# Comma-separated texts

A materialized path is a text of segments with a comma between two of them.
Two questions about such texts are answered on the text itself, without taking
it apart: whether one text occurs in another as whole segments
(`holdsSegment`), and whether the segments of one are the first segments of
another (`leads`).
-/

namespace Publishing.Text

/-- The character between two segments. -/
def separator : Char := ','

/-- The segments of a text: one more than it has separators. -/
def segments (text : String) : List (List Char) :=
  text.toList.splitOn separator

/-- The text with a separator on either side, so that every segment of it has
one on either side. -/
def enclosed (text : String) : String :=
  String.ofList (separator :: text.toList ++ [separator])

/-- Whether `part` occurs somewhere in `text`. -/
def occursIn (part text : String) : Bool :=
  text.contains part

/-- Whether `text` holds `segment` between separators or its own ends. -/
def holdsSegment (text segment : String) : Bool :=
  occursIn (enclosed segment) (enclosed text)

/-- Whether a list of characters starts with `start` and goes on, if at all, with
a separator. -/
def leadsChars : List Char → List Char → Bool
  | [], rest => rest.isEmpty || rest.head? == some separator
  | _ :: _, [] => false
  | a :: start, b :: rest => a == b && leadsChars start rest

/-- Whether `start` is the whole of `text`, or is followed in it by a separator:
`-1,5` leads `-1,5,6` but not `-1,50`. -/
def leads (start text : String) : Bool :=
  leadsChars start.toList text.toList

/-- Segments put together with separators between them. -/
def joined (parts : List (List Char)) : String :=
  String.ofList ([separator].intercalate parts)

theorem segments_ne_nil (text : String) : segments text ≠ [] := by
  simp [segments, List.splitOn_eq_splitOnP, List.splitOnP_ne_nil]

/-- Joining segments that hold no separator loses nothing. -/
theorem segments_joined {parts : List (List Char)} (hne : parts ≠ [])
    (h : ∀ part ∈ parts, separator ∉ part) : segments (joined parts) = parts := by
  simp [segments, joined, List.splitOn_intercalate separator h hne]

/-- A segment added behind a separator comes last. -/
theorem segments_append_separator (text : String) {part : List Char} (h : separator ∉ part) :
    segments (text ++ String.ofList (separator :: part)) = segments text ++ [part] := by
  simp [segments, List.splitOn_append_cons_self, List.splitOn_eq_singleton h]

end Publishing.Text
