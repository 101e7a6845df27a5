import Publishing.Text.Decimal

/-!
# Node ids

A node of the content tree is named by a 32-bit signed integer.  Negative ids
belong to the system: the root `-1` and the two recycle bins.  The text of an
id is its shortest decimal form; reading accepts a sign and leading zeros.
-/

namespace Publishing

/-- The name of a node: a 32-bit signed integer. -/
@[ext] structure NodeId where
  val : Int
  inRange : -2147483648 ≤ val ∧ val ≤ 2147483647 := by decide
deriving DecidableEq

namespace NodeId

/-- The id with a given value, if it is in range. -/
def ofInt? (n : Int) : Option NodeId :=
  if h : -2147483648 ≤ n ∧ n ≤ 2147483647 then some ⟨n, h⟩ else none

/-- The root of the tree; a start node there gives access to everything. -/
def root : NodeId := ⟨-1, by decide⟩

/-- The recycle bin of content. -/
def contentBin : NodeId := ⟨-20, by decide⟩

/-- The recycle bin of media. -/
def mediaBin : NodeId := ⟨-21, by decide⟩

/-- Whether the id is one of those reserved for the system. -/
def isSystem (id : NodeId) : Bool :=
  decide (id.val < 0)

/-- The decimal text of an id. -/
def text (id : NodeId) : String :=
  String.ofList (Text.Decimal.ofInt id.val)

/-- The id that a text denotes: an optional sign and ASCII digits, in range. -/
def ofText? (chars : List Char) : Option NodeId :=
  (Text.Decimal.signed? chars).bind ofInt?

/-- Ids are ordered as integers. -/
instance : Ord NodeId := ⟨compareOn val⟩

instance : Std.TransOrd NodeId :=
  inferInstanceAs (Std.TransCmp (compareOn val))

instance : Std.LawfulEqOrd NodeId where
  compare_self {a} := Std.ReflOrd.compare_self (a := a.val)
  eq_of_compare h := NodeId.ext (Std.LawfulEqOrd.eq_of_compare (α := Int) h)

@[simp] theorem ofInt?_val (id : NodeId) : ofInt? id.val = some id := by
  simp [ofInt?, id.inRange]

theorem ofInt?_eq_some {n : Int} {id : NodeId} : ofInt? n = some id ↔ n = id.val := by
  constructor
  · intro h
    unfold ofInt? at h
    split at h
    · exact congrArg NodeId.val (Option.some.inj h)
    · exact absurd h (by simp)
  · rintro rfl
    exact ofInt?_val id

@[simp] theorem ofText?_text (id : NodeId) : ofText? id.text.toList = some id := by
  simp [ofText?, text, Text.Decimal.signed?_ofInt]

/-- Distinct ids have distinct texts. -/
theorem text_injective {a b : NodeId} (h : a.text = b.text) : a = b :=
  Option.some.inj (by rw [← ofText?_text a, h, ofText?_text])

end NodeId

end Publishing
