/-!
# TOML values and tables

Headers and dotted keys build the tables of a document bit by bit, and each
table may be built in one way only.  `Table` therefore remembers how it came
about (`Origin`); `Table.toValue` forgets it once the document is complete.

* `Table.openTable` and `Table.openTables` do what the headers `[a.b]` and
  `[[a.b]]` ask for.
* `Table.assign` does what `a.b = v` asks for.

Each fails when a name is defined twice or extended in a way that is not
allowed.
-/

namespace Publishing.Toml

/-- A TOML value.  That there is a floating-point number or a date is all that is
known of one. -/
inductive Value where
  | string (s : String)
  | integer (n : Int)
  | boolean (b : Bool)
  | float
  | date
  | array (items : List Value)
  | table (fields : List (String × Value))
deriving Inhabited

/-- How a table came about. -/
inductive Origin where
  /-- By a header of its own, or as the document. -/
  | header
  /-- On the way to the table of a header. -/
  | path
  /-- On the way to a dotted key. -/
  | dotted
deriving DecidableEq

mutual
/-- What stands under a name while a document is read. -/
inductive Item where
  | value (v : Value)
  | table (t : Table)
  /-- An array of tables; the last one is still open. -/
  | tables (before : List Table) (last : Table)

/-- A table while a document is read. -/
inductive Table where
  | mk (origin : Origin) (entries : List (String × Item))
end

namespace Table

/-- How the table came about. -/
def origin : Table → Origin
  | .mk origin _ => origin

/-- What the table holds, in order of definition. -/
def entries : Table → List (String × Item)
  | .mk _ entries => entries

/-- The table with nothing in it. -/
def empty (origin : Origin) : Table := .mk origin []

/-- What stands under a name. -/
def get? (t : Table) (name : String) : Option Item :=
  t.entries.lookup name

/-- Puts something under a name, in place of what stood there. -/
def set (t : Table) (name : String) (i : Item) : Table :=
  match t.get? name with
  | none => .mk t.origin (t.entries ++ [(name, i)])
  | some _ => .mk t.origin (t.entries.map fun e => if e.1 == name then (name, i) else e)

/-- Changes the table at the end of a path, making the tables on the way that are
missing.  A dotted key may not lead through the table of a header. -/
def modify (dotted : Bool) : List String → (Table → Option Table) → Table → Option Table
  | [], change, t => change t
  | name :: path, change, t =>
    match t.get? name with
    | none =>
      (modify dotted path change (empty (if dotted then .dotted else .path))).map
        fun sub => t.set name (.table sub)
    | some (.value _) => none
    | some (.tables before last) =>
      (modify dotted path change last).map fun last => t.set name (.tables before last)
    | some (.table sub) =>
      if dotted && sub.origin == .header then none
      else (modify dotted path change sub).map fun sub => t.set name (.table sub)

/-- Opens the table of a header.  Only a table met on the way to another header may
exist already. -/
def openTable (path : List String) (name : String) : Table → Option Table :=
  modify false path fun t =>
    match t.get? name with
    | none => some (t.set name (.table (empty .header)))
    | some (.table (.mk .path entries)) => some (t.set name (.table (.mk .header entries)))
    | _ => none

/-- Opens one more table in the array of a header. -/
def openTables (path : List String) (name : String) : Table → Option Table :=
  modify false path fun t =>
    match t.get? name with
    | none => some (t.set name (.tables [] (empty .header)))
    | some (.tables before last) => some (t.set name (.tables (before ++ [last]) (empty .header)))
    | _ => none

/-- Assigns a value to a key.  The table that the dotted part leads to must come from
dotted keys only. -/
def assign (path : List String) (name : String) (v : Value) : Table → Option Table :=
  modify true path fun t =>
    if (t.origin == .dotted) == path.isEmpty then none
    else match t.get? name with
      | none => some (t.set name (.value v))
      | some _ => none

end Table

mutual
/-- The value of what stands under a name. -/
def Item.toValue : Item → Value
  | .value v => v
  | .table t => t.toValue
  | .tables before last => .array (tableValues before ++ [last.toValue])

/-- The value of a table. -/
def Table.toValue : Table → Value
  | .mk _ entries => .table (entryValues entries)

/-- The values of tables. -/
def tableValues : List Table → List Value
  | [] => []
  | t :: ts => t.toValue :: tableValues ts

/-- The values of entries. -/
def entryValues : List (String × Item) → List (String × Value)
  | [] => []
  | (name, i) :: es => (name, i.toValue) :: entryValues es
end

end Publishing.Toml
