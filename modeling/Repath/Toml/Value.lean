
namespace Repath.Toml

/-- How a table came about, which decides on what may still be added to it. -/
inductive TableKind
  /-- Written in braces; complete. -/
  | braces
  /-- Named by a header of its own. -/
  | header
  /-- Named by a dotted key. -/
  | dotted
  /-- Named only as part of a longer header. -/
  | implied
  deriving DecidableEq, Repr

inductive ScalarKind
  | boolean
  | integer
  | float
  | date
  deriving DecidableEq, Repr

/-- Scalars other than strings keep their spelling. An array is open while headers can add tables
to it. -/
inductive Value
  | string (s : String)
  | scalar (kind : ScalarKind) (spelling : String)
  | array (isOpen : Bool) (items : List Value)
  | table (kind : TableKind) (entries : List (String × Value))
  deriving Repr, Inhabited

abbrev Table := List (String × Value)

namespace Table

def replace (t : Table) (key : String) (v : Value) : Table :=
  t.map fun entry => if entry.1 = key then (key, v) else entry

/-- Defines a dotted key, which must be new; the tables before its last part must be dotted too. -/
def assign : Table → List String → Value → Option Table
  | _, [], _ => none
  | t, [key], v => if (t.lookup key).isSome then none else some (t ++ [(key, v)])
  | t, key :: path, v =>
    match t.lookup key with
    | none => (assign [] path v).map fun sub => t ++ [(key, .table .dotted sub)]
    | some (.table kind sub) =>
      if kind = .dotted ∨ kind = .implied then
        (assign sub path v).map fun sub => t.replace key (.table kind sub)
      else none
    | some _ => none

/-- Changes the table that a header path leads to, where an open array means its last table. -/
def modifyAt : Table → List String → (Table → Option Table) → Option Table
  | t, [], f => f t
  | t, key :: path, f =>
    match t.lookup key with
    | none => (modifyAt [] path f).map fun sub => t ++ [(key, .table .implied sub)]
    | some (.table kind sub) =>
      if kind = .braces then none
      else (modifyAt sub path f).map fun sub => t.replace key (.table kind sub)
    | some (.array true items) =>
      match items.getLast? with
      | some (.table kind sub) =>
        (modifyAt sub path f).map fun sub =>
          t.replace key (.array true (items.dropLast ++ [.table kind sub]))
      | _ => none
    | some _ => none

/-- Adds the table that a header names, which no other header or key may have defined. -/
def addTable (key : String) (t : Table) : Option Table :=
  match t.lookup key with
  | none => some (t ++ [(key, .table .header [])])
  | some (.table .implied sub) => some (t.replace key (.table .header sub))
  | some _ => none

/-- Adds a table to the array that a header in double brackets names. -/
def addElement (key : String) (t : Table) : Option Table :=
  match t.lookup key with
  | none => some (t ++ [(key, .array true [.table .header []])])
  | some (.array true items) => some (t.replace key (.array true (items ++ [.table .header []])))
  | some _ => none

def ofBraces (entries : List (List String × Value)) : Option Table :=
  entries.foldlM (fun t (path, v) => t.assign path v) []

end Table

inductive Statement
  | assign (path : List String) (v : Value)
  | table (path : List String)
  | element (path : List String)
  deriving Repr

/-- The table built so far, and the path of the section that assignments go to. -/
structure Building where
  root : Table
  path : List String

namespace Building

def step (b : Building) : Statement → Option Building
  | .assign path v =>
    (b.root.modifyAt b.path fun t => t.assign path v).map fun root => { b with root }
  | .table path => do
    let key ← path.getLast?
    let root ← b.root.modifyAt path.dropLast (Table.addTable key)
    return { root, path }
  | .element path => do
    let key ← path.getLast?
    let root ← b.root.modifyAt path.dropLast (Table.addElement key)
    return { root, path }

end Building

/-- The table of a whole document, unless two statements contradict each other. -/
def Table.ofStatements (statements : List Statement) : Option Table :=
  (statements.foldlM Building.step ⟨[], []⟩).map (·.root)

end Repath.Toml
