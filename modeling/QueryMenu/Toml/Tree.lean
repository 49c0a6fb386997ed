import QueryMenu.Toml.Value

namespace QueryMenu.Toml

/-! Tables under construction.

A document fills its tables piece by piece, and which pieces may still be added to a
table depends on how the table came to be.  A table that only occurs on the way to
another one is implicit until it gets a header of its own; a dotted key claims the tables
on its way, and then none of them can get a header any more; a finished value cannot be
extended at all.
-/

structure Origin where
  /-- Only met on the way to another table or key. -/
  implicit : Bool
  /-- Met on the way of a dotted key. -/
  dotted : Bool
deriving DecidableEq, Repr

inductive Node where
  | value (value : Toml)
  | table (origin : Origin) (members : List (String × Node))
  /-- The tables of repeated headers; the last one is being filled. -/
  | tables (items : List (List (String × Node)))

abbrev Members := List (String × Node)

namespace Members

def replace (name : String) (node : Node) (members : Members) : Members :=
  members.map fun (key, old) => if key = name then (key, node) else (key, old)

/-- Edits the table at the end of a path, making the tables on the way that do not exist.
`dotted` tells whether the path is a dotted key or a header; a dotted key may only pass
implicit tables.  The edit is told whether the table it gets belongs to dotted keys. -/
def descend (dotted : Bool) (edit : Bool → Members → Option Members) :
    List String → (inDotted : Bool) → Members → Option Members
  | [], inDotted, members => edit inDotted members
  | key :: path, _, members =>
    match members.lookup key with
    | none =>
      (descend dotted edit path dotted []).map fun child =>
        members ++ [(key, .table ⟨true, dotted⟩ child)]
    | some (.value _) => none
    | some (.table origin child) =>
      if dotted && !origin.implicit then none
      else
        let origin := { origin with dotted := origin.dotted || dotted }
        (descend dotted edit path origin.dotted child).map fun child =>
          members.replace key (.table origin child)
    | some (.tables items) =>
      match items.getLast? with
      | none => none
      | some child =>
        (descend dotted edit path false child).map fun child =>
          members.replace key (.tables (items.dropLast ++ [child]))

/-- Adds a member with a name that is still free. -/
def add (name : String) (node : Node) (members : Members) : Option Members :=
  match members.lookup name with
  | none => some (members ++ [(name, node)])
  | some _ => none

/-- Binds a dotted key.  The table it ends in must belong to dotted keys if the key has
several parts, and must not if it has one. -/
def bind (path : List String) (value : Toml) (members : Members) : Option Members :=
  match path.getLast? with
  | none => none
  | some name =>
    let edit (inDotted : Bool) (members : Members) : Option Members :=
      if inDotted = (path.length = 1) then none else members.add name (.value value)
    descend true edit path.dropLast false members

/-- Opens the table of a header.  A table may have one header, and must not belong to
dotted keys. -/
def openTable (name : String) (members : Members) : Option Members :=
  match members.lookup name with
  | none => some (members ++ [(name, .table ⟨false, false⟩ [])])
  | some (.table ⟨true, false⟩ child) => some (members.replace name (.table ⟨false, false⟩ child))
  | some _ => none

def openNextTable (name : String) (members : Members) : Option Members :=
  match members.lookup name with
  | none => some (members ++ [(name, .tables [[]])])
  | some (.tables items) => some (members.replace name (.tables (items ++ [[]])))
  | some _ => none

def openPath (repeated : Bool) (path : List String) (members : Members) : Option Members :=
  match path.getLast? with
  | none => none
  | some name =>
    descend false (fun _ members =>
      if repeated then members.openNextTable name else members.openTable name)
      path.dropLast false members

/-- Binds a dotted key in the table of a header path. -/
def bindAt (header path : List String) (value : Toml) (members : Members) : Option Members :=
  descend false (fun _ members => members.bind path value) header false members

end Members

mutual

def Node.finish : Node → Toml
  | .value value => value
  | .table _ members => .table (Members.finish members)
  | .tables items => .array (Members.finishAll items)

def Members.finish : Members → TomlTable
  | [] => []
  | (name, node) :: rest => (name, node.finish) :: Members.finish rest

def Members.finishAll : List Members → List Toml
  | [] => []
  | members :: rest => .table (Members.finish members) :: Members.finishAll rest

end

end QueryMenu.Toml
