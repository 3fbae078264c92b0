/-
  Tables of a TOML text while it is read.

  Tables come about in three ways, and this decides what may be added to them later:

  * a table that is defined by its header, by braces or as an item of a list of tables takes
    members under its header, but none by dotted keys from outside;
  * a table that a longer header implies may still be defined by a header of its own;
  * a table that a dotted key implies may be extended by dotted keys only.

  `Members.insert` adds a value under a dotted key, `Members.define` and `Members.append` open the
  table of a header.
-/
import PacketRelay.Document

namespace PacketRelay.Toml

/-- How a table came about. -/
inductive Origin where
  | defined
  | implied (dotted : Bool)
deriving Repr, DecidableEq

/-- What stands under a key. -/
inductive Node where
  | value (d : Document)
  | table (origin : Origin) (members : List (String × Node))
  /-- A list of tables, each with its own header. -/
  | tables (items : List (List (String × Node)))

/-- The members of a table. -/
abbrev Members := List (String × Node)

namespace Members

/-- Sets the node under a key. -/
def set (key : String) (node : Node) : Members → Members
  | [] => [(key, node)]
  | (k, n) :: rest => if k = key then (k, node) :: rest else (k, n) :: set key node rest

/-- Changes the members of the table at the end of a path, which begins in a table of the given
    origin.  Tables on the path that do not exist are implied; of a list of tables the last is
    meant. -/
def within (dotted : Bool) (f : Origin → Members → Option Members) :
    List String → Origin → Members → Option Members
  | [], origin, ms => f origin ms
  | key :: path, _, ms => match ms.lookup key with
    | none => do
      let inner ← within dotted f path (.implied dotted) []
      pure (set key (.table (.implied dotted) inner) ms)
    | some (.value _) => none
    | some (.table origin inner) =>
      if dotted && origin == .defined then none
      else do
        let inner ← within dotted f path origin inner
        pure (set key (.table origin inner) ms)
    | some (.tables items) => match items.getLast? with
      | none => none
      | some inner => do
        let inner ← within dotted f path .defined inner
        pure (set key (.tables (items.dropLast ++ [inner])) ms)

/-- The names that may lead through tables. -/
def pathLimit : Nat := 79

/-- Adds a value under a key that is not in use. -/
def insert (path : List String) (key : String) (d : Document) (ms : Members) : Option Members :=
  if pathLimit < path.length then none
  else within true (fun origin ms =>
    if (origin == .implied true) == path.isEmpty then none
    else if (ms.lookup key).isSome then none
    else some (ms ++ [(key, .value d)])) path .defined ms

/-- Opens the table of a header. -/
def define (path : List String) (key : String) (ms : Members) : Option Members :=
  if pathLimit < path.length then none
  else within false (fun _ ms => match ms.lookup key with
    | none => some (ms ++ [(key, .table .defined [])])
    | some (.table (.implied false) inner) => some (set key (.table .defined inner) ms)
    | some _ => none) path .defined ms

/-- Opens another table in a list of tables. -/
def append (path : List String) (key : String) (ms : Members) : Option Members :=
  if pathLimit < path.length then none
  else within false (fun _ ms => match ms.lookup key with
    | none => some (ms ++ [(key, .tables [[]])])
    | some (.tables items) => some (set key (.tables (items ++ [[]])) ms)
    | some _ => none) path .defined ms

end Members

/-! ## Finished tables -/

mutual

/-- The document that a node stands for. -/
def Node.document : Node → Document
  | .value d => d
  | .table _ members => .object (memberDocuments members)
  | .tables items => .list (tableDocuments items)

/-- The documents of all members. -/
def memberDocuments : List (String × Node) → List (String × Document)
  | [] => []
  | (k, n) :: rest => (k, n.document) :: memberDocuments rest

/-- The documents of all tables. -/
def tableDocuments : List (List (String × Node)) → List Document
  | [] => []
  | ms :: rest => .object (memberDocuments ms) :: tableDocuments rest

end

/-- The document of a table. -/
def Members.document (ms : Members) : Document := .object (memberDocuments ms)

end PacketRelay.Toml
