/-
  Structured documents: what JSON and TOML texts stand for.

  * `Document` is a value as it was written, tables with their members in order;
  * `Document.object` builds a table as it is kept: sorted by key, each key once, the last value
    given for it;
  * `Document.merged` brings a whole document into this form.
-/
import PacketRelay.Binary64

namespace PacketRelay

/-- A value in a document. -/
inductive Document where
  | null
  | bool (b : Bool)
  | integer (n : Int)
  | float (x : Binary64)
  | text (s : String)
  | list (items : List Document)
  | table (members : List (String × Document))
  /-- A date, a time, or both; no setting is one. -/
  | moment
  /-- Something well-formed that stands for no value, such as a number beyond all bounds. -/
  | unreadable

namespace Document

/-- Adds a member to members sorted by key, in place of one with the same key. -/
def insertMember (key : String) (value : Document) :
    List (String × Document) → List (String × Document)
  | [] => [(key, value)]
  | (k, v) :: rest =>
    if key < k then (key, value) :: (k, v) :: rest
    else if key = k then (key, value) :: rest
    else (k, v) :: insertMember key value rest

/-- Members sorted by key; of members with one key the last counts. -/
def sortMembers (members : List (String × Document)) : List (String × Document) :=
  members.foldl (fun kept (k, v) => insertMember k v kept) []

/-- A table that is kept sorted by key. -/
def object (members : List (String × Document)) : Document := table (sortMembers members)

mutual

/-- A document with all its tables sorted. -/
def merged : Document → Document
  | list items => list (mergedItems items)
  | table members => object (mergedMembers members)
  | d => d

/-- Merges each item. -/
def mergedItems : List Document → List Document
  | [] => []
  | d :: rest => merged d :: mergedItems rest

/-- Merges the value of each member. -/
def mergedMembers : List (String × Document) → List (String × Document)
  | [] => []
  | (k, d) :: rest => (k, merged d) :: mergedMembers rest

end

mutual

/-- How deep lists and tables are nested. -/
def depth : Document → Nat
  | list items => 1 + depthItems items
  | table members => 1 + depthMembers members
  | _ => 0

/-- The greatest depth among items. -/
def depthItems : List Document → Nat
  | [] => 0
  | d :: rest => max (depth d) (depthItems rest)

/-- The greatest depth among the values of members. -/
def depthMembers : List (String × Document) → Nat
  | [] => 0
  | (_, d) :: rest => max (depth d) (depthMembers rest)

end

mutual

/-- Whether everything in a document stands for a value. -/
def isReadable : Document → Bool
  | unreadable => false
  | list items => areReadable items
  | table members => membersReadable members
  | _ => true

/-- Whether all items are readable. -/
def areReadable : List Document → Bool
  | [] => true
  | d :: rest => isReadable d && areReadable rest

/-- Whether the values of all members are readable. -/
def membersReadable : List (String × Document) → Bool
  | [] => true
  | (_, d) :: rest => isReadable d && membersReadable rest

end

/-- A natural number. -/
def natural (n : Nat) : Document := integer n

/-- A value that may be absent. -/
def optional {α : Type} (f : α → Document) : Option α → Document
  | some a => f a
  | none => null

/-- The value of a member of a table. -/
def member? (key : String) : Document → Option Document
  | table members => members.lookup key
  | _ => none

end Document

end PacketRelay
