/-
  EventAlerts/Toml/Document.lean
  ==============================
  **Tables under construction** — how the lines of a document, or the members of a
  table on one line, become one table.

  A key with several parts, and a heading with several, reach into tables and make
  those that are missing.  A table knows how it came about, as that decides who may
  add to it: a table that a heading or a value defines is closed for keys that reach
  into it, one that keys have made is closed for headings, and one that only stands on
  the way to a heading can still get a heading of its own.
-/
import EventAlerts.Toml.Basic

namespace EventAlerts.Toml

/-- How a table came about. -/
inductive Origin
  /-- It stands on the way to the table of a heading. -/
  | implied
  /-- It stands on the way of a key. -/
  | dotted
  /-- It has a heading. -/
  | defined
  deriving Repr, DecidableEq

/-- A part of a document under construction. -/
inductive Node
  /-- A value that was written as such. -/
  | leaf (value : Toml)
  | table (origin : Origin) (members : List (String × Node))
  /-- An array of tables, each with a heading of its own. -/
  | tables (elements : List (List (String × Node)))

/-- The members of a table under construction. -/
abbrev Members := List (String × Node)

/-- Sets the member with a key, which is put last if it is new. -/
def setMember (key : String) (node : Node) : Members → Members
  | [] => [(key, node)]
  | (k, n) :: rest => if k = key then (k, node) :: rest else (k, n) :: setMember key node rest

/-- Changes the table that a path leads to.  Missing tables get the origin `made`; with
    `made = dotted` the path is that of a key, which may not enter defined tables.  A
    path leads into the last element of an array of tables. -/
def changeAt (made : Origin) (change : Origin → Members → Option Members) :
    List String → Origin → Members → Option Members
  | [], origin, members => change origin members
  | key :: path, _, members => do
    match members.lookup key with
    | none =>
      let inner ← changeAt made change path made []
      return setMember key (.table made inner) members
    | some (.leaf _) => none
    | some (.table origin inner) =>
      if made = .dotted ∧ origin = .defined then none
      else
        let inner ← changeAt made change path origin inner
        return setMember key (.table origin inner) members
    | some (.tables elements) =>
      let inner ← changeAt made change path .defined (elements.getLast?.getD [])
      return setMember key (.tables (elements.dropLast ++ [inner])) members

/-- Adds a new member.  The table must be the one that the key's other parts made, or
    the one the key starts from if it has no other parts. -/
def addLeaf (reached : Bool) (key : String) (value : Toml) (origin : Origin)
    (members : Members) : Option Members :=
  if reached ≠ (origin == .dotted) then none
  else if (members.lookup key).isSome then none
  else some (members ++ [(key, .leaf value)])

/-- Adds the value of a key to a table. -/
def addPair (path : List String) (value : Toml) (origin : Origin) (members : Members) :
    Option Members :=
  match path.getLast? with
  | none => none
  | some key =>
    changeAt .dotted (addLeaf (1 < path.length) key value) path.dropLast origin members

/-- Gives a table its heading. -/
def openTable (key : String) (_ : Origin) (members : Members) : Option Members :=
  match members.lookup key with
  | none => some (members ++ [(key, .table .defined [])])
  | some (.table .implied inner) => some (setMember key (.table .defined inner) members)
  | some _ => none

/-- Adds an element to an array of tables. -/
def openElement (key : String) (_ : Origin) (members : Members) : Option Members :=
  match members.lookup key with
  | none => some (members ++ [(key, .tables [[]])])
  | some (.tables elements) => some (setMember key (.tables (elements ++ [[]])) members)
  | some _ => none

/-! ### Lines -/

/-- A line of a document. -/
inductive Line
  | pair (path : List String) (value : Toml)
  /-- The heading of a table. -/
  | heading (path : List String)
  /-- The heading of an element of an array of tables. -/
  | element (path : List String)

/-- A document under construction: its members, and the path of the last heading. -/
structure Draft where
  members : Members := []
  current : List String := []

/-- The document with one more line. -/
def Draft.add (d : Draft) : Line → Option Draft
  | .pair path value => do
    let members ← changeAt .implied (addPair path value) d.current .defined d.members
    return { d with members := members }
  | .heading path => do
    let key ← path.getLast?
    let members ← changeAt .implied (openTable key) path.dropLast .defined d.members
    return { members := members, current := path }
  | .element path => do
    let key ← path.getLast?
    let members ← changeAt .implied (openElement key) path.dropLast .defined d.members
    return { members := members, current := path }

/-! ### Finished tables -/

mutual

def Node.toToml : Node → Toml
  | .leaf value => value
  | .table _ members => .table (membersToToml members)
  | .tables elements => .array (elementsToToml elements)

def membersToToml : List (String × Node) → List (String × Toml)
  | [] => []
  | (k, n) :: rest => (k, n.toToml) :: membersToToml rest

def elementsToToml : List (List (String × Node)) → List Toml
  | [] => []
  | members :: rest => .table (membersToToml members) :: elementsToToml rest

end

/-- The table that the lines of a document make. -/
def ofLines? (lines : List Line) : Option Toml := do
  let draft ← lines.foldlM Draft.add {}
  return .table (membersToToml draft.members)

/-- The table that is written on one line. -/
def ofPairs? (pairs : List (List String × Toml)) : Option Toml := do
  let members ← pairs.foldlM (fun members (path, value) => addPair path value .defined members) []
  return .table (membersToToml members)

end EventAlerts.Toml
