/-
  EventAlerts/Expr/Value.lean
  ===========================
  **Values of expressions** — what variables hold and expressions yield.

  `undefined` is the value of a name or attribute that does not exist; `none` is the
  null of the data.  A `list` is stored, an `iterator` is produced by an operation;
  they differ in kind and agree in everything else.  The entries of a `map` have the
  order in which they are shown: sorted by key for data and literals, the order of
  declaration for the records of the program.

  A list or map of data knows its origin, the place where it stands in the data, and
  keeps it wherever it is passed on.  One that an expression builds has none.

  `display` is the text a value has in a message, `nested` the text it has inside a
  list or map, where texts are quoted.
-/
import EventAlerts.Decimal.Format
import EventAlerts.Json.Basic
import EventAlerts.Text.Quoted

namespace EventAlerts.Expr

/-- The functions that expressions can call. -/
inductive Function
  | range
  | dict
  deriving Repr, DecidableEq

/-- A place in data: a variable, the entry of a map under a name, an item of a list. -/
inductive Place
  | variable (name : String)
  | attr (place : Place) (name : String)
  | item (place : Place) (index : Nat)
  deriving Repr, DecidableEq

/-- The value of an expression. -/
inductive Value
  | undefined
  | none
  | bool (value : Bool)
  | int (value : Int)
  | float (value : Float)
  | text (value : String)
  | list (items : List Value) (origin : Option Place := Option.none)
  | iterator (items : List Value)
  | map (entries : List (Value × Value)) (origin : Option Place := Option.none)
  | function (f : Function)
  deriving Repr, Inhabited

/-- The kinds of values, in the order in which values of different kinds compare. -/
inductive Kind
  | undefined
  | none
  | bool
  | number
  | text
  | list
  | map
  | iterator
  | function
  deriving Repr, DecidableEq

namespace Kind

def name : Kind → String
  | .undefined => "undefined"
  | .none => "none"
  | .bool => "bool"
  | .number => "number"
  | .text => "string"
  | .list => "sequence"
  | .map => "map"
  | .iterator => "iterator"
  | .function => "plain"

/-- The place of a kind among the kinds. -/
def rank : Kind → Nat
  | .undefined => 0
  | .none => 1
  | .bool => 2
  | .number => 3
  | .text => 4
  | .list => 5
  | .map => 6
  | .iterator => 7
  | .function => 8

end Kind

def Function.name : Function → String
  | .range => "range"
  | .dict => "dict"

namespace Value

def kind : Value → Kind
  | .undefined => .undefined
  | .none => .none
  | .bool _ => .bool
  | .int _ => .number
  | .float _ => .number
  | .text _ => .text
  | .list _ _ => .list
  | .iterator _ => .iterator
  | .map _ _ => .map
  | .function _ => .function

/-- Whether a value counts as true: empty texts, lists and maps, zero and the absent
    values do not. -/
def isTrue : Value → Bool
  | .undefined => false
  | .none => false
  | .bool b => b
  | .int n => n != 0
  | .float f => f != 0.0
  | .text s => !s.isEmpty
  | .list items _ => !items.isEmpty
  | .iterator items => !items.isEmpty
  | .map entries _ => !entries.isEmpty
  | .function _ => true

def isUndefined : Value → Bool
  | .undefined => true
  | _ => false

/-- Absent in either way. -/
def isAbsent : Value → Bool
  | .undefined => true
  | .none => true
  | _ => false

/-- The characters of a text value. -/
def text? : Value → Option String
  | .text s => some s
  | _ => Option.none

mutual

/-- The text of a value inside a list or map. -/
def nested : Value → String
  | .undefined => "undefined"
  | .none => "None"
  | .bool true => "True"
  | .bool false => "False"
  | .int n => toString n
  | .float f => Decimal.compactText f
  | .text s => Text.quoted s
  | .list items _ => "[" ++ nestedItems items ++ "]"
  | .iterator items => "[" ++ nestedItems items ++ "]"
  | .map entries _ => "\x7b" ++ nestedEntries entries ++ "\x7d"
  | .function f => f.name

def nestedItems : List Value → String
  | [] => ""
  | [v] => nested v
  | v :: rest => nested v ++ ", " ++ nestedItems rest

def nestedEntries : List (Value × Value) → String
  | [] => ""
  | [(k, v)] => nested k ++ ": " ++ nested v
  | (k, v) :: rest => nested k ++ ": " ++ nested v ++ ", " ++ nestedEntries rest

end

/-- The text of a value in a message. -/
def display : Value → String
  | .undefined => ""
  | .float f => Decimal.plainText f
  | .text s => s
  | v => v.nested

mutual

/-- The value of the data at a place. -/
def ofJson (place : Place) : Json → Value
  | .null => .none
  | .bool b => .bool b
  | .int n => .int n
  | .float f => .float f
  | .string s => .text s
  | .unreadable => .none
  | .array items => .list (ofItems place 0 items) (some place)
  | .object members => .map (ofMembers place members) (some place)

/-- The values of the items of a list at a place, from an index on. -/
def ofItems (place : Place) (index : Nat) : List Json → List Value
  | [] => []
  | j :: rest => ofJson (.item place index) j :: ofItems place (index + 1) rest

/-- The entries of a map at a place. -/
def ofMembers (place : Place) : List (String × Json) → List (Value × Value)
  | [] => []
  | (k, j) :: rest => (.text k, ofJson (.attr place k) j) :: ofMembers place rest

end

end Value

end EventAlerts.Expr
