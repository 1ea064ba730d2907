/-
  EventAlerts/Expr/Filter.lean
  ============================
  **Filters** — what stands behind `|`.

  A filter on texts reads any value as its text, except the splitting filters, which
  want a text.  A filter on items runs through whatever a loop can run through.
-/
import EventAlerts.Expr.Test

namespace EventAlerts.Expr

open EventAlerts.Decimal (wholePower truncateWithin)

inductive Filter
  | upper | lower | title | capitalize | replace | trim | join | split | lines
  | length | items | dictsort | reverse | first | last | min | max | sort | sum | unique
  | default | round | abs | int | float | string | bool | list
  | map | select | reject | selectAttr | rejectAttr
  deriving Repr, DecidableEq

namespace Filter

/-- The filter of a name; some have two. -/
def ofName? (name : String) : Option Filter :=
  match name with
  | "upper" => some .upper
  | "lower" => some .lower
  | "title" => some .title
  | "capitalize" => some .capitalize
  | "replace" => some .replace
  | "trim" => some .trim
  | "join" => some .join
  | "split" => some .split
  | "lines" => some .lines
  | "length" => some .length
  | "count" => some .length
  | "items" => some .items
  | "dictsort" => some .dictsort
  | "reverse" => some .reverse
  | "first" => some .first
  | "last" => some .last
  | "min" => some .min
  | "max" => some .max
  | "sort" => some .sort
  | "sum" => some .sum
  | "unique" => some .unique
  | "default" => some .default
  | "d" => some .default
  | "round" => some .round
  | "abs" => some .abs
  | "int" => some .int
  | "float" => some .float
  | "string" => some .string
  | "bool" => some .bool
  | "list" => some .list
  | "map" => some .map
  | "select" => some .select
  | "reject" => some .reject
  | "selectattr" => some .selectAttr
  | "rejectattr" => some .rejectAttr
  | _ => none

/-! ### Texts -/

/-- The ASCII characters that are neither letters, digits, blanks nor controls. -/
def isPunctuation (c : Char) : Bool := 32 < c.toNat && c.toNat < 127 && !c.isAlphanum

/-- Words with a capital and the rest in lower case.  A word starts behind a blank
    or a punctuation character. -/
def titleFrom (capital : Bool) : List Char → List Char
  | [] => []
  | c :: rest =>
    if isPunctuation c || Text.isBlank c then c :: titleFrom true rest
    else if capital then Unicode.upperForm c ++ titleFrom false rest
    else Unicode.lowerForm c ++ titleFrom false rest

/-- The first character in upper case, the rest in lower case. -/
def capitalized (s : List Char) : List Char :=
  match s with
  | [] => []
  | c :: rest => Unicode.upperForm c ++ Unicode.lower rest

/-- The texts of items with a separator between them. -/
def joinTexts (separator : String) (xs : List Value) : String :=
  separator.intercalate (xs.map Value.display)

/-- The lines of a text, without their line ends.  A carriage return belongs to the
    end of a line only in front of a line feed. -/
def linesOf (s : List Char) : List (List Char) :=
  let pieces := Text.splitOn ['\n'] s
  let ended := pieces.dropLast.map fun line =>
    if line.getLast? = some '\r' then line.dropLast else line
  ended ++ (pieces.getLast?.filter fun line => !line.isEmpty).toList

/-- The words of a text.  After `cuts` of them the rest from the next word on is one
    part, and blanks with no word behind them are a part as well. -/
def wordsAtMost (cuts : Nat) (s : List Char) : List (List Char) :=
  let body := s.dropWhile Text.isBlank
  if s.isEmpty then []
  else if body.isEmpty then [s]
  else
    match cuts with
    | 0 => [body]
    | cuts + 1 =>
      body.takeWhile (fun c => !Text.isBlank c)
        :: wordsAtMost cuts (body.dropWhile fun c => !Text.isBlank c)

/-- The parts of a text: its words, or the pieces between separators. -/
def splitText (s : List Char) (separator : Option (List Char)) (cuts : Option Nat) :
    List (List Char) :=
  match separator, cuts with
  | none, none => Text.wordsOf s
  | none, some n => wordsAtMost n s
  | some sep, none => Text.splitOn sep s
  | some sep, some n => Text.splitAtMost n sep s

/-- A list of texts as a value. -/
def textList (parts : List (List Char)) : Value :=
  .list (parts.map fun part => .text (String.ofList part))

/-- A value that must be a text. -/
def requiredText (v : Value) : Except Fault (List Char) :=
  match v with
  | .text s => .ok s.toList
  | _ => .error .badArgument

/-- The filters that turn a text into a text and take no argument. -/
def textFilter? (f : Filter) : Option (List Char → List Char) :=
  match f with
  | .upper => some Unicode.upper
  | .lower => some Unicode.lower
  | .title => some (titleFrom true)
  | .capitalize => some capitalized
  | _ => none

/-! ### Sorting -/

/-- The order of a sort: texts without regard to the case of ASCII letters, unless
    case counts. -/
def sortOrder (caseSensitive : Bool) (a b : Value) : Ordering :=
  match caseSensitive, a, b with
  | false, .text s, .text t =>
    compare (String.ofList (s.toList.map Char.toLower)) (String.ofList (t.toList.map Char.toLower))
  | _, a, b => Value.compareValues a b

/-- Puts an item into items that are listed from the last to the first: it moves in
    front of those that it is less than, and stops at the first other one. -/
def insertFromEnd (order : α → α → Ordering) (x : α) : List α → List α
  | [] => [x]
  | y :: rest => if order x y == .lt then y :: insertFromEnd order x rest else x :: y :: rest

/-- The most items that are sorted by insertion. -/
def maxInserted : Nat := 20

/-- Items sorted by an order, equal ones kept as they stand.  A few items are sorted by
    insertion, which also settles what becomes of items that the order cannot place:
    an item without the attribute of a sort is equal to every other. -/
def sorted (order : α → α → Ordering) (xs : List α) : List α :=
  if xs.length ≤ maxInserted then
    (xs.foldl (fun placed x => insertFromEnd order x placed) []).reverse
  else xs.mergeSort fun a b => order a b != .gt

/-- Items sorted by an order or by its reverse. -/
def sortedBy (order : α → α → Ordering) (reversed : Bool) (xs : List α) : List α :=
  if reversed then sorted (fun a b => order b a) xs else sorted order xs

/-- The order by an attribute; items without it count as equal. -/
def attributeOrder (path : String) (caseSensitive : Bool) (a b : Value) : Ordering :=
  match pathValue a path, pathValue b path with
  | .ok x, .ok y => sortOrder caseSensitive x y
  | _, _ => .eq

/-- The order by attributes that are written with commas between them: the first in
    which two items differ decides. -/
def attributesOrder (attributes : String) (caseSensitive : Bool) (a b : Value) : Ordering :=
  let paths := (Text.splitOn [','] attributes.toList).map (Text.trimWhere Text.isBlank)
  (paths.filter fun path => !path.isEmpty).foldl
    (fun order path => order.then (attributeOrder (String.ofList path) caseSensitive a b)) .eq

/-- Keeps the first item of each key. -/
def distinctBy (key : Value → Value) : List Value → List Value → List Value
  | _, [] => []
  | seen, v :: rest =>
    let k := key v
    if seen.any fun s => Value.compareValues s k == .eq then distinctBy key seen rest
    else v :: distinctBy key (k :: seen) rest

/-- The key by which items count as the same. -/
def distinctKey (path : Option String) (caseSensitive : Bool) (v : Value) : Value :=
  let k := match path with
    | none => v
    | some p => (pathValue v p).toOption.getD .undefined
  match caseSensitive, k with
  | false, .text s => .text (Text.lower s)
  | _, k => k

/-- The least item, the first of equal ones. -/
def least (xs : List Value) : Value :=
  match xs with
  | [] => .undefined
  | v :: rest => rest.foldl (fun best w => if Value.compareValues w best == .lt then w else best) v

/-- The greatest item, the last of equal ones. -/
def greatest (xs : List Value) : Value :=
  match xs with
  | [] => .undefined
  | v :: rest => rest.foldl (fun best w => if Value.compareValues w best == .lt then best else w) v

/-! ### Numbers -/

def widest : Int := Int.pow 2 127 - 1

/-- The whole part of a number, also of one given as a text. -/
def toInt (v : Value) : Except Fault Value :=
  match v with
  | .undefined => .ok (.int 0)
  | .none => .ok (.int 0)
  | .bool b => .ok (.int (if b then 1 else 0))
  | .int n => .ok (.int n)
  | .float f => .ok (.int (truncateWithin (-widest - 1) widest f))
  | .text s =>
    match (Decimal.readInt? s.toList).filter fitsWide with
    | some n => .ok (.int n)
    | Option.none =>
      match Decimal.readFloat? s.toList with
      | some f => .ok (.int (truncateWithin (-widest - 1) widest f))
      | Option.none => .error .badArgument
  | _ => .error .badArgument

/-- The number as a floating point number, also of one given as a text. -/
def toFloat (v : Value) : Except Fault Value :=
  match v with
  | .undefined => .ok (.float 0.0)
  | .none => .ok (.float 0.0)
  | .text s =>
    match Decimal.readFloat? s.toList with
    | some f => .ok (.float f)
    | Option.none => .error .badArgument
  | v =>
    match v.float? with
    | some f => .ok (.float f)
    | Option.none => .error .badArgument

/-- A floating point number rounded to a number of decimal places, a half away from
    zero; whole numbers stay. -/
def rounded (v : Value) (places : Int) : Except Fault Value :=
  match v with
  | .int n => .ok (.int n)
  | .float f =>
    let scale := wholePower 10.0 places
    .ok (.float ((scale * f).round / scale))
  | _ => .error .badArgument

/-- The sum of numbers; undefined items are passed over. -/
def sumOf (xs : List Value) : Except Fault Value :=
  xs.foldlM (fun total v =>
    match v with
    | .undefined => .ok total
    | .int n => Value.add total (.int n)
    | .float f => Value.add total (.float f)
    | _ => .error .badArgument) (.int 0)

/-! ### Items -/

/-- A value in reverse. -/
def reversed (v : Value) : Except Fault Value :=
  match v with
  | .undefined => .ok .undefined
  | .none => .ok .none
  | .text s => .ok (.text (String.ofList s.toList.reverse))
  | v =>
    match v.items? with
    | some xs => .ok (.iterator xs.reverse)
    | Option.none => .error .badArgument

/-- The items of a value that has some, a text being made of characters. -/
def partsOf (v : Value) : Except Fault (List Value) :=
  match v with
  | .undefined => .error .badArgument
  | .none => .error .badArgument
  | v => loopItems v

/-- The items of a value that has an order of its own, which a map has not. -/
def orderedParts (v : Value) : Except Fault (List Value) :=
  match v with
  | .map _ _ => .error .badArgument
  | v => partsOf v

/-- Key and value of every entry of a map. -/
def pairs (v : Value) : Except Fault (List (Value × Value)) :=
  match v with
  | .map entries _ => .ok entries
  | _ => .error .badArgument

/-- A key and a value as a list. -/
def pairList (e : Value × Value) : Value := .list [e.1, e.2]

/-- A value, or another one in its place when it is undefined or, if the second
    argument is true, not true itself. -/
def orDefault (v : Value) (args : List Value) : Except Fault Value :=
  match args with
  | [] => .ok (if v.isUndefined then .text "" else v)
  | [other] => .ok (if v.isUndefined then other else v)
  | [other, lax] => .ok (if v.isUndefined || (lax.isTrue && !v.isTrue) then other else v)
  | _ => .error .tooManyArguments

/-- The filters that take no argument and look at the value itself. -/
def plainFilter? (f : Filter) : Option (Value → Except Fault Value) :=
  match f with
  | .lines => some fun v => do return textList (linesOf (← requiredText v))
  | .length => some fun v =>
    match v with
    | .text s => .ok (.int s.length)
    | .list xs _ => .ok (.int xs.length)
    | .iterator xs => .ok (.int xs.length)
    | .map entries _ => .ok (.int entries.length)
    | _ => .error .badArgument
  | .items => some fun v => do return .iterator ((← pairs v).map pairList)
  | .reverse => some reversed
  | .first => some fun v => do return (← partsOf v).head?.getD .undefined
  | .last => some fun v => do return (← orderedParts v).getLast?.getD .undefined
  | .min => some fun v => do return least (← loopItems v)
  | .max => some fun v => do return greatest (← loopItems v)
  | .sum => some fun v => do sumOf (← loopItems v)
  | .abs => some fun v =>
    match v with
    | .int n => if 0 ≤ n then .ok (.int n) else Value.ofWide (-n)
    | .float f => .ok (.float f.abs)
    | _ => .error .badArgument
  | .int => some toInt
  | .float => some toFloat
  | .string => some fun v => .ok (.text v.display)
  | .bool => some fun v => .ok (.bool v.isTrue)
  | .list => some fun v => do return .list (← loopItems v)
  | _ => none

/-- The filters that read named arguments. -/
def sortingFilter? (f : Filter) : Option (Value → Arguments → Except Fault Value) :=
  match f with
  | .dictsort => some fun v args => do
    args.atMost 0
    args.onlyNames ["by", "case_sensitive", "reverse"]
    let entries ← pairs v
    let byValue := (← args.namedText? "by") = some "value"
    let caseSensitive ← args.flag "case_sensitive"
    let order (a b : Value × Value) : Ordering :=
      if byValue then sortOrder caseSensitive a.2 b.2 else sortOrder caseSensitive a.1 b.1
    return .list ((sortedBy order (← args.flag "reverse") entries).map pairList)
  | .sort => some fun v args => do
    args.atMost 0
    args.onlyNames ["attribute", "case_sensitive", "reverse"]
    let xs ← loopItems v
    let caseSensitive ← args.flag "case_sensitive"
    let order := match ← args.namedText? "attribute" with
      | some attributes => attributesOrder attributes caseSensitive
      | none => sortOrder caseSensitive
    return .list (sortedBy order (← args.flag "reverse") xs)
  | .unique => some fun v args => do
    args.atMost 0
    args.onlyNames ["attribute", "case_sensitive"]
    let xs ← loopItems v
    let path ← args.namedText? "attribute"
    let caseSensitive ← args.flag "case_sensitive"
    return .list (distinctBy (distinctKey path caseSensitive) [] xs)
  | _ => none

/-- The filters whose arguments count by place only. -/
def placedFilter (f : Filter) (v : Value) (args : List Value) : Except Fault Value :=
  match f with
  | .replace =>
    match args with
    | [old, new] => .ok (.text (Text.replace v.display old.display new.display))
    | [] => .error .missingArgument
    | [_] => .error .missingArgument
    | _ => .error .tooManyArguments
  | .trim => do
    match ← optionalArgument args with
    | none => return .text (Text.trim v.display)
    | some chars =>
      let chars := chars.display.toList
      return .text (String.ofList (Text.trimWhere chars.contains v.display.toList))
  | .join => do
    let separator := match ← optionalArgument args with
      | none => ""
      | some s => s.display
    return .text (joinTexts separator (← loopItems v))
  | .split => do
    let text ← requiredText v
    let separator ← optionalArgument (args.take 1)
    let cuts ← optionalArgument (args.drop 1)
    let separator ← match separator with
      | none => .ok none
      | some s => (requiredText s).map some
    let cuts ← match cuts with
      | none => .ok none
      | some n =>
        match n.index? with
        | some n => .ok (if 0 ≤ n then some n.toNat else none)
        | none => .error Fault.badArgument
    return textList (splitText text separator cuts)
  | .round => do
    let places ← match ← optionalArgument args with
      | none => .ok 0
      | some p =>
        match p.intWithin? (-Int.pow 2 31) (Int.pow 2 31 - 1) with
        | some n => .ok n
        | none => .error Fault.badArgument
    rounded v places
  | .default => orDefault v args
  | _ => .error .badArgument

/-! ### Filters over the items of a value -/

/-- The items that pass a test, or those that do not. -/
def selectItems (keep : Bool) (path : Option String) (args : List Value) (v : Value) :
    Except Fault Value := do
  let test? ← match args with
    | [] => .ok none
    | name :: _ =>
      if name.isAbsent then .ok none
      else
        match Test.ofName? name.display with
        | some t => .ok (some t)
        | none => .error (Fault.unknownTest name.display)
  let xs ← loopItems v
  let passes (w : Value) : Except Fault Bool := do
    let w ← match path with
      | none => .ok w
      | some p => pathValue w p
    match test? with
    | some t => t.check w (args.drop 1)
    | none => .ok w.isTrue
  return .list (← xs.filterM fun w => do return (← passes w) == keep)

/-- The values that the items have under an attribute. -/
def mapAttribute (key : Value) (fallback : Value) (xs : List Value) :
    Except Fault (List Value) :=
  xs.mapM fun w =>
    let found : Except Fault Value := match key with
      | .text path => pathValue w path
      | key => if w.isUndefined then .error .absentAttribute else .ok (w.item key)
    match found with
    | .ok x => .ok (if x.isUndefined then fallback else x)
    | .error e => if fallback.isUndefined then .error e else .ok fallback

/-- Applies a filter.  `map` applies the filter that its first argument names to
    every item, with the arguments behind the first. -/
def applyTo (f : Filter) (v : Value) (named : Option (List (Value × Value))) :
    List Value → Except Fault Value
  | [] => other []
  | head :: rest =>
    match f with
    | .map => do
      let args : Arguments := ⟨head :: rest, named⟩
      if (args.named? "attribute").isSome then throw .tooManyArguments
      let name ← match head with
        | .text s => .ok s
        | _ => .error Fault.badArgument
      match ofName? name with
      | none => throw (.unknownFilter name)
      | some g => return .list (← (← loopItems v).mapM fun w => applyTo g w none rest)
    | _ => other (head :: rest)
where
  /-- Every filter but `map` with a filter's name. -/
  other (positional : List Value) : Except Fault Value :=
    let args : Arguments := ⟨positional, named⟩
    match f.textFilter?, f.plainFilter?, f.sortingFilter? with
    | some g, _, _ => do
      noArguments args.flat
      return .text (String.ofList (g v.display.toList))
    | none, some g, _ => do
      noArguments args.flat
      g v
    | none, none, some g => g v args
    | none, none, none =>
      match f with
      | .map => do
        match args.named? "attribute" with
        | some key =>
          args.onlyNames ["attribute", "default"]
          let fallback := (args.last? "default").getD .undefined
          return .list (← mapAttribute key fallback (← loopItems v))
        | none => throw .missingArgument
      | .select => selectItems true none args.flat v
      | .reject => selectItems false none args.flat v
      | .selectAttr => byAttribute true args.flat
      | .rejectAttr => byAttribute false args.flat
      | f => placedFilter f v args.flat
  /-- The items whose attribute passes a test, or those whose attribute does not. -/
  byAttribute (keep : Bool) (args : List Value) : Except Fault Value :=
    match args with
    | [] => .error .missingArgument
    | path :: rest => selectItems keep (some path.display) rest v

/-- How many arguments of the filter are read as texts. -/
def textCount (f : Filter) : Nat :=
  match f with
  | .replace => 2
  | .trim => 1
  | .join => 1
  | .select => 1
  | .reject => 1
  | .selectAttr => 2
  | .rejectAttr => 2
  | _ => 0

/-- Applies a filter to a value. -/
def apply (f : Filter) (v : Value) (args : Arguments) : Except Fault Value := do
  args.textsFirst f.textCount
  f.applyTo v args.named args.positional

end Filter

end EventAlerts.Expr
