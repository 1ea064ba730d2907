/-
  EventAlerts/Expr/Parser.lean
  ============================
  **Reading expressions** — from tokens to a tree.

  From the weakest to the strongest, the operators are `if … else`, `or`, `and`,
  `not`, the comparisons, `+` and `-`, `~`, the products, `**`, and a leading `-`.
  Attributes, items and calls follow an operand, then its filters and tests.  The
  names `true`, `false` and `none` are constants, also with a capital; other names
  that serve as operators are variables where an operand is expected.

  A part that is no token has no place in an expression.  Right behind a text, or behind
  the name of a filter or test, the expression ends in front of it all the same.

  An expression nests at most `maxNesting` deep.
-/
import EventAlerts.Expr.Syntax
import EventAlerts.Expr.Token

namespace EventAlerts.Expr

/-- How deep operands and expressions may nest, counted together. -/
def maxNesting : Nat := 150

/-- The levels of the binary operators other than comparisons. -/
inductive Level
  | disjunction | conjunction | negation | comparison | sum | concatenation | product | power
  deriving DecidableEq

/-- The operators of a level that groups to the left. -/
def Level.operator? (level : Level) (t : Token) : Option (Term → Term → Term) :=
  match level, t with
  | .disjunction, .name "or" => some .or
  | .conjunction, .name "and" => some .and
  | .sum, .symbol .plus => some (.binary .add)
  | .sum, .symbol .minus => some (.binary .sub)
  | .concatenation, .symbol .tilde => some (.binary .concat)
  | .product, .symbol .times => some (.binary .mul)
  | .product, .symbol .slash => some (.binary .div)
  | .product, .symbol .slashSlash => some (.binary .floorDiv)
  | .product, .symbol .percent => some (.binary .rem)
  | .power, .symbol .power => some (.binary .pow)
  | _, _ => none

/-- The comparison at the front of the tokens. -/
def takeComparison? (ts : List Token) : Option (Comparison × List Token) :=
  match ts with
  | .symbol .equal :: rest => some (.equal, rest)
  | .symbol .notEqual :: rest => some (.notEqual, rest)
  | .symbol .less :: rest => some (.less, rest)
  | .symbol .lessEqual :: rest => some (.lessEqual, rest)
  | .symbol .greater :: rest => some (.greater, rest)
  | .symbol .greaterEqual :: rest => some (.greaterEqual, rest)
  | .name "in" :: rest => some (.isIn, rest)
  | .name "not" :: .name "in" :: rest => some (.notIn, rest)
  | _ => none

/-- A comparison chain; a single operand stays as it is. -/
def Term.comparing (first : Term) (rest : List (Comparison × Term)) : Term :=
  if rest.isEmpty then first else .compare first rest

/-- Whether a token starts the argument of a test that is written without
    parentheses. -/
def startsTestArgument : Token → Bool
  | .name s => s != "and" && s != "or" && s != "else" && s != "is"
  | .text _ => true
  | .int _ => true
  | .float _ => true
  | .symbol .plus => true
  | .symbol .minus => true
  | .symbol .bracketOpen => true
  | .symbol .braceOpen => true
  | .symbol _ => false
  | .unreadable => false

/-- No tokens if the part that cannot be read comes first, or else the tokens as they
    are. -/
def dropUnreadable : List Token → List Token
  | .unreadable :: _ => []
  | ts => ts

/-- The texts at the front of the tokens, joined. -/
def takeTexts (s : String) : List Token → String × List Token
  | .text t :: rest => takeTexts (s ++ t) rest
  | rest => (s, dropUnreadable rest)

/-- A name that may go on behind points, which are part of it. -/
def takeDotted? (name : String) : List Token → Option (String × List Token)
  | .symbol .dot :: .name s :: ts => takeDotted? (name ++ "." ++ s) ts
  | .symbol .dot :: _ => none
  | ts => some (name, dropUnreadable ts)

/-- An operand that is one token. -/
def Term.ofName (s : String) : Term :=
  if s = "true" || s = "True" then .literal (.bool true)
  else if s = "false" || s = "False" then .literal (.bool false)
  else if s = "none" || s = "None" then .literal .none
  else .variable s

/-- Removes the symbol from the front of the tokens. -/
def expect? (symbol : Symbol) (ts : List Token) : Option (List Token) :=
  match ts with
  | .symbol s :: rest => if s = symbol then some rest else none
  | _ => none

/-- The most arguments that a call can have. -/
def maxArguments : Nat := 2000

mutual

/-- A whole expression. -/
def parseExpr? : Nat → Nat → List Token → Option (Term × List Token)
  | 0, _, _ => none
  | fuel + 1, depth, ts =>
    if maxNesting ≤ depth then none
    else parseConditional? fuel (depth + 1) ts

/-- An operand of a level and the conditions behind it. -/
def parseConditional? : Nat → Nat → List Token → Option (Term × List Token)
  | 0, _, _ => none
  | fuel + 1, depth, ts => do
    let (e, ts) ← parseLevel? fuel depth .disjunction ts
    parseConditions? fuel depth e ts

/-- The `if` parts behind a value. -/
def parseConditions? : Nat → Nat → Term → List Token → Option (Term × List Token)
  | 0, _, _, _ => none
  | fuel + 1, depth, e, ts =>
    match ts with
    | .name "if" :: ts => do
      let (condition, ts) ← parseLevel? fuel depth .disjunction ts
      match ts with
      | .name "else" :: ts =>
        let (no, ts) ← parseConditional? fuel depth ts
        parseConditions? fuel depth (.ifElse condition e (some no)) ts
      | ts => parseConditions? fuel depth (.ifElse condition e none) ts
    | ts => some (e, ts)

/-- An expression of a level. -/
def parseLevel? : Nat → Nat → Level → List Token → Option (Term × List Token)
  | 0, _, _, _ => none
  | fuel + 1, depth, level, ts =>
    match level with
    | .disjunction => do
      let (e, ts) ← parseLevel? fuel depth .conjunction ts
      parseOperators? fuel depth .disjunction .conjunction e ts
    | .conjunction => do
      let (e, ts) ← parseLevel? fuel depth .negation ts
      parseOperators? fuel depth .conjunction .negation e ts
    | .negation =>
      match ts with
      | .name "not" :: ts => do
        let (e, ts) ← parseLevel? fuel depth .negation ts
        return (.not e, ts)
      | ts => parseLevel? fuel depth .comparison ts
    | .comparison => do
      let (first, ts) ← parseLevel? fuel depth .sum ts
      let (rest, ts) ← parseComparisons? fuel depth ts
      return (.comparing first rest, ts)
    | .sum => do
      let (e, ts) ← parseLevel? fuel depth .concatenation ts
      parseOperators? fuel depth .sum .concatenation e ts
    | .concatenation => do
      let (e, ts) ← parseLevel? fuel depth .product ts
      parseOperators? fuel depth .concatenation .product e ts
    | .product => do
      let (e, ts) ← parseLevel? fuel depth .power ts
      parseOperators? fuel depth .product .power e ts
    | .power => do
      let (e, ts) ← parseOperand? fuel depth ts
      parsePowers? fuel depth e ts

/-- The operators of a level behind its first operand, with operands of the next. -/
def parseOperators? : Nat → Nat → Level → Level → Term → List Token → Option (Term × List Token)
  | 0, _, _, _, _, _ => none
  | fuel + 1, depth, level, next, left, ts =>
    match ts with
    | t :: rest =>
      match level.operator? t with
      | some op => do
        let (right, rest) ← parseLevel? fuel depth next rest
        parseOperators? fuel depth level next (op left right) rest
      | none => some (left, t :: rest)
    | [] => some (left, [])

/-- The powers behind an operand. -/
def parsePowers? : Nat → Nat → Term → List Token → Option (Term × List Token)
  | 0, _, _, _ => none
  | fuel + 1, depth, left, ts =>
    match ts with
    | .symbol .power :: rest => do
      let (right, rest) ← parseOperand? fuel depth rest
      parsePowers? fuel depth (.binary .pow left right) rest
    | ts => some (left, ts)

/-- The comparisons behind an operand.  A `not` there must be part of `not in`. -/
def parseComparisons? : Nat → Nat → List Token → Option (List (Comparison × Term) × List Token)
  | 0, _, _ => none
  | fuel + 1, depth, ts =>
    match takeComparison? ts with
    | some (op, ts) => do
      let (e, ts) ← parseLevel? fuel depth .sum ts
      let (rest, ts) ← parseComparisons? fuel depth ts
      return ((op, e) :: rest, ts)
    | none =>
      match ts with
      | .name "not" :: _ => none
      | ts => some ([], ts)

/-- An operand with everything that follows it. -/
def parseOperand? : Nat → Nat → List Token → Option (Term × List Token)
  | 0, _, _ => none
  | fuel + 1, depth, ts => do
    let (e, ts) ← parseSigned? fuel depth ts
    let (e, ts) ← parsePostfix? fuel depth e ts
    parseFilters? fuel depth e ts

/-- A primary expression with its signs. -/
def parseSigned? : Nat → Nat → List Token → Option (Term × List Token)
  | 0, _, _ => none
  | fuel + 1, depth, ts =>
    match ts with
    | .symbol .minus :: ts => do
      let (e, ts) ← parseSigned? fuel depth ts
      return (.negate e, ts)
    | ts => parsePrimary? fuel depth ts

/-- A constant, a variable, or an expression in brackets of some kind. -/
def parsePrimary? : Nat → Nat → List Token → Option (Term × List Token)
  | 0, _, _ => none
  | fuel + 1, depth, ts =>
    if maxNesting ≤ depth then none
    else
      let depth := depth + 1
      match ts with
      | .name s :: ts => some (.ofName s, ts)
      | .text s :: ts =>
        let (s, ts) := takeTexts s ts
        some (.literal (.text s), ts)
      | .int n :: ts => some (.literal (.int n), ts)
      | .float f :: ts => some (.literal (.float f), ts)
      | .symbol .parenOpen :: .symbol .parenClose :: ts => some (.list [], ts)
      | .symbol .parenOpen :: ts => do
        let (e, ts) ← parseExpr? fuel depth ts
        match ts with
        | .symbol .comma :: ts =>
          let (items, ts) ← parseItems? fuel depth .parenClose ts
          return (.list (e :: items), ts)
        | ts => return (e, ← expect? .parenClose ts)
      | .symbol .bracketOpen :: ts => do
        let (items, ts) ← parseItems? fuel depth .bracketClose ts
        return (.list items, ts)
      | .symbol .braceOpen :: ts => do
        let (entries, ts) ← parseEntries? fuel depth ts
        return (.map entries, ts)
      | _ => none

/-- The items of a list up to the closing symbol; a comma may stand before it. -/
def parseItems? : Nat → Nat → Symbol → List Token → Option (List Term × List Token)
  | 0, _, _, _ => none
  | fuel + 1, depth, close, ts =>
    match expect? close ts with
    | some ts => some ([], ts)
    | none => do
      let (e, ts) ← parseExpr? fuel depth ts
      match ts with
      | .symbol .comma :: ts =>
        let (items, ts) ← parseItems? fuel depth close ts
        return (e :: items, ts)
      | ts => return ([e], ← expect? close ts)

/-- The entries of a map up to the closing brace; a comma may stand before it. -/
def parseEntries? : Nat → Nat → List Token → Option (List (Term × Term) × List Token)
  | 0, _, _ => none
  | fuel + 1, depth, ts =>
    match expect? .braceClose ts with
    | some ts => some ([], ts)
    | none => do
      let (key, ts) ← parseExpr? fuel depth ts
      let ts ← expect? .colon ts
      let (value, ts) ← parseExpr? fuel depth ts
      match ts with
      | .symbol .comma :: ts =>
        let (entries, ts) ← parseEntries? fuel depth ts
        return ((key, value) :: entries, ts)
      | ts => return ([(key, value)], ← expect? .braceClose ts)

/-- The attributes, items, slices and calls behind an operand. -/
def parsePostfix? : Nat → Nat → Term → List Token → Option (Term × List Token)
  | 0, _, _, _ => none
  | fuel + 1, depth, e, ts =>
    match ts with
    | .symbol .dot :: .name s :: ts => parsePostfix? fuel depth (.attr e s) ts
    | .symbol .dot :: .int n :: ts => parsePostfix? fuel depth (.item e (.literal (.int n))) ts
    | .symbol .dot :: _ => none
    | .symbol .bracketOpen :: ts => do
      let (e, ts) ← parseSubscript? fuel depth e ts
      parsePostfix? fuel depth e ts
    | .symbol .parenOpen :: ts => do
      let (args, ts) ← parseArguments? fuel depth false ts
      if maxArguments < args.length then none
      else parsePostfix? fuel depth (.call e args) ts
    | ts => some (e, ts)

/-- What stands between brackets behind an operand: an item or a slice. -/
def parseSubscript? : Nat → Nat → Term → List Token → Option (Term × List Token)
  | 0, _, _, _ => none
  | fuel + 1, depth, e, ts => do
    let (start, ts) ← match ts with
      | .symbol .colon :: _ => some (none, ts)
      | ts => (parseExpr? fuel depth ts).map fun (start, ts) => (some start, ts)
    match ts with
    | .symbol .colon :: ts =>
      let (stop, ts) ← match ts with
        | .symbol .colon :: _ => some (none, ts)
        | .symbol .bracketClose :: _ => some (none, ts)
        | ts => (parseExpr? fuel depth ts).map fun (stop, ts) => (some stop, ts)
      let (step, ts) ← match ts with
        | .symbol .colon :: .symbol .bracketClose :: ts => some (none, .symbol .bracketClose :: ts)
        | .symbol .colon :: ts =>
          (parseExpr? fuel depth ts).map fun (step, ts) => (some step, ts)
        | ts => some (none, ts)
      return (.slice e start stop step, ← expect? .bracketClose ts)
    | ts =>
      match start with
      | some key => return (.item e key, ← expect? .bracketClose ts)
      | none => none

/-- The arguments of a call up to the closing parenthesis; a comma may stand before
    it.  Behind an argument with a name every argument needs one. -/
def parseArguments? : Nat → Nat → Bool → List Token → Option (List Arg × List Token)
  | 0, _, _, _ => none
  | fuel + 1, depth, named, ts =>
    match expect? .parenClose ts with
    | some ts => some ([], ts)
    | none => do
      let (arg, ts) ← parseArgument? fuel depth named ts
      let named := match arg with
        | .named _ _ => true
        | .spreadNamed _ => true
        | _ => named
      match ts with
      | .symbol .comma :: ts =>
        let (args, ts) ← parseArguments? fuel depth named ts
        return (arg :: args, ts)
      | ts => return ([arg], ← expect? .parenClose ts)

/-- One argument. -/
def parseArgument? : Nat → Nat → Bool → List Token → Option (Arg × List Token)
  | 0, _, _, _ => none
  | fuel + 1, depth, named, ts =>
    match ts with
    | .symbol .power :: ts => (parseExpr? fuel depth ts).map fun (e, ts) => (.spreadNamed e, ts)
    | .symbol .times :: ts => (parseExpr? fuel depth ts).map fun (e, ts) => (.spread e, ts)
    | ts => do
      let (e, ts) ← parseExpr? fuel depth ts
      match e, ts with
      | .variable s, .symbol .assign :: ts =>
        let (value, ts) ← parseExpr? fuel depth ts
        return (.named s value, ts)
      | e, ts => if named then none else return (.positional e, ts)

/-- The filters and tests behind an operand. -/
def parseFilters? : Nat → Nat → Term → List Token → Option (Term × List Token)
  | 0, _, _, _ => none
  | fuel + 1, depth, e, ts =>
    match ts with
    | .symbol .pipe :: .name s :: ts => do
      let (s, ts) ← takeDotted? s ts
      let (args, ts) ← parseOptionalArguments? fuel depth ts
      parseFilters? fuel depth (.filter s e args) ts
    | .symbol .pipe :: _ => none
    | .name "is" :: .name "not" :: .name s :: ts => do
      let (s, ts) ← takeDotted? s ts
      let (args, ts) ← parseTestArguments? fuel depth ts
      parseFilters? fuel depth (.not (.test s e args)) ts
    | .name "is" :: .name "not" :: _ => none
    | .name "is" :: .name s :: ts => do
      let (s, ts) ← takeDotted? s ts
      let (args, ts) ← parseTestArguments? fuel depth ts
      parseFilters? fuel depth (.test s e args) ts
    | .name "is" :: _ => none
    | ts => some (e, ts)

/-- The arguments of a filter, if it has any. -/
def parseOptionalArguments? : Nat → Nat → List Token → Option (List Arg × List Token)
  | 0, _, _ => none
  | fuel + 1, depth, ts =>
    match ts with
    | .symbol .parenOpen :: ts => do
      let (args, ts) ← parseArguments? fuel depth false ts
      if maxArguments < args.length then none else return (args, ts)
    | ts => some ([], ts)

/-- The arguments of a test: in parentheses, or one operand without filters. -/
def parseTestArguments? : Nat → Nat → List Token → Option (List Arg × List Token)
  | 0, _, _ => none
  | fuel + 1, depth, ts =>
    match ts with
    | .symbol .parenOpen :: _ => parseOptionalArguments? fuel depth ts
    | t :: rest =>
      if startsTestArgument t then do
        let (e, ts) ← parseSigned? fuel depth (t :: rest)
        let (e, ts) ← parsePostfix? fuel depth e ts
        return ([.positional e], ts)
      else some ([], t :: rest)
    | [] => some ([], [])

end

/-- The expression that a text holds.  Between two tokens the parser makes less than
    twenty calls. -/
def Term.parse? (s : String) : Option Term := do
  let ts := tokens s
  let (e, rest) ← parseExpr? (20 * (ts.length + 2)) 0 ts
  if rest.isEmpty then some e else none

end EventAlerts.Expr
