/-
  EventAlerts/Rule/Trigger.lean
  =============================
  **Triggers** — what a rule waits for: a command, or a category of occurrences.

  Texts are compared by their lower case forms.  A command trigger looks at the first
  word of the command.  A category trigger as written holds any text; resolving it
  finds the category name in it, and drops it if there is none.  Resolving stops at an
  overrun, and then there are no effective triggers.
-/
import EventAlerts.Rule.Resolver
import EventAlerts.Text.Basic

namespace EventAlerts.Rule

open EventAlerts.Time (Span)

/-- Something that a rule waits for. -/
inductive Trigger
  /-- A command, named without its slash. -/
  | command (name : String)
  | category (name : String)
  deriving Repr, DecidableEq, Inhabited

/-- Keeps the first of all elements with the same key. -/
def distinctBy [DecidableEq β] (key : α → β) : List α → List α
  | [] => []
  | a :: rest => a :: (distinctBy key rest).filter fun b => key b ≠ key a

namespace Trigger

/-- Reads a trigger: a command if it starts with a slash. -/
def parse (raw : String) : Trigger :=
  match (Text.lower (Text.trim raw)).toList with
  | '/' :: name => .command (String.ofList name)
  | name => .category (String.ofList name)

/-- The trigger as it is written. -/
def text : Trigger → String
  | .command name => "/" ++ name
  | .category name => name

def isCommand : Trigger → Bool
  | .command _ => true
  | .category _ => false

/-- The category, if the trigger is one. -/
def category? : Trigger → Option String
  | .command _ => none
  | .category name => some name

/-- Reads triggers and drops repeated ones. -/
def parseAll (raws : List String) : List Trigger := distinctBy id (raws.map parse)

/-- Whether an occurrence of this category, with this command, is what the trigger
    waits for. -/
def accepts (category : String) (command : Option String) : Trigger → Bool
  | .command name =>
    match command.bind fun text => (Text.words text).head? with
    | some word => Text.lower word = Text.lower name
    | none => false
  | .category name => Text.lower name = Text.lower category

/-- The triggers that accept an occurrence. -/
def matching (triggers : List Trigger) (category : String) (command : Option String) :
    List Trigger :=
  triggers.filter (accepts category command)

/-- The trigger with its category name found, and the cache afterwards. -/
def resolve (r : Resolver) (now : Span) : Trigger → Except Overrun (Option Trigger) × Resolver
  | .command name => (.ok (some (.command name)), r)
  | .category raw =>
    let (name, r) := r.resolve now raw
    (name.map fun name => name.map .category, r)

/-- Resolves triggers one after the other. -/
def resolveEach (r : Resolver) (now : Span) :
    List Trigger → Except Overrun (List Trigger) × Resolver
  | [] => (.ok [], r)
  | t :: rest =>
    match t.resolve r now with
    | (.error e, r) => (.error e, r)
    | (.ok found, r) =>
      let (others, r) := resolveEach r now rest
      (others.map fun others => found.toList ++ others, r)

/-- The effective triggers of a rule, without repetitions. -/
def resolveAll (r : Resolver) (now : Span) (triggers : List Trigger) :
    Except Overrun (List Trigger) × Resolver :=
  let (found, r) := resolveEach r now triggers
  (found.map (distinctBy id), r)

end Trigger

end EventAlerts.Rule
