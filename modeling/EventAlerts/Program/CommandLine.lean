/-
  EventAlerts/Program/CommandLine.lean
  ====================================
  **The command line** — what the words behind the program's name ask for, and what the
  program then answers.

  Words are read from left to right, and the first that cannot be accepted decides; so
  does a word that asks for help.  An option takes its value from behind its equals sign
  or from the next word, which must not look like an option then.  An option is given
  at most once.
-/
import EventAlerts.Program.Help
import EventAlerts.Program.Replay
import EventAlerts.Rule.Listing

namespace EventAlerts

open EventAlerts.Time (Stamp)

/-- What the program is asked to do. -/
inductive Invocation
  /-- To list the rules of a file. -/
  | check (alerts : String) (format : ListingFormat)
  /-- To replay an input, from a file or from the standard input. -/
  | replay (alerts : String) (platform input : Option String)
  | help (topic : HelpTopic)
  | version
  deriving Repr, DecidableEq

namespace Invocation

/-! ### Options -/

/-- An option of a command: its name, and which values it takes. -/
structure OptionRule where
  name : String
  accepts : String → Bool

/-- A path is any text that is not empty. -/
def path (name : String) : OptionRule := { name := name, accepts := fun s => !s.isEmpty }

def formatOf? : String → Option ListingFormat
  | "table" => some .table
  | "json" => some .json
  | _ => none

def checkOptions : List OptionRule :=
  [path "alerts", { name := "format", accepts := fun s => (formatOf? s).isSome }]

def replayOptions : List OptionRule := [path "alerts", path "platform", path "input"]

/-- What the words behind a command say. -/
inductive Given
  | values (values : List (String × String))
  /-- Help is asked for, all of it or a summary. -/
  | help (summary : Bool)

/-- A word as it may be an option. -/
inductive Word
  /-- Two hyphens alone: no options follow. -/
  | separator
  /-- A name behind two hyphens, and a value behind an equals sign. -/
  | long (name : String) (value : Option String)
  /-- Letters behind one hyphen. -/
  | short (letters : List Char)
  | plain
  deriving Repr, DecidableEq

/-- A name and the value behind its equals sign. -/
def longWord (s : List Char) : Word :=
  match Text.splitFirst? ['='] s with
  | some (name, value) => .long (String.ofList name) (some (String.ofList value))
  | none => .long (String.ofList s) none

def wordOf (s : String) : Word :=
  match s.toList with
  | ['-', '-'] => .separator
  | '-' :: '-' :: rest => longWord rest
  | '-' :: c :: rest => .short (c :: rest)
  | _ => .plain

/-- The value that an option has, if the option is known, new, and takes it. -/
def accept? (options : List OptionRule) (values : List (String × String)) (name value : String) :
    Option (List (String × String)) :=
  match options.find? fun o => o.name = name with
  | some o =>
    if (values.lookup name).isNone && o.accepts value then some (values ++ [(name, value)])
    else none
  | none => none

/-- Reads the words behind a command. -/
def readOptions (options : List OptionRule) (values : List (String × String)) :
    List String → Option Given
  | [] => some (.values values)
  | word :: rest =>
    match wordOf word with
    | .separator => if rest.isEmpty then some (.values values) else none
    | .long "help" none => some (.help false)
    | .short ('h' :: _) => some (.help true)
    | .long name (some value) =>
      (accept? options values name value).bind fun values => readOptions options values rest
    | .long name none =>
      match rest with
      | value :: rest =>
        if wordOf value = .plain then
          (accept? options values name value).bind fun values => readOptions options values rest
        else none
      | [] => none
    | .short _ => none
    | .plain => none

/-! ### Invocations -/

def checkOf? (values : List (String × String)) : Option Invocation := do
  let alerts ← values.lookup "alerts"
  return .check alerts (((values.lookup "format").bind formatOf?).getD .table)

def replayOf? (values : List (String × String)) : Option Invocation := do
  let alerts ← values.lookup "alerts"
  return .replay alerts (values.lookup "platform") (values.lookup "input")

/-- What is asked about in words behind `help`. -/
def topicOf? : List String → Option HelpTopic
  | [] => some .program
  | ["check"] => some .check
  | ["replay"] => some .replay
  | ["help"] => some .help
  | _ => none

/-- Reads the words behind the program's name. -/
def parse? : List String → Option Invocation
  | [] => none
  | "check" :: rest =>
    match readOptions checkOptions [] rest with
    | some (.values values) => checkOf? values
    | some (.help summary) => some (.help (if summary then .checkSummary else .check))
    | none => none
  | "replay" :: rest =>
    match readOptions replayOptions [] rest with
    | some (.values values) => replayOf? values
    | some (.help _) => some (.help .replay)
    | none => none
  | "help" :: rest => (topicOf? rest).map .help
  | word :: _ =>
    match wordOf word with
    | .long "help" none => some (.help .program)
    | .long "version" none => some .version
    | .short ('h' :: _) => some (.help .program)
    | .short ('V' :: _) => some .version
    | _ => none

/-- The files that a command reads. -/
def paths : Invocation → List String
  | .check alerts _ => [alerts]
  | .replay alerts platform input => alerts :: platform.toList ++ input.toList
  | _ => []

/-- Whether a command reads the standard input. -/
def readsStdin : Invocation → Bool
  | .replay _ _ none => true
  | _ => false

end Invocation

/-! ### Reports -/

/-- What the program leaves behind. -/
structure Report where
  /-- Zero for success, one for a failure, two for words that ask for nothing. -/
  code : Nat := 0
  stdout : String := ""
  stderr : String := ""
  deriving Repr, DecidableEq

namespace Report

/-- The report of a failure. -/
def failed (reason : String) : Report := { code := 1, stderr := "Error: " ++ reason ++ "\n" }

/-- Nothing that the program does was asked for. -/
def misused : Report := { code := 2, stderr := HelpTopic.program.text }

end Report

def ConfigError.reason (e : ConfigError) : String :=
  match e with
  | .unreadable => "failed to read the alerts file"
  | .malformed => "invalid alerts file"
  | .invalid _ _ => e.message?.getD ""

def ReplayError.reason : ReplayError → String
  | .platform => "invalid platform file"
  | .config e => e.reason
  | .input => "reading input"
  | .overrun => "a category's lifetime ends beyond the clock"

namespace Invocation

/-- What the program can read. -/
structure Inputs where
  /-- The bytes of a file, if there is one. -/
  file : String → Option ByteArray
  stdin : ByteArray := ByteArray.empty
  now : Stamp := ⟨0⟩

/-- The text of a file. -/
def Inputs.text? (i : Inputs) (path : String) : Option String :=
  (i.file path).bind String.fromUTF8?

/-- The listing of a file's rules.  A file without rules is no failure. -/
def runCheck (i : Inputs) (alerts : String) (format : ListingFormat) : Report :=
  match AlertsFile.load (i.file alerts) with
  | .error e => .failed e.reason
  | .ok file =>
    if file.rules.isEmpty then { stderr := "No alerts configured\n" }
    else { stdout := file.listing format ++ "\n" }

/-- The deliveries of a replay. -/
def runReplay (i : Inputs) (alerts platform : String) (input : Option String) : Report :=
  match i.text? platform, i.text? alerts, input.map i.file with
  | none, _, _ => .failed ReplayError.platform.reason
  | _, none, _ => .failed ConfigError.unreadable.reason
  | _, _, some none => .failed "opening the input"
  | some platform, some alerts, opened =>
    match Replay.ofInput alerts platform ((opened.bind id).getD i.stdin) i.now with
    | .ok r => { stdout := String.join (r.lines.map (· ++ "\n")) }
    | .error e => .failed e.reason

/-- What the program answers to a command. -/
def run (i : Inputs) : Invocation → Report
  | .check alerts format => runCheck i alerts format
  | .replay alerts platform input => runReplay i alerts (platform.getD alerts) input
  | .help topic => { stdout := topic.text }
  | .version => { stdout := versionText }

end Invocation

/-- What the program answers to words. -/
def execute (i : Invocation.Inputs) (words : List String) : Report :=
  match Invocation.parse? words with
  | some c => c.run i
  | none => .misused

end EventAlerts
