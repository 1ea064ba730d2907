/-
  EventAlerts/Proofs/Rule/Loading.lean
  ====================================
  **Loading a file of rules** — the settings decide whether it is loaded, the entries only what
  comes of it.

  What a text says is its settings and its entries (`Decodes`), and only these are looked at.  The
  settings have to be right.  Each entry is a rule or is not, whatever the others are
  (`Loads`), so entries that are none can be put in and taken out anywhere: among the entries
  (`Edited`), and with them the member of the document that they stand in
  (`EditedDocument`), which for a file without any rule need not be there.
-/
import EventAlerts.Program.CommandLine
import EventAlerts.Proofs.Rule.Shapes

namespace EventAlerts

open EventAlerts.AlertRule (IsRule)

/-! ### Values that can be compared -/

namespace Toml

mutual

/-- A proof that two values are the same, if they are and hold no floating point number. -/
def same? : (t u : Toml) → Option (PLift (t = u))
  | .bool a, .bool b => if same : a = b then some ⟨congrArg _ same⟩ else none
  | .int a, .int b => if same : a = b then some ⟨congrArg _ same⟩ else none
  | .string a, .string b => if same : a = b then some ⟨congrArg _ same⟩ else none
  | .time a, .time b => if same : a = b then some ⟨congrArg _ same⟩ else none
  | .array a, .array b => (sameItems? a b).map fun same => ⟨congrArg _ same.down⟩
  | .table a, .table b => (sameMembers? a b).map fun same => ⟨congrArg _ same.down⟩
  | _, _ => none

def sameItems? : (a b : List Toml) → Option (PLift (a = b))
  | [], [] => some ⟨rfl⟩
  | t :: rest, u :: others => do
    let first ← same? t u
    let later ← sameItems? rest others
    return ⟨congr (congrArg _ first.down) later.down⟩
  | _, _ => none

def sameMembers? : (a b : List (String × Toml)) → Option (PLift (a = b))
  | [], [] => some ⟨rfl⟩
  | (key, t) :: rest, (name, u) :: others => do
    let first ← same? t u
    let later ← sameMembers? rest others
    if same : key = name then
      return ⟨congr (congrArg _ (Prod.ext same first.down)) later.down⟩
    else none
  | _, _ => none

end

theorem eq_some_of_same? {read : Option Toml} {t : Toml}
    (same : (read.any fun u => (u.same? t).isSome) = true) : read = some t := by
  cases read with
  | none => cases same
  | some u =>
    obtain ⟨agreed, _⟩ := Option.isSome_iff_exists.mp same
    exact congrArg some agreed.down

end Toml

/-! ### What a text says -/

namespace RawAlertsFile

variable {members before after : List (String × Toml)} {names : List String}

theorem memberOf?_eq_some_iff {value : Option Toml} :
    memberOf? names members = some value ↔ Says members names value := by
  rw [memberOf?, Says]
  cases members.filter fun member => names.contains member.1 with
  | nil => cases value <;> simp
  | cons first others => cases others <;> cases value <;> simp

theorem memberOf?_insert_of_not_mem {name : String} (other : name ∉ names) (t : Toml) :
    memberOf? names (before ++ (name, t) :: after) = memberOf? names (before ++ after) := by
  simp [memberOf?, other]

/-- A member is the one that is looked for only if no other has one of the names. -/
theorem memberOf?_insert_of_mem {name : String} (listed : name ∈ names) (t : Toml) :
    memberOf? names (before ++ (name, t) :: after) =
      match memberOf? names (before ++ after) with
      | some none => some (some t)
      | _ => none := by
  rw [memberOf?, memberOf?, List.filter_append, List.filter_append,
    List.filter_cons_of_pos (by simpa using listed)]
  cases before.filter fun member => names.contains member.1 with
  | nil =>
    cases after.filter fun member => names.contains member.1 with
    | nil => simp
    | cons first others => cases others <;> simp
  | cons first others =>
    cases others with
    | nil => cases after.filter fun member => names.contains member.1 <;> simp
    | cons second others => simp

theorem settings?_eq_some_iff {engine : Option Toml} {settings : EngineSettings} :
    settings? engine = some settings ↔
      OrElse {} (fun t s => EngineSettings.ofJson? (t.toJson Toml.markedTime) = some s) engine
        settings := by
  constructor
  · intro h
    cases engine with
    | none =>
      obtain rfl := Option.some.inj h
      exact .absent
    | some t => exact .said h
  · rintro (_ | shape)
    · rfl
    · exact shape

theorem entries?_eq_some_iff {alerts : Option Toml} {entries : List Toml} :
    entries? alerts = some entries ↔
      OrElse [] (fun t items => t = .array items) alerts entries := by
  constructor
  · intro h
    cases alerts with
    | none =>
      obtain rfl := Option.some.inj h
      exact .absent
    | some t =>
      cases t with
      | array items =>
        obtain rfl := Option.some.inj h
        exact .said rfl
      | _ => cases h
  · rintro (_ | rfl)
    · rfl
    · rfl

/-- Whether a text is a document with these settings and entries. -/
def Decodes (content : String) (settings : EngineSettings) (entries : List Toml) : Prop :=
  ∃ members engine alerts,
    Toml.parse? content = some (.table members) ∧
      Says members ["engine"] engine ∧ Says members ["alerts", "Alerts"] alerts ∧
      OrElse {} (fun t s => EngineSettings.ofJson? (t.toJson Toml.markedTime) = some s) engine
        settings ∧
      OrElse [] (fun t items => t = .array items) alerts entries

theorem ofToml?_table_eq_some_iff {raw : RawAlertsFile} :
    ofToml? (.table members) = some raw ↔
      ∃ engine alerts, Says members ["engine"] engine ∧ Says members ["alerts", "Alerts"] alerts ∧
        OrElse {} (fun t s => EngineSettings.ofJson? (t.toJson Toml.markedTime) = some s) engine
          raw.settings ∧
        OrElse [] (fun t items => t = .array items) alerts raw.entries := by
  constructor
  · intro h
    obtain ⟨engine, saysEngine, h⟩ := Option.bind_eq_some_iff.mp h
    obtain ⟨settings, settingsRead, h⟩ := Option.bind_eq_some_iff.mp h
    obtain ⟨alerts, saysAlerts, h⟩ := Option.bind_eq_some_iff.mp h
    obtain ⟨entries, entriesRead, h⟩ := Option.bind_eq_some_iff.mp h
    obtain rfl := Option.some.inj h
    exact ⟨engine, alerts, memberOf?_eq_some_iff.mp saysEngine,
      memberOf?_eq_some_iff.mp saysAlerts, settings?_eq_some_iff.mp settingsRead,
      entries?_eq_some_iff.mp entriesRead⟩
  · rintro ⟨engine, alerts, saysEngine, saysAlerts, settingsRead, entriesRead⟩
    refine Option.bind_eq_some_iff.mpr ⟨engine, memberOf?_eq_some_iff.mpr saysEngine, ?_⟩
    refine Option.bind_eq_some_iff.mpr ⟨_, settings?_eq_some_iff.mpr settingsRead, ?_⟩
    refine Option.bind_eq_some_iff.mpr ⟨alerts, memberOf?_eq_some_iff.mpr saysAlerts, ?_⟩
    exact Option.bind_eq_some_iff.mpr ⟨_, entries?_eq_some_iff.mpr entriesRead, rfl⟩

theorem decodes_iff {content : String} {raw : RawAlertsFile} :
    (Toml.parse? content).bind ofToml? = some raw ↔ Decodes content raw.settings raw.entries := by
  constructor
  · intro h
    obtain ⟨t, parsed, h⟩ := Option.bind_eq_some_iff.mp h
    cases t with
    | table members =>
      obtain ⟨engine, alerts, said⟩ := ofToml?_table_eq_some_iff.mp h
      exact ⟨members, engine, alerts, parsed, said⟩
    | _ => cases h
  · rintro ⟨members, engine, alerts, parsed, said⟩
    exact Option.bind_eq_some_iff.mpr
      ⟨_, parsed, ofToml?_table_eq_some_iff.mpr ⟨engine, alerts, said⟩⟩

end RawAlertsFile

namespace AlertsFile

open RawAlertsFile (Decodes decodes_iff)

/-! ### What comes of the entries -/

/-- The rules that entries are, in their order. -/
inductive Loads : List Toml → List AlertRule → Prop
  | nil : Loads [] []
  | rule {entry : Toml} {r : AlertRule} {entries : List Toml} {rules : List AlertRule}
      (shape : IsRule (entry.toJson .string) r) (later : Loads entries rules) :
      Loads (entry :: entries) (r :: rules)
  | other {entry : Toml} {entries : List Toml} {rules : List AlertRule}
      (shape : ∀ r, ¬ IsRule (entry.toJson .string) r) (later : Loads entries rules) :
      Loads (entry :: entries) rules

theorem ruleOf?_eq_some_iff {entry : Toml} {r : AlertRule} :
    ruleOf? entry = some r ↔ IsRule (entry.toJson .string) r :=
  AlertRule.ofJson?_eq_some_iff _ _

theorem ruleOf?_eq_none_iff {entry : Toml} :
    ruleOf? entry = none ↔ ∀ r, ¬ IsRule (entry.toJson .string) r := by
  simp only [← ruleOf?_eq_some_iff, Option.eq_none_iff_forall_ne_some, ne_eq]

theorem loads_iff {entries : List Toml} {rules : List AlertRule} :
    Loads entries rules ↔ rules = entries.filterMap ruleOf? := by
  constructor
  · intro loads
    induction loads with
    | nil => rfl
    | rule shape _ ih => rw [List.filterMap_cons_some (ruleOf?_eq_some_iff.mpr shape), ← ih]
    | other shape _ ih => rw [List.filterMap_cons_none (ruleOf?_eq_none_iff.mpr shape), ← ih]
  · rintro rfl
    induction entries with
    | nil => exact .nil
    | cons entry entries ih =>
      cases read : ruleOf? entry with
      | some r =>
        rw [List.filterMap_cons_some read]
        exact .rule (ruleOf?_eq_some_iff.mp read) ih
      | none =>
        rw [List.filterMap_cons_none read]
        exact .other (ruleOf?_eq_none_iff.mp read) ih

/-! ### Three ways to end -/

theorem parse_of_decodes {content : String} {settings : EngineSettings} {entries : List Toml}
    (decodes : Decodes content settings entries) :
    parse content =
      if settings.pollInterval = 0 then
        .error (.invalid "poll_interval" "must be greater than zero")
      else .ok { settings := settings, rules := entries.filterMap ruleOf? } := by
  have raw : (Toml.parse? content).bind RawAlertsFile.ofToml? = some ⟨settings, entries⟩ :=
    decodes_iff.mpr decodes
  simp only [parse, raw, EngineSettings.validate]
  split <;> rfl

theorem parse_of_not_decodes {content : String}
    (other : ¬ ∃ settings entries, Decodes content settings entries) :
    parse content = .error .malformed := by
  have none : (Toml.parse? content).bind RawAlertsFile.ofToml? = none := by
    rw [Option.eq_none_iff_forall_ne_some]
    intro raw read
    exact other ⟨_, _, decodes_iff.mp read⟩
  rw [parse, none]

theorem parse_eq_malformed_iff (content : String) :
    parse content = .error .malformed ↔ ¬ ∃ settings entries, Decodes content settings entries := by
  constructor
  · rintro failed ⟨settings, entries, decodes⟩
    rw [parse_of_decodes decodes] at failed
    split at failed <;> cases failed
  · exact parse_of_not_decodes

theorem parse_eq_invalid_iff (content key reason : String) :
    parse content = .error (.invalid key reason) ↔
      (key = "poll_interval" ∧ reason = "must be greater than zero") ∧
        ∃ settings entries, Decodes content settings entries ∧ settings.pollInterval = 0 := by
  constructor
  · intro failed
    by_cases known : ∃ settings entries, Decodes content settings entries
    · obtain ⟨settings, entries, decodes⟩ := known
      rw [parse_of_decodes decodes] at failed
      split at failed
      · rename_i zero
        cases failed
        exact ⟨⟨rfl, rfl⟩, settings, entries, decodes, zero⟩
      · cases failed
    · rw [parse_of_not_decodes known] at failed
      cases failed
  · rintro ⟨⟨rfl, rfl⟩, settings, entries, decodes, zero⟩
    rw [parse_of_decodes decodes, if_pos zero]

theorem parse_eq_ok_iff (content : String) (file : AlertsFile) :
    parse content = .ok file ↔
      ∃ entries, Decodes content file.settings entries ∧ file.settings.pollInterval ≠ 0 ∧
        Loads entries file.rules := by
  constructor
  · intro loaded
    by_cases known : ∃ settings entries, Decodes content settings entries
    · obtain ⟨settings, entries, decodes⟩ := known
      rw [parse_of_decodes decodes] at loaded
      split at loaded
      · cases loaded
      · rename_i some
        cases loaded
        exact ⟨entries, decodes, some, loads_iff.mpr rfl⟩
    · rw [parse_of_not_decodes known] at loaded
      cases loaded
  · rintro ⟨entries, decodes, some, loads⟩
    rw [parse_of_decodes decodes, if_neg some, ← loads_iff.mp loads]

/-- The triggers of a rule are kept apart when it is read. -/
theorem nodup_triggers {entries : List Toml} {rules : List AlertRule}
    (loads : Loads entries rules) : ∀ r ∈ rules, r.triggers.Nodup := by
  induction loads with
  | nil =>
    intro _ listed
    cases listed
  | rule shape _ ih =>
    refine List.forall_mem_cons.mpr ⟨?_, ih⟩
    obtain ⟨_, -, _, _, _, _, _, _, _, -, -, -, -, -, -, -, -, triggersAre, -⟩ := shape
    rw [triggersAre]
    exact Rule.nodup_distinctBy _
  | other _ _ ih => exact ih

/-! ### Entries that are no rules -/

/-- Entries that differ in those that are no rules. -/
inductive Edited : List Toml → List Toml → Prop
  | nil : Edited [] []
  | kept {entry : Toml} {first second : List Toml} (later : Edited first second) :
      Edited (entry :: first) (entry :: second)
  | inserted {entry : Toml} {first second : List Toml}
      (shape : ∀ r, ¬ IsRule (entry.toJson .string) r) (later : Edited first second) :
      Edited first (entry :: second)
  | deleted {entry : Toml} {first second : List Toml}
      (shape : ∀ r, ¬ IsRule (entry.toJson .string) r) (later : Edited first second) :
      Edited (entry :: first) second

theorem Edited.filterMap_ruleOf? {first second : List Toml} (edited : Edited first second) :
    first.filterMap ruleOf? = second.filterMap ruleOf? := by
  induction edited with
  | nil => rfl
  | kept _ ih => rw [List.filterMap_cons, List.filterMap_cons, ih]
  | inserted shape _ ih => rw [ih, List.filterMap_cons_none (ruleOf?_eq_none_iff.mpr shape)]
  | deleted shape _ ih => rw [← ih, List.filterMap_cons_none (ruleOf?_eq_none_iff.mpr shape)]

theorem Edited.symm {first second : List Toml} (edited : Edited first second) :
    Edited second first := by
  induction edited with
  | nil => exact .nil
  | kept _ ih => exact .kept ih
  | inserted shape _ ih => exact .deleted shape ih
  | deleted shape _ ih => exact .inserted shape ih

/-- Documents that differ in entries that are no rules. -/
inductive EditedDocument : List (String × Toml) → List (String × Toml) → Prop
  | entries {before after : List (String × Toml)} {name : String} {first second : List Toml}
      (named : name = "alerts" ∨ name = "Alerts") (edited : Edited first second) :
      EditedDocument (before ++ (name, .array first) :: after)
        (before ++ (name, .array second) :: after)
  | added {before after : List (String × Toml)} {name : String} {second : List Toml}
      (named : name = "alerts" ∨ name = "Alerts")
      (absent : Says (before ++ after) ["alerts", "Alerts"] none) (edited : Edited [] second) :
      EditedDocument (before ++ after) (before ++ (name, .array second) :: after)
  | removed {before after : List (String × Toml)} {name : String} {first : List Toml}
      (named : name = "alerts" ∨ name = "Alerts")
      (absent : Says (before ++ after) ["alerts", "Alerts"] none) (edited : Edited first []) :
      EditedDocument (before ++ (name, .array first) :: after) (before ++ after)

/-- The settings and rules of a document, before the settings are looked at. -/
def outcome? (members : List (String × Toml)) : Option (EngineSettings × List AlertRule) :=
  (RawAlertsFile.ofToml? (.table members)).map fun raw =>
    (raw.settings, raw.entries.filterMap ruleOf?)

theorem parse_eq_outcome? {content : String} {members : List (String × Toml)}
    (parsed : Toml.parse? content = some (.table members)) :
    parse content =
      match outcome? members with
      | none => .error .malformed
      | some (settings, rules) =>
        settings.validate.map fun settings => { settings := settings, rules := rules } := by
  rw [parse, outcome?, parsed, Option.bind_some]
  cases RawAlertsFile.ofToml? (.table members) with
  | none => rfl
  | some raw =>
    simp only [Option.map_some]
    cases raw.settings.validate <;> rfl

/-- The entries of a document. -/
def entriesOf? (members : List (String × Toml)) : Option (List Toml) :=
  (RawAlertsFile.memberOf? ["alerts", "Alerts"] members).bind RawAlertsFile.entries?

theorem outcome?_congr {members others : List (String × Toml)}
    (engine : RawAlertsFile.memberOf? ["engine"] members =
      RawAlertsFile.memberOf? ["engine"] others)
    (rules : (entriesOf? members).map (List.filterMap ruleOf?) =
      (entriesOf? others).map (List.filterMap ruleOf?)) :
    outcome? members = outcome? others := by
  have parts : ∀ members, outcome? members =
      ((RawAlertsFile.memberOf? ["engine"] members).bind RawAlertsFile.settings?).bind
        fun settings => ((entriesOf? members).map (List.filterMap ruleOf?)).map (settings, ·) := by
    intro members
    simp only [outcome?, RawAlertsFile.ofToml?, entriesOf?]
    cases RawAlertsFile.memberOf? ["engine"] members with
    | none => rfl
    | some engine =>
      cases settings : RawAlertsFile.settings? engine with
      | none => simp [settings]
      | some s =>
        cases RawAlertsFile.memberOf? ["alerts", "Alerts"] members with
        | none => simp [settings]
        | some alerts => cases entries : RawAlertsFile.entries? alerts <;> simp [settings, entries]
  rw [parts, parts, engine, rules]

section Members

variable {before after : List (String × Toml)} {name : String} {first second : List Toml}

theorem engine_insert (named : name = "alerts" ∨ name = "Alerts") (t : Toml) :
    RawAlertsFile.memberOf? ["engine"] (before ++ (name, t) :: after) =
      RawAlertsFile.memberOf? ["engine"] (before ++ after) := by
  refine RawAlertsFile.memberOf?_insert_of_not_mem ?_ t
  rcases named with rfl | rfl
  · decide
  · decide

theorem entriesOf?_insert (named : name = "alerts" ∨ name = "Alerts") :
    entriesOf? (before ++ (name, .array first) :: after) =
      match RawAlertsFile.memberOf? ["alerts", "Alerts"] (before ++ after) with
      | some none => some first
      | _ => none := by
  have listed : name ∈ ["alerts", "Alerts"] := by simpa using named
  rw [entriesOf?, RawAlertsFile.memberOf?_insert_of_mem listed]
  split <;> rfl

theorem entriesOf?_of_absent (absent : Says (before ++ after) ["alerts", "Alerts"] none) :
    entriesOf? (before ++ after) = some [] := by
  rw [entriesOf?, RawAlertsFile.memberOf?_eq_some_iff.mpr absent]
  rfl

theorem outcome?_insert (named : name = "alerts" ∨ name = "Alerts")
    (absent : Says (before ++ after) ["alerts", "Alerts"] none) (edited : Edited [] second) :
    outcome? (before ++ (name, .array second) :: after) = outcome? (before ++ after) := by
  apply outcome?_congr
  · exact engine_insert named _
  · rw [entriesOf?_insert named, RawAlertsFile.memberOf?_eq_some_iff.mpr absent,
      entriesOf?_of_absent absent, Option.map_some, Option.map_some, edited.filterMap_ruleOf?]

end Members

theorem outcome?_of_edited {members others : List (String × Toml)}
    (edited : EditedDocument members others) : outcome? members = outcome? others := by
  cases edited with
  | entries named edited =>
    apply outcome?_congr
    · rw [engine_insert named, engine_insert named]
    · rw [entriesOf?_insert named, entriesOf?_insert named]
      split
      · rw [Option.map_some, Option.map_some, edited.filterMap_ruleOf?]
      · rfl
  | added named absent edited => exact (outcome?_insert named absent edited).symm
  | removed named absent edited => exact outcome?_insert named absent edited.symm

theorem parse_of_edited {content other : String} {members others : List (String × Toml)}
    (parsed : Toml.parse? content = some (.table members))
    (otherParsed : Toml.parse? other = some (.table others))
    (edited : EditedDocument members others) : parse other = parse content := by
  rw [parse_eq_outcome? parsed, parse_eq_outcome? otherParsed, outcome?_of_edited edited]

theorem load_toUTF8 (content : String) : load (some content.toUTF8) = parse content := by
  have text : String.fromUTF8? content.toUTF8 = some content := dif_pos content.isValidUTF8
  rw [load, Option.bind_some, text]

theorem runCheck_congr {content other : String} (same : parse other = parse content)
    (path : String) (format : ListingFormat) :
    Invocation.runCheck { file := fun _ => some other.toUTF8 } path format =
      Invocation.runCheck { file := fun _ => some content.toUTF8 } path format := by
  rw [Invocation.runCheck, Invocation.runCheck, load_toUTF8, load_toUTF8, same]

/-- A file is loaded by what its text says.  It is malformed if it does not say settings and
    entries, and invalid if registries are never polled; otherwise its rules are the entries that
    are rules, in their order, each with different triggers.  Other entries may be put in
    or taken out anywhere: what is loaded and what is listed stay as they are. -/
theorem load_by_entries (content : String) :
    (parse content = .error .malformed ↔
        ¬ ∃ settings entries, Decodes content settings entries) ∧
      (∀ key reason, parse content = .error (.invalid key reason) ↔
        (key = "poll_interval" ∧ reason = "must be greater than zero") ∧
          ∃ settings entries, Decodes content settings entries ∧ settings.pollInterval = 0) ∧
      (∀ file, parse content = .ok file ↔
        ∃ entries, Decodes content file.settings entries ∧ file.settings.pollInterval ≠ 0 ∧
          Loads entries file.rules) ∧
      (∀ file, parse content = .ok file → ∀ r ∈ file.rules, r.triggers.Nodup) ∧
      ∀ other members others, Toml.parse? content = some (.table members) →
        Toml.parse? other = some (.table others) → EditedDocument members others →
          parse other = parse content ∧
            ∀ path format,
              Invocation.runCheck { file := fun _ => some other.toUTF8 } path format =
                Invocation.runCheck { file := fun _ => some content.toUTF8 } path format := by
  refine ⟨parse_eq_malformed_iff content, parse_eq_invalid_iff content, parse_eq_ok_iff content,
    ?distinct, ?edited⟩
  case distinct =>
    intro file loaded
    obtain ⟨_, _, _, loads⟩ := (parse_eq_ok_iff content file).mp loaded
    exact nodup_triggers loads
  case edited =>
    intro other members others parsed otherParsed edited
    have same := parse_of_edited parsed otherParsed edited
    exact ⟨same, runCheck_congr same⟩

/-- A number before a rule and a text behind it are no rules. -/
theorem load_by_entries_of_stray_values :
    let kick : Toml := .table [("trigger", .string "/kick")]
    let content := "alerts = [\x7btrigger = '/kick'\x7d, 'x']"
    let other := "alerts = [7, \x7btrigger = '/kick'\x7d]"
    Toml.parse? content = some (.table [("alerts", .array [kick, .string "x"])]) ∧
      Toml.parse? other = some (.table [("alerts", .array [.int 7, kick])]) ∧
      EditedDocument [("alerts", .array [kick, .string "x"])]
        [("alerts", .array [.int 7, kick])] ∧
      parse other = parse content := by
  intro kick content other
  have parsed : Toml.parse? content = some (.table [("alerts", .array [kick, .string "x"])]) :=
    Toml.eq_some_of_same? (by decide +kernel)
  have otherParsed : Toml.parse? other = some (.table [("alerts", .array [.int 7, kick])]) :=
    Toml.eq_some_of_same? (by decide +kernel)
  have number : ∀ r, ¬ IsRule (Toml.toJson .string (.int 7)) r := ruleOf?_eq_none_iff.mp rfl
  have text : ∀ r, ¬ IsRule (Toml.toJson .string (.string "x")) r := ruleOf?_eq_none_iff.mp rfl
  have edited : EditedDocument ([] ++ ("alerts", .array [kick, .string "x"]) :: [])
      ([] ++ ("alerts", .array [.int 7, kick]) :: []) :=
    .entries (.inl rfl) (.inserted number (.kept (.deleted text .nil)))
  obtain ⟨-, -, -, -, unchanged⟩ := load_by_entries content
  exact ⟨parsed, otherParsed, edited, (unchanged other _ _ parsed otherParsed edited).1⟩

end AlertsFile

end EventAlerts
