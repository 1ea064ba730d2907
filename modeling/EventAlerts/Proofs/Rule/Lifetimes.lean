/-
  EventAlerts/Proofs/Rule/Lifetimes.lean
  ======================================
  **Lifetimes that a file can set** — exactly the spans whose seconds have 64 bits.

  The reader of spans refuses all others.  Each of these stands in a file of two lines
  (`lifetimeFile`), which is read line by line.
-/
import EventAlerts.Proofs.Rule.Loading
import EventAlerts.Proofs.Time.Spans

namespace EventAlerts

open EventAlerts.Time (Span maxWord nanosPerSecond)

/-! ### A file of two lines -/

namespace Toml

variable {c : Char} {s rest : List Char}

/-- Whether a character stands for itself in a text in double quotes. -/
def IsBare (c : Char) : Prop := isPlain c = true ∧ c ≠ '"' ∧ c ≠ '\\'

instance (c : Char) : Decidable (IsBare c) := inferInstanceAs (Decidable (_ ∧ _ ∧ _))

theorem basicBody_append {bound : Nat} (bare : ∀ c ∈ s, IsBare c) (long : s.length < bound) :
    basicBody bound (s ++ '"' :: rest) = some (s, rest) := by
  induction s generalizing bound with
  | nil =>
    cases bound with
    | zero => cases long
    | succ bound => rfl
  | cons c s ih =>
    obtain ⟨⟨plain, quote, backslash⟩, others⟩ := List.forall_mem_cons.mp bare
    cases bound with
    | zero => cases long
    | succ bound =>
      rw [List.cons_append, basicBody, if_neg quote, if_neg backslash, if_pos plain,
        ih others (Nat.lt_of_succ_lt_succ long)]
      rfl

theorem text?_quoted (bare : ∀ d ∈ c :: s, IsBare d) :
    text? ('"' :: (c :: s ++ '"' :: rest)) = some (String.ofList (c :: s), rest) := by
  have body : shortText? ('"' :: (c :: s ++ '"' :: rest)) =
      some (String.ofList (c :: s), rest) := by
    have long : (c :: s).length < (c :: s ++ '"' :: rest).length + 1 := by
      rw [List.length_append]
      omega
    rw [shortText?, basicBody_append bare long]
    rfl
  rw [← body, text?]
  · intro tail same
    exact (bare c List.mem_cons_self).2.1 (List.cons.inj (List.cons.inj same).2).1
  · intro tail same
    cases same

theorem value?_quoted (levels : Nat) (bare : ∀ d ∈ c :: s, IsBare d) :
    value? (levels + 1) ('"' :: (c :: s ++ '"' :: rest)) =
      some (.string (String.ofList (c :: s)), rest) := by
  have scalar : scalar? ('"' :: (c :: s ++ '"' :: rest)) =
      some (.string (String.ofList (c :: s)), rest) := by
    rw [scalar?, if_pos (by decide), text?_quoted bare]
    · rfl
    · intro tail same
      cases same
    · intro tail same
      cases same
  rw [← scalar, value?]
  rfl

def engineHeading : List Char := ['[', 'e', 'n', 'g', 'i', 'n', 'e', ']']

def lifetimeKey : List Char :=
  ['c', 'a', 't', 'e', 'g', 'o', 'r', 'y', '_', 't', 't', 'l', ' ', '=', ' ']

theorem line?_engineHeading (rest : List Char) :
    line? (engineHeading ++ rest) = some (.heading ["engine"], rest) :=
  rfl

theorem line?_lifetimeKey (bare : ∀ d ∈ c :: s, IsBare d) (rest : List Char) :
    line? (lifetimeKey ++ '"' :: (c :: s ++ '"' :: rest)) =
      some (.pair ["category_ttl"] (.string (String.ofList (c :: s))), rest) := by
  have key (s : List Char) : key? (lifetimeKey ++ s) = some (["category_ttl"], '=' :: ' ' :: s) :=
    rfl
  have levels : maxNesting = 79 + 1 := rfl
  have equals (s : List Char) : after? '=' ('=' :: ' ' :: '"' :: s) = some (' ' :: '"' :: s) := rfl
  have blank (s : List Char) : skipBlanks (' ' :: '"' :: s) = '"' :: s := rfl
  rw [line?]
  · simp only [pair?, key, levels, Option.bind_eq_bind, Option.bind_some, equals, blank,
      value?_quoted 79 bare]
    rfl
  · intro tail same
    cases same

theorem skipVoid_cons (bound : Nat) (begins : skipLines (c :: s) = c :: s) (solid : c ≠ '#') :
    skipVoid (bound + 1) (c :: s) = c :: s := by
  rw [skipVoid, begins]
  split
  · rename_i same
    exact absurd (List.cons.inj same).1 solid
  · rfl

theorem lines?_cons {bound : Nat} {next : List Char} {line : Line} {lines : List Line}
    (begins : skipLines (c :: s) = c :: s) (solid : c ≠ '#')
    (read : line? (c :: s) = some (line, rest)) (ends : emptyLine? rest = some next)
    (later : lines? bound next = some lines) :
    lines? (bound + 1) (c :: s) = some (line :: lines) := by
  rw [lines?, skipVoid_cons _ begins solid]
  simp only [read, ends, later, Option.bind_eq_bind, Option.bind_some]
  rfl

def lifetimeLines (text : List Char) : List Char :=
  engineHeading ++ '\n' :: (lifetimeKey ++ '"' :: (text ++ ['"']))

theorem lines?_lifetimeLines (bare : ∀ d ∈ c :: s, IsBare d) (bound : Nat) :
    lines? (bound + 3) (lifetimeLines (c :: s)) =
      some [.heading ["engine"], .pair ["category_ttl"] (.string (String.ofList (c :: s)))] := by
  have ends (s : List Char) : emptyLine? ('\n' :: s) = some s := rfl
  have closed : lines? (bound + 1) [] = some [] := rfl
  have last := lines?_cons rfl (by decide) (line?_lifetimeKey bare []) rfl closed
  exact lines?_cons rfl (by decide) (line?_engineHeading _) (ends _) last

/-- A file that sets the lifetime of category names and nothing else. -/
def lifetimeFile (text : List Char) : String := String.ofList (lifetimeLines text)

theorem parse?_lifetimeFile (bare : ∀ d ∈ c :: s, IsBare d) :
    parse? (lifetimeFile (c :: s)) =
      some (.table [("engine", .table [("category_ttl", .string (String.ofList (c :: s)))])]) := by
  have unmarked : withoutMark (lifetimeLines (c :: s)) = lifetimeLines (c :: s) := rfl
  obtain ⟨bound, long⟩ : ∃ bound, (lifetimeLines (c :: s)).length + 1 = bound + 3 := by
    refine ⟨(lifetimeLines (c :: s)).length - 2, ?_⟩
    have two : 2 ≤ (lifetimeLines (c :: s)).length := by
      rw [lifetimeLines, List.length_append]
      exact Nat.le_add_right_of_le (by decide)
    omega
  rw [parse?, lifetimeFile, String.toList_ofList, unmarked, long, lines?_lifetimeLines bare]
  rfl

end Toml

/-! ### Lifetimes -/

theorem EngineSettings.lifetime_le {j : Json} {settings : EngineSettings}
    (read : ofJson? j = some settings) :
    settings.categoryLifetime / nanosPerSecond ≤ maxWord := by
  obtain ⟨fields, _, read⟩ := Option.bind_eq_some_iff.mp read
  split at read
  · rename_i lifetime _ _
    split at read
    · obtain ⟨t, said, read⟩ := Option.bind_eq_some_iff.mp read
      obtain ⟨_, _, read⟩ := Option.bind_eq_some_iff.mp read
      obtain rfl := Option.some.inj read
      cases lifetime with
      | none =>
        obtain rfl := Option.some.inj said
        change Rule.Resolver.defaultLifetime / nanosPerSecond ≤ maxWord
        decide
      | some j =>
        cases j with
        | string text => exact Time.le_of_spanOfText? said
        | _ => cases said
    · cases read
  · cases read

theorem EngineSettings.ofJson?_lifetime {text : String} {t : Span}
    (read : Time.spanOfText? text = some t) :
    ofJson? (.object [("category_ttl", .string text)]) = some { categoryLifetime := t } := by
  have fields : Json.fields? fieldNames (.object [("category_ttl", .string text)]) =
      some [some (.string text), none] := rfl
  have only : hasOnly fieldNames (.object [("category_ttl", .string text)]) = true := rfl
  simp only [ofJson?, fields, only, Json.defaulting, span?, read, Option.bind_eq_bind,
    Option.bind_some, if_true]
  rfl

namespace AlertsFile

variable {content : String} {file : AlertsFile} {t : Span}

theorem lifetime_le (loaded : parse content = .ok file) :
    file.settings.categoryLifetime / nanosPerSecond ≤ maxWord := by
  obtain ⟨entries, ⟨members, engine, alerts, -, -, -, said, -⟩, -, -⟩ :=
    (parse_eq_ok_iff content file).mp loaded
  generalize file.settings = settings at said
  cases said with
  | absent => decide
  | said read => exact EngineSettings.lifetime_le read

theorem parse_lifetimeFile {c : Char} {s : List Char} (bare : ∀ d ∈ c :: s, Toml.IsBare d)
    (read : Time.spanOfText? (String.ofList (c :: s)) = some t) :
    parse (Toml.lifetimeFile (c :: s)) = .ok { settings := { categoryLifetime := t } } := by
  have engine (v : Toml) : Says [("engine", v)] ["engine"] (some v) := by
    simp [Says]
  have alerts (v : Toml) : Says [("engine", v)] ["alerts", "Alerts"] none := by
    simp [Says]
  have decodes : RawAlertsFile.Decodes (Toml.lifetimeFile (c :: s)) { categoryLifetime := t } [] :=
    ⟨_, _, none, Toml.parse?_lifetimeFile bare, engine _, alerts _,
      .said (EngineSettings.ofJson?_lifetime read), .absent⟩
  have polled : 5 * nanosPerSecond ≠ 0 := by decide
  exact (parse_eq_ok_iff _ _).mpr ⟨[], decodes, polled, .nil⟩

theorem isBare_of_mem_longhand (t : Span) : ∀ c ∈ (Time.longhand t).toList, Toml.IsBare c := by
  have number (n : Nat) : ∀ c ∈ Nat.toDigits 10 n, Toml.IsBare c := by
    intro c listed
    exact Text.forall_digit (by decide) c (Decimal.isDigit_of_mem_toDigits listed)
  have second : Toml.IsBare 's' := by decide
  have blank : Toml.IsBare ' ' := by decide
  have nano : Toml.IsBare 'n' := by decide
  rw [Time.longhand, String.toList_ofList]
  simp only [List.forall_mem_append, List.forall_mem_cons]
  exact ⟨number _, second, blank, number _, nano, second, List.forall_mem_nil _⟩

/-- The lifetimes that a file can set are those whose seconds have 64 bits. -/
theorem exists_lifetime_iff :
    (∃ content file, parse content = .ok file ∧ file.settings.categoryLifetime = t) ↔
      t / nanosPerSecond ≤ maxWord := by
  constructor
  · rintro ⟨content, file, loaded, rfl⟩
    exact lifetime_le loaded
  · intro within
    have read := Time.spanOfText?_longhand within
    have bare := isBare_of_mem_longhand t
    rw [← String.ofList_toList (s := Time.longhand t)] at read
    cases text : (Time.longhand t).toList with
    | nil =>
      rw [text] at read
      cases read
    | cons c s =>
      rw [text] at read bare
      exact ⟨_, _, parse_lifetimeFile bare read, rfl⟩

end AlertsFile

end EventAlerts
