/-
  EventAlerts/Proofs/Messaging/Resolution.lean
  ============================================
  **The destinations that names stand for** — which strategy finds them, what it finds, and
  which lookups are made on the way.

  Precedence is between strategies and not between the ways to read one name: a strategy
  that finds something for any of the names decides alone, and names it does not know are
  dropped.  `Finds` tells what a strategy finds for a name in terms of the channels, and
  `resolve_by_precedence` tells the whole result from it.  Each destination is found once,
  whatever the directory holds and however often and under however many names it is asked
  for.
-/
import EventAlerts.Messaging.Directory
import EventAlerts.Proofs.Rule.Distinct

namespace EventAlerts

open EventAlerts.Rule (FirstsBy firstsBy_iff)

/-! ### One strategy -/

/-- The first of the channels with a property. -/
def Directory.FirstWith (d : Directory) (p : Destination → Prop) (c : Destination) : Prop :=
  ∃ before after, d.channels = before ++ c :: after ∧ p c ∧ ∀ b ∈ before, ¬ p b

theorem Directory.find?_channels_iff {d : Directory} {p : Destination → Prop} [DecidablePred p]
    {c : Destination} : d.channels.find? (fun c => p c) = some c ↔ d.FirstWith p c := by
  rw [List.find?_eq_some_iff_append]
  constructor
  · rintro ⟨holds, before, after, split, others⟩
    refine ⟨before, after, split, of_decide_eq_true holds, ?_⟩
    intro b member
    simpa using others b member
  · rintro ⟨before, after, split, holds, others⟩
    refine ⟨decide_eq_true holds, before, after, split, ?_⟩
    intro b member
    simpa using others b member

namespace Strategy

variable {d : Directory} {s : Strategy} {names : List String}

/-- Whether a text is made of one or more digits. -/
def IsNumeral (text : String) : Prop := text ≠ "" ∧ ∀ c ∈ text.toList, '0' ≤ c ∧ c ≤ '9'

instance (text : String) : Decidable (IsNumeral text) :=
  inferInstanceAs (Decidable (text ≠ "" ∧ ∀ c ∈ text.toList, '0' ≤ c ∧ c ≤ '9'))

theorem isDigits_iff {text : String} : isDigits text = true ↔ IsNumeral text := by
  simp [isDigits, IsNumeral, Char.isDigit, Char.le_def]

/-- What a name stands for by each of the strategies. -/
def Finds (d : Directory) : Strategy → String → Destination → Prop
  | .mapped, text, c => ∃ id, d.mapped.lookup text = some id ∧ d.FirstWith (·.id = id) c
  | .name, text, c => d.FirstWith (·.name = text) c
  | .id, text, c => IsNumeral text ∧ d.FirstWith (·.id = text) c

/-- What a name stands for by a strategy. -/
def find? (d : Directory) (s : Strategy) (text : String) : Option Destination := (s.look d text).1

theorem find?_eq_some_iff {text : String} {c : Destination} :
    s.find? d text = some c ↔ s.Finds d text c := by
  cases s with
  | mapped =>
    simp only [find?, look, Finds, Directory.mappedChannel?, Option.bind_eq_some_iff,
      Directory.channelById?, Directory.find?_channels_iff]
  | name =>
    simp only [find?, look, Finds, Directory.channelsNamed, List.head?_filter,
      Directory.find?_channels_iff]
  | id =>
    simp only [find?, look, Finds, ← isDigits_iff]
    split <;> rename_i digits
    · rw [and_iff_right digits, Directory.channelById?, Directory.find?_channels_iff]
    · exact iff_of_false nofun fun found => digits found.1

/-- A name is looked up once, but by id only if it is a numeral. -/
theorem look_snd (text : String) :
    (s.look d text).2 = if s = .id → IsNumeral text then [⟨s, text⟩] else [] := by
  cases s with
  | mapped => simp [look]
  | name => simp [look]
  | id =>
    simp only [look, ← isDigits_iff, forall_const]
    split <;> rfl

/-- What names stand for, name by name, and the lookups that are made for it: each name in
    turn, but by id the numerals only. -/
theorem search_eq (d : Directory) (s : Strategy) (names : List String) :
    s.search d names =
      (names.filterMap (s.find? d),
        (names.filter fun text => s = .id → IsNumeral text).map fun text => ⟨s, text⟩) := by
  induction names with
  | nil => rfl
  | cons text rest ih =>
    have found : (s.look d text).1 = s.find? d text := rfl
    simp only [search, ih, found, look_snd, List.filterMap_cons, List.filter_cons,
      decide_eq_true_eq]
    congr 1
    · cases s.find? d text <;> rfl
    · split <;> rfl

theorem search_snd (d : Directory) (s : Strategy) (names : List String) :
    (s.search d names).2 =
      (names.filter fun text => s = .id → IsNumeral text).map fun text => ⟨s, text⟩ := by
  rw [search_eq]

/-- Everything that names stand for, each id once. -/
def findAll (d : Directory) (s : Strategy) (names : List String) : List Destination :=
  Rule.distinctBy Destination.id (s.search d names).1

theorem findAll_eq (d : Directory) (s : Strategy) (names : List String) :
    s.findAll d names = Rule.distinctBy Destination.id (names.filterMap (s.find? d)) := by
  rw [findAll, search_eq]

/-- Whether a strategy finds something for one of the names. -/
def FindsAny (d : Directory) (names : List String) (s : Strategy) : Prop :=
  ∃ text ∈ names, ∃ c, s.Finds d text c

theorem findAll_eq_nil_iff : s.findAll d names = [] ↔ ¬ s.FindsAny d names := by
  have unfound : names.filterMap (s.find? d) = [] ↔ ¬ s.FindsAny d names := by
    simp only [List.filterMap_eq_nil_iff, Option.eq_none_iff_forall_ne_some, FindsAny,
      ← find?_eq_some_iff, not_exists, not_and, ne_eq]
  rw [← unfound, findAll_eq]
  cases names.filterMap (s.find? d) with
  | nil => exact Iff.rfl
  | cons first others => simp [Rule.distinctBy]

/-! ### All strategies -/

/-- The strategies that go before another. -/
def earlier : Strategy → List Strategy
  | .mapped => []
  | .name => [.mapped]
  | .id => [.mapped, .name]

/-- The strategies that are tried until one of them finds something. -/
def tried : Option Strategy → List Strategy
  | some s => s.earlier ++ [s]
  | none => [.mapped, .name, .id]

theorem eq_or_mem_earlier (s t : Strategy) : s = t ∨ s ∈ t.earlier ∨ t ∈ s.earlier := by
  cases s <;> cases t <;> decide

end Strategy

namespace Directory

open Strategy (FindsAny IsNumeral earlier tried)

variable {d : Directory} {names : List String}

theorem resolveWith_append {before : List Strategy}
    (unfound : ∀ s ∈ before, ¬ s.FindsAny d names) (rest : List Strategy) :
    d.resolveWith names (before ++ rest) =
      { d.resolveWith names rest with
        lookups := (before.flatMap fun s => (s.search d names).2) ++
          (d.resolveWith names rest).lookups } := by
  induction before with
  | nil => rfl
  | cons s before ih =>
    obtain ⟨here, others⟩ := List.forall_mem_cons.mp unfound
    have nothing : Rule.distinctBy Destination.id (s.search d names).1 = [] :=
      Strategy.findAll_eq_nil_iff.mpr here
    simp only [List.cons_append, resolveWith, nothing, ih others, List.isEmpty_nil, if_true,
      List.flatMap_cons, List.append_assoc]

theorem resolve_of_first {s : Strategy} (found : s.FindsAny d names)
    (unfound : ∀ t ∈ s.earlier, ¬ t.FindsAny d names) :
    d.resolve names =
      { strategy := some s, found := s.findAll d names
        lookups := (tried (some s)).flatMap fun s => (s.search d names).2 } := by
  obtain ⟨later, order⟩ : ∃ later, Strategy.all = s.earlier ++ s :: later := by
    cases s with
    | mapped => exact ⟨_, rfl⟩
    | name => exact ⟨_, rfl⟩
    | id => exact ⟨_, rfl⟩
  have some : (Rule.distinctBy Destination.id (s.search d names).1).isEmpty = false := by
    rw [List.isEmpty_eq_false_iff, ne_eq]
    exact fun empty => absurd found (Strategy.findAll_eq_nil_iff.mp empty)
  rw [resolve, order, resolveWith_append unfound]
  simp [resolveWith, some, tried, Strategy.findAll]

theorem resolve_of_unfound (unfound : ∀ s : Strategy, ¬ s.FindsAny d names) :
    d.resolve names = { lookups := (tried none).flatMap fun s => (s.search d names).2 } := by
  have all : d.resolveWith names (Strategy.all ++ []) = _ :=
    resolveWith_append (fun s _ => unfound s) []
  simpa [resolve, resolveWith, tried, Strategy.all] using all

/-- Either no strategy finds anything, or there is a first that does. -/
theorem unfound_or_first (d : Directory) (names : List String) :
    (∀ s : Strategy, ¬ s.FindsAny d names) ∨
      ∃ s : Strategy, s.FindsAny d names ∧ ∀ t ∈ s.earlier, ¬ t.FindsAny d names := by
  by_cases mapped : Strategy.FindsAny d names .mapped
  · exact Or.inr ⟨.mapped, mapped, by simp [earlier]⟩
  by_cases name : Strategy.FindsAny d names .name
  · exact Or.inr ⟨.name, name, by simpa [earlier] using mapped⟩
  by_cases id : Strategy.FindsAny d names .id
  · exact Or.inr ⟨.id, id, by simpa [earlier] using ⟨mapped, name⟩⟩
  refine Or.inl ?_
  rintro (_ | _ | _)
  · exact mapped
  · exact name
  · exact id

theorem nodup_found_resolveWith (d : Directory) (names : List String)
    (strategies : List Strategy) :
    ((d.resolveWith names strategies).found.map Destination.id).Nodup := by
  induction strategies with
  | nil => exact List.nodup_nil
  | cons s rest ih =>
    simp only [resolveWith]
    split
    · exact ih
    · exact Rule.nodup_map_distinctBy Destination.id _

/-- No two destinations of a rule have one id. -/
theorem nodup_found_resolve (d : Directory) (names : List String) :
    ((d.resolve names).found.map Destination.id).Nodup :=
  d.nodup_found_resolveWith names Strategy.all

/-- What names stand for, all of them together.

    The strategy that decides is the first in the order of application names, channel names
    and ids that finds a channel for at least one of the names; there is none, and nothing is
    found, exactly if no strategy finds a channel for any name.  What is found are the
    channels that this strategy finds for the names, in the order of the names, and of those
    with one id the first.  Every strategy up to it looks up all names in order, except that
    only numerals are looked up as ids, and no later strategy looks up anything. -/
theorem resolve_by_precedence (d : Directory) (names : List String) :
    let r := d.resolve names
    (∀ (s : Strategy) text c, s.find? d text = some c ↔ s.Finds d text c) ∧
    (∀ s, r.strategy = some s ↔
      s.FindsAny d names ∧ ∀ t ∈ s.earlier, ¬ t.FindsAny d names) ∧
    (r.strategy = none ↔ ∀ s : Strategy, ¬ s.FindsAny d names) ∧
    (r.found = [] ↔ ∀ s : Strategy, ¬ s.FindsAny d names) ∧
    (∀ s, r.strategy = some s → ∀ found,
      FirstsBy Destination.id (names.filterMap (s.find? d)) found ↔ found = r.found) ∧
    (r.found.map Destination.id).Nodup ∧
    r.lookups = (tried r.strategy).flatMap fun s =>
      (names.filter fun text => s = .id → IsNumeral text).map fun text => ⟨s, text⟩ := by
  intro r
  refine ⟨fun _ _ _ => Strategy.find?_eq_some_iff, ?_⟩
  have once : (r.found.map Destination.id).Nodup := d.nodup_found_resolve names
  simp only [← Strategy.search_snd d]
  rcases d.unfound_or_first names with unfound | ⟨first, found, unfound⟩
  · have nothing : r = _ := resolve_of_unfound unfound
    rw [nothing] at once ⊢
    refine ⟨?_, ?_, ?_, ?_, once, rfl⟩
    · intro s
      constructor
      · rintro ⟨⟩
      · rintro ⟨found, _⟩
        exact absurd found (unfound s)
    · exact ⟨fun _ => unfound, fun _ => rfl⟩
    · exact ⟨fun _ => unfound, fun _ => rfl⟩
    · rintro s ⟨⟩
  · have result : r = _ := resolve_of_first found unfound
    rw [result] at once ⊢
    refine ⟨?_, ?_, ?_, ?_, once, rfl⟩
    · intro s
      constructor
      · rintro ⟨⟩
        exact ⟨found, unfound⟩
      · rintro ⟨other, none⟩
        rcases first.eq_or_mem_earlier s with rfl | before | behind
        · rfl
        · exact absurd found (none first before)
        · exact absurd other (unfound s behind)
    · refine ⟨?_, fun none => absurd found (none first)⟩
      rintro ⟨⟩
    · refine ⟨?_, fun none => absurd found (none first)⟩
      intro empty
      exact absurd found (Strategy.findAll_eq_nil_iff.mp empty)
    · rintro s ⟨⟩ kept
      rw [Strategy.findAll_eq]
      exact firstsBy_iff

/-- A mapped name decides for the whole list, and the numeral behind it is not looked up. -/
example :
    ({ channels := [⟨"10", "general", none⟩, ⟨"42", "staff", none⟩]
       mapped := [("general", "10")] } : Directory).resolve ["general", "42"] =
      { strategy := some .mapped, found := [⟨"10", "general", none⟩]
        lookups := [⟨.mapped, "general"⟩, ⟨.mapped, "42"⟩] } := by
  decide +kernel

end Directory

end EventAlerts
