/-
  EventAlerts/Proofs/Rule/Matching.lean
  =====================================
  **Matching, told from the raw texts** — which occurrences a rule accepts whose triggers
  were given as texts.

  Between a text and a match stand the lower case form of the trimmed text, the dropping
  of repeated triggers, the search for a category name with its cache, the dropping of
  texts without one, and the dropping of repetitions again.  `WaitsFor` is what a text
  asks for if none of this is there but the first and the search for a name, and
  `matching_of_raw_texts` says that the rule matches if one of its texts waits for the
  occurrence, unless the cache has no answer for one of them.  What matches is then every
  text's trigger that does, once, in the order in which the texts first ask for it.
-/
import EventAlerts.Proofs.Rule.Naming
import EventAlerts.Rule.Basic

namespace EventAlerts.Rule.Trigger

open EventAlerts.Time (Span latestReading)

/-! ### What a text asks for -/

/-- Whether a raw text waits for an occurrence of this category, with this command: behind
    a slash it names the first word of the command, and otherwise the category. -/
def WaitsFor (category : String) (command : Option String) (raw : String) : Prop :=
  let written := Text.lower (Text.trim raw)
  (∃ name, written = "/" ++ name ∧
    ∃ text word, command = some text ∧ (Text.words text).head? = some word ∧
      Text.lower word = Text.lower name) ∨
  ((¬ ∃ name, written = "/" ++ name) ∧
    ∃ name, categoryName? written = some name ∧ Text.lower name = Text.lower category)

theorem parse_of_slash {raw name : String} (written : Text.lower (Text.trim raw) = "/" ++ name) :
    parse raw = .command name := by
  have letters : (Text.lower (Text.trim raw)).toList = '/' :: name.toList := by
    rw [written, String.toList_append]
    rfl
  simp only [parse, letters, String.ofList_toList]

theorem parse_of_no_slash {raw : String}
    (written : ¬ ∃ name, Text.lower (Text.trim raw) = "/" ++ name) :
    parse raw = .category (Text.lower (Text.trim raw)) := by
  unfold parse
  split
  · rename_i name letters
    refine absurd ⟨String.ofList name, ?_⟩ written
    have behind : (String.ofList name).toList = name := String.toList_ofList
    rw [← String.toList_inj, String.toList_append, letters, behind]
    rfl
  · rw [String.ofList_toList]

theorem accepts_command_iff {category name : String} {given : Option String} :
    (Trigger.command name).accepts category given = true ↔
      ∃ text word, given = some text ∧ (Text.words text).head? = some word ∧
        Text.lower word = Text.lower name := by
  cases given with
  | none => simp [accepts]
  | some text =>
    cases first : (Text.words text).head? with
    | none => simp [accepts, first]
    | some word => simp [accepts, first]

theorem accepts_category_iff {category name : String} {given : Option String} :
    (Trigger.category name).accepts category given = true ↔
      Text.lower name = Text.lower category :=
  decide_eq_true_iff

/-- A text waits for an occurrence if the trigger that is read from it has a name, and
    accepts the occurrence by it. -/
theorem waitsFor_iff {category raw : String} {command : Option String} :
    WaitsFor category command raw ↔
      ∃ t, (parse raw).named? = some t ∧ t.accepts category command = true := by
  simp only [WaitsFor]
  by_cases slash : ∃ name, Text.lower (Text.trim raw) = "/" ++ name
  · obtain ⟨name, written⟩ := slash
    have one : ∀ other, "/" ++ name = "/" ++ other ↔ name = other :=
      fun other => String.append_right_inj "/"
    have there : ∃ other, name = other := ⟨name, rfl⟩
    simp only [parse_of_slash written, written, one, named?, Option.some.injEq, exists_eq_left',
      accepts_command_iff, there, not_true_eq_false, false_and, or_false]
  · rw [parse_of_no_slash slash]
    constructor
    · rintro (⟨name, written, _⟩ | ⟨_, name, found, same⟩)
      · exact absurd ⟨name, written⟩ slash
      · exact ⟨.category name, by rw [named?, found]; rfl, accepts_category_iff.mpr same⟩
    · rintro ⟨t, named, accepted⟩
      rw [named?, Option.map_eq_some_iff] at named
      obtain ⟨name, found, rfl⟩ := named
      have same := accepts_category_iff.mp accepted
      exact Or.inr ⟨slash, name, found, same⟩

/-! ### What matches -/

/-- The triggers of a rule that is built from texts: those of all texts, each once. -/
theorem effective_parseAll (raws : List String) :
    effective (parseAll raws) = distinctBy id ((raws.map parse).filterMap named?) :=
  distinctBy_filterMap named? (raws.map parse)

theorem mem_categories_parseAll {raws : List String} {text : String} :
    text ∈ (parseAll raws).filterMap category? ↔ ∃ raw ∈ raws, parse raw = .category text := by
  have category : ∀ t : Trigger, t.category? = some text ↔ t = .category text := by
    intro t
    cases t <;> simp [category?]
  simp only [List.mem_filterMap, category, exists_eq_right, parseAll, mem_distinctBy, List.mem_map]

/-- What matches an occurrence of the triggers of a rule that is built from texts, with a
    cache of category names after any use.

    The triggers are resolved exactly if there is an answer for every text that names a
    category: its result is served from the cache, or the lifetime of a new one ends within
    the range of the clock.  Then something matches exactly if one of the texts waits for the
    occurrence.  What matches is found among the triggers of all texts, with repetitions and
    without a cache; it is every one of them that accepts the occurrence, once, in the order
    of their first occurrences there. -/
theorem matching_of_raw_texts (lifetime : Span) (events : List ResolverEvent) (now : Span)
    (raws : List String) (category : String) (command : Option String) :
    let resolver := ({ lifetime := lifetime } : Resolver).after events
    let resolved := (resolveAll resolver now (AlertRule.ofTriggers raws).triggers).1
    let each := (raws.map parse).filterMap named?
    ((∃ triggers, resolved = .ok triggers) ↔
      ∀ raw ∈ raws, ∀ text, parse raw = .category text →
        (resolver.live? now text).isSome ∨ now + lifetime ≤ latestReading) ∧
    ∀ triggers, resolved = .ok triggers →
      let matched := matching triggers category command
      (matched ≠ [] ↔ ∃ raw ∈ raws, WaitsFor category command raw) ∧
      matched.Nodup ∧
      (∀ t, t ∈ matched ↔ t ∈ each ∧ t.accepts category command = true) ∧
      matched.Pairwise (fun s t => each.idxOf s < each.idxOf t) := by
  intro resolver resolved each
  have faithful : resolver.Faithful := (Resolver.faithful_nil rfl).after events
  have kept : resolver.lifetime = lifetime := Resolver.lifetime_after _ events
  refine ⟨?answered, ?matched⟩
  case answered =>
    have answers : (∃ triggers, resolved = .ok triggers) ↔
        resolver.AnswersAll now (parseAll raws) := resolveAll_ok_iff
    rw [answers]
    simp only [Resolver.AnswersAll, mem_categories_parseAll, Resolver.Answers, kept]
    constructor
    · intro all raw given text written
      exact all text ⟨raw, given, written⟩
    · rintro all text ⟨raw, given, written⟩
      exact all raw given text written
  case matched =>
    intro triggers answered matched
    have found : matched = (distinctBy id each).filter (accepts category command) := by
      have same : triggers = distinctBy id each :=
        (effective_of_ok faithful answered).trans (effective_parseAll raws)
      rw [← same]
      rfl
    have member : ∀ t, t ∈ matched ↔ t ∈ each ∧ t.accepts category command = true := by
      intro t
      rw [found, List.mem_filter, mem_distinctBy]
    refine ⟨?some, ?once, member, ?order⟩
    case some =>
      have some : matched ≠ [] ↔ ∃ t, t ∈ matched := by
        rw [← List.isEmpty_eq_false_iff, List.isEmpty_eq_false_iff_exists_mem]
      rw [some]
      simp only [member, each, waitsFor_iff, List.mem_filterMap, List.mem_map]
      constructor
      · rintro ⟨t, ⟨_, ⟨raw, given, rfl⟩, named⟩, accepted⟩
        exact ⟨raw, given, t, named, accepted⟩
      · rintro ⟨raw, given, t, named, accepted⟩
        exact ⟨t, ⟨_, ⟨raw, given, rfl⟩, named⟩, accepted⟩
    case once =>
      rw [found]
      exact (nodup_distinctBy each).filter _
    case order =>
      rw [found]
      exact (pairwise_idxOf_distinctBy each).filter _

/-- With the longest lifetime the triggers of a text that waits for an occurrence are not
    resolved. -/
theorem unresolved_by_lifetime :
    (resolveAll { lifetime := 18446744073709551615 * Time.nanosPerSecond } 0
      (AlertRule.ofTriggers ["JoinEvent"]).triggers).1 = .error {} ∧
    WaitsFor "JoinEvent" none "JoinEvent" :=
  ⟨by decide +kernel,
    waitsFor_iff.mpr ⟨.category "joinevent", by decide +kernel, by decide +kernel⟩⟩

/-- A text with blanks and capitals, one without a name, and one that is given twice. -/
example :
    ((resolveAll { lifetime := 0 } 0
        (AlertRule.ofTriggers [" /Kick", "!!", "joinevent", "#JoinEvent"]).triggers).1.map
      fun triggers => matching triggers "JoinEvent" (some "KICK Steve")) =
      .ok [.command "kick", .category "joinevent"] := by
  decide +kernel

end EventAlerts.Rule.Trigger
