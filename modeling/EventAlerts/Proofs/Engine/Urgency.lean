/-
  EventAlerts/Proofs/Engine/Urgency.lean
  ======================================
  **Urgent categories and what matches them** — a rule that is built from texts and matches
  an urgent occurrence is run at once, whatever else it says.

  Two comparisons have to agree for this.  A trigger matches a category if their lower case
  forms are the same, while urgent categories are told by the case of the letters from `a`
  to `z` alone.  They do not agree on every text, for the Kelvin sign has the lower case
  form `k`.  An occurrence may have it in the name of its category, and is not told to be
  urgent then.  But the rule is, by its trigger: it was made lower case when it was read,
  and no Kelvin sign is left in it.
-/
import EventAlerts.Occurrence.Record
import EventAlerts.Proofs.Engine.Answering
import EventAlerts.Proofs.Rule.Grammar
import EventAlerts.Proofs.Rule.Matching
import EventAlerts.Proofs.Unicode.Lowering

namespace EventAlerts

open EventAlerts.Rule (Trigger)
open EventAlerts.Unicode (kelvinSign isAscii)

/-! ### The two comparisons -/

theorem plain_of_mem_urgentCategories : ∀ urgent ∈ urgentCategories,
    kelvinSign ∉ urgent.toList ∧ (Unicode.lower urgent.toList).all isAscii = true := by
  decide +kernel

/-- Without Kelvin signs, the lower case form tells urgent categories. -/
theorem isUrgent_of_lower {category urgent : String} (listed : urgent ∈ urgentCategories)
    (plain : kelvinSign ∉ category.toList) (same : Text.lower category = Text.lower urgent) :
    isUrgent category = true := by
  have forms : Unicode.lower category.toList = Unicode.lower urgent.toList :=
    String.ofList_injective same
  obtain ⟨plain', letters⟩ := plain_of_mem_urgentCategories urgent listed
  have ascii := List.all_eq_true.mp letters
  refine List.any_eq_true.mpr ⟨urgent, listed, decide_eq_true ?_⟩
  calc category.toList.map Char.toLower
      = Unicode.lower category.toList := Unicode.map_toLower_of_lower plain (forms ▸ ascii)
    _ = Unicode.lower urgent.toList := forms
    _ = urgent.toList.map Char.toLower := (Unicode.map_toLower_of_lower plain' ascii).symm

namespace Rule

theorem isInfix_of_findName {s name : List Char} (found : findName s = some name) : name <:+: s := by
  unfold findName at found
  split at found
  · cases found
  · obtain rfl := Option.some.inj found
    exact (takeName_isPrefix _).isInfix.trans (List.dropWhile_suffix _).isInfix

/-- The category names that texts are resolved to are written without Kelvin signs. -/
theorem kelvinSign_not_mem_of_effective {raws : List String} {name : String}
    (listed : Trigger.category name ∈ Trigger.effective (Trigger.parseAll raws)) :
    kelvinSign ∉ name.toList := by
  rw [Trigger.effective_parseAll, mem_distinctBy, List.mem_filterMap] at listed
  obtain ⟨t, member, named⟩ := listed
  obtain ⟨raw, _, rfl⟩ := List.mem_map.mp member
  by_cases slash : ∃ command, Text.lower (Text.trim raw) = "/" ++ command
  · obtain ⟨command, written⟩ := slash
    rw [Trigger.parse_of_slash written] at named
    cases named
  · rw [Trigger.parse_of_no_slash slash, Trigger.named?, Option.map_eq_some_iff] at named
    obtain ⟨_, found, same⟩ := named
    obtain ⟨letters, found, written⟩ := Option.map_eq_some_iff.mp found
    rw [← Trigger.category.inj same, ← written]
    rw [String.toList_ofList]
    intro member
    have lowered := (isInfix_of_findName found).subset member
    rw [Text.lower, String.toList_ofList] at lowered
    exact Unicode.kelvinSign_not_mem_lower _ lowered

end Rule

/-! ### What makes a rule synchronous -/

variable {raws : List String} {urgent : String}

/-- A rule that names an urgent category is synchronous for every occurrence. -/
theorem forcesSync_of_named {triggers : List Trigger} {name : String}
    (named : Trigger.category name ∈ triggers) (told : isUrgent name = true) (category : String) :
    forcesSync category triggers = true := by
  have resolved : name ∈ triggers.filterMap Trigger.category? :=
    List.mem_filterMap.mpr ⟨_, named, rfl⟩
  rw [forcesSync, Bool.or_eq_true]
  exact Or.inr (List.any_eq_true.mpr ⟨name, resolved, told⟩)

theorem forcesSync_of_trigger (listed : urgent ∈ urgentCategories) {name : String}
    (named : Trigger.category name ∈ Trigger.effective (Trigger.parseAll raws))
    (same : Text.lower name = Text.lower urgent) (category : String) :
    forcesSync category (Trigger.effective (Trigger.parseAll raws)) = true := by
  refine forcesSync_of_named named ?_ category
  exact isUrgent_of_lower listed (Rule.kelvinSign_not_mem_of_effective named) same

theorem carriesNoCommand_of_mem_urgentCategories : ∀ urgent ∈ urgentCategories,
    Text.lower Record.playerCommandCategory ≠ Text.lower urgent ∧
      Text.lower Record.serverCommandCategory ≠ Text.lower urgent := by
  decide +kernel

/-- What the rules read of an urgent occurrence: it carries no command. -/
theorem context_of_urgent (listed : urgent ∈ urgentCategories) {record : Record}
    (same : Text.lower record.simpleName = Text.lower urgent) :
    (OccurrenceContext.ofOccurrence record.toOccurrence).category = record.simpleName ∧
      (OccurrenceContext.ofOccurrence record.toOccurrence).command = none := by
  obtain ⟨player, server⟩ := carriesNoCommand_of_mem_urgentCategories urgent listed
  have notPlayer : record.simpleName ≠ Record.playerCommandCategory := by
    intro named
    rw [named] at same
    exact player same
  have notServer : record.simpleName ≠ Record.serverCommandCategory := by
    intro named
    rw [named] at same
    exact server same
  have silent : record.toOccurrence.command = none := by
    rw [Record.toOccurrence, Record.commandSource, if_neg notPlayer, if_neg notServer]
  simp only [OccurrenceContext.ofOccurrence, silent]
  exact ⟨rfl, trivial⟩

/-- A rule that matches an urgent occurrence is synchronous for it. -/
theorem forcesSync_of_record (listed : urgent ∈ urgentCategories) {record : Record}
    (same : Text.lower record.simpleName = Text.lower urgent)
    (matched : (Trigger.matching (Trigger.effective (Trigger.parseAll raws))
      (OccurrenceContext.ofOccurrence record.toOccurrence).category
      (OccurrenceContext.ofOccurrence record.toOccurrence).command) ≠ []) :
    forcesSync (OccurrenceContext.ofOccurrence record.toOccurrence).category
      (Trigger.effective (Trigger.parseAll raws)) = true := by
  obtain ⟨category, command⟩ := context_of_urgent listed same
  rw [category, command] at matched
  rw [category]
  obtain ⟨t, member⟩ := List.exists_mem_of_ne_nil _ matched
  obtain ⟨named, accepted⟩ := List.mem_filter.mp member
  cases t with
  | command name => cases accepted
  | category name =>
    have alike := Trigger.accepts_category_iff.mp accepted
    exact forcesSync_of_trigger listed named (alike.trans same) _

/-! ### What a synchronous rule does at once -/

/-- What becomes of a rule that is synchronous. -/
def Prepared.disposition : Prepared → Disposition
  | .skip outcome => .settled outcome
  | .deliver sendings => .left (.messages sendings)

theorem AlertRule.dispatch_of_forced {r : AlertRule} {s : Surroundings} {o : Occurrence}
    {base : OccurrenceContext} {effective : List Trigger}
    (forced : forcesSync base.category effective = true) :
    (r.dispatch s o base effective).1 =
      (r.prepare s (Trigger.matching effective base.category base.command) o
        base).result.disposition := by
  have synchronous : (r.runAsync && !forcesSync base.category effective) = false := by
    rw [forced, Bool.not_true, Bool.and_false]
  simp only [AlertRule.dispatch, synchronous, Bool.false_eq_true, if_false]
  split
  · rename_i unmatched
    rw [AlertRule.prepare, if_pos unmatched]
    rfl
  split
  · rename_i outcome result
    rw [result]
    rfl
  · rename_i sendings result
    rw [result]
    rfl

end EventAlerts
