/-
  EventAlerts/Proofs/Rule/Printing.lean
  =====================================
  **Triggers written out and read again** — a trigger's text is its canonical form.

  A trigger is written as the text it was read from, trimmed and in lower case
  (`text_parse`): the slash that reading takes away from a command comes back.  Such a text
  is trimmed and in lower case already, so it reads as the same trigger; and since the text
  decides what is read, triggers with the same text are equal.  The rest is about the list:
  its triggers are distinct, so dropping repetitions among what is read again drops nothing.
-/
import EventAlerts.Proofs.Rule.Distinct
import EventAlerts.Proofs.Unicode.Settled
import EventAlerts.Rule.Listing

namespace EventAlerts.Rule

theorem distinctBy_eq_self [DecidableEq α] {l : List α} (distinct : l.Nodup) :
    distinctBy id l = l := by
  induction l with
  | nil => rfl
  | cons a rest ih =>
    obtain ⟨apart, others⟩ := List.nodup_cons.mp distinct
    rw [distinctBy, ih others, List.filter_eq_self.mpr]
    intro b listed
    exact decide_eq_true (ne_of_mem_of_not_mem listed apart)

namespace Trigger

/-- The text that a raw text is read by, and that its trigger is written as. -/
def canonicalText (raw : String) : String := Text.lower (Text.trim raw)

theorem text_parse (raw : String) : (parse raw).text = canonicalText raw := by
  rw [← String.toList_inj]
  unfold parse canonicalText
  split
  · rename_i name letters
    have behind : (String.ofList name).toList = name := String.toList_ofList
    rw [letters, text, String.toList_append, behind]
    rfl
  · rw [text, String.toList_ofList]

theorem parse_canonicalText (raw : String) : parse (canonicalText raw) = parse raw := by
  simp only [parse, canonicalText, Unicode.lower_trim_lower_trim]

variable {raws : List String} {s t : Trigger}

theorem exists_parse_of_mem (listed : t ∈ parseAll raws) : ∃ raw ∈ raws, parse raw = t :=
  List.mem_map.mp (mem_distinctBy.mp listed)

theorem parse_text_of_mem (listed : t ∈ parseAll raws) : parse t.text = t := by
  obtain ⟨raw, _, rfl⟩ := exists_parse_of_mem listed
  rw [text_parse, parse_canonicalText]

theorem eq_of_text_eq (first : s ∈ parseAll raws) (second : t ∈ parseAll raws)
    (same : s.text = t.text) : s = t := by
  rw [← parse_text_of_mem first, same, parse_text_of_mem second]

theorem nodup_map_text (raws : List String) : ((parseAll raws).map text).Nodup :=
  (nodup_distinctBy _).map_on fun _ first _ second => eq_of_text_eq first second

theorem parseAll_map_text (raws : List String) :
    parseAll ((parseAll raws).map text) = parseAll raws := by
  have again : ((parseAll raws).map text).map parse = parseAll raws := by
    rw [List.map_map]
    refine (List.map_congr_left fun t listed => ?_).trans (List.map_id _)
    rw [Function.comp_apply, id_eq, parse_text_of_mem listed]
  rw [parseAll, again]
  exact distinctBy_eq_self (nodup_distinctBy _)

theorem map_text_parseAll (raws : List String) :
    (parseAll raws).map text = distinctBy id (raws.map canonicalText) := by
  have texts : (raws.map parse).map text = raws.map canonicalText := by
    simp only [List.map_map, Function.comp_def, text_parse]
  have late := distinctBy_filterMap (some ∘ text) (raws.map parse)
  rw [List.filterMap_eq_map, texts] at late
  rw [← late]
  exact (distinctBy_eq_self (nodup_map_text raws)).symm

/-- What a listing shows of the triggers of a rule that is built from raw texts. -/
def shown (raws : List String) (index : Nat) : List String :=
  (RuleSummary.ofRule index (AlertRule.ofTriggers raws)).triggers

/-- The triggers of a rule have a canonical text form, and it is what a listing shows.

    Shown are the trimmed lower case forms of the texts that the rule was built from, the first
    of equal ones.  A rule that is built from what is shown has the same triggers in the same
    order.  Any trigger that is read from a text is read again from its own text, and no two
    triggers of a rule have the same text. -/
theorem triggers_read_back (raws : List String) (index : Nat) :
    shown raws index = distinctBy id (raws.map canonicalText) ∧
      (AlertRule.ofTriggers (shown raws index)).triggers = (AlertRule.ofTriggers raws).triggers ∧
      (∀ raw, parse (parse raw).text = parse raw) ∧
      (shown raws index).Nodup := by
  refine ⟨map_text_parseAll raws, parseAll_map_text raws, ?_, nodup_map_text raws⟩
  intro raw
  rw [text_parse, parse_canonicalText]

/-- A slash of its own, a final sigma, and a text that is another one in capitals. -/
example :
    (parseAll ["/ /KICK", "ΟΔΟΣ ", "İ", "// Kick", "οδος"]).map text =
      ["/ /kick", "οδος", "i̇", "// kick"] := by
  decide +kernel

end Trigger

end EventAlerts.Rule
