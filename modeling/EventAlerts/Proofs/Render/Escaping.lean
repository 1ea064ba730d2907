/-
  EventAlerts/Proofs/Render/Escaping.lean
  =======================================
  **Escaped marks** — nothing is lost by escaping, and color codes can be dropped before or
  after it.

  A backslash is a mark itself, so a run of backslashes can be read in one way only if it is read
  from the left.  `Escapes` is this reading: a mark with a backslash in front of it, or a
  character that is no mark.  Every text has exactly one escaped form, and from it the text comes
  back (`unescapeMarks_escapeMarks`).

  No character of a color code is a mark.  So escaping neither parts the two characters of a code
  nor brings two characters together, and the same codes are dropped from a text as from its
  escaped form (`dropCodes_escapeMarks`).
-/
import EventAlerts.Proofs.Render.Codes

namespace EventAlerts.Render

/-! ### Escaped forms -/

/-- A text with its escaped form, read from the left. -/
inductive Escapes : List Char → List Char → Prop
  | nil : Escapes [] []
  | mark {c : Char} {s out : List Char} (mark : c ∈ marks) (rest : Escapes s out) :
    Escapes (c :: s) ('\\' :: c :: out)
  | plain {c : Char} {s out : List Char} (plain : c ∉ marks) (rest : Escapes s out) :
    Escapes (c :: s) (c :: out)

/-- The text without the backslashes that escape a mark, read from the left. -/
def unescapeMarks : List Char → List Char
  | [] => []
  | [c] => [c]
  | c :: d :: rest =>
    if c = '\\' ∧ d ∈ marks then d :: unescapeMarks rest else c :: unescapeMarks (d :: rest)

variable {c d : Char} {s out : List Char}

theorem escapeMarks_of_mark (mark : c ∈ marks) (s : List Char) :
    escapeMarks (c :: s) = '\\' :: c :: escapeMarks s := by
  simp [escapeMarks, escapeMark, mark]

theorem escapeMarks_of_plain (plain : c ∉ marks) (s : List Char) :
    escapeMarks (c :: s) = c :: escapeMarks s := by
  simp [escapeMarks, escapeMark, plain]

theorem escapeMarks_append (s t : List Char) :
    escapeMarks (s ++ t) = escapeMarks s ++ escapeMarks t :=
  List.flatMap_append

theorem unescapeMarks_of_mark (mark : c ∈ marks) (s : List Char) :
    unescapeMarks ('\\' :: c :: s) = c :: unescapeMarks s := by
  rw [unescapeMarks, if_pos ⟨rfl, mark⟩]

theorem unescapeMarks_of_plain (plain : c ∉ marks) (s : List Char) :
    unescapeMarks (c :: s) = c :: unescapeMarks s := by
  have solid : c ≠ '\\' := by
    rintro rfl
    exact plain (by decide)
  cases s with
  | nil => rfl
  | cons d rest =>
    rw [unescapeMarks, if_neg]
    rintro ⟨backslash, _⟩
    exact solid backslash

theorem escapes_escapeMarks (s : List Char) : Escapes s (escapeMarks s) := by
  induction s with
  | nil => exact .nil
  | cons c s ih =>
    by_cases mark : c ∈ marks
    · rw [escapeMarks_of_mark mark]
      exact .mark mark ih
    · rw [escapeMarks_of_plain mark]
      exact .plain mark ih

theorem escapes_iff : Escapes s out ↔ out = escapeMarks s := by
  constructor
  · intro escapes
    induction escapes with
    | nil => rfl
    | mark mark _ ih => rw [escapeMarks_of_mark mark, ih]
    | plain plain _ ih => rw [escapeMarks_of_plain plain, ih]
  · rintro rfl
    exact escapes_escapeMarks s

theorem unescapeMarks_escapeMarks (s : List Char) : unescapeMarks (escapeMarks s) = s := by
  induction s with
  | nil => rfl
  | cons c s ih =>
    by_cases mark : c ∈ marks
    · rw [escapeMarks_of_mark mark, unescapeMarks_of_mark mark, ih]
    · rw [escapeMarks_of_plain mark, unescapeMarks_of_plain mark, ih]

/-! ### Where marks stand -/

/-- Every character of an escaped form belongs to a character of the text. -/
theorem escapeMarks_eq_append_cons {before after : List Char}
    (split : escapeMarks s = before ++ c :: after) :
    ∃ front d back start rest, s = front ++ d :: back ∧ escapeMark d = start ++ c :: rest ∧
      before = escapeMarks front ++ start ∧ after = rest ++ escapeMarks back := by
  induction s generalizing before with
  | nil => exact absurd split.symm (by simp [escapeMarks])
  | cons e s ih =>
    have later {behind : List Char} (split : escapeMarks s = behind ++ c :: after) :
        ∃ front d back start rest, e :: s = front ++ d :: back ∧
          escapeMark d = start ++ c :: rest ∧
          escapeMark e ++ behind = escapeMarks front ++ start ∧
          after = rest ++ escapeMarks back := by
      obtain ⟨front, d, back, start, rest, rfl, here, rfl, rfl⟩ := ih split
      exact ⟨e :: front, d, back, start, rest, rfl, here, (List.append_assoc _ _ _).symm, rfl⟩
    change escapeMark e ++ escapeMarks s = before ++ c :: after at split
    rcases List.append_eq_append_iff.mp split with ⟨behind, rfl, tail⟩ | ⟨here, first, tail⟩
    · exact later tail
    · cases here with
      | nil =>
        rw [List.append_nil] at first
        rw [← first]
        have found := @later [] tail.symm
        rwa [List.append_nil] at found
      | cons d rest =>
        obtain ⟨rfl, rfl⟩ := List.cons.inj tail
        exact ⟨[], e, s, before, rest, rfl, first, rfl, rfl⟩

/-- What a mark in an escaped form is: a backslash that escapes a mark of the text, or that mark
    behind it. -/
theorem mark_in_escapeMarks {before after : List Char}
    (split : escapeMarks s = before ++ c :: after) (mark : c ∈ marks) :
    ∃ front d back, s = front ++ d :: back ∧ d ∈ marks ∧
      ((before = escapeMarks front ∧ c = '\\' ∧ after = d :: escapeMarks back) ∨
        (before = escapeMarks front ++ ['\\'] ∧ c = d ∧ after = escapeMarks back)) := by
  obtain ⟨front, d, back, start, rest, rfl, here, rfl, rfl⟩ := escapeMarks_eq_append_cons split
  refine ⟨front, d, back, rfl, ?_⟩
  by_cases marked : d ∈ marks
  · refine ⟨marked, ?_⟩
    have two : ['\\', d] = start ++ c :: rest := by simpa [escapeMark, marked] using here
    rcases start with _ | ⟨first, _ | ⟨second, start⟩⟩
    · obtain ⟨rfl, rfl⟩ := List.cons.inj two
      exact .inl ⟨List.append_nil _, rfl, rfl⟩
    · obtain ⟨rfl, one⟩ := List.cons.inj two
      obtain ⟨rfl, rfl⟩ := List.cons.inj one
      exact .inr ⟨rfl, rfl, rfl⟩
    · have longer := congrArg List.length two
      simp at longer
  · have one : [d] = start ++ c :: rest := by simpa [escapeMark, marked] using here
    have same : c ∈ [d] := one ▸ List.mem_append_right start List.mem_cons_self
    rw [List.mem_singleton.mp same] at mark
    exact absurd mark marked

/-! ### Color codes -/

theorem not_mem_marks_of_endsCode (ends : endsCode d = true) : d ∉ marks := by
  have apart : (marks.all fun m => !endsCode m) = true := by decide
  intro mark
  have plain := List.all_eq_true.mp apart d mark
  rw [ends] at plain
  cases plain

theorem sectionSign_not_mem_marks : sectionSign ∉ marks := by
  decide

/-- An escaped form starts with the end of a code only if the text does. -/
theorem prefix_of_prefix_escapeMarks (ends : endsCode d = true) (next : [d] <+: escapeMarks s) :
    [d] <+: s := by
  cases s with
  | nil => exact next
  | cons e s =>
    by_cases marked : e ∈ marks
    · rw [escapeMarks_of_mark marked] at next
      obtain ⟨rfl, _⟩ := List.cons_prefix_cons.mp next
      exact absurd (by decide) (not_mem_marks_of_endsCode ends)
    · rw [escapeMarks_of_plain marked] at next
      obtain ⟨rfl, _⟩ := List.cons_prefix_cons.mp next
      simp

theorem not_starts_isCode_of_ne (other : c ≠ sectionSign) : ¬ Starts IsCode (c :: s) := by
  intro code
  exact other (starts_isCode.mp code).1

theorem dropCodes_escapeMarks (s : List Char) :
    dropCodes (escapeMarks s) = escapeMarks (dropCodes s) := by
  induction s using code_induction with
  | nil => rfl
  | code d rest ends ih =>
    rw [escapeMarks_of_plain sectionSign_not_mem_marks,
      escapeMarks_of_plain (not_mem_marks_of_endsCode ends), dropCodes_of_code ends,
      dropCodes_of_code ends, ih]
  | apart c rest apart ih =>
    rw [dropCodes_of_apart apart]
    by_cases marked : c ∈ marks
    · have other : c ≠ sectionSign := by
        rintro rfl
        exact sectionSign_not_mem_marks marked
      rw [escapeMarks_of_mark marked, escapeMarks_of_mark marked,
        dropCodes_of_apart (not_starts_isCode_of_ne (by decide)),
        dropCodes_of_apart (not_starts_isCode_of_ne other), ih]
    · have apart' : ¬ Starts IsCode (c :: escapeMarks rest) := by
        intro code
        obtain ⟨here, d, ends, next⟩ := starts_isCode.mp code
        exact apart (starts_isCode.mpr ⟨here, d, ends, prefix_of_prefix_escapeMarks ends next⟩)
      rw [escapeMarks_of_plain marked, escapeMarks_of_plain marked, dropCodes_of_apart apart', ih]

/-! ### Texts -/

theorem toList_escapeMarkdown (text : String) :
    (escapeMarkdown text).toList = escapeMarks text.toList :=
  String.toList_ofList

theorem stripColorCodes_escapeMarkdown (text : String) :
    stripColorCodes (escapeMarkdown text) = escapeMarkdown (stripColorCodes text) := by
  rw [← String.toList_inj, toList_stripColorCodes, toList_escapeMarkdown, toList_escapeMarkdown,
    toList_stripColorCodes, dropCodes_escapeMarks]

namespace Scope

/-- The display name of the actor; empty if there is none. -/
def displayName (s : Scope) : String := (s.actor.map Actor.shownName).getD ""

theorem placeholderValue?_displayName (s : Scope) :
    placeholderValue? (s.placeholders true) "displayname" =
      some (escapeMarkdown (stripColorCodes s.displayName)) := by
  have listed : Placeholder.table.lookup "displayname" = some .displayName := by decide
  rw [placeholderValue?, listed, Option.map_some, Placeholder.value, placeholders, displayName]
  cases s.actor with
  | none => rfl
  | some a => exact congrArg some (stripColorCodes_escapeMarkdown a.shownName)

/-- Escaping loses nothing, and color codes can be dropped before or after it.

    The escaped form of a text is the one that reads as the text, and without the backslashes in
    front of marks it is the text again.  Every mark of the text stands behind such a backslash,
    and no other mark is in the escaped form, but for these backslashes.  Dropping color codes from
    it gives the escaped form of the text without its codes.  So in texts that are read, a display
    name stands in the escaped form of the name without its codes. -/
theorem escaping_undone_and_stripped (s : Scope) (text : String) :
    (∀ out, Escapes text.toList out ↔ out = (escapeMarkdown text).toList) ∧
    unescapeMarks (escapeMarkdown text).toList = text.toList ∧
    (∀ before c after, text.toList = before ++ c :: after → c ∈ marks →
      (escapeMarkdown text).toList = escapeMarks before ++ '\\' :: c :: escapeMarks after) ∧
    (∀ before c after, (escapeMarkdown text).toList = before ++ c :: after → c ∈ marks →
      ∃ front d back, text.toList = front ++ d :: back ∧ d ∈ marks ∧
        ((before = escapeMarks front ∧ c = '\\' ∧ after = d :: escapeMarks back) ∨
          (before = escapeMarks front ++ ['\\'] ∧ c = d ∧ after = escapeMarks back))) ∧
    stripColorCodes (escapeMarkdown text) = escapeMarkdown (stripColorCodes text) ∧
    Escapes (stripColorCodes s.displayName).toList
      (Piece.render (s.placeholders true) (.named "displayname".toList)) := by
  rw [toList_escapeMarkdown]
  refine ⟨fun out => escapes_iff, unescapeMarks_escapeMarks _, ?_, ?_,
    stripColorCodes_escapeMarkdown text, ?_⟩
  · intro before c after split mark
    rw [split, escapeMarks_append, escapeMarks_of_mark mark]
  · intro before c after split mark
    exact mark_in_escapeMarks split mark
  · rw [escapes_iff, Piece.render, String.ofList_toList, placeholderValue?_displayName]
    exact toList_escapeMarkdown _

/-- A backslash in front of a star: of the four characters that come of them, the second is the
    backslash of the text, and the third escapes the star. -/
theorem escaping_undone_and_stripped_of_backslash_and_star :
    let text := "\\*"
    let out := (escapeMarkdown text).toList
    (text.toList = ['\\'] ++ '*' :: [] ∧ '*' ∈ marks ∧
      out = escapeMarks ['\\'] ++ '\\' :: '*' :: escapeMarks []) ∧
    (out = ['\\', '\\'] ++ '\\' :: ['*'] ∧ '\\' ∈ marks ∧
      ∃ front d back, text.toList = front ++ d :: back ∧ d ∈ marks ∧
        ((['\\', '\\'] = escapeMarks front ∧ '\\' = '\\' ∧ ['*'] = d :: escapeMarks back) ∨
          (['\\', '\\'] = escapeMarks front ++ ['\\'] ∧ '\\' = d ∧
            ['*'] = escapeMarks back))) := by
  intro text out
  have all := escaping_undone_and_stripped
    { bindings := [], environment := { tickRate := 20 } } text
  obtain ⟨_, _, behind, within, _⟩ := all
  have split : text.toList = ['\\'] ++ '*' :: [] := by decide
  have split' : out = ['\\', '\\'] ++ '\\' :: ['*'] := by decide
  refine ⟨⟨split, by decide, ?_⟩, split', by decide, ?_⟩
  · exact behind ['\\'] '*' [] split (by decide)
  · exact within ['\\', '\\'] '\\' ['*'] split' (by decide)

end Scope

end EventAlerts.Render
