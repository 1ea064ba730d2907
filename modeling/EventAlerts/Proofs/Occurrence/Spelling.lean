/-
  EventAlerts/Proofs/Occurrence/Spelling.lean
  ===========================================
  **Spellings of a command** — which word of a text the normal form makes the command, and
  which command triggers accept it.

  Two functions cut a command's text, and not in the same way.  Triggers look at the first
  word, between blanks of any kind.  The normal form cuts at the first space and drops what
  stands before the last colon there (`text_normalize`).  A `Spelling` is a text with its
  first word marked.  The two agree on what the command is if no space stands before the
  word, and no colon between the word and the next space: then the normal form starts with
  the word without its namespace.  With a space before the word, the namespace is kept; with
  a colon behind it, the word is lost.
-/
import Mathlib.Data.List.TakeWhile
import EventAlerts.Occurrence.Command
import EventAlerts.Proofs.Rule.Matching

namespace EventAlerts

/-! ### Words -/

namespace Text

variable {p : Char → Bool} {s : List Char}

theorem splitWhere_ne_nil (p : Char → Bool) (s : List Char) : splitWhere p s ≠ [] := by
  cases s with
  | nil => exact List.cons_ne_nil _ _
  | cons c rest =>
    rw [splitWhere]
    split
    · exact List.cons_ne_nil _ _
    · cases splitWhere p rest <;> exact List.cons_ne_nil _ _

theorem consHead_append (c : Char) {pieces : List (List Char)} (some : pieces ≠ [])
    (others : List (List Char)) : consHead c (pieces ++ others) = consHead c pieces ++ others := by
  obtain ⟨piece, rest, rfl⟩ := List.exists_cons_of_ne_nil some
  rfl

theorem splitWhere_append {c : Char} (cut : p c = true) (before after : List Char) :
    splitWhere p (before ++ c :: after) = splitWhere p before ++ splitWhere p after := by
  induction before with
  | nil => simp [splitWhere, cut]
  | cons d before ih =>
    rw [List.cons_append, splitWhere, ih, splitWhere]
    split
    · rfl
    · exact consHead_append d (splitWhere_ne_nil p before) _

theorem splitWhere_of_whole (whole : ∀ c ∈ s, p c = false) : splitWhere p s = [s] := by
  induction s with
  | nil => rfl
  | cons c rest ih =>
    obtain ⟨here, others⟩ := List.forall_mem_cons.mp whole
    simp [splitWhere, here, ih others, consHead]

theorem wordsOf_append {c : Char} (blank : isBlank c = true) (before after : List Char) :
    wordsOf (before ++ c :: after) = wordsOf before ++ wordsOf after := by
  rw [wordsOf, splitWhere_append blank, List.filter_append]
  rfl

theorem wordsOf_blank_append {lead : List Char} (blank : ∀ c ∈ lead, isBlank c = true)
    (s : List Char) : wordsOf (lead ++ s) = wordsOf s := by
  induction lead with
  | nil => rfl
  | cons c lead ih =>
    obtain ⟨here, others⟩ := List.forall_mem_cons.mp blank
    rw [List.cons_append, ← ih others]
    exact wordsOf_append here [] (lead ++ s)

theorem wordsOf_of_whole (whole : ∀ c ∈ s, isBlank c = false) (some : s ≠ []) :
    wordsOf s = [s] := by
  simp [wordsOf, splitWhere_of_whole whole, some]

theorem words_of_blank {t : String} (blank : ∀ c ∈ t.toList, isBlank c = true) :
    words t = [] := by
  rw [words, ← List.append_nil t.toList, wordsOf_blank_append blank]
  rfl

/-- The first word starts behind the blanks in front and ends at the next blank. -/
theorem head?_wordsOf {lead word behind : List Char} (blank : ∀ c ∈ lead, isBlank c = true)
    (whole : ∀ c ∈ word, isBlank c = false) (some : word ≠ [])
    (apart : ∀ c ∈ behind.head?, isBlank c = true) :
    (wordsOf (lead ++ word ++ behind)).head? = Option.some word := by
  rw [List.append_assoc, wordsOf_blank_append blank]
  cases behind with
  | nil => rw [List.append_nil, wordsOf_of_whole whole some, List.head?_cons]
  | cons c after =>
    have cut : isBlank c = true := apart c rfl
    rw [wordsOf_append cut, wordsOf_of_whole whole some]
    rfl

theorem not_of_head?_dropWhile {c : Char} (first : (s.dropWhile p).head? = some c) :
    p c = false := by
  have stop := List.head?_dropWhile_not p s
  rwa [first] at stop

theorem splitFirst?_of_mem {mark : Char} {before : List Char} (none : mark ∉ before)
    (after : List Char) : splitFirst? [mark] (before ++ mark :: after) = some (before, after) := by
  induction before with
  | nil => simp [splitFirst?, dropPrefix?]
  | cons c before ih =>
    obtain ⟨here, others⟩ := not_or.mp (mt List.mem_cons.mpr none)
    simp [splitFirst?, dropPrefix?, here, ih others]

theorem splitFirst?_of_not_mem {mark : Char} (none : mark ∉ s) :
    splitFirst? [mark] s = Option.none := by
  induction s with
  | nil => rfl
  | cons c rest ih =>
    obtain ⟨here, others⟩ := not_or.mp (mt List.mem_cons.mpr none)
    simp [splitFirst?, dropPrefix?, here, ih others]

end Text

namespace Command

open EventAlerts.Rule (Trigger)

/-! ### The normal form -/

variable {mark : Char} {s behind : List Char}

theorem afterLast_append_of_not_mem (none : mark ∉ behind) (s : List Char) :
    afterLast mark (s ++ behind) = afterLast mark s ++ behind := by
  have all : ∀ c ∈ behind.reverse, decide (c ≠ mark) = true := fun c member =>
    decide_eq_true (ne_of_mem_of_not_mem (List.mem_reverse.mp member) none)
  rw [afterLast, List.reverse_append, List.takeWhile_append_of_pos all, List.reverse_append,
    List.reverse_reverse]
  rfl

theorem afterLast_of_not_mem (none : mark ∉ s) : afterLast mark s = s :=
  afterLast_append_of_not_mem none []

theorem afterLast_append_of_mem (some : mark ∈ behind) (s : List Char) :
    afterLast mark (s ++ behind) = afterLast mark behind := by
  obtain ⟨after, before, split, none⟩ := List.eq_append_cons_of_mem (List.mem_reverse.mpr some)
  have all : ∀ c ∈ after, decide (c ≠ mark) = true := fun c member =>
    decide_eq_true (ne_of_mem_of_not_mem member none)
  rw [afterLast, afterLast, List.reverse_append, split, List.append_assoc, List.cons_append,
    List.takeWhile_append_of_pos all, List.takeWhile_append_of_pos all,
    List.takeWhile_cons_of_neg (by simp), List.takeWhile_cons_of_neg (by simp)]

theorem mem_of_mem_afterLast {c : Char} (member : c ∈ afterLast mark s) : c ∈ s :=
  List.mem_reverse.mp ((List.takeWhile_prefix _).subset (List.mem_reverse.mp member))

/-- The normal form drops what stands before the last colon before the first space, and the
    arguments stand behind this space. -/
theorem normalize_of_split {before far : List Char} (none : ' ' ∉ before)
    (spaced : ∀ c ∈ far.head?, c = ' ') :
    normalize (String.ofList (before ++ far)) =
      { text := String.ofList (afterLast ':' before ++ far)
        args := (argsOf far.tail).map String.ofList } := by
  cases far with
  | nil => simp [normalize, Text.splitFirst?_of_not_mem none, argsOf, Text.splitWhere]
  | cons c after =>
    obtain rfl := spaced c rfl
    simp [normalize, Text.splitFirst?_of_mem none]

theorem text_normalize {before far : List Char} (none : ' ' ∉ before)
    (spaced : ∀ c ∈ far.head?, c = ' ') :
    (normalize (String.ofList (before ++ far))).text =
      String.ofList (afterLast ':' before ++ far) :=
  congrArg Command.text (normalize_of_split none spaced)

/-! ### Spellings -/

/-- A text with its first word marked: blanks in front, the word, and what is behind it. -/
structure Spelling where
  lead : List Char
  word : List Char
  behind : List Char
  blank : ∀ c ∈ lead, Text.isBlank c = true
  whole : ∀ c ∈ word, Text.isBlank c = false
  nonempty : word ≠ []
  apart : ∀ c ∈ behind.head?, Text.isBlank c = true

namespace Spelling

variable (s : Spelling)

def text : String := String.ofList (s.lead ++ s.word ++ s.behind)

/-- The word without its namespace. -/
def bare : List Char := afterLast ':' s.word

/-- What stands behind the word before the next space. -/
def near : List Char := s.behind.takeWhile (· ≠ ' ')

/-- What stands behind the word from the next space on. -/
def far : List Char := s.behind.dropWhile (· ≠ ' ')

/-- Whether a command is found by its word: no colon is near behind it, or it has no namespace
    if there is a space in front. -/
def Plain : Prop := if ' ' ∈ s.lead then ':' ∉ s.word else ':' ∉ s.near

theorem head?_words : (Text.words s.text).head? = some (String.ofList s.word) := by
  rw [Text.words, text, String.toList_ofList, List.head?_map,
    Text.head?_wordsOf s.blank s.whole s.nonempty s.apart]
  rfl

/-- Every text with a word has a spelling. -/
theorem exists_text_eq (t : String) : Text.words t ≠ [] ↔ ∃ s : Spelling, s.text = t := by
  constructor
  · intro some
    let lead := t.toList.takeWhile Text.isBlank
    let rest := t.toList.dropWhile Text.isBlank
    let word := rest.takeWhile fun c => !Text.isBlank c
    let behind := rest.dropWhile fun c => !Text.isBlank c
    have blank : ∀ c ∈ lead, Text.isBlank c = true := fun _ => List.mem_takeWhile_imp
    have whole : ∀ c ∈ word, (!Text.isBlank c) = true := fun _ => List.mem_takeWhile_imp
    have nonempty : word ≠ [] := by
      cases start : rest with
      | nil => exact absurd (Text.words_of_blank (List.dropWhile_eq_nil_iff.mp start)) some
      | cons c after =>
        have here : Text.isBlank c = false :=
          Text.not_of_head?_dropWhile (s := t.toList) (congrArg List.head? start)
        simp [word, start, here]
    refine ⟨⟨lead, word, behind, blank, fun c member => ?_, nonempty, fun c first => ?_⟩, ?_⟩
    · simpa using whole c member
    · simpa using Text.not_of_head?_dropWhile first
    · rw [text, List.append_assoc, List.takeWhile_append_dropWhile,
        List.takeWhile_append_dropWhile, String.ofList_toList]
  · rintro ⟨s, rfl⟩ none
    have first := s.head?_words
    rw [none] at first
    cases first

theorem near_append_far : s.near ++ s.far = s.behind :=
  List.takeWhile_append_dropWhile

theorem bare_whole : ∀ c ∈ s.bare, Text.isBlank c = false :=
  fun c member => s.whole c (mem_of_mem_afterLast member)

theorem not_mem_of_blank {c : Char} (other : Text.isBlank c = false) : c ∉ s.lead := by
  intro member
  rw [s.blank c member] at other
  cases other

theorem not_mem_of_whole {c : Char} (blank : Text.isBlank c = true) : c ∉ s.word := by
  intro member
  rw [s.whole c member] at blank
  cases blank

/-- With a space in front of the word, the text is kept as it is. -/
theorem normalize_of_spaced (spaced : ' ' ∈ s.lead) : (normalize s.text).text = s.text := by
  obtain ⟨before, after, split, none⟩ := List.eq_append_cons_of_mem spaced
  have colon : ':' ∉ before := by
    intro member
    refine s.not_mem_of_blank (c := ':') (by decide) ?_
    rw [split]
    exact List.mem_append_left _ member
  have cut : s.lead ++ s.word ++ s.behind = before ++ ' ' :: (after ++ s.word ++ s.behind) := by
    rw [split]
    simp
  rw [text, cut, text_normalize none (by simp), afterLast_of_not_mem colon]

/-- Otherwise it is cut behind the last colon before the next space. -/
theorem normalize_of_unspaced (unspaced : ' ' ∉ s.lead) :
    (normalize s.text).text =
      String.ofList (afterLast ':' (s.lead ++ s.word ++ s.near) ++ s.far) := by
  have none : ' ' ∉ s.lead ++ s.word ++ s.near := by
    simp only [List.mem_append, not_or]
    refine ⟨⟨unspaced, s.not_mem_of_whole (by decide)⟩, ?_⟩
    intro member
    simpa using List.mem_takeWhile_imp member
  have spaced : ∀ c ∈ s.far.head?, c = ' ' := by
    intro c first
    simpa using Text.not_of_head?_dropWhile first
  have cut : s.lead ++ s.word ++ s.behind = s.lead ++ s.word ++ s.near ++ s.far := by
    rw [List.append_assoc _ s.near, s.near_append_far]
  rw [text, cut, text_normalize none spaced]

/-- The command of a plain spelling starts with the word without its namespace. -/
theorem head?_words_normalize (plain : s.Plain) (some : s.bare ≠ []) :
    (Text.words (normalize s.text).text).head? = Option.some (String.ofList s.bare) := by
  rw [Plain] at plain
  split at plain
  case isTrue spaced =>
    rw [s.normalize_of_spaced spaced, bare, afterLast_of_not_mem plain]
    exact s.head?_words
  case isFalse unspaced =>
    rw [s.normalize_of_unspaced unspaced, afterLast_append_of_not_mem plain, List.append_assoc,
      s.near_append_far]
    by_cases colon : ':' ∈ s.word
    · rw [afterLast_append_of_mem colon]
      exact head?_words ⟨[], s.bare, s.behind, by simp, s.bare_whole, some, s.apart⟩
    · have free : ':' ∉ s.lead ++ s.word :=
        mt List.mem_append.mp (not_or.mpr ⟨s.not_mem_of_blank (by decide), colon⟩)
      rw [afterLast_of_not_mem free, bare, afterLast_of_not_mem colon]
      exact s.head?_words

/-- A colon near behind the word takes the word with it. -/
theorem normalize_of_near (unspaced : ' ' ∉ s.lead) (colon : ':' ∈ s.near) :
    (normalize s.text).text = String.ofList (afterLast ':' s.near ++ s.far) := by
  rw [s.normalize_of_unspaced unspaced, afterLast_append_of_mem colon]

end Spelling

/-- Which word the normal form makes the command.

    Every text with a word has a spelling, and is cut by it.  With a space in front, the text
    stays as it is.  Else a colon near behind the word takes the word away.  If it is plain,
    and something is behind the last colon of its word, then the normal form starts with the
    word without its namespace, and this is what command triggers compare. -/
theorem normalize_by_spelling (t : String) :
    (Text.words t ≠ [] ↔ ∃ s : Spelling, s.text = t) ∧
    ∀ s : Spelling, s.text = t →
      (Text.words t).head? = some (String.ofList s.word) ∧
      (' ' ∈ s.lead → (normalize t).text = t) ∧
      (' ' ∉ s.lead → ':' ∈ s.near →
        (normalize t).text = String.ofList (afterLast ':' s.near ++ s.far)) ∧
      (s.Plain → s.bare ≠ [] →
        (Text.words (normalize t).text).head? = some (String.ofList s.bare) ∧
        ∀ category name : String,
          ((Trigger.command name).accepts category (some (normalize t).text) = true ↔
            Text.lower (String.ofList s.bare) = Text.lower name)) := by
  refine ⟨Spelling.exists_text_eq t, ?_⟩
  rintro s rfl
  refine ⟨s.head?_words, s.normalize_of_spaced, s.normalize_of_near, ?_⟩
  intro plain nonempty
  have first := s.head?_words_normalize plain nonempty
  refine ⟨first, fun category name => ?_⟩
  rw [Trigger.accepts_command_iff]
  constructor
  · rintro ⟨_, word, ⟨⟩, found, same⟩
    rw [first] at found
    cases found
    exact same
  · exact fun same => ⟨_, _, rfl, first, same⟩

/-- A colon behind a tab takes the word away, and a space in front keeps the namespace. -/
theorem word_lost_or_namespace_kept :
    ((Text.words "say\tessentials:kick").head? = some "say" ∧
      (Text.words (normalize "say\tessentials:kick").text).head? = some "kick" ∧
      (Trigger.command "say").accepts "" (some (normalize "say\tessentials:kick").text) = false) ∧
    ((Text.words " essentials:kick Steve").head? = some "essentials:kick" ∧
      (Text.words (normalize " essentials:kick Steve").text).head? = some "essentials:kick" ∧
      (Trigger.command "kick").accepts "" (some (normalize " essentials:kick Steve").text) =
        false) := by
  decide +kernel

end Command
end EventAlerts
