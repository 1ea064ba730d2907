/-
  EventAlerts/Proofs/Render/Mentions.lean
  =======================================
  **No mention of everyone** — whatever a message is put together from, its texts mention
  nobody by `@everyone` or `@here`.

  A mention can come about in any step of rendering, and even when a color code is dropped
  between its letters.  So nothing is said here about the steps before; the argument is
  about the last one.  It puts a divider behind the at sign of every mention, for one word
  after the other.  `exists_of_infix_divide` is the reason why this is enough: behind an at
  sign, the replacement makes no text that was not there, but for the divider itself.  So
  no mention is left of the word that is replaced, and none comes about of a word before.
-/
import EventAlerts.Render.Message
import Mathlib.Data.List.Infix

namespace EventAlerts

/-! ### The texts of a message -/

namespace Embed

/-- The texts and addresses of an embed, as far as they are there, but for its fields. -/
def optionalTexts (e : Embed) : List String :=
  [e.authorName, e.authorUrl, e.authorIconUrl, e.title, e.titleUrl, e.description,
    e.thumbnailUrl, e.imageUrl, e.footerText, e.footerIconUrl].filterMap id

/-- The names and values of an embed's fields. -/
def fieldTexts (e : Embed) : List String := e.fields.flatMap fun f => [f.name, f.value]

end Embed

namespace Message

/-- The texts of a message that can be left out, as far as they are there. -/
def optionalTexts (m : Message) : List String :=
  m.content.toList ++ m.embed.toList.flatMap Embed.optionalTexts

/-- All texts of a message. -/
def texts (m : Message) : List String :=
  m.optionalTexts ++ m.embed.toList.flatMap Embed.fieldTexts

end Message

namespace Render

open EventAlerts.Text (replaceFrom)

/-! ### Dividing mentions -/

/-- Whether a word behind an at sign is taken apart by a divider between them. -/
def Divisible (word : List Char) : Prop :=
  '@' ∉ word ∧ word ≠ [] ∧ word.head? ≠ some divider

instance (word : List Char) : Decidable (Divisible word) :=
  inferInstanceAs (Decidable ('@' ∉ word ∧ word ≠ [] ∧ word.head? ≠ some divider))

/-- A text with a divider in every mention with the word, without the first characters that
    belong to a mention before. -/
def divide (word : List Char) (skip : Nat) (s : List Char) : List Char :=
  replaceFrom ('@' :: word) ('@' :: divider :: word) skip s

variable {word v s : List Char}

theorem divide_of_mention {c : Char} {rest : List Char} (here : '@' :: word <+: c :: rest) :
    divide word 0 (c :: rest) = '@' :: divider :: word ++ divide word word.length rest := by
  rw [divide, replaceFrom, if_pos (List.isPrefixOf_iff_prefix.mpr here)]
  rfl

theorem divide_of_apart {c : Char} {rest : List Char} (apart : ¬ '@' :: word <+: c :: rest) :
    divide word 0 (c :: rest) = c :: divide word 0 rest := by
  rw [divide, replaceFrom, if_neg (mt List.isPrefixOf_iff_prefix.mp apart)]
  rfl

/-- Up to the next at sign, dividing changes nothing. -/
theorem prefix_of_prefix_divide (apart : '@' ∉ v) (starts : v <+: divide word 0 s) : v <+: s := by
  induction v generalizing s with
  | nil => exact List.nil_prefix
  | cons d v ih =>
    obtain ⟨first, others⟩ := not_or.mp (mt List.mem_cons.mpr apart)
    cases s with
    | nil => exact starts
    | cons c rest =>
      by_cases here : '@' :: word <+: c :: rest
      · rw [divide_of_mention here] at starts
        exact absurd (List.cons_prefix_cons.mp starts).1.symm first
      · rw [divide_of_apart here, List.cons_prefix_cons] at starts
        exact List.cons_prefix_cons.mpr ⟨starts.1, ih others starts.2⟩

theorem infix_of_infix_append {c : Char} {p t : List Char} (apart : c ∉ p)
    (occurs : c :: v <:+: p ++ t) : c :: v <:+: t := by
  induction p with
  | nil => exact occurs
  | cons d p ih =>
    obtain ⟨first, others⟩ := not_or.mp (mt List.mem_cons.mpr apart)
    rcases List.infix_cons_iff.mp occurs with starts | later
    · exact absurd (List.cons_prefix_cons.mp starts).1 first
    · exact ih others later

/-- Behind a mention that was divided, the next word is found in the rest only. -/
theorem infix_of_infix_divided (divisible : Divisible word) (other : Divisible v)
    {rest : List Char} (occurs : '@' :: v <:+: '@' :: divider :: word ++ rest) :
    '@' :: v <:+: rest := by
  rcases List.infix_cons_iff.mp occurs with starts | later
  · -- right behind the at sign there is a divider
    obtain ⟨_, nonempty, different⟩ := other
    obtain ⟨c, v, rfl⟩ := List.exists_cons_of_ne_nil nonempty
    have behind := (List.cons_prefix_cons.mp starts).2
    exact absurd (congrArg some (List.cons_prefix_cons.mp behind).1) different
  · have apart : '@' ∉ divider :: word := by
      rintro (_ | ⟨_, inside⟩)
      exact divisible.1 inside
    exact infix_of_infix_append apart later

/-- What stands behind an at sign after dividing stood there before, and not in a mention. -/
theorem exists_of_infix_divide (divisible : Divisible word) (other : Divisible v) {skip : Nat}
    (occurs : '@' :: v <:+: divide word skip s) :
    ∃ before after, s = before ++ ('@' :: v ++ after) ∧ ¬ '@' :: word <+: '@' :: v ++ after := by
  induction s generalizing skip with
  | nil =>
    have none := List.infix_nil.mp occurs
    cases none
  | cons c rest ih =>
    have later : ∀ {skip}, '@' :: v <:+: divide word skip rest →
        ∃ before after, c :: rest = before ++ ('@' :: v ++ after) ∧
          ¬ '@' :: word <+: '@' :: v ++ after := by
      intro skip occurs
      obtain ⟨before, after, split, apart⟩ := ih occurs
      exact ⟨c :: before, after, congrArg (c :: ·) split, apart⟩
    cases skip with
    | succ skip => exact later occurs
    | zero =>
      by_cases here : '@' :: word <+: c :: rest
      · rw [divide_of_mention here] at occurs
        exact later (infix_of_infix_divided divisible other occurs)
      · rw [divide_of_apart here] at occurs
        rcases List.infix_cons_iff.mp occurs with starts | inside
        · obtain ⟨rfl, behind⟩ := List.cons_prefix_cons.mp starts
          obtain ⟨after, rfl⟩ := prefix_of_prefix_divide other.1 behind
          exact ⟨[], after, rfl, here⟩
        · exact later inside

theorem infix_of_infix_divide (divisible : Divisible word) (other : Divisible v)
    (occurs : '@' :: v <:+: divide word 0 s) : '@' :: v <:+: s := by
  obtain ⟨before, after, rfl, _⟩ := exists_of_infix_divide divisible other occurs
  exact ⟨before, after, by simp⟩

/-- Dividing leaves no mention with the word. -/
theorem not_infix_divide (divisible : Divisible word) : ¬ '@' :: word <:+: divide word 0 s := by
  intro occurs
  obtain ⟨_, _, _, apart⟩ := exists_of_infix_divide divisible divisible occurs
  exact apart (List.prefix_append _ _)

/-! ### Sanitizing -/

theorem toList_defuse (text word : String) :
    (defuse text word).toList = divide word.toList 0 text.toList := by
  simp [defuse, divide, Text.replace, Text.replaceAll]

theorem not_infix_foldl_defuse {words : List String}
    (divisible : ∀ word ∈ words, Divisible word.toList) (text : String) :
    ∀ word ∈ words, ¬ '@' :: word.toList <:+: (words.foldl defuse text).toList := by
  -- no mention comes back by dividing those with the words behind
  have kept : ∀ {word : String}, Divisible word.toList → ∀ (words : List String) {text : String},
      (∀ word ∈ words, Divisible word.toList) → ¬ '@' :: word.toList <:+: text.toList →
        ¬ '@' :: word.toList <:+: (words.foldl defuse text).toList := by
    intro word own words
    induction words with
    | nil => exact fun _ apart => apart
    | cons first rest ih =>
      intro text divisible apart
      obtain ⟨here, others⟩ := List.forall_mem_cons.mp divisible
      refine ih others ?_
      rw [toList_defuse]
      exact mt (infix_of_infix_divide here own) apart
  induction words generalizing text with
  | nil =>
    intro word member
    cases member
  | cons first rest ih =>
    obtain ⟨here, others⟩ := List.forall_mem_cons.mp divisible
    refine List.forall_mem_cons.mpr ⟨?_, ih others _⟩
    refine kept here rest others ?_
    rw [toList_defuse]
    exact not_infix_divide here

theorem divisible_of_mem_massMentions : ∀ word ∈ massMentions, Divisible word.toList := by
  decide +kernel

/-- A sanitized text mentions nobody by one of the words. -/
theorem not_infix_sanitize (text : String) :
    ∀ word ∈ massMentions, ¬ '@' :: word.toList <:+: (sanitize text).toList := by
  intro word member
  simp only [sanitize]
  split
  · exact not_infix_foldl_defuse divisible_of_mem_massMentions _ word member
  · rename_i none
    intro occurs
    have there : '@' ∈ (stripColorCodes text).toList := occurs.subset List.mem_cons_self
    exact none (List.contains_iff_mem.mpr there)

/-! ### Rendering -/

namespace Scope

variable {s : Scope}

theorem exists_text_eq (s : Scope) (escape : Bool) (raw : String) :
    ∃ filled, s.text escape raw = sanitize filled :=
  ⟨_, rfl⟩

theorem of_mem_text? {escape : Bool} {raw : Option String} {text : String}
    (there : text ∈ s.text? escape raw) : (∃ filled, text = sanitize filled) ∧ text ≠ "" := by
  obtain ⟨rendered, filled⟩ := Option.filter_eq_some_iff.mp there
  obtain ⟨raw, _, rfl⟩ := Option.map_eq_some_iff.mp rendered
  refine ⟨s.exists_text_eq escape raw, ?_⟩
  intro empty
  rw [empty] at filled
  cases filled

/-- The optional texts of an embed, each with whether display names are escaped in it. -/
theorem optionalTexts_embed (s : Scope) (t : EmbedTemplate) :
    (s.embed t).optionalTexts =
      [(true, t.author.bind (·.name)), (false, t.author.bind (·.url)),
        (false, t.author.bind (·.iconUrl)), (true, t.title), (false, t.titleUrl),
        (true, t.description), (false, t.thumbnailUrl), (false, t.imageUrl),
        (true, t.footer.bind (·.text)), (false, t.footer.bind (·.iconUrl))].filterMap
      fun part => s.text? part.1 part.2 :=
  rfl

theorem fieldTexts_embed (s : Scope) (t : EmbedTemplate) :
    (s.embed t).fieldTexts = t.fields.flatMap fun f => [s.text true f.name, s.text true f.value] := by
  simp only [Embed.fieldTexts, embed, List.flatMap_map, embedField]

theorem of_mem_optionalTexts {t : MessageTemplate} {text : String}
    (there : text ∈ (s.render t).message.optionalTexts) :
    (∃ filled, text = sanitize filled) ∧ text ≠ "" := by
  rcases List.mem_append.mp there with content | inside
  · exact of_mem_text? (Option.mem_toList.mp content)
  · obtain ⟨e, embedded, member⟩ := List.mem_flatMap.mp inside
    obtain ⟨template, _, rfl⟩ := Option.map_eq_some_iff.mp (Option.mem_toList.mp embedded)
    rw [optionalTexts_embed] at member
    obtain ⟨_, _, filled⟩ := List.mem_filterMap.mp member
    exact of_mem_text? filled

theorem of_mem_texts {t : MessageTemplate} {text : String}
    (there : text ∈ (s.render t).message.texts) : ∃ filled, text = sanitize filled := by
  rcases List.mem_append.mp there with optional | inside
  · exact (of_mem_optionalTexts optional).1
  · obtain ⟨e, embedded, member⟩ := List.mem_flatMap.mp inside
    obtain ⟨template, _, rfl⟩ := Option.map_eq_some_iff.mp (Option.mem_toList.mp embedded)
    rw [fieldTexts_embed] at member
    obtain ⟨f, _, part⟩ := List.mem_flatMap.mp member
    rcases List.mem_cons.mp part with rfl | value
    · exact s.exists_text_eq true f.name
    · rw [List.mem_singleton.mp value]
      exact s.exists_text_eq true f.value

/-- No mention of everyone leaves in a message.

    Whatever the template is, and whatever is put in its place by expressions, placeholders,
    emotes and the host, whose expansion of tokens may be any function: no text of the message
    mentions everyone, and no optional text is there that is empty. -/
theorem no_mention_of_everyone (s : Scope) (t : MessageTemplate) :
    let message := (s.render t).message
    (∀ text ∈ message.texts, ∀ mention ∈ ["@everyone", "@here"],
      ¬ mention.toList <:+: text.toList) ∧
    ∀ text ∈ message.optionalTexts, text ≠ "" := by
  intro message
  refine ⟨?_, fun text there => (of_mem_optionalTexts there).2⟩
  intro text there mention listed
  obtain ⟨filled, rfl⟩ := of_mem_texts there
  have mentions : ["@everyone", "@here"] = massMentions.map ("@" ++ ·) := rfl
  rw [mentions] at listed
  obtain ⟨word, member, rfl⟩ := List.mem_map.mp listed
  have letters : ("@" ++ word).toList = '@' :: word.toList := by simp
  rw [letters]
  exact not_infix_sanitize filled word member

end Scope

/-- A mention that comes about when a color code is dropped. -/
example : sanitize "@every\u00a7cone @he\u00a7c@here" = "@\u200beveryone @he@\u200bhere" := by
  decide +kernel

end Render

end EventAlerts
