/-
  EventAlerts/Proofs/Render/Codes.lean
  ====================================
  **Color codes that stay** — which texts have color codes after theirs were dropped.

  Codes are dropped in one pass.  A code comes about in it if a section sign and the end of
  a code are apart by codes only: such a code is torn, and the pass puts it together.  This
  is the only way.  So the pass leaves a code exactly if one was torn, and only then a second
  pass changes the text again.  Sanitizing also puts dividers into mentions, which neither
  makes nor breaks a code, so the same holds for it and for the texts of a message.
-/
import EventAlerts.Proofs.Render.Mentions

namespace EventAlerts.Render

/-! ### Codes in a text -/

/-- Whether a text has a part of a kind. -/
def Occurs (kind : List Char → Prop) (s : List Char) : Prop := ∃ part, kind part ∧ part <:+: s

/-- Whether a text starts with a part of a kind. -/
def Starts (kind : List Char → Prop) (s : List Char) : Prop := ∃ part, kind part ∧ part <+: s

/-- A color code. -/
def IsCode (part : List Char) : Prop := ∃ d, endsCode d = true ∧ part = [sectionSign, d]

/-- Codes one after the other, by the characters that end them. -/
def codesOf (ends : List Char) : List Char := ends.flatMap fun e => [sectionSign, e]

/-- A color code with other codes between its two characters. -/
def IsTorn (part : List Char) : Prop :=
  ∃ between d, between ≠ [] ∧ (∀ e ∈ between, endsCode e = true) ∧ endsCode d = true ∧
    part = sectionSign :: (codesOf between ++ [d])

variable {kind : List Char → Prop} {c d : Char} {s rest : List Char}

theorem occurs_cons : Occurs kind (c :: s) ↔ Starts kind (c :: s) ∨ Occurs kind s := by
  simp only [Occurs, Starts, List.infix_cons_iff, and_or_left, exists_or]

theorem not_isCode_nil : ¬ IsCode [] := by
  rintro ⟨_, _, ⟨⟩⟩

theorem not_isTorn_nil : ¬ IsTorn [] := by
  rintro ⟨_, _, _, _, _, ⟨⟩⟩

theorem not_occurs_nil (nonempty : ¬ kind []) : ¬ Occurs kind [] := by
  rintro ⟨part, is, inside⟩
  rw [List.infix_nil.mp inside] at is
  exact nonempty is

theorem starts_isCode : Starts IsCode (c :: s) ↔
    c = sectionSign ∧ ∃ d, endsCode d = true ∧ [d] <+: s := by
  constructor
  · rintro ⟨_, ⟨d, ends, rfl⟩, starts⟩
    obtain ⟨same, next⟩ := List.cons_prefix_cons.mp starts
    exact ⟨same.symm, d, ends, next⟩
  · rintro ⟨rfl, d, ends, next⟩
    exact ⟨_, ⟨d, ends, rfl⟩, List.cons_prefix_cons.mpr ⟨rfl, next⟩⟩

theorem starts_isTorn : Starts IsTorn (c :: s) ↔
    c = sectionSign ∧ ∃ d, endsCode d = true ∧
      ∃ between, between ≠ [] ∧ (∀ e ∈ between, endsCode e = true) ∧
        codesOf between ++ [d] <+: s := by
  constructor
  · rintro ⟨_, ⟨between, d, some, codes, ends, rfl⟩, starts⟩
    obtain ⟨same, next⟩ := List.cons_prefix_cons.mp starts
    exact ⟨same.symm, d, ends, between, some, codes, next⟩
  · rintro ⟨rfl, d, ends, between, some, codes, next⟩
    exact ⟨_, ⟨between, d, some, codes, ends, rfl⟩, List.cons_prefix_cons.mpr ⟨rfl, next⟩⟩

theorem endsCode_sectionSign : endsCode sectionSign = false := by
  decide +kernel

theorem ne_sectionSign (ends : endsCode d = true) : d ≠ sectionSign := by
  rintro rfl
  rw [endsCode_sectionSign] at ends
  cases ends

/-! ### Dropping codes -/

theorem dropCodes_of_code (ends : endsCode d = true) :
    dropCodes (sectionSign :: d :: rest) = dropCodes rest := by
  simp [dropCodes, ends]

theorem dropCodes_of_apart (apart : ¬ Starts IsCode (c :: rest)) :
    dropCodes (c :: rest) = c :: dropCodes rest := by
  cases rest with
  | nil => rfl
  | cons d rest =>
    have none : ¬ (c = sectionSign && endsCode d) = true := by
      intro code
      obtain ⟨here, ends⟩ := Bool.and_eq_true_iff.mp code
      exact apart (starts_isCode.mpr ⟨of_decide_eq_true here, d, ends, by simp⟩)
    rw [dropCodes, if_neg none]

/-- A text is read code for code, and else character for character. -/
@[elab_as_elim]
theorem code_induction {motive : List Char → Prop} (nil : motive [])
    (code : ∀ d rest, endsCode d = true → motive rest → motive (sectionSign :: d :: rest))
    (apart : ∀ c rest, ¬ Starts IsCode (c :: rest) → motive rest → motive (c :: rest))
    (s : List Char) : motive s := by
  induction s using dropCodes.induct with
  | case1 => exact nil
  | case2 c =>
    refine apart c [] ?_ nil
    rintro none
    obtain ⟨_, d, _, next⟩ := starts_isCode.mp none
    cases List.prefix_nil.mp next
  | case3 c d rest here ih =>
    obtain ⟨same, ends⟩ := Bool.and_eq_true_iff.mp here
    obtain rfl := of_decide_eq_true same
    exact code d rest ends ih
  | case4 c d rest other ih =>
    refine apart c (d :: rest) ?_ ih
    intro here
    obtain ⟨rfl, e, ends, next⟩ := starts_isCode.mp here
    obtain rfl := (List.cons_prefix_cons.mp next).1
    exact other (by simp [ends])

theorem sublist_dropCodes (s : List Char) : (dropCodes s).Sublist s := by
  induction s using code_induction with
  | nil => exact List.Sublist.refl []
  | code d rest ends ih =>
    rw [dropCodes_of_code ends]
    exact (ih.cons d).cons sectionSign
  | apart c rest apart ih =>
    rw [dropCodes_of_apart apart]
    exact ih.cons_cons c

theorem dropCodes_of_none (none : ¬ Occurs IsCode s) : dropCodes s = s := by
  induction s using code_induction with
  | nil => rfl
  | code d rest ends _ => exact absurd ⟨_, ⟨d, ends, rfl⟩, [], rest, rfl⟩ none
  | apart c rest apart ih =>
    rw [dropCodes_of_apart apart, ih (mt (occurs_cons.mpr ∘ Or.inr) none)]

/-- Where a code occurs, section signs are dropped. -/
theorem count_dropCodes (code : Occurs IsCode s) :
    (dropCodes s).count sectionSign < s.count sectionSign := by
  induction s using code_induction with
  | nil => exact absurd code (not_occurs_nil not_isCode_nil)
  | code d rest ends _ =>
    have fewer := (sublist_dropCodes rest).count_le sectionSign
    rw [dropCodes_of_code ends, List.count_cons_self, List.count_cons_of_ne (ne_sectionSign ends)]
    omega
  | apart c rest apart ih =>
    have later := ih ((occurs_cons.mp code).resolve_left apart)
    rw [dropCodes_of_apart apart, List.count_cons, List.count_cons]
    omega

/-- What is left of a text starts with the end of a code exactly if the text does so behind
    codes. -/
theorem prefix_dropCodes_iff (ends : endsCode d = true) : [d] <+: dropCodes s ↔
    ∃ between, (∀ e ∈ between, endsCode e = true) ∧ codesOf between ++ [d] <+: s := by
  induction s using code_induction with
  | nil => simp [dropCodes, codesOf]
  | code e rest code ih =>
    rw [dropCodes_of_code code, ih]
    constructor
    · rintro ⟨between, codes, next⟩
      refine ⟨e :: between, List.forall_mem_cons.mpr ⟨code, codes⟩, ?_⟩
      exact List.cons_prefix_cons.mpr ⟨rfl, List.cons_prefix_cons.mpr ⟨rfl, next⟩⟩
    · rintro ⟨between, codes, next⟩
      cases between with
      | nil => exact absurd (List.cons_prefix_cons.mp next).1 (ne_sectionSign ends)
      | cons e between =>
        obtain ⟨_, next⟩ := List.cons_prefix_cons.mp next
        obtain ⟨_, next⟩ := List.cons_prefix_cons.mp next
        exact ⟨between, (List.forall_mem_cons.mp codes).2, next⟩
  | apart c rest apart _ =>
    rw [dropCodes_of_apart apart]
    constructor
    · intro next
      obtain rfl := (List.cons_prefix_cons.mp next).1
      exact ⟨[], by simp, by simp [codesOf]⟩
    · rintro ⟨between, codes, next⟩
      cases between with
      | nil =>
        obtain rfl := (List.cons_prefix_cons.mp next).1
        simp
      | cons e between =>
        refine absurd ⟨[sectionSign, e], ⟨e, (List.forall_mem_cons.mp codes).1, rfl⟩, ?_⟩ apart
        exact (List.prefix_append _ _).trans next

theorem not_starts_isTorn (ends : endsCode d = true) :
    ¬ Starts IsTorn (sectionSign :: d :: rest) := by
  intro torn
  obtain ⟨_, _, _, between, some, _, next⟩ := starts_isTorn.mp torn
  obtain ⟨e, between, rfl⟩ := List.exists_cons_of_ne_nil some
  exact ne_sectionSign ends (List.cons_prefix_cons.mp next).1.symm

/-- A character that stays starts a code in what is left exactly if it starts a torn one. -/
theorem starts_dropCodes_iff (apart : ¬ Starts IsCode (c :: rest)) :
    Starts IsCode (c :: dropCodes rest) ↔ Starts IsTorn (c :: rest) := by
  rw [starts_isCode, starts_isTorn]
  constructor
  · rintro ⟨here, d, ends, next⟩
    obtain ⟨between, codes, next⟩ := (prefix_dropCodes_iff ends).mp next
    refine ⟨here, d, ends, between, ?_, codes, next⟩
    -- with nothing between, the code would have been dropped
    rintro rfl
    exact apart (starts_isCode.mpr ⟨here, d, ends, next⟩)
  · rintro ⟨here, d, ends, between, _, codes, next⟩
    exact ⟨here, d, ends, (prefix_dropCodes_iff ends).mpr ⟨between, codes, next⟩⟩

/-- Codes are left exactly where codes were torn. -/
theorem occurs_dropCodes_iff (s : List Char) :
    Occurs IsCode (dropCodes s) ↔ Occurs IsTorn s := by
  induction s using code_induction with
  | nil => exact iff_of_false (not_occurs_nil not_isCode_nil) (not_occurs_nil not_isTorn_nil)
  | code d rest ends ih =>
    have letter : ¬ Starts IsTorn (d :: rest) :=
      fun torn => ne_sectionSign ends (starts_isTorn.mp torn).1
    rw [dropCodes_of_code ends, ih, occurs_cons, or_iff_right (not_starts_isTorn ends),
      occurs_cons, or_iff_right letter]
  | apart c rest apart ih =>
    rw [dropCodes_of_apart apart, occurs_cons, occurs_cons, ih, starts_dropCodes_iff apart]

/-! ### Dividing mentions -/

variable {word t : List Char}

theorem divide_eq_drop (word : List Char) (skip : Nat) (s : List Char) :
    divide word skip s = divide word 0 (s.drop skip) := by
  induction s generalizing skip with
  | nil => cases skip <;> rfl
  | cons c rest ih =>
    cases skip with
    | zero => rfl
    | succ skip => exact ih skip

theorem divide_mention (word rest : List Char) :
    divide word 0 ('@' :: (word ++ rest)) = '@' :: divider :: (word ++ divide word 0 rest) := by
  have here : '@' :: word <+: '@' :: (word ++ rest) := List.prefix_append ('@' :: word) rest
  rw [divide_of_mention here, divide_eq_drop word word.length, List.drop_left]
  rfl

/-- A text is read mention for mention, and else character for character. -/
@[elab_as_elim]
theorem mention_induction (word : List Char) {motive : List Char → Prop} (nil : motive [])
    (mention : ∀ rest, motive rest → motive ('@' :: (word ++ rest)))
    (apart : ∀ c rest, ¬ '@' :: word <+: c :: rest → motive rest → motive (c :: rest))
    (s : List Char) : motive s := by
  induction length : s.length using Nat.strongRecOn generalizing s with
  | ind n ih =>
    subst length
    cases s with
    | nil => exact nil
    | cons c rest =>
      by_cases here : '@' :: word <+: c :: rest
      · obtain ⟨rest, split⟩ := here
        rw [← split]
        refine mention rest (ih _ ?_ rest rfl)
        rw [← split, List.cons_append, List.length_cons, List.length_append]
        omega
      · exact apart c rest here (ih _ (Nat.lt_succ_self _) rest rfl)

theorem head?_divide (word s : List Char) : (divide word 0 s).head? = s.head? := by
  induction s using mention_induction word with
  | nil => rfl
  | mention rest _ => rw [divide_mention]; rfl
  | apart c rest apart _ => rw [divide_of_apart apart]; rfl

theorem count_divide (other : c ≠ divider) (word s : List Char) :
    (divide word 0 s).count c = s.count c := by
  induction s using mention_induction word with
  | nil => rfl
  | mention rest ih =>
    simp only [divide_mention, List.count_cons, List.count_append, ih, beq_iff_eq, other.symm,
      if_false, Nat.add_zero]
  | apart c rest apart ih => rw [divide_of_apart apart, List.count_cons, List.count_cons, ih]

theorem divide_of_none (none : ¬ '@' :: word <:+: s) : divide word 0 s = s := by
  induction s using mention_induction word with
  | nil => rfl
  | mention rest _ => exact absurd ⟨[], rest, rfl⟩ none
  | apart c rest apart ih =>
    rw [divide_of_apart apart, ih (mt (List.infix_cons_iff.mpr ∘ Or.inr) none)]

theorem occurs_cons_of_ne (other : c ≠ sectionSign) :
    Occurs IsCode (c :: s) ↔ Occurs IsCode s := by
  rw [occurs_cons, or_iff_right fun code => other (starts_isCode.mp code).1]

/-- Whether a code occurs does not depend on what follows, but for its first character and the
    codes in it. -/
theorem occurs_append_congr (first : s.head? = t.head?)
    (same : Occurs IsCode s ↔ Occurs IsCode t) (p : List Char) :
    Occurs IsCode (p ++ s) ↔ Occurs IsCode (p ++ t) := by
  induction p with
  | nil => exact same
  | cons c p ih =>
    have next (d : Char) : [d] <+: p ++ s ↔ [d] <+: p ++ t := by
      rw [List.singleton_prefix_iff_head?_eq_some, List.singleton_prefix_iff_head?_eq_some,
        List.head?_append, List.head?_append, first]
    simp only [List.cons_append, occurs_cons, starts_isCode, next, ih]

theorem occurs_divide_iff (word s : List Char) :
    Occurs IsCode (divide word 0 s) ↔ Occurs IsCode s := by
  induction s using mention_induction word with
  | nil => rfl
  | mention rest ih =>
    rw [divide_mention, occurs_cons_of_ne (by decide), occurs_cons_of_ne (by decide),
      occurs_cons_of_ne (by decide)]
    exact occurs_append_congr (head?_divide word rest) ih word
  | apart c rest apart ih =>
    rw [divide_of_apart apart]
    exact occurs_append_congr (head?_divide word rest) ih [c]

/-- A text with dividers in the mentions with any of the words. -/
def divideAll (words : List String) (s : List Char) : List Char :=
  words.foldl (fun s word => divide word.toList 0 s) s

theorem toList_foldl_defuse (words : List String) (text : String) :
    (words.foldl defuse text).toList = divideAll words text.toList := by
  induction words generalizing text with
  | nil => rfl
  | cons word rest ih => rw [List.foldl_cons, ih, toList_defuse]; rfl

theorem count_divideAll (other : c ≠ divider) (words : List String) (s : List Char) :
    (divideAll words s).count c = s.count c := by
  induction words generalizing s with
  | nil => rfl
  | cons word rest ih => exact (ih _).trans (count_divide other word.toList s)

theorem divideAll_of_none {words : List String}
    (none : ∀ word ∈ words, ¬ '@' :: word.toList <:+: s) : divideAll words s = s := by
  induction words with
  | nil => rfl
  | cons word rest ih =>
    obtain ⟨here, others⟩ := List.forall_mem_cons.mp none
    have kept := ih others
    rwa [divideAll, List.foldl_cons, divide_of_none here]

theorem occurs_divideAll_iff (words : List String) (s : List Char) :
    Occurs IsCode (divideAll words s) ↔ Occurs IsCode s := by
  induction words generalizing s with
  | nil => rfl
  | cons word rest ih => exact (ih _).trans (occurs_divide_iff word.toList s)

/-! ### Sanitizing -/

theorem toList_stripColorCodes (text : String) :
    (stripColorCodes text).toList = dropCodes text.toList :=
  String.toList_ofList

theorem toList_sanitize (text : String) :
    (sanitize text).toList = divideAll massMentions (dropCodes text.toList) := by
  simp only [sanitize]
  split
  · rw [toList_foldl_defuse, toList_stripColorCodes]
  · rename_i none
    rw [toList_stripColorCodes] at none ⊢
    refine (divideAll_of_none fun word _ occurs => none ?_).symm
    exact List.contains_iff_mem.mpr (occurs.subset List.mem_cons_self)

theorem stripColorCodes_stripColorCodes_iff (text : String) :
    stripColorCodes (stripColorCodes text) = stripColorCodes text ↔
      ¬ Occurs IsTorn text.toList := by
  rw [← occurs_dropCodes_iff, ← String.toList_inj]
  simp only [toList_stripColorCodes]
  constructor
  · intro same code
    have fewer := count_dropCodes code
    rw [same] at fewer
    exact absurd fewer (Nat.lt_irrefl _)
  · exact dropCodes_of_none

theorem occurs_sanitize_iff (text : String) :
    Occurs IsCode (sanitize text).toList ↔ Occurs IsTorn text.toList := by
  rw [toList_sanitize, occurs_divideAll_iff, occurs_dropCodes_iff]

theorem sanitize_sanitize_iff (text : String) :
    sanitize (sanitize text) = sanitize text ↔ ¬ Occurs IsTorn text.toList := by
  rw [← occurs_sanitize_iff, ← String.toList_inj, toList_sanitize (sanitize text)]
  constructor
  · intro same code
    have fewer := count_dropCodes code
    rw [← count_divideAll (by decide) massMentions, same] at fewer
    exact absurd fewer (Nat.lt_irrefl _)
  · intro none
    rw [dropCodes_of_none none, divideAll_of_none (not_infix_sanitize text)]

/-! ### Rendering -/

namespace Scope

/-- A text, filled in but not yet sanitized. -/
def filled (s : Scope) (escape : Bool) (raw : String) : String :=
  s.environment.expand s.actor (s.directory.translateEmotes
    (substitute (s.placeholders escape) (interpolate raw s.bindings)))

/-- Color codes are left exactly where codes are torn.

    A text has a code after its codes were dropped, or after sanitizing, exactly if it has a
    code with other codes inside, and exactly then doing it again changes the text again.  So
    a rendered text has a code if and only if it comes to a torn one by being filled in, and
    no text of a message has one but for this reason. -/
theorem code_left_iff_torn (s : Scope) (m : MessageTemplate) :
    (∀ text,
      (Occurs IsCode (stripColorCodes text).toList ↔ Occurs IsTorn text.toList) ∧
      (stripColorCodes (stripColorCodes text) = stripColorCodes text ↔
        ¬ Occurs IsTorn text.toList) ∧
      (Occurs IsCode (sanitize text).toList ↔ Occurs IsTorn text.toList) ∧
      (sanitize (sanitize text) = sanitize text ↔ ¬ Occurs IsTorn text.toList)) ∧
    (∀ escape raw,
      Occurs IsCode (s.text escape raw).toList ↔ Occurs IsTorn (s.filled escape raw).toList) ∧
    ∀ text ∈ (s.render m).message.texts, ∃ filled, text = sanitize filled ∧
      (Occurs IsCode text.toList ↔ Occurs IsTorn filled.toList) := by
  refine ⟨fun text => ⟨?_, stripColorCodes_stripColorCodes_iff text, occurs_sanitize_iff text,
    sanitize_sanitize_iff text⟩, fun escape raw => occurs_sanitize_iff _, ?_⟩
  · rw [toList_stripColorCodes, occurs_dropCodes_iff]
  · intro text there
    obtain ⟨filled, rfl⟩ := of_mem_texts there
    exact ⟨filled, rfl, occurs_sanitize_iff filled⟩

/-- A torn code is put together by dropping the one inside, and is sent. -/
theorem torn_code_left :
    let s : Scope := { bindings := [], environment := { tickRate := 20 } }
    let left := "\u00a7a"
    Occurs IsCode left.toList ∧
      stripColorCodes "\u00a7\u00a7aa" = left ∧ stripColorCodes left = "" ∧
      (s.render { content := some "\u00a7\u00a7aa" }).message.content = some left := by
  refine ⟨⟨_, ⟨'a', rfl, rfl⟩, [], [], rfl⟩, by decide +kernel, by decide +kernel, ?_⟩
  decide +kernel

end Scope

end EventAlerts.Render
