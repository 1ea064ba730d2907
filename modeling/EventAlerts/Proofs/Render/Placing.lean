/-
  EventAlerts/Proofs/Render/Placing.lean
  ======================================
  **Where values are placed** — the names in braces that a template has are the places, and
  nothing that is put there is read again.

  `pieces` reads a template from the left.  It could be that where it begins decides what it
  finds, but names in braces never overlap: no brace is part of a name.  So every name in
  braces is a piece, wherever it stands (`pieces_split`), and a template can be cut anywhere
  but inside one (`pieces_append`).  Substituting gives each piece its value or leaves it, and
  whether it has a value is a matter of its name alone.
-/
import EventAlerts.Render.Placeholder
import Mathlib.Data.List.Infix
import Mathlib.Data.List.TakeWhile

namespace EventAlerts.Render

variable {name s t before after rest : List Char} {c : Char}

/-! ### Names in braces -/

/-- One or more of the characters that names are made of. -/
def IsBracedName (name : List Char) : Prop := name ≠ [] ∧ ∀ c ∈ name, isNameChar c = true

instance (name : List Char) : Decidable (IsBracedName name) :=
  decidable_of_iff (name ≠ [] ∧ name.all isNameChar = true) (by simp [IsBracedName])

/-- A name with braces around it. -/
def inBraces (name : List Char) : List Char := '\x7b' :: (name ++ ['\x7d'])

/-- Whether a name in braces starts in a text and ends in the next one. -/
def Straddles (name s t : List Char) : Prop :=
  ∃ before u v after, name = u ++ v ∧ s = before ++ '\x7b' :: u ∧ t = v ++ '\x7d' :: after

theorem isNameChar_brace : isNameChar '\x7b' = false ∧ isNameChar '\x7d' = false := by
  decide +kernel

theorem IsBracedName.not_mem (n : IsBracedName name) (other : isNameChar c = false) : c ∉ name := by
  intro member
  rw [n.2 c member] at other
  cases other

theorem Straddles.append (straddles : Straddles name s t) (p : List Char) :
    Straddles name (p ++ s) t := by
  obtain ⟨before, u, v, after, rfl, rfl, rfl⟩ := straddles
  exact ⟨p ++ before, u, v, after, rfl, (List.append_assoc ..).symm, rfl⟩

/-- No name in braces goes on over an opening brace. -/
theorem not_straddles_opening (n : IsBracedName name) (s t : List Char) :
    ¬ Straddles name s ('\x7b' :: t) := by
  rintro ⟨before, u, v, after, rfl, -, split⟩
  cases v with
  | nil => exact absurd (List.cons.inj split).1 (by decide)
  | cons d v =>
    obtain ⟨rfl, -⟩ := List.cons.inj split
    exact n.not_mem isNameChar_brace.1 (by simp)

/-- No name in braces goes on over a closing brace. -/
theorem not_straddles_closing (n : IsBracedName name) (s t : List Char) :
    ¬ Straddles name (s ++ ['\x7d']) t := by
  rintro ⟨before, u, v, after, rfl, split, -⟩
  rcases List.eq_nil_or_concat' u with rfl | ⟨u, d, rfl⟩
  · exact absurd (List.singleton_inj.mp (List.append_inj' split rfl).2) (by decide)
  · rw [← List.cons_append, ← List.append_assoc] at split
    obtain rfl := List.singleton_inj.mp (List.append_inj' split rfl).2
    exact n.not_mem isNameChar_brace.2 (by simp)

/-! ### Pieces -/

theorem takeName?_eq_some_iff :
    takeName? s = some (name, after) ↔ IsBracedName name ∧ s = name ++ '\x7d' :: after := by
  constructor
  · intro taken
    simp only [takeName?] at taken
    split at taken
    · rename_i rest closed
      split at taken
      · cases taken
      · rename_i some
        obtain ⟨rfl, rfl⟩ := Prod.mk.inj (Option.some.inj taken)
        refine ⟨⟨?_, fun _ => List.mem_takeWhile_imp⟩, ?_⟩
        · simpa using some
        · rw [← closed, List.takeWhile_append_dropWhile]
    · cases taken
  · rintro ⟨⟨some, letters⟩, rfl⟩
    have stop : isNameChar '\x7d' = false := isNameChar_brace.2
    simp [takeName?, List.takeWhile_append_of_pos letters, List.dropWhile_append_of_pos letters,
      stop, some]

theorem pieces_inBraces (n : IsBracedName name) (after : List Char) :
    pieces (inBraces name ++ after) = .named name :: pieces after := by
  have taken : takeName? (name ++ ['\x7d'] ++ after) = some (name, after) :=
    takeName?_eq_some_iff.mpr ⟨n, by simp⟩
  rw [inBraces, List.cons_append, pieces, if_pos rfl]
  split
  · rename_i found
    obtain ⟨rfl, rfl⟩ := Prod.mk.inj (Option.some.inj (taken.symm.trans found))
    rfl
  · rename_i missing
    rw [taken] at missing
    cases missing

theorem pieces_plain (apart : ∀ name, IsBracedName name → ¬ inBraces name <+: c :: rest) :
    pieces (c :: rest) = .plain c :: pieces rest := by
  rw [pieces]
  split
  · rename_i brace
    split
    · rename_i name after found
      obtain ⟨n, rfl⟩ := takeName?_eq_some_iff.mp found
      refine absurd ⟨after, ?_⟩ (apart name n)
      simp [inBraces, brace]
    · rfl
  · rfl

/-- Induction over a template by what it starts with: a name in braces, or a character. -/
@[elab_as_elim]
theorem piece_induction {motive : List Char → Prop} (nil : motive [])
    (braced : ∀ name after, IsBracedName name → motive after → motive (inBraces name ++ after))
    (plain : ∀ c rest, (∀ name, IsBracedName name → ¬ inBraces name <+: c :: rest) →
      motive rest → motive (c :: rest))
    (s : List Char) : motive s := by
  induction s using pieces.induct with
  | case1 => exact nil
  | case2 rest name after found ih =>
    obtain ⟨n, rfl⟩ := takeName?_eq_some_iff.mp found
    have whole : '\x7b' :: (name ++ '\x7d' :: after) = inBraces name ++ after := by simp [inBraces]
    rw [whole]
    exact braced name after n ih
  | case3 rest missing ih =>
    refine plain '\x7b' rest (fun name n begins => ?_) ih
    obtain ⟨after, whole⟩ := begins
    have split : rest = name ++ '\x7d' :: after := by
      rw [← (List.cons.inj whole).2]
      simp
    rw [takeName?_eq_some_iff.mpr ⟨n, split⟩] at missing
    cases missing
  | case4 c rest other ih =>
    refine plain c rest (fun name n begins => ?_) ih
    exact other (List.cons_prefix_cons.mp begins).1.symm

theorem source_pieces (s : List Char) : (pieces s).flatMap Piece.source = s := by
  induction s using piece_induction with
  | nil => rw [pieces, List.flatMap_nil]
  | braced name after n ih =>
    rw [pieces_inBraces n, List.flatMap_cons, ih]
    rfl
  | plain c rest apart ih =>
    rw [pieces_plain apart, List.flatMap_cons, ih]
    rfl

theorem isBracedName_of_mem (listed : .named name ∈ pieces s) : IsBracedName name := by
  induction s using piece_induction with
  | nil =>
    rw [pieces] at listed
    cases listed
  | braced other after n ih =>
    rw [pieces_inBraces n] at listed
    rcases List.mem_cons.mp listed with here | later
    · obtain rfl := Piece.named.inj here
      exact n
    · exact ih later
  | plain c rest apart ih =>
    rw [pieces_plain apart] at listed
    rcases List.mem_cons.mp listed with here | later
    · cases here
    · exact ih later

/-- A name in braces that starts in front of a cut ends there, or it straddles the cut. -/
theorem prefix_or_straddles {s : List Char} (some : s ≠ [])
    (begins : inBraces name <+: s ++ t) : inBraces name <+: s ∨ Straddles name s t := by
  obtain ⟨c, rest, rfl⟩ := List.exists_cons_of_ne_nil some
  obtain ⟨rfl, after, inside⟩ := List.cons_prefix_cons.mp begins
  rw [List.append_assoc] at inside
  rcases List.append_eq_append_iff.mp inside with ⟨v, rfl, closing⟩ | ⟨v, rfl, rfl⟩
  · cases v with
    | nil => exact .inr ⟨[], name, [], after, by simp, by simp, closing.symm⟩
    | cons d v =>
      obtain ⟨rfl, -⟩ := List.cons.inj closing
      exact .inl ⟨v, by simp [inBraces]⟩
  · exact .inr ⟨[], rest, v, after, rfl, rfl, rfl⟩

/-- A template can be cut where no name in braces straddles the cut. -/
theorem pieces_append (apart : ∀ name, IsBracedName name → ¬ Straddles name s t) :
    pieces (s ++ t) = pieces s ++ pieces t := by
  induction s using piece_induction with
  | nil => rw [pieces, List.nil_append, List.nil_append]
  | braced name after n ih =>
    have later := ih fun name n straddles => apart name n (straddles.append _)
    rw [List.append_assoc, pieces_inBraces n, pieces_inBraces n, later, List.cons_append]
  | plain c rest none ih =>
    have later := ih fun name n straddles => apart name n (straddles.append [c])
    have here : ∀ name, IsBracedName name → ¬ inBraces name <+: c :: (rest ++ t) := by
      intro name n begins
      rcases prefix_or_straddles (List.cons_ne_nil c rest) begins with within | straddles
      · exact none name n within
      · exact apart name n straddles
    rw [List.cons_append, pieces_plain here, pieces_plain none, later, List.cons_append]

/-- A name in braces is a piece wherever it stands. -/
theorem pieces_split (n : IsBracedName name) (before after : List Char) :
    pieces (before ++ (inBraces name ++ after)) = pieces before ++ .named name :: pieces after := by
  have opening : ∀ other, IsBracedName other → ¬ Straddles other before (inBraces name ++ after) :=
    fun other m => not_straddles_opening m before (name ++ ['\x7d'] ++ after)
  rw [pieces_append opening, pieces_inBraces n]

theorem pieces_split_iff :
    (∃ earlier later, pieces s = earlier ++ .named name :: later ∧
      earlier.flatMap Piece.source = before ∧ later.flatMap Piece.source = after) ↔
    IsBracedName name ∧ s = before ++ (inBraces name ++ after) := by
  constructor
  · rintro ⟨earlier, later, split, rfl, rfl⟩
    refine ⟨isBracedName_of_mem (s := s) (by rw [split]; simp), ?_⟩
    rw [← source_pieces s, split, List.flatMap_append, List.flatMap_cons]
    rfl
  · rintro ⟨n, rfl⟩
    exact ⟨_, _, pieces_split n before after, source_pieces before, source_pieces after⟩

/-! ### What pieces give -/

/-- The value that is put in the place of a piece, if it is a name that has one. -/
def Piece.value? (scope : PlaceholderScope) : Piece → Option String
  | .plain _ => none
  | .named name => placeholderValue? scope (String.ofList name)

variable {scope : PlaceholderScope}

theorem Piece.render_eq (scope : PlaceholderScope) (p : Piece) :
    p.render scope = match p.value? scope with
      | some value => value.toList
      | none => p.source := by
  cases p with
  | plain c => rfl
  | named name => rfl

theorem Piece.isSome_value? (scope other : PlaceholderScope) (p : Piece) :
    (p.value? other).isSome = (p.value? scope).isSome := by
  cases p with
  | plain c => rfl
  | named name => simp [Piece.value?, placeholderValue?]

theorem isBracedName_of_mem_table : ∀ entry ∈ Placeholder.table, IsBracedName entry.1.toList := by
  decide +kernel

theorem isBracedName_of_value {name : String} {value : String}
    (found : placeholderValue? scope name = some value) : IsBracedName name.toList := by
  obtain ⟨placeholder, listed, -⟩ := Option.map_eq_some_iff.mp found
  obtain ⟨earlier, later, split, -⟩ := List.lookup_eq_some_iff.mp listed
  exact isBracedName_of_mem_table (name, placeholder) (by rw [split]; simp)

theorem renderPieces_split (n : IsBracedName name) (before after : List Char) :
    renderPieces scope (before ++ (inBraces name ++ after)) =
      renderPieces scope before ++ (Piece.named name).render scope ++ renderPieces scope after := by
  simp only [renderPieces, pieces_split n, List.flatMap_append, List.flatMap_cons, List.append_assoc]

/-- Without names in braces, a text stays as it is. -/
theorem renderPieces_of_none (none : ∀ name, IsBracedName name → ¬ inBraces name <:+: s) :
    renderPieces scope s = s := by
  induction s using piece_induction with
  | nil => rw [renderPieces, pieces, List.flatMap_nil]
  | braced name after n _ => exact absurd (List.prefix_append _ after).isInfix (none name n)
  | plain c rest apart ih =>
    have later := ih fun name n occurs => none name n (List.infix_cons occurs)
    rw [renderPieces] at later ⊢
    rw [pieces_plain apart, List.flatMap_cons, later]
    rfl

theorem renderPieces_of_no_opening (none : '\x7b' ∉ s) : renderPieces scope s = s :=
  renderPieces_of_none fun _ _ occurs => none (occurs.subset List.mem_cons_self)

theorem renderPieces_of_no_closing (none : '\x7d' ∉ s) : renderPieces scope s = s :=
  renderPieces_of_none fun _ _ occurs => none (occurs.subset (by simp [inBraces]))

theorem renderPieces_cut (apart : ∀ name, IsBracedName name → ¬ Straddles name s t) :
    renderPieces scope (s ++ t) = renderPieces scope s ++ renderPieces scope t := by
  simp only [renderPieces, pieces_append apart, List.flatMap_append]

/-- A text can be filled in part by part, if the cut is not inside a name that has a value. -/
theorem renderPieces_append
    (apart : ∀ name, (placeholderValue? scope (String.ofList name)).isSome = true →
      ¬ Straddles name s t) :
    renderPieces scope (s ++ t) = renderPieces scope s ++ renderPieces scope t := by
  by_cases none : ∀ name, IsBracedName name → ¬ Straddles name s t
  · exact renderPieces_cut none
  · -- the name in braces there has no value, so it stays, and its two parts stay as well
    push Not at none
    obtain ⟨name, n, straddles⟩ := none
    have unknown : placeholderValue? scope (String.ofList name) = .none := by
      by_contra known
      exact apart name (Option.isSome_iff_ne_none.mpr known) straddles
    have stays : (Piece.named name).render scope = inBraces name := by
      simp only [Piece.render, unknown]
      rfl
    obtain ⟨before, u, v, after, rfl, rfl, rfl⟩ := straddles
    have first : renderPieces scope (before ++ '\x7b' :: u) =
        renderPieces scope before ++ '\x7b' :: u := by
      have unclosed : '\x7d' ∉ '\x7b' :: u :=
        List.not_mem_cons_of_ne_of_not_mem (by decide) fun member =>
          n.not_mem isNameChar_brace.2 (List.mem_append_left v member)
      rw [renderPieces_cut fun _ m => not_straddles_opening m before u,
        renderPieces_of_no_closing unclosed]
    have second : renderPieces scope (v ++ '\x7d' :: after) =
        v ++ '\x7d' :: renderPieces scope after := by
      have unopened : '\x7b' ∉ v ++ ['\x7d'] := by
        rw [List.mem_append, not_or]
        exact ⟨fun member => n.not_mem isNameChar_brace.1 (List.mem_append_right u member),
          by decide⟩
      rw [List.append_cons, renderPieces_cut fun _ m => not_straddles_closing m v after,
        renderPieces_of_no_opening unopened, ← List.append_cons]
    have whole : before ++ '\x7b' :: u ++ (v ++ '\x7d' :: after) =
        before ++ (inBraces (u ++ v) ++ after) := by
      simp [inBraces]
    rw [whole, renderPieces_split n, stays, first, second]
    simp [inBraces]

theorem substitute_eq (scope : PlaceholderScope) (template : String) :
    substitute scope template = String.ofList (renderPieces scope template.toList) := by
  rw [substitute]
  split
  · rfl
  · rename_i none
    have brace : '\x7b' ∉ template.toList := mt List.contains_iff_mem.mpr none
    rw [renderPieces_of_no_opening brace, String.ofList_toList]

/-- The value of a name stands in the result as it is. -/
theorem substitute_of_value {name value : String}
    (found : placeholderValue? scope name = some value) (before after : String) :
    substitute scope (before ++ "\x7b" ++ name ++ "\x7d" ++ after) =
      substitute scope before ++ value ++ substitute scope after := by
  have n := isBracedName_of_value found
  have whole : (before ++ "\x7b" ++ name ++ "\x7d" ++ after).toList =
      before.toList ++ (inBraces name.toList ++ after.toList) := by simp [inBraces]
  have placed : (Piece.named name.toList).render scope = value.toList := by
    simp only [Piece.render, String.ofList_toList, found]
  simp only [substitute_eq]
  rw [whole, renderPieces_split n, placed, String.ofList_append, String.ofList_append,
    String.ofList_toList]

/-- Substituting is one pass over the template.

    The names in braces are pieces wherever they stand, and with the characters between them
    they are the whole template.  Each piece gives its value if it is a name that has one, and
    else itself; whether it has one does not depend on the scope.  So a value stands in the
    result as it is, whatever it is, and the texts around it are filled in by themselves.  A
    template may be cut anywhere but inside a name that has a value, and leaving a template
    without braces alone is no other way. -/
theorem substitute_in_one_pass (template : String) :
    let parts := pieces template.toList
    parts.flatMap Piece.source = template.toList ∧
    (∀ name before after,
      (∃ earlier later, parts = earlier ++ .named name :: later ∧
        earlier.flatMap Piece.source = before ∧ later.flatMap Piece.source = after) ↔
      IsBracedName name ∧ template.toList = before ++ (inBraces name ++ after)) ∧
    (∀ p ∈ parts, ∀ scope other, (p.value? other).isSome = (p.value? scope).isSome) ∧
    ∀ scope,
      substitute scope template = String.ofList (parts.flatMap fun p =>
        match p.value? scope with
        | some value => value.toList
        | none => p.source) ∧
      (∀ before name after value, placeholderValue? scope name = some value →
        template = before ++ "\x7b" ++ name ++ "\x7d" ++ after →
        substitute scope template = substitute scope before ++ value ++ substitute scope after) ∧
      (∀ before after, template = before ++ after →
        (∀ name, (placeholderValue? scope (String.ofList name)).isSome = true →
          ¬ Straddles name before.toList after.toList) →
        substitute scope template = substitute scope before ++ substitute scope after) ∧
      substitute scope template = String.ofList (renderPieces scope template.toList) := by
  intro parts
  refine ⟨source_pieces _, fun name before after => pieces_split_iff, ?known, fun scope =>
    ⟨?values, ?placed, ?cut, substitute_eq scope template⟩⟩
  case known => exact fun p _ scope other => p.isSome_value? scope other
  case values =>
    rw [substitute_eq, renderPieces]
    exact congrArg String.ofList (List.flatMap_congr fun p _ => p.render_eq scope)
  case placed =>
    rintro before name after value found rfl
    exact substitute_of_value found before after
  case cut =>
    rintro before after rfl apart
    simp only [substitute_eq]
    rw [String.toList_append, renderPieces_append apart, String.ofList_append]

/-- A name that looks like a placeholder is not looked at again, and braces may be nested. -/
example :
    let scope : PlaceholderScope :=
      { actor := some { name := "\x7btps\x7d" }, environment := { tickRate := 20 } }
    substitute scope "\x7b\x7bname\x7d\x7d has \x7bfoo\x7d, \x7bping" =
      "\x7b\x7btps\x7d\x7d has \x7bfoo\x7d, \x7bping" := by
  decide +kernel

end EventAlerts.Render
