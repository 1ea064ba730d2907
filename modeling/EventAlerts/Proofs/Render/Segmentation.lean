/-
  EventAlerts/Proofs/Render/Segmentation.lean
  ===========================================
  **How a template falls into parts** — what an embedded expression is, is settled by the
  template, before any variable is looked at.

  `Cut` says what the parts of a template are: texts without `${` in them, expressions whose
  closing brace is the first one outside quotes and brackets (`Ends`), and at the end perhaps a
  `${` that is never closed.  No template can be cut in two ways (`Cut.eq_partsOf`), and
  `partsOf` finds the one way that there is (`cut_partsOf`).  Interpolation is a function of
  these parts: a text gives itself, and an expression gives its value or itself.  So the
  values of variables are never taken for a part of the template.
-/
import EventAlerts.Proofs.Render.Scanning

namespace EventAlerts.Render

open EventAlerts.Expr (Bindings)

/-! ### Parts -/

/-- A part of a template. -/
inductive Part
  | literal (text : List Char)
  | expression (body : List Char)
  /-- A `${` that no brace closes, with everything behind it. -/
  | unclosed (rest : List Char)
  deriving Repr, DecidableEq

/-- How an expression starts. -/
def opening : List Char := ['$', '\x7b']

namespace Part

/-- The stretches of the template that are looked at for a part. -/
def stretches : Part → List (List Char)
  | literal text => [text]
  | expression body => [opening, body, ['\x7d']]
  | unclosed rest => [opening, rest]

/-- The characters that a part is written with. -/
def source (p : Part) : List Char := p.stretches.flatten

def isLiteral : Part → Bool
  | literal _ => true
  | _ => false

/-- The text that a part gives. -/
def render (bindings : Bindings) : Part → List Char
  | expression body =>
    match Expr.evaluate (Text.trim (String.ofList body)) bindings with
    | .ok v => v.display.toList
    | .error _ => (expression body).source
  | p => p.source

/-- The same in segments, which keep no texts together. -/
def segments : Part → List Segment
  | expression body => [.expression body]
  | p => p.source.map .plain

end Part

/-- What the parts of a template are. -/
inductive Cut : List Part → Prop
  | nil : Cut []
  | literal {text : List Char} {parts : List Part} (nonempty : text ≠ [])
    (plain : ¬ opening <:+: text) (whole : ∀ p ∈ parts.head?, p.isLiteral = false)
    (rest : Cut parts) : Cut (.literal text :: parts)
  | expression {body : List Char} {parts : List Part} (ends : Ends body)
    (rest : Cut parts) : Cut (.expression body :: parts)
  /-- Only the last part can be an expression that is not closed. -/
  | unclosed {rest : List Char}
    (never : ∀ body after, rest = body ++ '\x7d' :: after → ¬ IsFree body) :
    Cut [.unclosed rest]

/-- Puts a character in front of parts. -/
def consLiteral (c : Char) : List Part → List Part
  | .literal text :: parts => .literal (c :: text) :: parts
  | parts => .literal [c] :: parts

/-- The parts of a template. -/
def partsOf : List Char → List Part
  | [] => []
  | '$' :: '\x7b' :: rest =>
    match _h : takeBody? (.open 0) rest with
    | some (body, after) => .expression body :: partsOf after
    | none => [.unclosed rest]
  | c :: rest => consLiteral c (partsOf rest)
termination_by s => s.length
decreasing_by
  · have := takeBody?_length _h
    simp only [List.length_cons]
    omega
  · simp

theorem partsOf_of_body {rest body after : List Char}
    (taken : takeBody? (.open 0) rest = some (body, after)) :
    partsOf (opening ++ rest) = .expression body :: partsOf after := by
  rw [opening, List.cons_append, List.cons_append, List.nil_append, partsOf]
  split
  · rename_i found
    obtain ⟨rfl, rfl⟩ := Prod.mk.inj (Option.some.inj (taken.symm.trans found))
    rfl
  · rename_i missing
    rw [taken] at missing
    cases missing

theorem partsOf_of_no_body {rest : List Char} (missing : takeBody? (.open 0) rest = none) :
    partsOf (opening ++ rest) = [.unclosed rest] := by
  rw [opening, List.cons_append, List.cons_append, List.nil_append, partsOf]
  split
  · rename_i found
    rw [missing] at found
    cases found
  · rfl

/-- Whether an expression starts here, in the form of the case split of `partsOf`. -/
theorem opening_prefix_iff {c : Char} {rest : List Char} :
    opening <+: c :: rest ↔ ∃ behind, c = '$' ∧ rest = '\x7b' :: behind := by
  constructor
  · rintro ⟨behind, split⟩
    obtain ⟨rfl, rfl⟩ := List.cons.inj split
    exact ⟨behind, rfl, rfl⟩
  · rintro ⟨behind, rfl, rfl⟩
    exact ⟨behind, rfl⟩

theorem partsOf_cons {c : Char} {rest : List Char} (plain : ¬ opening <+: c :: rest) :
    partsOf (c :: rest) = consLiteral c (partsOf rest) :=
  partsOf.eq_3 c rest fun behind dollar brace =>
    plain (opening_prefix_iff.mpr ⟨behind, dollar, brace⟩)

/-- Induction over a template by what it starts with: an expression, a `${` that is not
    closed, or a character of a text. -/
theorem template_induction {motive : List Char → Prop} (nil : motive [])
    (expression : ∀ body after, Ends body → motive after →
      motive (opening ++ (body ++ '\x7d' :: after)))
    (unclosed : ∀ rest, (∀ body after, rest = body ++ '\x7d' :: after → ¬ IsFree body) →
      motive (opening ++ rest))
    (char : ∀ c rest, ¬ opening <+: c :: rest → motive rest → motive (c :: rest))
    (s : List Char) : motive s := by
  fun_induction partsOf s with
  | case1 => exact nil
  | case2 rest body after taken ih =>
    obtain ⟨rfl, ends⟩ := takeBody?_open_eq_some_iff.mp taken
    exact expression body after ends ih
  | case3 rest missing => exact unclosed rest (takeBody?_open_eq_none_iff.mp missing)
  | case4 c rest plain ih =>
    refine char c rest ?_ ih
    rintro starts
    obtain ⟨behind, dollar, brace⟩ := opening_prefix_iff.mp starts
    exact plain behind dollar brace

/-! ### There is one cut -/

theorem source_consLiteral (c : Char) (parts : List Part) :
    (consLiteral c parts).flatMap Part.source = c :: parts.flatMap Part.source := by
  unfold consLiteral
  split <;> simp [Part.source, Part.stretches]

/-- Nothing of a template is lost. -/
theorem source_partsOf (s : List Char) : (partsOf s).flatMap Part.source = s := by
  induction s using template_induction with
  | nil => rw [partsOf, List.flatMap_nil]
  | expression body after ends ih =>
    rw [partsOf_of_body (takeBody?_open_eq_some_iff.mpr ⟨rfl, ends⟩), List.flatMap_cons, ih]
    simp [Part.source, Part.stretches]
  | unclosed rest never =>
    rw [partsOf_of_no_body (takeBody?_open_eq_none_iff.mpr never)]
    simp [Part.source, Part.stretches]
  | char c rest plain ih => rw [partsOf_cons plain, source_consLiteral, ih]

theorem Cut.consLiteral {c : Char} {parts : List Part} (cut : Cut parts)
    (plain : ¬ opening <+: c :: parts.flatMap Part.source) : Cut (consLiteral c parts) := by
  have single : ¬ opening <:+: [c] := by
    intro occurs
    have longer := occurs.length_le
    simp [opening] at longer
  cases cut with
  | nil => exact .literal (by simp) single (by simp) .nil
  | expression ends rest =>
    exact .literal (by simp) single (by simp [Part.isLiteral]) (.expression ends rest)
  | unclosed never => exact .literal (by simp) single (by simp [Part.isLiteral]) (.unclosed never)
  | @literal text parts nonempty apart whole rest =>
    refine .literal (by simp) ?_ whole rest
    intro occurs
    rcases List.infix_cons_iff.mp occurs with here | later
    · refine plain (here.trans ?_)
      simp [Part.source, Part.stretches]
    · exact apart later

theorem Cut.ends_of_mem {parts : List Part} (cut : Cut parts) {body : List Char}
    (listed : .expression body ∈ parts) : Ends body := by
  induction cut with
  | nil => cases listed
  | literal _ _ _ _ ih =>
    rcases List.mem_cons.mp listed with here | later
    · cases here
    · exact ih later
  | expression ends _ ih =>
    rcases List.mem_cons.mp listed with here | later
    · obtain rfl := Part.expression.inj here
      exact ends
    · exact ih later
  | unclosed _ =>
    cases List.mem_singleton.mp listed

theorem cut_partsOf (s : List Char) : Cut (partsOf s) := by
  induction s using template_induction with
  | nil =>
    rw [partsOf]
    exact .nil
  | expression body after ends ih =>
    rw [partsOf_of_body (takeBody?_open_eq_some_iff.mpr ⟨rfl, ends⟩)]
    exact .expression ends ih
  | unclosed rest never =>
    rw [partsOf_of_no_body (takeBody?_open_eq_none_iff.mpr never)]
    exact .unclosed never
  | char c rest plain ih =>
    rw [partsOf_cons plain]
    refine ih.consLiteral ?_
    rw [source_partsOf]
    exact plain

theorem consLiteral_of_not_isLiteral (c : Char) {parts : List Part}
    (whole : ∀ p ∈ parts.head?, p.isLiteral = false) :
    consLiteral c parts = .literal [c] :: parts := by
  cases parts with
  | nil => rfl
  | cons p rest =>
    cases p with
    | literal text => cases whole _ rfl
    | expression body => rfl
    | unclosed behind => rfl

/-- Only a text can start with something other than a dollar sign. -/
theorem source_ne_cons {parts : List Part} {c : Char} {rest : List Char} (other : c ≠ '$')
    (whole : ∀ p ∈ parts.head?, p.isLiteral = false) :
    parts.flatMap Part.source ≠ c :: rest := by
  intro split
  cases parts with
  | nil => cases split
  | cons p parts =>
    cases p with
    | literal text => cases whole _ rfl
    | expression body => exact other (List.cons.inj split).1.symm
    | unclosed behind => exact other (List.cons.inj split).1.symm

theorem partsOf_literal {parts : List Part} {text : List Char} (nonempty : text ≠ [])
    (plain : ¬ opening <:+: text) (whole : ∀ p ∈ parts.head?, p.isLiteral = false)
    (same : partsOf (parts.flatMap Part.source) = parts) :
    partsOf (text ++ parts.flatMap Part.source) = .literal text :: parts := by
  induction text with
  | nil => exact absurd rfl nonempty
  | cons c text ih =>
    cases text with
    | nil =>
      -- the next part may be an expression, but not start with its brace
      have plain : ¬ opening <+: c :: parts.flatMap Part.source := by
        intro starts
        obtain ⟨behind, -, brace⟩ := opening_prefix_iff.mp starts
        exact source_ne_cons (by decide) whole brace
      rw [List.singleton_append, partsOf_cons plain, same, consLiteral_of_not_isLiteral c whole]
    | cons d text =>
      have here : ¬ opening <+: c :: (d :: text ++ parts.flatMap Part.source) := by
        intro starts
        obtain ⟨behind, rfl, brace⟩ := opening_prefix_iff.mp starts
        obtain ⟨rfl, -⟩ := List.cons.inj brace
        exact plain ⟨[], text, rfl⟩
      have later : ¬ opening <:+: d :: text := fun occurs => plain (List.infix_cons occurs)
      rw [List.cons_append, partsOf_cons here, ih (List.cons_ne_nil _ _) later]
      rfl

/-- There is no other way to cut a template. -/
theorem Cut.eq_partsOf {parts : List Part} (cut : Cut parts) :
    partsOf (parts.flatMap Part.source) = parts := by
  induction cut with
  | nil => rw [List.flatMap_nil, partsOf]
  | @literal text parts nonempty plain whole rest ih =>
    have source : Part.source (.literal text) = text := by simp [Part.source, Part.stretches]
    rw [List.flatMap_cons, source]
    exact partsOf_literal nonempty plain whole ih
  | @expression body parts ends rest ih =>
    have source : Part.source (.expression body) ++ parts.flatMap Part.source =
        opening ++ (body ++ '\x7d' :: parts.flatMap Part.source) := by
      simp [Part.source, Part.stretches]
    rw [List.flatMap_cons, source,
      partsOf_of_body (takeBody?_open_eq_some_iff.mpr ⟨rfl, ends⟩), ih]
  | @unclosed rest never =>
    have source : [Part.unclosed rest].flatMap Part.source = opening ++ rest := by
      simp [Part.source, Part.stretches]
    rw [source, partsOf_of_no_body (takeBody?_open_eq_none_iff.mpr never)]

/-! ### What the parts give -/

theorem segments_consLiteral (c : Char) (parts : List Part) :
    (consLiteral c parts).flatMap Part.segments = .plain c :: parts.flatMap Part.segments := by
  unfold consLiteral
  split <;> simp [Part.segments, Part.source, Part.stretches]

theorem segments_eq (s : List Char) : segments s = (partsOf s).flatMap Part.segments := by
  fun_induction segments s with
  | case1 => rw [partsOf, List.flatMap_nil]
  | case2 rest body after taken ih =>
    have parts := partsOf_of_body taken
    rw [opening, List.cons_append, List.cons_append, List.nil_append] at parts
    rw [parts, List.flatMap_cons, ← ih]
    rfl
  | case3 rest missing =>
    have parts := partsOf_of_no_body missing
    rw [opening, List.cons_append, List.cons_append, List.nil_append] at parts
    rw [parts, List.flatMap_singleton]
    simp [Part.segments, Part.source, Part.stretches, opening]
  | case4 c rest plain ih =>
    have here : ¬ opening <+: c :: rest := by
      intro starts
      obtain ⟨behind, dollar, brace⟩ := opening_prefix_iff.mp starts
      exact plain behind dollar brace
    rw [partsOf_cons here, segments_consLiteral, ih]

theorem render_plain (bindings : Bindings) (text : List Char) :
    (text.map Segment.plain).flatMap (Segment.render bindings) = text := by
  rw [List.flatMap_map]
  exact List.flatMap_singleton' text

theorem Part.render_segments (bindings : Bindings) (p : Part) :
    p.segments.flatMap (Segment.render bindings) = p.render bindings := by
  cases p with
  | literal text => exact render_plain bindings _
  | unclosed rest => exact render_plain bindings _
  | expression body =>
    rw [Part.segments, List.flatMap_singleton, Segment.render, Part.render]
    cases Expr.evaluate (Text.trim (String.ofList body)) bindings with
    | ok v => rfl
    | error e => simp [Segment.source, Part.source, Part.stretches, opening]

theorem interpolate_eq (template : String) (bindings : Bindings) :
    interpolate template bindings =
      String.ofList ((partsOf template.toList).flatMap (Part.render bindings)) := by
  rw [interpolate, segments_eq, List.flatMap_assoc]
  congr 1
  exact List.flatMap_congr fun p _ => p.render_segments bindings

theorem Part.render_of_error {bindings : Bindings} {p : Part}
    (fails : ∀ body, p = .expression body →
      ∃ e, Expr.evaluate (Text.trim (String.ofList body)) bindings = .error e) :
    p.render bindings = p.source := by
  cases p with
  | literal text => rfl
  | unclosed rest => rfl
  | expression body =>
    obtain ⟨e, fails⟩ := fails body rfl
    rw [Part.render, fails]

/-! ### Offsets -/

/-- The offset in bytes behind a text. -/
def offsetBehind (text : List Char) : String.Pos.Raw := ⟨String.utf8Len text⟩

theorem offsetBehind_valid (before after : List Char) :
    (offsetBehind before).IsValid (String.ofList (before ++ after)) := by
  rw [String.Pos.Raw.isValid_iff_exists_append]
  refine ⟨String.ofList before, String.ofList after, String.ofList_append, ?_⟩
  rw [String.rawEndPos_ofList, offsetBehind]

theorem extract_stretch (before stretch after : List Char) :
    (offsetBehind before).extract (String.ofList (before ++ stretch ++ after))
      (offsetBehind (before ++ stretch)) = String.ofList stretch := by
  rw [offsetBehind, offsetBehind, String.utf8Len_append]
  exact String.extract_of_valid before stretch after

theorem flatMap_source (parts : List Part) :
    parts.flatMap Part.source = (parts.flatMap Part.stretches).flatten := by
  induction parts with
  | nil => rfl
  | cons p parts ih =>
    rw [List.flatMap_cons, List.flatMap_cons, List.flatten_append, ih, Part.source]

/-! ### Interpolation -/

/-- The parts that a template falls into are there before any variable is looked at, and there
    is one way only to cut it.  An expression ends at the first brace that is outside of quotes
    and where no bracket is open.  The borders of parts are borders of characters.  Whatever the
    variables are, the texts stay, and each expression gives its value, or stays as well. -/
theorem interpolate_by_parts (template : String) :
    ∃ parts : List Part,
      Cut parts ∧ parts.flatMap Part.source = template.toList ∧
      (∀ body, .expression body ∈ parts → IsFree body ∧
        ∀ before after, body = before ++ '\x7d' :: after → ¬ IsFree before) ∧
      (∀ others : List Part, Cut others → others.flatMap Part.source = template.toList →
        others = parts) ∧
      (∀ before stretch after, parts.flatMap Part.stretches = before ++ stretch :: after →
        (offsetBehind before.flatten).IsValid template ∧
        (offsetBehind (before.flatten ++ stretch)).IsValid template ∧
        (offsetBehind before.flatten).extract template
          (offsetBehind (before.flatten ++ stretch)) = String.ofList stretch) ∧
      ∀ bindings : Bindings,
        interpolate template bindings = String.ofList (parts.flatMap (Part.render bindings)) ∧
        ((∀ body, .expression body ∈ parts →
            ∃ e, Expr.evaluate (Text.trim (String.ofList body)) bindings = .error e) →
          interpolate template bindings = template) := by
  refine ⟨partsOf template.toList, cut_partsOf _, source_partsOf _, ?ends, ?unique, ?slices,
    ?values⟩
  case ends => exact fun body listed => (cut_partsOf _).ends_of_mem listed
  case unique =>
    intro others cut source
    rw [← source, cut.eq_partsOf]
  case slices =>
    intro before stretch after split
    have whole : template = String.ofList (before.flatten ++ stretch ++ after.flatten) := by
      calc template
          = String.ofList template.toList := String.ofList_toList.symm
        _ = String.ofList (before ++ stretch :: after).flatten := by
            rw [← split, ← flatMap_source, source_partsOf]
        _ = String.ofList (before.flatten ++ stretch ++ after.flatten) := by simp
    refine ⟨?_, ?_, ?_⟩
    · rw [whole, List.append_assoc]
      exact offsetBehind_valid _ _
    · rw [whole]
      exact offsetBehind_valid _ _
    · rw [whole]
      exact extract_stretch _ _ _
  case values =>
    intro bindings
    refine ⟨interpolate_eq template bindings, fun fails => ?_⟩
    have same : (partsOf template.toList).flatMap (Part.render bindings) = template.toList := by
      conv_rhs => rw [← source_partsOf template.toList]
      refine List.flatMap_congr fun p listed => Part.render_of_error fun body expression => ?_
      exact fails body (expression ▸ listed)
    rw [interpolate_eq, same, String.ofList_toList]

/-- A value that looks like an expression is not looked at again. -/
example :
    interpolate "$\x7bname\x7d is $\x7b'\x7d'\x7d, $\x7bname" [("name", .text "$\x7b1 + 1\x7d")] =
      "$\x7b1 + 1\x7d is \x7d, $\x7bname" := by
  decide +kernel

end EventAlerts.Render
