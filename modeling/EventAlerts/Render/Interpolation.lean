/-
  EventAlerts/Render/Interpolation.lean
  =====================================
  **Embedded expressions** — a template is a text with expressions between `${` and a
  closing brace.

  The scanner knows brackets and quoted texts: a brace inside either does not close
  the expression, and a backslash in a quoted text takes the next character with it.
  `segments` cuts a template into plain text and expressions; `interpolate` puts the
  value of every expression in its place.  An expression without a value stays in the
  text as it is written, and so does everything from a `${` that is never closed.
-/
import EventAlerts.Render.Context

namespace EventAlerts.Render

open EventAlerts.Expr (Bindings)

/-- Where the scanner stands inside an expression. -/
inductive ScanState
  /-- Outside quotes, with this many brackets open. -/
  | open (depth : Nat)
  /-- Inside a text quoted by this character. -/
  | quoted (quote : Char) (depth : Nat)
  /-- Behind a backslash in a quoted text. -/
  | escaped (quote : Char) (depth : Nat)
  deriving Repr, DecidableEq

/-- The state after a character, or nothing when the character closes the expression. -/
def ScanState.step? : ScanState → Char → Option ScanState
  | .quoted q depth, c =>
    if c = '\\' then some (.escaped q depth)
    else if c = q then some (.open depth)
    else some (.quoted q depth)
  | .escaped q depth, _ => some (.quoted q depth)
  | .open depth, c =>
    if c = '"' || c = '\'' then some (.quoted c depth)
    else if c = '\x7b' || c = '[' || c = '(' then some (.open (depth + 1))
    else if c = '\x7d' && depth = 0 then none
    else if c = '\x7d' || c = ']' || c = ')' then some (.open (depth - 1))
    else some (.open depth)

/-- The body of an expression up to its closing brace, and the text behind the brace. -/
def takeBody? (state : ScanState) : List Char → Option (List Char × List Char)
  | [] => none
  | c :: rest =>
    match state.step? c with
    | none => some ([], rest)
    | some next => (takeBody? next rest).map fun (body, rest) => (c :: body, rest)

theorem takeBody?_length {state : ScanState} {s body rest : List Char}
    (h : takeBody? state s = some (body, rest)) : rest.length < s.length := by
  induction s generalizing state body with
  | nil => simp [takeBody?] at h
  | cons c s ih =>
    simp only [takeBody?] at h
    split at h
    · simp only [Option.some.injEq, Prod.mk.injEq] at h
      simp [← h.2]
    · simp only [Option.map_eq_some_iff, Prod.mk.injEq] at h
      obtain ⟨⟨b, r⟩, hb, _, rfl⟩ := h
      have : r.length < s.length := ih hb
      simp only [List.length_cons]
      omega

/-- A part of a template. -/
inductive Segment
  | plain (c : Char)
  | expression (body : List Char)
  deriving Repr, DecidableEq

/-- The characters that a segment is written with. -/
def Segment.source : Segment → List Char
  | .plain c => [c]
  | .expression body => ['$', '\x7b'] ++ body ++ ['\x7d']

/-- Cuts a template into its parts. -/
def segments : List Char → List Segment
  | [] => []
  | '$' :: '\x7b' :: rest =>
    match _h : takeBody? (.open 0) rest with
    | some (body, after) => .expression body :: segments after
    | none => .plain '$' :: .plain '\x7b' :: rest.map .plain
  | c :: rest => .plain c :: segments rest
termination_by s => s.length
decreasing_by
  · have := takeBody?_length _h
    simp only [List.length_cons]
    omega
  · simp

/-- The text that a segment gives under bindings. -/
def Segment.render (bindings : Bindings) : Segment → List Char
  | .plain c => [c]
  | .expression body =>
    match Expr.evaluate (Text.trim (String.ofList body)) bindings with
    | .ok v => v.display.toList
    | .error _ => (Segment.expression body).source

/-- The template with every expression replaced by its value. -/
def interpolate (template : String) (bindings : Bindings) : String :=
  String.ofList ((segments template.toList).flatMap (Segment.render bindings))

end EventAlerts.Render
