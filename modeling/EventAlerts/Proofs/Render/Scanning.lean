/-
  EventAlerts/Proofs/Render/Scanning.lean
  =======================================
  **Where an embedded expression ends** — the closing brace that the scanner finds, told by
  quotes and brackets.

  The scanner goes through a text with one state for three things: the quote it is inside, a
  backslash before, and the brackets that are open.  Here they are told apart.  `Outside` reads
  a text as characters outside of quotes and texts in quotes, whatever the brackets are, and
  `deepen` counts brackets in the characters outside, whatever the quotes are.  A brace can
  close an expression where the quotes before it are closed and no bracket is open (`IsFree`).
  The first such brace ends it (`Ends`), and this is the one that the scanner takes
  (`closes_iff`).  The body before it is any text whose quotes are closed and whose brackets are
  balanced, if there is such a text (`IsBalanced.closes`).

  A bracket that closes nothing counts for nothing.  So there are bodies that are not
  balanced, but no balanced body is cut short.
-/
import EventAlerts.Render.Interpolation
import Mathlib.Data.List.Infix
import Mathlib.Data.String.Basic

namespace EventAlerts.Render

/-! ### Quotes -/

def isQuote (c : Char) : Bool := c = '"' || c = '\''

/-- The inside of a text in quotes.  A backslash takes the next character with it. -/
inductive Quoted (quote : Char) : List Char → Prop
  | nil : Quoted quote []
  | char {c : Char} {s : List Char} (other : c ≠ quote) (plain : c ≠ '\\')
    (rest : Quoted quote s) : Quoted quote (c :: s)
  | escaped {c : Char} {s : List Char} (rest : Quoted quote s) : Quoted quote ('\\' :: c :: s)

/-- A text whose quotes are closed, with its characters outside of quotes. -/
inductive Outside : List Char → List Char → Prop
  | nil : Outside [] []
  | char {c : Char} {s bare : List Char} (plain : isQuote c = false) (rest : Outside s bare) :
    Outside (c :: s) (c :: bare)
  | quoted {quote : Char} {inside s bare : List Char} (opens : isQuote quote = true)
    (closed : Quoted quote inside) (rest : Outside s bare) :
    Outside (quote :: (inside ++ quote :: s)) bare

/-! ### Brackets -/

def isOpener (c : Char) : Bool := c = '\x7b' || c = '[' || c = '('

def isCloser (c : Char) : Bool := c = '\x7d' || c = ']' || c = ')'

/-- How many brackets are open behind a character.  Brackets of any kind close each other. -/
def deepen (depth : Nat) (c : Char) : Nat :=
  if isOpener c then depth + 1 else if isCloser c then depth - 1 else depth

/-- How many brackets are open behind characters, unless one of them is a brace where none is. -/
def depth? (depth : Nat) : List Char → Option Nat
  | [] => some depth
  | c :: rest => if c = '\x7d' ∧ depth = 0 then none else depth? (deepen depth c) rest

/-- Whether all quotes of a text are closed and no bracket is open behind it. -/
def IsFree (s : List Char) : Prop := ∃ bare, Outside s bare ∧ bare.foldl deepen 0 = 0

/-- Whether a brace behind a text ends the expression that the text is the body of: it is the
    first one that can. -/
def Ends (body : List Char) : Prop :=
  IsFree body ∧ ∀ before after, body = before ++ '\x7d' :: after → ¬ IsFree before

/-- Whether all quotes of a text are closed, and all brackets outside of them are closed by a
    later one, with none left over. -/
def IsBalanced (s : List Char) : Prop :=
  ∃ bare, Outside s bare ∧ bare.countP isOpener = bare.countP isCloser ∧
    ∀ start, start <+: bare → start.countP isCloser ≤ start.countP isOpener

variable {c quote : Char} {s bare : List Char} {depth : Nat}

theorem not_isCloser_of_isOpener (opens : isOpener c = true) : isCloser c = false := by
  simp only [isOpener, Bool.or_eq_true, decide_eq_true_eq] at opens
  rcases opens with (rfl | rfl) | rfl <;> rfl

/-- A character that closes something changes the depth by what it is. -/
theorem deepen_counts (within : [c].countP isCloser ≤ depth + [c].countP isOpener) :
    deepen depth c + [c].countP isCloser = depth + [c].countP isOpener := by
  simp only [List.countP_singleton] at within ⊢
  cases opens : isOpener c with
  | true => simp [deepen, opens, not_isCloser_of_isOpener opens]
  | false =>
    rw [opens] at within
    cases closes : isCloser c with
    | true =>
      rw [closes] at within
      exact (congrArg (· + 1) (by simp [deepen, opens, closes])).trans (Nat.sub_add_cancel within)
    | false => simp [deepen, opens, closes]

theorem foldl_deepen {depth' : Nat} (counted : depth? depth bare = some depth') :
    bare.foldl deepen depth = depth' := by
  induction bare generalizing depth with
  | nil => exact Option.some.inj counted
  | cons c rest ih =>
    simp only [depth?] at counted
    split at counted
    · cases counted
    · exact ih counted

/-- If no closing bracket is left over, every bracket counts. -/
theorem depth?_of_balanced
    (balanced : ∀ start, start <+: bare →
      start.countP isCloser ≤ depth + start.countP isOpener) :
    depth? depth bare = some (depth + bare.countP isOpener - bare.countP isCloser) := by
  induction bare generalizing depth with
  | nil => rfl
  | cons c rest ih =>
    have here := balanced [c] ⟨rest, rfl⟩
    have counts := deepen_counts here
    have inside : ¬ (c = '\x7d' ∧ depth = 0) := by
      rintro ⟨rfl, rfl⟩
      exact absurd here (by decide)
    have later : ∀ start, start <+: rest →
        start.countP isCloser ≤ deepen depth c + start.countP isOpener := by
      intro start before
      have both := balanced (c :: start) (List.cons_prefix_cons.mpr ⟨rfl, before⟩)
      rw [← List.singleton_append, List.countP_append, List.countP_append] at both
      omega
    rw [depth?, if_neg inside, ih later, ← List.singleton_append, List.countP_append,
      List.countP_append]
    congr 1
    omega

/-! ### The scanner -/

namespace ScanState

/-- The state behind a text, or nothing if a brace in the text closes the expression. -/
def behind? (state : ScanState) : List Char → Option ScanState
  | [] => some state
  | c :: rest => (state.step? c).bind fun next => next.behind? rest

/-- Only a brace closes an expression, outside of quotes and where no bracket is open. -/
theorem step?_eq_none_iff {state : ScanState} {c : Char} :
    state.step? c = none ↔ state = .open 0 ∧ c = '\x7d' := by
  constructor
  · intro closes
    cases state with
    | quoted q depth =>
      simp only [step?] at closes
      split at closes
      · cases closes
      · split at closes <;> cases closes
    | escaped q depth => cases closes
    | «open» depth =>
      simp only [step?] at closes
      split at closes
      · cases closes
      split at closes
      · cases closes
      split at closes
      · rename_i brace
        obtain ⟨here, outside⟩ := Bool.and_eq_true_iff.mp brace
        exact ⟨congrArg _ (of_decide_eq_true outside), of_decide_eq_true here⟩
      · split at closes <;> cases closes
  · rintro ⟨rfl, rfl⟩
    rfl

theorem behind?_append (state : ScanState) (s t : List Char) :
    state.behind? (s ++ t) = (state.behind? s).bind fun next => next.behind? t := by
  induction s generalizing state with
  | nil => rfl
  | cons c rest ih =>
    cases read : state.step? c with
    | none => simp [behind?, read]
    | some next => simp [behind?, read, ih]

end ScanState

/-- Whether a brace behind the text closes the expression that the text is the body of, and
    no brace in the text does so. -/
def Closes (body : List Char) : Prop := (ScanState.open 0).behind? body = some (.open 0)

/-- The brace that closes an expression is the first one outside quotes and brackets. -/
theorem Closes.first {body before after : List Char} (closes : Closes body)
    (earlier : body = before ++ '\x7d' :: after) : ¬ Closes before := by
  intro already
  have none : ScanState.step? (.open 0) '\x7d' = none := ScanState.step?_eq_none_iff.mpr ⟨rfl, rfl⟩
  rw [Closes, earlier, ScanState.behind?_append, already, Option.bind_some, ScanState.behind?,
    none] at closes
  cases closes

theorem takeBody?_eq_some_iff {state : ScanState} {s body after : List Char} :
    takeBody? state s = some (body, after) ↔
      s = body ++ '\x7d' :: after ∧ state.behind? body = some (.open 0) := by
  induction s generalizing state body with
  | nil => simp [takeBody?]
  | cons c rest ih =>
    cases read : state.step? c with
    | none =>
      obtain ⟨rfl, rfl⟩ := ScanState.step?_eq_none_iff.mp read
      cases body with
      | nil => simp [takeBody?, read, ScanState.behind?, eq_comm]
      | cons d body =>
        simp only [takeBody?, read, Option.some.injEq, Prod.mk.injEq, List.cons_append,
          List.cons.injEq, ScanState.behind?]
        constructor
        · rintro ⟨⟨⟩, _⟩
        · rintro ⟨⟨rfl, _⟩, behind⟩
          rw [read] at behind
          cases behind
    | some next =>
      simp only [takeBody?, read, Option.map_eq_some_iff, Prod.mk.injEq, Prod.exists]
      constructor
      · rintro ⟨body, _, taken, rfl, rfl⟩
        obtain ⟨split, behind⟩ := ih.mp taken
        refine ⟨congrArg (c :: ·) split, ?_⟩
        rw [ScanState.behind?, read]
        exact behind
      · rintro ⟨split, behind⟩
        cases body with
        | nil =>
          -- the brace would have closed the expression
          obtain ⟨rfl, _⟩ := List.cons.inj split
          have closed : state.step? '\x7d' = none :=
            ScanState.step?_eq_none_iff.mpr ⟨Option.some.inj behind, rfl⟩
          rw [closed] at read
          cases read
        | cons d body =>
          obtain ⟨rfl, rfl⟩ := List.cons.inj split
          rw [ScanState.behind?, read] at behind
          exact ⟨body, after, ih.mpr ⟨rfl, behind⟩, rfl, rfl⟩

theorem takeBody?_eq_none_iff {s : List Char} :
    takeBody? (.open 0) s = none ↔ ∀ body after, s = body ++ '\x7d' :: after → ¬ Closes body := by
  constructor
  · intro missing body after split closes
    have taken := takeBody?_eq_some_iff.mpr ⟨split, closes⟩
    rw [missing] at taken
    cases taken
  · intro never
    rw [Option.eq_none_iff_forall_ne_some]
    rintro ⟨body, after⟩ taken
    obtain ⟨split, closes⟩ := takeBody?_eq_some_iff.mp taken
    exact never body after split closes

/-! ### Outside of quotes and inside -/

namespace ScanState

theorem step?_open (depth : Nat) (c : Char) :
    (ScanState.open depth).step? c =
      if isQuote c then some (.quoted c depth)
      else if isOpener c then some (.open (depth + 1))
      else if c = '\x7d' && depth = 0 then none
      else if isCloser c then some (.open (depth - 1))
      else some (.open depth) :=
  rfl

theorem step?_of_quote (opens : isQuote c = true) :
    (ScanState.open depth).step? c = some (.quoted c depth) := by
  rw [step?_open, if_pos opens]

theorem step?_of_plain (plain : isQuote c = false) :
    (ScanState.open depth).step? c =
      if c = '\x7d' ∧ depth = 0 then none else some (.open (deepen depth c)) := by
  rw [step?_open, plain]
  cases opens : isOpener c with
  | true =>
    have other : c ≠ '\x7d' := by
      rintro rfl
      cases opens
    simp [deepen, opens, other]
  | false =>
    by_cases here : c = '\x7d' ∧ depth = 0
    · simp [here]
    · cases closes : isCloser c <;> simp [deepen, opens, closes, here]

theorem behind?_quoted (opens : isQuote quote = true) (closed : Quoted quote s) (t : List Char) :
    (ScanState.quoted quote depth).behind? (s ++ quote :: t) =
      (ScanState.open depth).behind? t := by
  have solid : quote ≠ '\\' := by
    rintro rfl
    cases opens
  induction closed with
  | nil => simp [behind?, step?, solid]
  | char other plain _ ih => simpa [behind?, step?, other, plain] using ih
  | escaped _ ih => simpa [behind?, step?] using ih

/-- Behind a text whose quotes are closed, the scanner knows the depth, unless it has stopped. -/
theorem behind?_of_outside (outside : Outside s bare) (depth : Nat) :
    (ScanState.open depth).behind? s = (depth? depth bare).map .open := by
  induction outside generalizing depth with
  | nil => rfl
  | @char c s bare plain _ ih =>
    rw [behind?, step?_of_plain plain, depth?]
    split
    · rfl
    · exact ih _
  | quoted opens closed _ ih =>
    rw [behind?, step?_of_quote opens, Option.bind_some, behind?_quoted opens closed]
    exact ih depth

/-- What a text has to be for the scanner to come out of it with all quotes closed. -/
def Reads : ScanState → List Char → Prop
  | .open _, s => ∃ bare, Outside s bare
  | .quoted quote _, s =>
    ∃ inside rest bare, s = inside ++ quote :: rest ∧ Quoted quote inside ∧ Outside rest bare
  | .escaped quote _, s =>
    ∃ c inside rest bare, s = c :: (inside ++ quote :: rest) ∧ Quoted quote inside ∧
      Outside rest bare

theorem reads_of_behind? {state : ScanState} (passed : state.behind? s = some (.open depth)) :
    state.Reads s := by
  induction s generalizing state with
  | nil =>
    obtain rfl := Option.some.inj passed
    exact ⟨[], .nil⟩
  | cons c s ih =>
    obtain ⟨next, step, passed⟩ := Option.bind_eq_some_iff.mp passed
    have reads := ih passed
    cases state with
    | «open» depth =>
      cases quote : isQuote c with
      | true =>
        rw [step?_of_quote quote] at step
        obtain rfl := Option.some.inj step
        obtain ⟨inside, rest, bare, rfl, closed, outside⟩ := reads
        exact ⟨bare, .quoted quote closed outside⟩
      | false =>
        rw [step?_of_plain quote] at step
        split at step
        · cases step
        · obtain rfl := Option.some.inj step
          obtain ⟨bare, outside⟩ := reads
          exact ⟨c :: bare, .char quote outside⟩
    | quoted quote depth =>
      simp only [step?] at step
      split at step
      · rename_i backslash
        obtain rfl := Option.some.inj step
        obtain ⟨d, inside, rest, bare, rfl, closed, outside⟩ := reads
        exact ⟨'\\' :: d :: inside, rest, bare, by rw [backslash]; rfl, .escaped closed, outside⟩
      · rename_i plain
        split at step
        · rename_i closes
          obtain rfl := Option.some.inj step
          obtain ⟨bare, outside⟩ := reads
          exact ⟨[], s, bare, by rw [closes]; rfl, .nil, outside⟩
        · rename_i other
          obtain rfl := Option.some.inj step
          obtain ⟨inside, rest, bare, rfl, closed, outside⟩ := reads
          exact ⟨c :: inside, rest, bare, rfl, .char other plain closed, outside⟩
    | escaped quote depth =>
      obtain rfl := Option.some.inj step
      obtain ⟨inside, rest, bare, rfl, closed, outside⟩ := reads
      exact ⟨c, inside, rest, bare, rfl, closed, outside⟩

theorem exists_closes_of_behind? {state : ScanState} (stopped : state.behind? s = none) :
    ∃ before after, s = before ++ '\x7d' :: after ∧ state.behind? before = some (.open 0) := by
  induction s generalizing state with
  | nil => cases stopped
  | cons c s ih =>
    cases step : state.step? c with
    | none =>
      obtain ⟨rfl, rfl⟩ := step?_eq_none_iff.mp step
      exact ⟨[], s, rfl, rfl⟩
    | some next =>
      rw [behind?, step, Option.bind_some] at stopped
      obtain ⟨before, after, rfl, passed⟩ := ih stopped
      refine ⟨c :: before, after, rfl, ?_⟩
      rw [behind?, step, Option.bind_some, passed]

end ScanState

/-! ### The first brace that can close -/

theorem Closes.isFree (closes : Closes s) : IsFree s := by
  obtain ⟨bare, outside⟩ : ∃ bare, Outside s bare := ScanState.reads_of_behind? closes
  refine ⟨bare, outside, ?_⟩
  rw [Closes, ScanState.behind?_of_outside outside] at closes
  obtain ⟨depth, counted, same⟩ := Option.map_eq_some_iff.mp closes
  rw [foldl_deepen counted]
  exact ScanState.open.inj same

/-- If a brace behind a text can close an expression, it does so, or another has done so in the
    text. -/
theorem IsFree.closes_or (free : IsFree s) :
    Closes s ∨ ∃ before after, s = before ++ '\x7d' :: after ∧ Closes before := by
  obtain ⟨bare, outside, level⟩ := free
  have passed := ScanState.behind?_of_outside outside 0
  cases counted : depth? 0 bare with
  | none =>
    rw [counted] at passed
    exact .inr (ScanState.exists_closes_of_behind? passed)
  | some depth =>
    rw [counted, ← foldl_deepen counted, level] at passed
    exact .inl passed

/-- The scanner takes the first brace that can close. -/
theorem closes_iff : Closes s ↔ Ends s := by
  constructor
  · intro closes
    refine ⟨closes.isFree, ?_⟩
    intro before after split free
    rcases free.closes_or with already | ⟨earlier, between, rfl, already⟩
    · exact closes.first split already
    · rw [List.append_assoc] at split
      exact closes.first split already
  · rintro ⟨free, first⟩
    rcases free.closes_or with closes | ⟨earlier, between, split, already⟩
    · exact closes
    · exact absurd already.isFree (first earlier between split)

theorem takeBody?_open_eq_some_iff {body after : List Char} :
    takeBody? (.open 0) s = some (body, after) ↔ s = body ++ '\x7d' :: after ∧ Ends body :=
  takeBody?_eq_some_iff.trans (and_congr_right fun _ => closes_iff)

/-- The scanner finds no brace only if there is none that can close. -/
theorem takeBody?_open_eq_none_iff :
    takeBody? (.open 0) s = none ↔
      ∀ body after, s = body ++ '\x7d' :: after → ¬ IsFree body := by
  rw [takeBody?_eq_none_iff]
  constructor
  · intro never body after split free
    rcases free.closes_or with closes | ⟨earlier, between, rfl, closes⟩
    · exact never body after split closes
    · rw [List.append_assoc] at split
      exact never earlier _ split closes
  · exact fun never body after split closes => never body after split closes.isFree

theorem IsBalanced.closes (balanced : IsBalanced s) : Closes s := by
  obtain ⟨bare, outside, same, within⟩ := balanced
  have counted : depth? 0 bare = some 0 := by
    rw [depth?_of_balanced (by simpa using within), same, Nat.zero_add, Nat.sub_self]
  rw [Closes, ScanState.behind?_of_outside outside, counted]
  rfl

/-! ### Offsets of braces -/

/-- The length in bytes of the expression that a text starts with. -/
def expressionLength? (text : String) : Option Nat :=
  (takeBody? (.open 0) text.toList).map fun taken => String.utf8Len taken.1

/-- Whether there is a brace at an offset in bytes, outside of quotes and with no bracket open. -/
def CanCloseAt (text : String) (n : Nat) : Prop :=
  ∃ before after, text.toList = before ++ '\x7d' :: after ∧ String.utf8Len before = n ∧
    IsFree before

theorem expressionLength?_eq_some_iff {text : String} {n : Nat} :
    expressionLength? text = some n ↔
      ∃ before after, text.toList = before ++ '\x7d' :: after ∧ String.utf8Len before = n ∧
        Closes before := by
  simp only [expressionLength?, Option.map_eq_some_iff, Prod.exists, takeBody?_eq_some_iff]
  constructor
  · rintro ⟨before, after, ⟨split, closes⟩, rfl⟩
    exact ⟨before, after, split, rfl, closes⟩
  · rintro ⟨before, after, split, rfl, closes⟩
    exact ⟨before, after, ⟨split, closes⟩, rfl⟩

/-- Of two braces in a text, the one at the smaller offset stands before the other. -/
theorem exists_between {before after before' after' : List Char}
    (same : before ++ '\x7d' :: after = before' ++ '\x7d' :: after')
    (less : String.utf8Len before < String.utf8Len before') :
    ∃ between, before' = before ++ '\x7d' :: between := by
  rcases List.append_eq_append_iff.mp same with ⟨between, rfl, split⟩ | ⟨between, rfl, _⟩
  · cases between with
    | nil =>
      rw [List.append_nil] at less
      exact absurd less (Nat.lt_irrefl _)
    | cons c between =>
      obtain ⟨rfl, _⟩ := List.cons.inj split
      exact ⟨between, rfl⟩
  · rw [String.utf8Len_append] at less
    omega

theorem canCloseAt_of_length {text : String} {n : Nat} (found : expressionLength? text = some n) :
    CanCloseAt text n := by
  obtain ⟨before, after, split, length, closes⟩ := expressionLength?_eq_some_iff.mp found
  exact ⟨before, after, split, length, closes.isFree⟩

theorem length_le_of_canCloseAt {text : String} {n : Nat} (can : CanCloseAt text n) :
    ∃ m ≤ n, expressionLength? text = some m := by
  obtain ⟨before, after, split, rfl, free⟩ := can
  rcases free.closes_or with closes | ⟨earlier, between, rfl, closes⟩
  · exact ⟨_, Nat.le_refl _, expressionLength?_eq_some_iff.mpr ⟨_, _, split, rfl, closes⟩⟩
  · refine ⟨String.utf8Len earlier, ?_, ?_⟩
    · rw [String.utf8Len_append]
      exact Nat.le_add_right _ _
    · rw [List.append_assoc] at split
      exact expressionLength?_eq_some_iff.mpr ⟨_, _, split, rfl, closes⟩

/-- An expression ends at the first brace that can close it.

    A body whose quotes are closed and whose brackets are balanced is found as a whole, whatever
    follows its brace.  And for any text, what is found is the least offset of a brace that is
    outside of quotes and where no bracket is open, and nothing is found only if there is no such
    brace. -/
theorem expressionLength?_by_scan :
    (∀ body rest : String, IsBalanced body.toList →
      expressionLength? (body ++ "\x7d" ++ rest) = some body.utf8ByteSize) ∧
    ∀ text : String,
      (∀ n, expressionLength? text = some n ↔
        CanCloseAt text n ∧ ∀ m < n, ¬ CanCloseAt text m) ∧
      (expressionLength? text = none ↔ ∀ n, ¬ CanCloseAt text n) := by
  refine ⟨?balanced, fun text => ⟨fun n => ⟨?found, ?first⟩, ?missing⟩⟩
  case balanced =>
    intro body rest balanced
    refine expressionLength?_eq_some_iff.mpr ⟨body.toList, rest.toList, ?_, ?_, balanced.closes⟩
    · simp
    · exact String.utf8Len_toList body
  case found =>
    intro found
    refine ⟨canCloseAt_of_length found, ?_⟩
    rintro m less ⟨before, after, split, rfl, free⟩
    obtain ⟨body, behind, split', rfl, closes⟩ := expressionLength?_eq_some_iff.mp found
    obtain ⟨between, earlier⟩ := exists_between (split.symm.trans split') less
    exact (closes_iff.mp closes).2 before between earlier free
  case first =>
    rintro ⟨can, first⟩
    obtain ⟨m, le, found⟩ := length_le_of_canCloseAt can
    rcases Nat.eq_or_lt_of_le le with rfl | less
    · exact found
    · exact absurd (canCloseAt_of_length found) (first m less)
  case missing =>
    constructor
    · intro missing n can
      obtain ⟨m, _, found⟩ := length_le_of_canCloseAt can
      rw [missing] at found
      cases found
    · intro never
      rw [Option.eq_none_iff_forall_ne_some]
      intro n found
      exact never n (canCloseAt_of_length found)

/-- A brace in quotes does not end an expression, and brackets of different kinds close each
    other. -/
theorem expressionLength?_by_scan_of_mixed_brackets :
    IsBalanced "f[\x7b'\x7d' ~ \"\\\"\")\x7d".toList ∧
      expressionLength? ("f[\x7b'\x7d' ~ \"\\\"\")\x7d" ++ "\x7d" ++ " \x7d") = some 15 := by
  have balanced : IsBalanced "f[\x7b'\x7d' ~ \"\\\"\")\x7d".toList := by
    have within : ∀ start ∈ "f[\x7b ~ )\x7d".toList.inits,
        start.countP isCloser ≤ start.countP isOpener := by
      decide
    refine ⟨"f[\x7b ~ )\x7d".toList, ?_, by decide, ?_⟩
    · have brace : Quoted '\'' ['\x7d'] := .char (by decide) (by decide) .nil
      have quote : Quoted '"' ['\\', '"'] := .escaped .nil
      exact .char rfl <| .char rfl <| .char rfl <| .quoted rfl brace <| .char rfl <|
        .char rfl <| .char rfl <| .quoted rfl quote <| .char rfl <| .char rfl .nil
    · intro start before
      exact within start ((List.mem_inits _ _).mpr before)
  exact ⟨balanced, expressionLength?_by_scan.1 _ _ balanced⟩

end EventAlerts.Render
