/-
  EventAlerts/Unicode/Ranges.lean
  ===============================
  **Character classes as range tables** — a class of characters is a list of code
  point ranges, in increasing order, and a character belongs to the class when one
  of the ranges holds its code point.

  `inRanges_iff` is the reading every use relies on: the search that stops at the
  first range beyond the character decides membership in some range of the table.
-/

namespace EventAlerts.Unicode

/-- A table of inclusive code point ranges. -/
abbrev Ranges := List (Nat × Nat)

/-- Whether a range of the table holds `n`. -/
def Ranges.has (table : Ranges) (n : Nat) : Bool :=
  table.any fun r => r.1 ≤ n && n ≤ r.2

/-- Whether a range of the table holds the character. -/
def inRanges (table : Ranges) (c : Char) : Bool := table.has c.toNat

theorem inRanges_iff {table : Ranges} {c : Char} :
    inRanges table c = true ↔ ∃ r ∈ table, r.1 ≤ c.toNat ∧ c.toNat ≤ r.2 := by
  simp [inRanges, Ranges.has]

end EventAlerts.Unicode
