/-
  EventAlerts/Proofs/Occurrence/Normal.lean
  =========================================
  **What the normal form of a command keeps** — all but the namespace of its first word, and
  in the arguments all but the spaces at the end.

  A text is cut at its first space here (`beforeSpace`, `fromSpace`).  The normal form is
  about these two parts only (`normalize_eq`): it drops the first part up to its last
  colon, and cuts the second into the arguments.  Cutting is undone by joining, so dropping the
  empty arguments at the end is dropping the spaces there (`intercalate_rdropWhile`).
-/
import EventAlerts.Proofs.Occurrence.Spelling
import EventAlerts.Render.Context
import Mathlib.Data.List.DropRight
import Mathlib.Data.List.Induction

namespace EventAlerts

/-! ### Pieces -/

namespace Text

variable {p : Char → Bool} {s piece : List Char} {mark : Char}

theorem splitWhere_eq_splitOnP (p : Char → Bool) (s : List Char) :
    splitWhere p s = s.splitOnP p := by
  induction s with
  | nil => rfl
  | cons c rest ih =>
    rw [splitWhere, List.splitOnP_cons_eq_if_modifyHead, ih]
    obtain ⟨first, others, split⟩ := List.exists_cons_of_ne_nil (List.splitOnP_ne_nil p rest)
    rw [split]
    rfl

/-- Joining the pieces gives the text again. -/
theorem intercalate_splitWhere (mark : Char) (s : List Char) :
    [mark].intercalate (splitWhere (· = mark) s) = s := by
  have pieces : splitWhere (· = mark) s = s.splitOn mark := by
    rw [splitWhere_eq_splitOnP, List.splitOn]
    congr
  rw [pieces, List.intercalate_splitOn]

theorem not_of_mem_splitWhere (listed : piece ∈ splitWhere p s) : ∀ c ∈ piece, p c = false := by
  induction s generalizing piece with
  | nil =>
    rw [List.mem_singleton.mp listed]
    exact nofun
  | cons c rest ih =>
    rw [splitWhere] at listed
    split at listed
    · rcases List.mem_cons.mp listed with rfl | later
      · exact nofun
      · exact ih later
    · rename_i other
      obtain ⟨first, others, split⟩ := List.exists_cons_of_ne_nil (splitWhere_ne_nil p rest)
      rw [split, consHead] at listed
      rw [split] at ih
      rcases List.mem_cons.mp listed with rfl | later
      · exact List.forall_mem_cons.mpr ⟨eq_false_of_ne_true other, ih List.mem_cons_self⟩
      · exact ih (List.mem_cons_of_mem _ later)

theorem intercalate_concat {pieces : List (List Char)} (some : pieces ≠ [])
    (sep last : List Char) :
    sep.intercalate (pieces ++ [last]) = sep.intercalate pieces ++ sep ++ last := by
  induction pieces with
  | nil => exact absurd rfl some
  | cons first others ih =>
    cases others with
    | nil => simp [List.intercalate]
    | cons second others =>
      have later := ih (List.cons_ne_nil _ _)
      simp only [List.cons_append] at later ⊢
      rw [List.intercalate_cons_cons, List.intercalate_cons_cons, later]
      simp only [List.append_assoc]

/-- Without its empty last pieces, a joined text ends before its last marks. -/
theorem intercalate_rdropWhile {pieces : List (List Char)}
    (whole : ∀ piece ∈ pieces, mark ∉ piece) :
    [mark].intercalate (pieces.rdropWhile List.isEmpty) =
      ([mark].intercalate pieces).rdropWhile (· = mark) := by
  induction pieces using List.reverseRecOn with
  | nil => rfl
  | append_singleton pieces last ih =>
    obtain ⟨others, here⟩ := List.forall_mem_append.mp whole
    have apart := List.forall_mem_singleton.mp here
    induction last using List.reverseRecOn with
    | nil =>
      rw [List.rdropWhile_concat_pos _ _ _ rfl, ih others]
      by_cases none : pieces = []
      · rw [none]
        rfl
      · rw [intercalate_concat none, List.append_nil, List.rdropWhile_concat_pos _ _ _ (by simp)]
    | append_singleton letters c _ =>
      have other : c ≠ mark := by
        rintro rfl
        exact apart (by simp)
      have ends : [mark].intercalate (pieces ++ [letters ++ [c]]) =
          ([mark].intercalate pieces ++ (if pieces = [] then [] else [mark]) ++ letters) ++ [c] := by
        by_cases none : pieces = []
        · simp [none]
        · simp [intercalate_concat none, none]
      rw [List.rdropWhile_concat_neg _ _ _ (by simp), ends,
        List.rdropWhile_concat_neg _ _ _ (by simpa using other)]

end Text

namespace Command

variable {mark : Char} {s before far : List Char}

/-! ### The two parts of a text -/

/-- What stands before the first space. -/
def beforeSpace (t : String) : List Char := t.toList.takeWhile (· ≠ ' ')

/-- What stands from the first space on. -/
def fromSpace (t : String) : List Char := t.toList.dropWhile (· ≠ ' ')

theorem ofList_split (t : String) : String.ofList (beforeSpace t ++ fromSpace t) = t := by
  rw [beforeSpace, fromSpace, List.takeWhile_append_dropWhile, String.ofList_toList]

theorem space_not_mem_beforeSpace (t : String) : ' ' ∉ beforeSpace t := by
  intro member
  simpa using List.mem_takeWhile_imp member

theorem head?_fromSpace (t : String) : ∀ c ∈ (fromSpace t).head?, c = ' ' := by
  intro c first
  simpa using Text.not_of_head?_dropWhile first

theorem space_mem_iff (t : String) : ' ' ∈ t.toList ↔ fromSpace t ≠ [] := by
  rw [fromSpace, ne_eq, List.dropWhile_eq_nil_iff]
  simp

theorem parts_of_split (none : ' ' ∉ before) (spaced : ∀ c ∈ far.head?, c = ' ') :
    beforeSpace (String.ofList (before ++ far)) = before ∧
      fromSpace (String.ofList (before ++ far)) = far := by
  have passed : ∀ c ∈ before, decide (c ≠ ' ') = true := fun c member =>
    decide_eq_true (ne_of_mem_of_not_mem member none)
  rw [beforeSpace, fromSpace, String.toList_ofList, List.takeWhile_append_of_pos passed,
    List.dropWhile_append_of_pos passed]
  cases far with
  | nil => simp
  | cons c after =>
    obtain rfl := spaced c rfl
    simp

/-! ### The namespace -/

theorem mark_not_mem_afterLast (mark : Char) (s : List Char) : mark ∉ afterLast mark s := by
  intro member
  simpa using List.mem_takeWhile_imp (List.mem_reverse.mp member)

theorem exists_append_afterLast (mark : Char) (s : List Char) :
    ∃ dropped, s = dropped ++ afterLast mark s ∧
      (dropped = [] ∨ dropped.getLast? = some mark) := by
  by_cases listed : mark ∈ s
  · obtain ⟨after, before, split, none⟩ := List.eq_append_cons_of_mem (List.mem_reverse.mpr listed)
    have cut : s = (before.reverse ++ [mark]) ++ after.reverse := by
      rw [← s.reverse_reverse, split]
      simp
    have last : afterLast mark (before.reverse ++ [mark]) = [] := by
      simp [afterLast]
    refine ⟨before.reverse ++ [mark], ?_, .inr (by simp)⟩
    have none : mark ∉ after.reverse := mt List.mem_reverse.mp none
    rw [cut, afterLast_append_of_not_mem none, last, List.nil_append]
  · exact ⟨[], (afterLast_of_not_mem listed).symm, .inl rfl⟩

/-! ### The arguments -/

theorem space_not_mem_of_mem_splitWhere {piece : List Char}
    (listed : piece ∈ Text.splitWhere (· = ' ') s) : ' ' ∉ piece := by
  intro member
  simpa using Text.not_of_mem_splitWhere listed ' ' member

theorem argsOf_eq (s : List Char) :
    argsOf s = (Text.splitWhere (· = ' ') s).rdropWhile List.isEmpty :=
  rfl

theorem space_not_mem_of_mem_argsOf {arg : List Char} (listed : arg ∈ argsOf s) : ' ' ∉ arg :=
  space_not_mem_of_mem_splitWhere ((List.rdropWhile_prefix List.isEmpty _).subset listed)

theorem getLast?_argsOf (s : List Char) : (argsOf s).getLast? ≠ some [] := by
  intro last
  have nonempty : argsOf s ≠ [] := by
    intro none
    rw [none] at last
    cases last
  have empty : (argsOf s).getLast nonempty = [] :=
    Option.some.inj ((List.getLast?_eq_some_getLast nonempty).symm.trans last)
  have kept := List.rdropWhile_last_not List.isEmpty (Text.splitWhere (· = ' ') s) nonempty
  exact kept (by rw [List.isEmpty_iff]; exact empty)

/-- Joined by spaces, the arguments are the text up to the spaces at its end. -/
theorem intercalate_argsOf (s : List Char) :
    [' '].intercalate (argsOf s) = s.rdropWhile (· = ' ') := by
  rw [argsOf_eq, Text.intercalate_rdropWhile fun _ => space_not_mem_of_mem_splitWhere,
    Text.intercalate_splitWhere]

/-! ### The normal form -/

/-- The normal form in the two parts of any text. -/
theorem normalize_eq (t : String) :
    normalize t =
      { text := String.ofList (afterLast ':' (beforeSpace t) ++ fromSpace t)
        args := (argsOf (fromSpace t).tail).map String.ofList } := by
  conv_lhs => rw [← ofList_split t]
  exact normalize_of_split (space_not_mem_beforeSpace t) (head?_fromSpace t)

theorem parts_normalize (t : String) :
    beforeSpace (normalize t).text = afterLast ':' (beforeSpace t) ∧
      fromSpace (normalize t).text = fromSpace t := by
  rw [normalize_eq]
  refine parts_of_split (fun member => ?_) (head?_fromSpace t)
  exact space_not_mem_beforeSpace t (mem_of_mem_afterLast member)

theorem args_normalize (t : String) :
    (normalize t).args = (argsOf (fromSpace t).tail).map String.ofList :=
  congrArg Command.args (normalize_eq t)

theorem space_not_mem_of_mem_args_normalize {t arg : String} (listed : arg ∈ (normalize t).args) :
    ' ' ∉ arg.toList := by
  rw [args_normalize] at listed
  obtain ⟨letters, inside, rfl⟩ := List.mem_map.mp listed
  rw [String.toList_ofList]
  exact space_not_mem_of_mem_argsOf inside

theorem getLast?_args_normalize (t : String) : (normalize t).args.getLast? ≠ some "" := by
  rw [args_normalize, List.getLast?_map]
  intro last
  obtain ⟨letters, last, empty⟩ := Option.map_eq_some_iff.mp last
  rw [String.ofList_eq_empty_iff] at empty
  rw [empty] at last
  exact getLast?_argsOf _ last

theorem intercalate_args_normalize (t : String) :
    (" ".intercalate (normalize t).args).toList = (fromSpace t).tail.rdropWhile (· = ' ') := by
  have letters : (normalize t).args.map String.toList = argsOf (fromSpace t).tail := by
    rw [args_normalize, List.map_map]
    simp [Function.comp_def]
  rw [String.toList_intercalate, letters]
  exact intercalate_argsOf _

theorem normalize_text_eq_self (t : String) : normalize (normalize t).text = normalize t := by
  obtain ⟨word, rest⟩ := parts_normalize t
  rw [normalize_eq (normalize t).text, word, rest,
    afterLast_of_not_mem (mark_not_mem_afterLast ':' _)]
  exact (normalize_eq t).symm

/-- Normalizing a command keeps it, but for the namespace.

    From the first space on the text stays as it is.  What stands before it is cut behind its
    last colon.  The arguments hold no space, the last one is not empty, and with single spaces
    between them they are what follows the first space, up to the spaces at the end.  A
    command in its normal form is its own normal form. -/
theorem normalize_keeps_all_but_namespace (t : String) :
    ((' ' ∈ (normalize t).text.toList ↔ ' ' ∈ t.toList) ∧
      fromSpace (normalize t).text = fromSpace t) ∧
    (':' ∉ beforeSpace (normalize t).text ∧
      ∃ dropped, beforeSpace t = dropped ++ beforeSpace (normalize t).text ∧
        (dropped = [] ∨ dropped.getLast? = some ':')) ∧
    ((∀ arg ∈ (normalize t).args, ' ' ∉ arg.toList) ∧
      (normalize t).args.getLast? ≠ some "" ∧
      (" ".intercalate (normalize t).args).toList = (fromSpace t).tail.rdropWhile (· = ' ') ∧
      ∀ context : RenderContext, context.args = (normalize t).args →
        context.allArgs.toList = (fromSpace t).tail.rdropWhile (· = ' ')) ∧
    normalize (normalize t).text = normalize t := by
  obtain ⟨word, rest⟩ := parts_normalize t
  refine ⟨⟨?spaced, rest⟩, ⟨?unmarked, ?dropped⟩,
    ⟨fun _ => space_not_mem_of_mem_args_normalize, getLast?_args_normalize t,
      intercalate_args_normalize t, ?all⟩, normalize_text_eq_self t⟩
  case spaced => rw [space_mem_iff, space_mem_iff, rest]
  case unmarked =>
    rw [word]
    exact mark_not_mem_afterLast ':' _
  case dropped =>
    rw [word]
    exact exists_append_afterLast ':' _
  case all =>
    intro context same
    rw [RenderContext.allArgs, same]
    exact intercalate_args_normalize t

/-- Empty arguments are kept but for those at the end. -/
example : normalize "a:b:say  x:y  z  " = ⟨"say  x:y  z  ", ["", "x:y", "", "z"]⟩ := by
  decide +kernel

end Command

end EventAlerts
