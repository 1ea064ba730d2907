/-
  EventAlerts/Proofs/Render/Expansion.lean
  ========================================
  **The order of a table** — when the order in which entries are expanded shows in the text.

  Emotes and the host's tokens are expanded one entry after the other, each in the text that
  the entries before have left.  So an entry that is expanded first can take a mark from the
  token of another one, and its value can hold or complete the token of another one.  Nothing
  else can make a difference: in a clear table, whose values neither hold a token of another
  entry nor begin or end with a character of one, every order of the entries gives the same
  text, as long as no two tokens in it share a mark (`expandAll_perm`).  The last condition is
  not about odd tables.  Whatever a clear table is, two of its tokens that share a mark are
  told apart by the order (`expandAll_sharing`).
-/
import EventAlerts.Proofs.Text.Replacing
import EventAlerts.Render.Message
import Mathlib.Data.List.Basic

namespace EventAlerts.Render

open EventAlerts.Text (replaceFrom KeepsClear BeginsWithin)

/-! ### Tokens -/

/-- A name between two marks. -/
def token (mark : Char) (name : String) : List Char := mark :: (name.toList ++ [mark])

/-- Two names, with one mark between them that belongs to both tokens. -/
def sharing (mark : Char) (a b : String) : List Char :=
  mark :: (a.toList ++ mark :: (b.toList ++ [mark]))

/-- The text with the token of an entry replaced by its value. -/
def expandOne (mark : Char) (e : String × String) (s : List Char) : List Char :=
  replaceFrom (token mark e.1) e.2.toList 0 s

/-- The text after all entries of a table, one after the other. -/
def expandAll (mark : Char) (table : List (String × String)) (s : List Char) : List Char :=
  table.foldl (fun s e => expandOne mark e s) s

variable {mark : Char} {a b : String}

theorem token_ne_nil (mark : Char) (name : String) : token mark name ≠ [] :=
  List.cons_ne_nil mark _

theorem sharing_eq (mark : Char) (a b : String) :
    sharing mark a b = token mark a ++ (b.toList ++ [mark]) := by
  simp [sharing, token]

theorem sharing_eq_append (mark : Char) (a b : String) :
    sharing mark a b = mark :: a.toList ++ token mark b := by
  simp [sharing, token]

theorem toList_foldl_replace {wrap : String → String}
    (wraps : ∀ name, (wrap name).toList = token mark name) (table : List (String × String))
    (s : String) :
    (table.foldl (fun text e => Text.replace text (wrap e.1) e.2) s).toList =
      expandAll mark table s.toList := by
  induction table generalizing s with
  | nil => rfl
  | cons e rest ih =>
    have one : (Text.replace s (wrap e.1) e.2).toList = expandOne mark e s.toList := by
      simp [Text.replace, Text.replaceAll, expandOne, wraps, token]
    rw [List.foldl_cons, ih, one]
    rfl

theorem toList_translateEmotes (d : Directory) (s : String) :
    (d.translateEmotes s).toList = expandAll ':' d.emotes s.toList :=
  toList_foldl_replace (fun name => by simp [Directory.emote, token]) d.emotes s

theorem toList_expandTokens (table : List (String × String)) (s : String) :
    (FixedEnvironment.expandTokens table s).toList = expandAll '%' table s.toList :=
  toList_foldl_replace (fun name => by simp [FixedEnvironment.token, token]) table s

/-! ### Marks -/

theorem eq_of_append_mark {x y p q : List Char} (here : mark ∉ x) (there : mark ∉ y)
    (same : x ++ mark :: p = y ++ mark :: q) : x = y ∧ p = q := by
  induction x generalizing y with
  | nil =>
    cases y with
    | nil => exact ⟨rfl, (List.cons.inj same).2⟩
    | cons c y => exact absurd ((List.cons.inj same).1 ▸ List.mem_cons_self) there
  | cons c x ih =>
    cases y with
    | nil => exact absurd ((List.cons.inj same).1 ▸ List.mem_cons_self) here
    | cons d y =>
      obtain ⟨rfl, others⟩ := List.cons.inj same
      obtain ⟨rfl, behind⟩ :=
        ih (mt (List.mem_cons_of_mem c) here) (mt (List.mem_cons_of_mem c) there) others
      exact ⟨rfl, behind⟩

theorem token_prefix_iff {x p : List Char} (outer : mark ∉ a.toList) (inner : mark ∉ x) :
    token mark a <+: mark :: (x ++ mark :: p) ↔ a.toList = x := by
  simp only [token, List.cons_prefix_cons, true_and]
  constructor
  · rintro ⟨rest, same⟩
    rw [List.append_assoc, List.singleton_append] at same
    exact (eq_of_append_mark outer inner same).1
  · rintro rfl
    exact ⟨p, by simp⟩

/-- A token that begins within another one shares a mark with it. -/
theorem sharing_of_beginsWithin {s : List Char} (first : mark ∉ a.toList)
    (second : mark ∉ b.toList) (apart : a ≠ b)
    (within : BeginsWithin (token mark b) (token mark a) s) : sharing mark a b <:+: s := by
  obtain ⟨before, front, back, after, rfl, split, some, begins⟩ := within
  cases front with
  | nil =>
    rw [← show token mark a = back from split] at begins
    have same : token mark b <+: mark :: (a.toList ++ mark :: after) := by
      simpa [token] using begins
    exact absurd (String.toList_inj.mp ((token_prefix_iff second first).mp same)).symm apart
  | cons c front =>
    obtain ⟨d, back, rfl⟩ := List.exists_cons_of_ne_nil some
    obtain ⟨rfl, rest, behind⟩ := List.cons_prefix_cons.mp begins
    -- the only mark of a token behind its first one is its last
    obtain ⟨rfl, -, rfl⟩ := (List.append_cons_inj_of_notMem first List.not_mem_nil).mp
      (List.cons.inj split).2
    have after_eq : after = b.toList ++ mark :: rest := by simpa using behind.symm
    exact ⟨before, rest, by simp [after_eq, sharing, token]⟩

/-- A text with one mark holds no token. -/
theorem absent_of_one_mark {s : List Char} (one : s.count mark ≤ 1) (name : String) :
    ¬ token mark name <:+: s := by
  intro occurs
  have both := occurs.sublist.count_le mark
  simp only [token, List.count_cons_self, List.count_append, List.count_nil] at both
  omega

/-! ### Clear tables -/

/-- A table whose values cannot be taken for a part of another entry's token. -/
structure Clear (mark : Char) (table : List (String × String)) : Prop where
  distinct : (table.map Prod.fst).Nodup
  unmarked : ∀ e ∈ table, mark ∉ e.1.toList
  values : ∀ e ∈ table, ∀ other ∈ table, e.1 ≠ other.1 →
    KeepsClear e.2.toList (token mark other.1)

/-- No two tokens of a table share a mark in a text. -/
def Apart (mark : Char) (table : List (String × String)) (s : List Char) : Prop :=
  ∀ a ∈ table, ∀ b ∈ table, a.1 ≠ b.1 → ¬ sharing mark a.1 b.1 <:+: s

instance (mark : Char) (table : List (String × String)) : Decidable (Clear mark table) :=
  decidable_of_iff
    ((table.map Prod.fst).Nodup ∧ (∀ e ∈ table, mark ∉ e.1.toList) ∧
      ∀ e ∈ table, ∀ other ∈ table, e.1 ≠ other.1 → KeepsClear e.2.toList (token mark other.1))
    ⟨fun ⟨distinct, unmarked, values⟩ => ⟨distinct, unmarked, values⟩,
      fun clear => ⟨clear.distinct, clear.unmarked, clear.values⟩⟩

instance (mark : Char) (table : List (String × String)) (s : List Char) :
    Decidable (Apart mark table s) :=
  inferInstanceAs (Decidable (∀ a ∈ table, ∀ b ∈ table, a.1 ≠ b.1 → ¬ sharing mark a.1 b.1 <:+: s))

section Table

variable {table other : List (String × String)} {e : String × String} {s : List Char}

theorem Clear.perm (clear : Clear mark table) (perm : other.Perm table) : Clear mark other where
  distinct := (perm.map Prod.fst).nodup_iff.mpr clear.distinct
  unmarked := fun e there => clear.unmarked e (perm.mem_iff.mp there)
  values := fun e there f there' => clear.values e (perm.mem_iff.mp there) f (perm.mem_iff.mp there')

theorem Apart.perm (apart : Apart mark table s) (perm : other.Perm table) : Apart mark other s :=
  fun a there b there' => apart a (perm.mem_iff.mp there) b (perm.mem_iff.mp there')

theorem Clear.ne_of_mem (clear : Clear mark (e :: table)) : ∀ f ∈ table, e.1 ≠ f.1 := by
  intro f there same
  have fresh := (List.nodup_cons.mp clear.distinct).1
  rw [same] at fresh
  exact fresh (List.mem_map_of_mem there)

theorem Clear.tail (clear : Clear mark (e :: table)) : Clear mark table where
  distinct := (List.nodup_cons.mp clear.distinct).2
  unmarked := fun f there => clear.unmarked f (List.mem_cons_of_mem e there)
  values := fun f there g there' =>
    clear.values f (List.mem_cons_of_mem e there) g (List.mem_cons_of_mem e there')

theorem keepsClear_sharing {x : List Char} (outer : KeepsClear x (token mark a))
    (inner : KeepsClear x (token mark b)) : KeepsClear x (sharing mark a b) := by
  have foreign : ∀ c, c ∉ token mark a → c ∉ token mark b → c ∉ sharing mark a b := by
    intro c first second
    rw [sharing_eq, List.mem_append]
    rintro (inside | inside)
    · exact first inside
    · exact second (List.mem_cons_of_mem mark inside)
  refine ⟨outer.nonempty, ?_, ?_, ?_⟩
  · intro c head
    exact foreign c (outer.first c head) (inner.first c head)
  · intro c last
    exact foreign c (outer.last c last) (inner.last c last)
  · intro occurs
    rw [sharing_eq] at occurs
    exact outer.apart ((List.prefix_append _ _).isInfix.trans occurs)

/-- Expanding an entry makes no two tokens of other entries share a mark. -/
theorem Apart.expandOne (apart : Apart mark (e :: table) s) (clear : Clear mark (e :: table)) :
    Apart mark table (expandOne mark e s) := by
  intro f there g there' differ occurs
  have values := clear.values e List.mem_cons_self
  have outer := values f (List.mem_cons_of_mem e there) (clear.ne_of_mem f there)
  have inner := values g (List.mem_cons_of_mem e there') (clear.ne_of_mem g there')
  refine apart f (List.mem_cons_of_mem e there) g (List.mem_cons_of_mem e there') differ ?_
  exact Text.infix_of_infix_replace (token_ne_nil mark e.1) (keepsClear_sharing outer inner) occurs

theorem expandOne_comm {f : String × String} (clear : Clear mark table)
    (apart : Apart mark table s) (here : e ∈ table) (there : f ∈ table) (differ : e.1 ≠ f.1) :
    Render.expandOne mark e (Render.expandOne mark f s) =
      Render.expandOne mark f (Render.expandOne mark e s) := by
  apply Text.replace_comm (token_ne_nil mark e.1) (token_ne_nil mark f.1)
  · exact clear.values e here f there differ
  · exact clear.values f there e here differ.symm
  · intro within
    exact apart e here f there differ
      (sharing_of_beginsWithin (clear.unmarked e here) (clear.unmarked f there) differ within)
  · intro within
    exact apart f there e here differ.symm
      (sharing_of_beginsWithin (clear.unmarked f there) (clear.unmarked e here) differ.symm within)

/-- Where no two tokens share a mark, the order of a clear table does not matter. -/
theorem expandAll_perm (perm : other.Perm table) (clear : Clear mark table)
    (apart : Apart mark table s) : expandAll mark other s = expandAll mark table s := by
  induction perm generalizing s with
  | nil => rfl
  | cons e _ ih => exact ih clear.tail (apart.expandOne clear)
  | swap e f rest =>
    have here : e ∈ e :: f :: rest := List.mem_cons_self
    have there : f ∈ e :: f :: rest := List.mem_cons_of_mem e List.mem_cons_self
    have differ : e.1 ≠ f.1 := clear.ne_of_mem f List.mem_cons_self
    exact congrArg (expandAll mark rest) (expandOne_comm clear apart here there differ)
  | trans _ perm first second =>
    rw [first (clear.perm perm) (apart.perm perm), second clear apart]

/-! ### Tokens that share a mark -/

theorem expandAll_of_absent (absent : ∀ e ∈ table, ¬ token mark e.1 <:+: s) :
    expandAll mark table s = s := by
  induction table with
  | nil => rfl
  | cons e rest ih =>
    obtain ⟨here, others⟩ := List.forall_mem_cons.mp absent
    have kept : Render.expandOne mark e s = s := Text.replaceFrom_of_absent here
    rw [expandAll, List.foldl_cons, kept]
    exact ih others

variable {f : String × String}

/-- The entry that comes first takes the mark, and the second token is left. -/
theorem expandAll_sharing_first (clear : Clear mark (e :: table)) (there : f ∈ table) :
    expandAll mark (e :: table) (sharing mark e.1 f.1) = e.2.toList ++ (f.1.toList ++ [mark]) := by
  have unmarked := clear.unmarked f (List.mem_cons_of_mem e there)
  have one : (f.1.toList ++ [mark]).count mark ≤ 1 := by
    simp [List.count_eq_zero_of_not_mem unmarked]
  have first : Render.expandOne mark e (sharing mark e.1 f.1) =
      e.2.toList ++ (f.1.toList ++ [mark]) := by
    rw [Render.expandOne, sharing_eq, Text.replaceFrom_append (token_ne_nil mark e.1),
      Text.replaceFrom_of_absent (absent_of_one_mark one e.1)]
  rw [expandAll, List.foldl_cons, first]
  apply expandAll_of_absent
  intro g member occurs
  have values := clear.values e List.mem_cons_self g (List.mem_cons_of_mem e member)
    (clear.ne_of_mem g member)
  exact absent_of_one_mark one g.1 (Text.infix_of_unbegun (fun _ _ => values.unbegun) occurs)

theorem expandAll_sharing_second (clear : Clear mark (e :: table)) (there : f ∈ table) :
    expandAll mark (e :: table) (sharing mark f.1 e.1) = mark :: f.1.toList ++ e.2.toList := by
  have here := clear.unmarked e List.mem_cons_self
  have unmarked := clear.unmarked f (List.mem_cons_of_mem e there)
  have one : (mark :: f.1.toList).count mark ≤ 1 := by
    simp [List.count_eq_zero_of_not_mem unmarked]
  have first : Render.expandOne mark e (sharing mark f.1 e.1) =
      mark :: f.1.toList ++ e.2.toList := by
    rw [Render.expandOne, sharing_eq_append, Text.replaceFrom_append_of_unbegun]
    · have whole := Text.replaceFrom_append (token_ne_nil mark e.1) e.2.toList []
      rw [List.append_nil] at whole
      rw [whole]
      simp [replaceFrom]
    · intro before after split some begins
      cases before with
      | nil =>
        rw [← show mark :: f.1.toList = after from split] at begins
        have same : token mark e.1 <+: mark :: (f.1.toList ++ mark :: (e.1.toList ++ [mark])) := by
          simpa [token] using begins
        exact clear.ne_of_mem f there
          (String.toList_inj.mp ((token_prefix_iff here unmarked).mp same))
      | cons c before =>
        obtain ⟨d, after, rfl⟩ := List.exists_cons_of_ne_nil some
        obtain ⟨rfl, _⟩ := List.cons_prefix_cons.mp begins
        apply unmarked
        rw [(List.cons.inj split).2]
        exact List.mem_append_right before List.mem_cons_self
  rw [expandAll, List.foldl_cons, first]
  apply expandAll_of_absent
  intro g member occurs
  have values := clear.values e List.mem_cons_self g (List.mem_cons_of_mem e member)
    (clear.ne_of_mem g member)
  exact absent_of_one_mark one g.1 (values.infix_of_infix_append occurs)

/-- Two tokens that share a mark are told apart by the order of the table. -/
theorem expandAll_sharing (clear : Clear mark table) (here : e ∈ table) (there : f ∈ table)
    (differ : e.1 ≠ f.1) :
    ∃ order order', order.Perm table ∧ order'.Perm table ∧
      expandAll mark order (sharing mark e.1 f.1) = e.2.toList ++ (f.1.toList ++ [mark]) ∧
      expandAll mark order' (sharing mark e.1 f.1) = mark :: e.1.toList ++ f.2.toList ∧
      expandAll mark order (sharing mark e.1 f.1) ≠
        expandAll mark order' (sharing mark e.1 f.1) := by
  have perm : (e :: table.erase e).Perm table := (List.perm_cons_erase here).symm
  have perm' : (f :: table.erase f).Perm table := (List.perm_cons_erase there).symm
  have apart : f ≠ e := fun same => differ (congrArg Prod.fst same).symm
  have first := expandAll_sharing_first (clear.perm perm) ((List.mem_erase_of_ne apart).mpr there)
  have second :=
    expandAll_sharing_second (clear.perm perm') ((List.mem_erase_of_ne apart.symm).mpr here)
  refine ⟨_, _, perm, perm', first, second, ?_⟩
  rw [first, second]
  -- a value does not begin with the mark
  obtain ⟨c, rest, value, foreign⟩ := (clear.values e here f there differ).exists_cons
  rw [value]
  intro same
  exact foreign ((List.cons.inj same).1 ▸ List.mem_cons_self)

end Table

/-! ### Emotes and the host's tokens -/

section Orders

variable {d : Directory} {h : FixedEnvironment} {emotes placeholders : List (String × String)}

theorem translateEmotes_perm (clear : Clear ':' d.emotes) (perm : emotes.Perm d.emotes)
    {text : String} (apart : Apart ':' d.emotes text.toList) :
    { d with emotes := emotes }.translateEmotes text = d.translateEmotes text := by
  rw [← String.toList_inj, toList_translateEmotes, toList_translateEmotes]
  exact expandAll_perm perm clear apart

theorem toList_expand (h : FixedEnvironment) (actor : Option Actor) (text : String) :
    (h.expand actor text).toList =
      expandAll '%' h.placeholders
        (FixedEnvironment.expandTokens (FixedEnvironment.actorTokens actor) text).toList := by
  rw [toList_expandTokens, FixedEnvironment.expand]
  have chained : expandAll '%' (FixedEnvironment.actorTokens actor ++ h.placeholders) text.toList =
      expandAll '%' h.placeholders (expandAll '%' (FixedEnvironment.actorTokens actor) text.toList) :=
    List.foldl_append
  split
  · rw [toList_expandTokens, chained]
  · rename_i unmarked
    have none : ∀ table : List (String × String), ∀ e ∈ table, ¬ token '%' e.1 <:+: text.toList := by
      intro table e _ occurs
      exact unmarked (List.contains_iff_mem.mpr (occurs.subset List.mem_cons_self))
    rw [expandAll_of_absent (none _), expandAll_of_absent (none _)]

theorem expand_perm (clear : Clear '%' h.placeholders) (perm : placeholders.Perm h.placeholders)
    {actor : Option Actor} {text : String}
    (apart : Apart '%' h.placeholders
      (FixedEnvironment.expandTokens (FixedEnvironment.actorTokens actor) text).toList) :
    { h with placeholders := placeholders }.expand actor text = h.expand actor text := by
  rw [← String.toList_inj, toList_expand, toList_expand]
  exact expandAll_perm perm clear apart

theorem translateEmotes_sharing (clear : Clear ':' d.emotes) {a b : String × String}
    (here : a ∈ d.emotes) (there : b ∈ d.emotes) (differ : a.1 ≠ b.1) :
    ∃ order order' text, order.Perm d.emotes ∧ order'.Perm d.emotes ∧
      { d with emotes := order }.translateEmotes text ≠
        { d with emotes := order' }.translateEmotes text := by
  obtain ⟨order, order', perm, perm', -, -, apart⟩ := expandAll_sharing clear here there differ
  refine ⟨order, order', String.ofList (sharing ':' a.1 b.1), perm, perm', ?_⟩
  intro same
  rw [← String.toList_inj, toList_translateEmotes, toList_translateEmotes,
    String.toList_ofList] at same
  exact apart same

theorem expand_sharing (clear : Clear '%' h.placeholders) {a b : String × String}
    (here : a ∈ h.placeholders) (there : b ∈ h.placeholders) (differ : a.1 ≠ b.1) :
    ∃ order order' text, order.Perm h.placeholders ∧ order'.Perm h.placeholders ∧
      { h with placeholders := order }.expand none text ≠
        { h with placeholders := order' }.expand none text := by
  obtain ⟨order, order', perm, perm', -, -, apart⟩ := expandAll_sharing clear here there differ
  refine ⟨order, order', String.ofList (sharing '%' a.1 b.1), perm, perm', ?_⟩
  intro same
  rw [← String.toList_inj, toList_expand, toList_expand] at same
  simp only [FixedEnvironment.actorTokens, FixedEnvironment.expandTokens, List.foldl_nil,
    String.toList_ofList] at same
  exact apart same

end Orders

/-! ### Rendering -/

namespace Scope

/-- A text with its expressions and placeholders filled in, and nothing else. -/
def substituted (s : Scope) (escape : Bool) (raw : String) : String :=
  substitute (s.placeholders escape) (interpolate raw s.bindings)

/-- The same scope with its emotes and the tokens of a host in another order. -/
def reordered (s : Scope) (h : FixedEnvironment) (emotes placeholders : List (String × String)) :
    Scope :=
  { s with
    directory := { s.directory with emotes := emotes }
    environment := { s.environment with
      expand := { h with placeholders := placeholders }.expand } }

variable {s : Scope} {h : FixedEnvironment} {emotes placeholders : List (String × String)}

theorem substituted_reordered (escape : Bool) (raw : String) :
    (s.reordered h emotes placeholders).substituted escape raw = s.substituted escape raw := by
  have values : Placeholder.value ((s.reordered h emotes placeholders).placeholders escape) =
      Placeholder.value (s.placeholders escape) := by
    funext name
    cases name <;> rfl
  have pieces : Piece.render ((s.reordered h emotes placeholders).placeholders escape) =
      Piece.render (s.placeholders escape) := by
    funext piece
    cases piece with
    | plain c => rfl
    | named name => simp only [Piece.render, placeholderValue?, values]
  simp only [substituted, substitute, renderPieces, pieces]
  rfl

theorem text_reordered (host : s.environment.expand = h.expand)
    (clear : Clear ':' s.directory.emotes) (clear' : Clear '%' h.placeholders)
    (perm : emotes.Perm s.directory.emotes) (perm' : placeholders.Perm h.placeholders)
    {escape : Bool} {raw : String}
    (apart : Apart ':' s.directory.emotes (s.substituted escape raw).toList)
    (apart' : Apart '%' h.placeholders
      (FixedEnvironment.expandTokens (FixedEnvironment.actorTokens s.actor)
        (s.directory.translateEmotes (s.substituted escape raw))).toList) :
    (s.reordered h emotes placeholders).text escape raw = s.text escape raw := by
  have text_eq : ∀ s : Scope, s.text escape raw =
      sanitize (s.environment.expand s.actor (s.directory.translateEmotes
        (s.substituted escape raw))) := fun _ => rfl
  rw [text_eq, text_eq, substituted_reordered, host]
  have translated := translateEmotes_perm clear perm apart
  have expanded := expand_perm clear' perm' apart'
  simp only [reordered, translated, expanded]

/-- What the order of a table does to a text.

    The tables of emotes and of the host's tokens may be in any order if they are clear and no
    two of their tokens share a mark in the text: translating, expanding and rendering give
    the same.  It needs both.  For any two entries of a clear table there is a text, in which
    their tokens share a mark, that comes to two different texts by two orders of the table. -/
theorem expansion_by_order (s : Scope) (h : FixedEnvironment)
    (host : s.environment.expand = h.expand) (clear : Clear ':' s.directory.emotes)
    (clear' : Clear '%' h.placeholders) :
    (∀ emotes placeholders, emotes.Perm s.directory.emotes →
      placeholders.Perm h.placeholders →
      (∀ text, Apart ':' s.directory.emotes text.toList →
        { s.directory with emotes := emotes }.translateEmotes text =
          s.directory.translateEmotes text) ∧
      (∀ actor text,
        Apart '%' h.placeholders
          (FixedEnvironment.expandTokens (FixedEnvironment.actorTokens actor) text).toList →
        { h with placeholders := placeholders }.expand actor text = h.expand actor text) ∧
      ∀ escape raw, Apart ':' s.directory.emotes (s.substituted escape raw).toList →
        Apart '%' h.placeholders
          (FixedEnvironment.expandTokens (FixedEnvironment.actorTokens s.actor)
            (s.directory.translateEmotes (s.substituted escape raw))).toList →
        (s.reordered h emotes placeholders).text escape raw = s.text escape raw) ∧
    (∀ a ∈ s.directory.emotes, ∀ b ∈ s.directory.emotes, a.1 ≠ b.1 →
      ∃ order order' text, order.Perm s.directory.emotes ∧ order'.Perm s.directory.emotes ∧
        { s.directory with emotes := order }.translateEmotes text ≠
          { s.directory with emotes := order' }.translateEmotes text) ∧
    ∀ a ∈ h.placeholders, ∀ b ∈ h.placeholders, a.1 ≠ b.1 →
      ∃ order order' text, order.Perm h.placeholders ∧ order'.Perm h.placeholders ∧
        { h with placeholders := order }.expand none text ≠
          { h with placeholders := order' }.expand none text := by
  refine ⟨?_, ?_, ?_⟩
  · intro emotes placeholders perm perm'
    refine ⟨?_, ?_, ?_⟩
    · intro text apart
      exact translateEmotes_perm clear perm apart
    · intro actor text apart
      exact expand_perm clear' perm' apart
    · intro escape raw apart apart'
      exact text_reordered host clear clear' perm perm' apart apart'
  · intro a here b there differ
    exact translateEmotes_sharing clear here there differ
  · intro a here b there differ
    exact expand_sharing clear' here there differ

/-- Emotes with their markup in brackets, and tokens with values of one sign. -/
theorem expansion_by_order_of_brackets :
    let s : Scope :=
      { bindings := []
        directory := { emotes := [("fire", "<:fire:7>"), ("ice", "<a:ice:8>")] }
        environment := FixedEnvironment.toEnvironment
          { placeholders := [("cold", "\u2744"), ("hot", "\u2600")] } }
    let h : FixedEnvironment := { placeholders := [("cold", "\u2744"), ("hot", "\u2600")] }
    s.environment.expand = h.expand ∧ Clear ':' s.directory.emotes ∧ Clear '%' h.placeholders ∧
      (s.reordered h [("ice", "<a:ice:8>"), ("fire", "<:fire:7>")]
          [("hot", "\u2600"), ("cold", "\u2744")]).text true "at 12:30 :fire: %hot%, :ice: %cold%" =
        s.text true "at 12:30 :fire: %hot%, :ice: %cold%" := by
  intro s h
  have clear : Clear ':' s.directory.emotes := by decide +kernel
  have clear' : Clear '%' h.placeholders := by decide +kernel
  refine ⟨rfl, clear, clear', ?_⟩
  obtain ⟨any, _, _⟩ := expansion_by_order s h rfl clear clear'
  obtain ⟨_, _, rendered⟩ := any [("ice", "<a:ice:8>"), ("fire", "<:fire:7>")]
    [("hot", "\u2600"), ("cold", "\u2744")] (List.Perm.swap _ _ _) (List.Perm.swap _ _ _)
  exact rendered true _ (by decide +kernel) (by decide +kernel)

/-! ### A crowded table -/

/-- This many colons. -/
def colons (n : Nat) : String := String.ofList (List.replicate n ':')

/-- Emotes that write `q` for a name, by one more of the colons behind it each. -/
def writtenQ (name : String) : List (String × String) :=
  (List.range 12).map fun n => (name ++ colons (n + 1), ":q" ++ colons (n + 2))

/-- One table, in two orders, gives two texts and two messages: `r` only if the entry for `p`
    is visited behind all entries for `r` and before all others for `p`.  The host's tokens
    need two entries only. -/
theorem crowd_told_by_order :
    let first := ("p", ":r:") :: (writtenQ "p" ++ writtenQ "r")
    let second := writtenQ "r" ++ ("p", ":r:") :: writtenQ "p"
    let text := ":p" ++ colons 13
    let scope (emotes : List (String × String)) : Scope :=
      { bindings := [], directory := { emotes := emotes }, environment := { tickRate := 20 } }
    second.Perm first ∧
      ({ emotes := first } : Directory).translateEmotes text = ":q" ++ colons 13 ∧
      ({ emotes := second } : Directory).translateEmotes text = ":r" ++ colons 13 ∧
      ((scope first).render { content := some text }).message.content =
        some (":q" ++ colons 13) ∧
      ((scope second).render { content := some text }).message.content =
        some (":r" ++ colons 13) ∧
      ({ placeholders := [("a", "x"), ("b", "y")] } : FixedEnvironment).expand none "%a%b%" =
        "xb%" ∧
      ({ placeholders := [("b", "y"), ("a", "x")] } : FixedEnvironment).expand none "%a%b%" =
        "%ay" := by
  refine ⟨?_, by decide +kernel, by decide +kernel, by decide +kernel, by decide +kernel,
    by decide +kernel, by decide +kernel⟩
  exact List.perm_middle.trans (List.perm_append_comm.cons _)

end Scope

end EventAlerts.Render
