import CallDiagram.Text.Split
import Mathlib.Data.List.Infix

/-! # Splitting and joining are inverse

Splitting cuts at the first place where the separator stands, again and again: the pieces joined
give the text back and none of them holds the separator. In return, pieces that do not hold the
separator are found again when they are joined, provided that no two occurrences of the separator
can overlap. A separator whose beginning is also its end could stand across a joint.
-/

namespace CallDiagram.Text

/-! ## Separating characters -/

theorem splitOnChar_append (sep : Char) (before after : List Char) :
    splitOnChar sep (before ++ sep :: after) =
      splitOnChar sep before ++ splitOnChar sep after := by
  induction before with
  | nil => simp [splitOnChar]
  | cons c rest ih =>
      simp only [List.cons_append, splitOnChar, ih]
      split
      · rfl
      · cases pieces : splitOnChar sep rest with
        | nil => exact absurd pieces (splitOnChar_ne_nil sep rest)
        | cons piece others => rfl

theorem splitOnChar_eq_singleton {sep : Char} {cs : List Char} (absent : sep ∉ cs) :
    splitOnChar sep cs = [cs] := by
  induction cs with
  | nil => rfl
  | cons c rest ih =>
      obtain ⟨different, absent⟩ := List.ne_and_not_mem_of_not_mem_cons absent
      simp only [splitOnChar, ih absent, if_neg (Ne.symm different)]

/-! ## Separating texts -/

theorem joinWith_cons (sep piece : List Char) {others : List (List Char)} (any : others ≠ []) :
    joinWith sep (piece :: others) = piece ++ (sep ++ joinWith sep others) := by
  cases others with
  | nil => exact absurd rfl any
  | cons next rest => exact List.append_assoc _ _ _

theorem afterPrefix?_eq_none_iff {ps cs : List Char} :
    afterPrefix? ps cs = none ↔ ¬ ps <+: cs := by
  rw [Option.eq_none_iff_forall_ne_some]
  constructor
  · rintro never ⟨rest, rfl⟩
    exact never rest (afterPrefix?_eq_some_iff.mpr rfl)
  · intro never rest found
    exact never ⟨rest, (afterPrefix?_eq_some_iff.mp found).symm⟩

theorem cutAt?_eq_none_iff {sep cs : List Char} : cutAt? sep cs = none ↔ ¬ sep <:+: cs := by
  induction cs with
  | nil => rw [cutAt?, Option.map_eq_none_iff, afterPrefix?_eq_none_iff, List.prefix_nil,
      List.infix_nil]
  | cons c rest ih =>
      rw [List.infix_cons_iff, not_or, ← ih, ← afterPrefix?_eq_none_iff, cutAt?]
      cases afterPrefix? sep (c :: rest) <;> simp

/-- What stands before the first occurrence of a separator does not hold it. -/
theorem not_infix_of_cutAt? {sep cs before behind : List Char} (nonempty : sep ≠ [])
    (cut : cutAt? sep cs = some (before, behind)) : ¬ sep <:+: before := by
  induction cs generalizing before with
  | nil =>
      simp only [cutAt?, Option.map_eq_some_iff] at cut
      obtain ⟨_, -, parts⟩ := cut
      obtain ⟨rfl, -⟩ := Prod.mk.inj parts
      rwa [List.infix_nil]
  | cons c rest ih =>
      have whole := cutAt?_eq_some cut
      rw [cutAt?] at cut
      split at cut
      · obtain ⟨rfl, -⟩ := Prod.mk.inj (Option.some.inj cut)
        rwa [List.infix_nil]
      · next absent =>
        obtain ⟨⟨start, stop⟩, later, parts⟩ := Option.map_eq_some_iff.mp cut
        obtain ⟨rfl, rfl⟩ := Prod.mk.inj parts
        rw [List.infix_cons_iff, not_or]
        refine ⟨fun here => afterPrefix?_eq_none_iff.mp absent ?_, ih later⟩
        rw [whole, List.append_assoc]
        exact here.trans (List.prefix_append _ _)

section Pieces

variable {sep : List Char} (nonempty : sep ≠ [])
include nonempty

theorem splitOn_of_cutAt? {cs before behind : List Char}
    (cut : cutAt? sep cs = some (before, behind)) :
    splitOn sep nonempty cs = before :: splitOn sep nonempty behind := by
  rw [splitOn]
  split
  · next whole => rw [whole] at cut; cases cut
  · next cut' =>
    rw [cut] at cut'
    obtain ⟨rfl, rfl⟩ := Prod.mk.inj (Option.some.inj cut')
    rfl

theorem splitOn_eq_singleton {cs : List Char} (whole : ¬ sep <:+: cs) :
    splitOn sep nonempty cs = [cs] := by
  rw [splitOn]
  split
  · rfl
  · next cut => rw [cutAt?_eq_none_iff.mpr whole] at cut; cases cut

theorem splitOn_ne_nil (cs : List Char) : splitOn sep nonempty cs ≠ [] := by
  cases cut : cutAt? sep cs with
  | none => simp [splitOn_eq_singleton nonempty (cutAt?_eq_none_iff.mp cut)]
  | some parts => simp [splitOn_of_cutAt? nonempty cut]

theorem joinWith_splitOn (cs : List Char) : joinWith sep (splitOn sep nonempty cs) = cs := by
  induction cs using splitOn.induct sep nonempty with
  | case1 cs whole =>
      rw [splitOn_eq_singleton nonempty (cutAt?_eq_none_iff.mp whole)]
      rfl
  | case2 cs before behind cut ih =>
      rw [splitOn_of_cutAt? nonempty cut, joinWith_cons sep before (splitOn_ne_nil nonempty behind),
        ih, ← List.append_assoc, ← cutAt?_eq_some cut]

theorem not_infix_of_mem_splitOn {cs piece : List Char} (member : piece ∈ splitOn sep nonempty cs) :
    ¬ sep <:+: piece := by
  induction cs using splitOn.induct sep nonempty with
  | case1 cs whole =>
      have whole := cutAt?_eq_none_iff.mp whole
      rw [splitOn_eq_singleton nonempty whole, List.mem_singleton] at member
      rwa [member]
  | case2 cs before behind cut ih =>
      rw [splitOn_of_cutAt? nonempty cut, List.mem_cons] at member
      rcases member with rfl | later
      · exact not_infix_of_cutAt? nonempty cut
      · exact ih later

end Pieces

/-- A text that two of its occurrences cannot overlap in: nothing but itself is at once a beginning
and an end of it. -/
def IsUnbordered (cs : List Char) : Prop :=
  ∀ n < cs.length, 0 < n → ¬ cs.take n <:+ cs

instance (cs : List Char) : Decidable (IsUnbordered cs) :=
  inferInstanceAs (Decidable (∀ n < cs.length, 0 < n → ¬ cs.take n <:+ cs))

example : IsUnbordered "<br>".toList ∧ IsUnbordered ['\n'] ∧ ¬ IsUnbordered "abra".toList := by
  decide

theorem IsUnbordered.eq_nil_of_border {cs part : List Char} (single : IsUnbordered cs)
    (start : part <+: cs) (stop : part <:+ cs) (shorter : part.length < cs.length) :
    part = [] := by
  by_contra nonempty
  refine single part.length shorter (List.length_pos_iff.mpr nonempty) ?_
  rwa [← List.prefix_iff_eq_take.mp start]

/-- An unbordered separator does not begin inside of a piece that it follows. -/
theorem IsUnbordered.not_begins {sep : List Char} (single : IsUnbordered sep) {piece : List Char}
    (nonempty : piece ≠ []) (free : ¬ sep <:+: piece) (behind : List Char) :
    ¬ sep <+: piece ++ (sep ++ behind) := by
  rintro ⟨rest, whole⟩
  rcases List.append_eq_append_iff.mp whole with ⟨more, rfl, -⟩ | ⟨across, begins, tail⟩
  · exact free ⟨[], more, rfl⟩
  · -- The separator reaches over the end of the piece, into its next occurrence.
    have shorter : across.length < sep.length := by
      have := congrArg List.length begins
      have := List.length_pos_iff.mpr nonempty
      grind
    have start : across <+: sep :=
      List.prefix_of_prefix_length_le ⟨rest, tail.symm⟩ (List.prefix_append sep behind) shorter.le
    have stop : across <:+ sep := ⟨piece, begins.symm⟩
    rw [single.eq_nil_of_border start stop shorter, List.append_nil] at begins
    exact free (begins ▸ List.infix_refl _)

theorem IsUnbordered.cutAt?_append {sep : List Char} (single : IsUnbordered sep)
    (nonempty : sep ≠ []) {piece : List Char} (free : ¬ sep <:+: piece) (behind : List Char) :
    cutAt? sep (piece ++ (sep ++ behind)) = some (piece, behind) := by
  induction piece with
  | nil =>
      have here : afterPrefix? sep (sep ++ behind) = some behind := afterPrefix?_eq_some_iff.mpr rfl
      cases sep with
      | nil => exact absurd rfl nonempty
      | cons c sep =>
          rw [List.nil_append, List.cons_append, cutAt?]
          rw [List.cons_append] at here
          simp only [here]
  | cons c piece ih =>
      have later := ih fun inside => free (List.infix_cons inside)
      have absent : afterPrefix? sep (c :: (piece ++ (sep ++ behind))) = none :=
        afterPrefix?_eq_none_iff.mpr (single.not_begins (List.cons_ne_nil c piece) free behind)
      rw [List.cons_append, cutAt?]
      simp only [absent, later, Option.map_some]

/-- Pieces without an unbordered separator are found again behind one another. -/
theorem IsUnbordered.splitOn_joinWith {sep : List Char} (single : IsUnbordered sep)
    (nonempty : sep ≠ []) {pieces : List (List Char)} (any : pieces ≠ [])
    (free : ∀ piece ∈ pieces, ¬ sep <:+: piece) :
    splitOn sep nonempty (joinWith sep pieces) = pieces := by
  induction pieces with
  | nil => exact absurd rfl any
  | cons piece others ih =>
      obtain ⟨first, later⟩ := List.forall_mem_cons.mp free
      by_cases last : others = []
      · rw [last]
        exact splitOn_eq_singleton nonempty first
      · rw [joinWith_cons sep piece last,
          splitOn_of_cutAt? nonempty (single.cutAt?_append nonempty first _), ih last later]

end CallDiagram.Text
