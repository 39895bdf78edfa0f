import CallDiagram.CallSite.Reading
import CallDiagram.Proofs.CallSite.Offsets
import Mathlib.Data.List.TakeWhile

/-! # The arguments of a call

The arguments of a call open at the first opening parenthesis behind its name. It is closed by the
first parenthesis behind it that brings the depth down to where it was, so what opens inside of
arguments is closed inside of them.
-/

namespace CallDiagram

open Text

namespace Document

/-! ## Closing parentheses -/

theorem getElem?_of_closing? {depth : Nat} {cs : List Char} {length : Nat}
    (found : closing? depth cs = some length) : cs[length]? = some ')' := by
  induction cs generalizing depth length with
  | nil => cases found
  | cons c cs ih =>
      rw [closing?] at found
      split at found
      · obtain ⟨rest, inner, rfl⟩ := Option.map_eq_some_iff.mp found
        exact ih inner
      · split at found
        · next closes =>
          split at found
          · cases found
            rw [closes]
            rfl
          · obtain ⟨rest, inner, rfl⟩ := Option.map_eq_some_iff.mp found
            exact ih inner
        · obtain ⟨rest, inner, rfl⟩ := Option.map_eq_some_iff.mp found
          exact ih inner

theorem closing?_of_lt {depth deeper : Nat} (open_ : 1 ≤ depth) (less : depth < deeper)
    {cs : List Char} {length : Nat} (found : closing? deeper cs = some length) :
    ∃ earlier < length, closing? depth cs = some earlier := by
  induction cs generalizing depth deeper length with
  | nil => cases found
  | cons c cs ih =>
      rw [closing?] at found ⊢
      split at found
      · next opens =>
        obtain ⟨rest, inner, rfl⟩ := Option.map_eq_some_iff.mp found
        obtain ⟨earlier, before, known⟩ := ih (by omega) (Nat.add_lt_add_right less 1) inner
        exact ⟨earlier + 1, by omega, by rw [if_pos opens, known]; rfl⟩
      · next other =>
        split at found
        · next closes =>
          rw [if_neg (by omega)] at found
          obtain ⟨rest, inner, rfl⟩ := Option.map_eq_some_iff.mp found
          rw [if_neg other, if_pos closes]
          by_cases last : depth ≤ 1
          · exact ⟨0, by omega, by rw [if_pos last]⟩
          · obtain ⟨earlier, before, known⟩ :=
              ih (show 1 ≤ depth - 1 by omega) (by omega) inner
            exact ⟨earlier + 1, by omega, by rw [if_neg last, known]; rfl⟩
        · next neither =>
          obtain ⟨rest, inner, rfl⟩ := Option.map_eq_some_iff.mp found
          obtain ⟨earlier, before, known⟩ := ih open_ less inner
          exact ⟨earlier + 1, by omega, by rw [if_neg other, if_neg neither, known]; rfl⟩

/-- What opens before the end is closed before the end. -/
theorem closing?_of_opening {depth : Nat} (open_ : 1 ≤ depth) {cs : List Char} {length : Nat}
    (found : closing? depth cs = some length) {place : Nat} (opens : cs[place]? = some '(')
    (before : place < length) :
    ∃ inner, closing? 1 (cs.drop (place + 1)) = some inner ∧ place + 1 + inner < length := by
  induction cs generalizing depth length place with
  | nil => cases found
  | cons c cs ih =>
      rw [closing?] at found
      cases place with
      | zero =>
          rw [List.getElem?_cons_zero, Option.some.injEq] at opens
          rw [if_pos opens] at found
          obtain ⟨rest, inner, rfl⟩ := Option.map_eq_some_iff.mp found
          obtain ⟨earlier, sooner, known⟩ := closing?_of_lt (Nat.le_refl 1) (by omega) inner
          exact ⟨earlier, known, by omega⟩
      | succ place =>
          rw [List.getElem?_cons_succ] at opens
          have behind : ∃ depth rest, 1 ≤ depth ∧ closing? depth cs = some rest ∧
              length = rest + 1 := by
            split at found
            · obtain ⟨rest, inner, rfl⟩ := Option.map_eq_some_iff.mp found
              exact ⟨_, rest, by omega, inner, rfl⟩
            · split at found
              · split at found
                · cases found
                  omega
                · obtain ⟨rest, inner, rfl⟩ := Option.map_eq_some_iff.mp found
                  exact ⟨_, rest, by omega, inner, rfl⟩
              · obtain ⟨rest, inner, rfl⟩ := Option.map_eq_some_iff.mp found
                exact ⟨_, rest, open_, inner, rfl⟩
          obtain ⟨depth, rest, still, known, rfl⟩ := behind
          obtain ⟨inner, closes, within⟩ := ih still known opens (by omega)
          exact ⟨inner, by rw [List.drop_succ_cons]; exact closes, by omega⟩

def closingOffset? (d : Document) (opened : Nat) : Option Nat :=
  (closing? 1 (d.text.drop (opened + 1))).map (opened + 1 + ·)

/-- The offset behind the arguments that open at an offset. -/
def argumentStop (d : Document) (opened : Nat) : Nat :=
  match d.closingOffset? opened with
  | some closed => closed + 1
  | none => d.text.length

variable {d : Document} {opened closed : Nat}

theorem closingOffset?_spec (found : d.closingOffset? opened = some closed) :
    opened < closed ∧ d.text[closed]? = some ')' := by
  obtain ⟨length, inner, rfl⟩ := Option.map_eq_some_iff.mp found
  have closes := getElem?_of_closing? inner
  rw [List.getElem?_drop] at closes
  exact ⟨by omega, closes⟩

/-- Arguments that open inside of others are closed inside of them. -/
theorem closingOffset?_inside (found : d.closingOffset? opened = some closed) {other : Nat}
    (opens : d.text[other]? = some '(') (behind : opened < other) (before : other < closed) :
    ∃ inner < closed, d.closingOffset? other = some inner := by
  obtain ⟨length, inner, rfl⟩ := Option.map_eq_some_iff.mp found
  obtain ⟨place, rfl⟩ := Nat.exists_eq_add_of_le (Nat.succ_le_of_lt behind)
  have opens : (d.text.drop (opened + 1))[place]? = some '(' := by
    rw [List.getElem?_drop]
    exact opens
  obtain ⟨length', closes, within⟩ := closing?_of_opening (Nat.le_refl 1) inner opens (by omega)
  rw [List.drop_drop] at closes
  refine ⟨opened.succ + place + 1 + length', by omega, ?_⟩
  rw [closingOffset?, show opened.succ + place + 1 = opened + 1 + (place + 1) by omega, closes]
  rfl

/-! ## Opening parentheses -/

/-- The end of a name stands at an offset, and the character before it is no opening parenthesis. -/
structure EndsAt (d : Document) (name : Range) (stop : Nat) : Prop where
  offset : d.offsetAt name.stop = .ok stop
  last : ∀ before, stop = before + 1 → d.text[before]? ≠ some '('

/-- The first opening parenthesis from an offset on. -/
structure FirstOpening (d : Document) (stop opened : Nat) : Prop where
  behind : stop ≤ opened
  opens : d.text[opened]? = some '('
  first : ∀ place, stop ≤ place → place < opened → d.text[place]? ≠ some '('

variable {name : Range} {stop place : Nat}

theorem getElem?_slice (start stop place : Nat) :
    (d.slice start stop)[place]? =
      if start + place < stop then d.text[start + place]? else none := by
  rw [slice, List.getElem?_drop, List.getElem?_take]

theorem drop_opening (opens : d.text[opened]? = some '(') :
    d.text.drop opened = '(' :: d.text.drop (opened + 1) := by
  obtain ⟨bound, same⟩ := List.getElem?_eq_some_iff.mp opens
  rw [List.drop_eq_getElem_cons bound, same]

/-- Arguments are looked for from the last character of the name on, but it does not open them. -/
theorem EndsAt.not_opening (ends : d.EndsAt name stop)
    (none_ : ∀ place, stop ≤ place → place < opened → d.text[place]? ≠ some '(')
    (behind : stop - 1 ≤ place) (before : place < opened) : d.text[place]? ≠ some '(' := by
  by_cases inName : place < stop
  · exact ends.last place (by omega)
  · exact none_ place (Nat.le_of_not_lt inName) before

theorem EndsAt.arguments_eq_none (ends : d.EndsAt name stop)
    (none_ : ∀ place, stop ≤ place → d.text[place]? ≠ some '(') :
    d.arguments name = .ok ("", none) := by
  have passed : (d.text.drop (stop - 1)).dropWhile (· ≠ '(') = [] := by
    rw [List.dropWhile_eq_nil_iff]
    intro c member
    rw [decide_eq_true_eq]
    rintro rfl
    obtain ⟨place, found⟩ := List.mem_iff_getElem?.mp member
    rw [List.getElem?_drop] at found
    exact ends.not_opening (fun place behind _ => none_ place behind) (Nat.le_add_right _ _)
      (Nat.lt_succ_self _) found
  unfold arguments
  rw [ends.offset]
  simp only [bind, Except.bind, passed]
  rfl

theorem slice_inside (opened length : Nat) :
    d.slice (opened + 1) (opened + 1 + length) = (d.text.drop (opened + 1)).take length := by
  rw [slice, List.drop_take, Nat.add_sub_cancel_left]

/-- The arguments of a call open at the first opening parenthesis behind its name. -/
theorem EndsAt.arguments_eq (ends : d.EndsAt name stop) (opening : d.FirstOpening stop opened) :
    d.arguments name = .ok (match d.closingOffset? opened with
      | some closed => (String.ofList (d.slice (opened + 1) closed),
          some ⟨d.positionAt opened, d.positionAt ↑(closed + 1)⟩)
      | none => (String.ofList (d.text.drop (opened + 1)),
          some ⟨d.positionAt opened, d.lastPosition⟩)) := by
  have behind := opening.behind
  have bound := (List.getElem?_eq_some_iff.mp opening.opens).1
  have cut : stop - 1 + (opened - (stop - 1)) = opened := by omega
  have calls : d.text.drop (stop - 1) =
      d.slice (stop - 1) opened ++ '(' :: d.text.drop (opened + 1) := by
    rw [slice, List.drop_take, ← drop_opening opening.opens, ← cut, ← List.drop_drop, cut,
      List.take_append_drop]
  have passed : ∀ c ∈ d.slice (stop - 1) opened, decide (c ≠ '(') = true := by
    intro c member
    rw [decide_eq_true_eq]
    rintro rfl
    obtain ⟨place, found⟩ := List.mem_iff_getElem?.mp member
    rw [getElem?_slice] at found
    split at found
    · next before => exact ends.not_opening opening.first (Nat.le_add_right _ _) before found
    · cases found
  have before : (d.text.drop (stop - 1)).takeWhile (· ≠ '(') = d.slice (stop - 1) opened := by
    rw [calls, List.takeWhile_append_of_pos passed, List.takeWhile_cons_of_neg (by simp),
      List.append_nil]
  have opens : (d.text.drop (stop - 1)).dropWhile (· ≠ '(') = '(' :: d.text.drop (opened + 1) := by
    rw [calls, List.dropWhile_append_of_pos passed, List.dropWhile_cons_of_neg (by simp)]
  have long : stop - 1 + (d.slice (stop - 1) opened).length = opened := by
    rw [slice, List.length_drop, List.length_take]
    omega
  unfold arguments
  rw [ends.offset, closingOffset?]
  simp only [bind, Except.bind, before, opens, long]
  cases closing? 1 (d.text.drop (opened + 1)) with
  | none => rfl
  | some length =>
      have closed : (opened + length + 2 : Int) = (opened + 1 + length + 1 : Nat) := by omega
      simp only [Option.map_some, slice_inside, closed]
      rfl

theorem EndsAt.exists_arguments (ends : d.EndsAt name stop)
    (opening : d.FirstOpening stop opened) :
    ∃ arguments, d.arguments name = .ok (arguments,
      some ⟨d.positionAt opened, d.positionAt (d.argumentStop opened)⟩) := by
  rw [ends.arguments_eq opening, argumentStop]
  cases d.closingOffset? opened with
  | none => exact ⟨_, rfl⟩
  | some closed => exact ⟨_, rfl⟩

end Document

end CallDiagram
