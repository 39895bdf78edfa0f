import CallDiagram.Proofs.CallSite.Arguments
import CallDiagram.Proofs.CallSite.Positions

/-! # Matching parentheses

The parenthesis that closes a given one is the first at which as many have been closed as opened.
The arguments of a call stand between the first parenthesis that opens behind the name and the one
that closes it, so they are balanced; if none closes it, they go on to the end of the text.
-/

namespace CallDiagram

/-- Parentheses match: none is closed that was not opened before, and none stays open. -/
structure Balanced (cs : List Char) : Prop where
  closed : cs.count ')' = cs.count '('
  opened : ∀ before, before <+: cs → before.count ')' ≤ before.count '('

/-- At a place of a text the last of a number of open parentheses is closed, and not before. -/
def ClosesAll (depth : Nat) (cs : List Char) (place : Nat) : Prop :=
  (cs.take (place + 1)).count ')' = (cs.take (place + 1)).count '(' + depth ∧
    ∀ shorter < place + 1, (cs.take shorter).count ')' < (cs.take shorter).count '(' + depth

variable {depth place : Nat} {c : Char} {cs : List Char}

theorem closesAll_zero : ClosesAll depth (c :: cs) 0 ↔ c = ')' ∧ depth = 1 := by
  by_cases closes : c = ')'
  · simp [ClosesAll, closes]
    omega
  · simp [ClosesAll, closes]
    omega

/-- Behind a character as many parentheses are open as before it, or one more or less. -/
theorem closesAll_succ (after : Nat) (open_ : 0 < depth)
    (step : after + [c].count ')' = depth + [c].count '(') :
    ClosesAll depth (c :: cs) (place + 1) ↔ ClosesAll after cs place := by
  have shift (x : Char) (n : Nat) :
      ((c :: cs).take (n + 1)).count x = (cs.take n).count x + [c].count x := by
    rw [List.take_succ_cons, List.count_cons, List.count_singleton]
  unfold ClosesAll
  rw [Nat.forall_lt_succ_left (n := place + 1)]
  simp only [shift, List.take_zero, List.count_nil]
  constructor
  · rintro ⟨total, -, sooner⟩
    refine ⟨by omega, fun shorter before => ?_⟩
    have known := sooner shorter before
    omega
  · rintro ⟨total, sooner⟩
    refine ⟨by omega, by omega, fun shorter before => ?_⟩
    have known := sooner shorter before
    omega

theorem not_closesAll_none : ¬ ClosesAll 0 cs place := by
  rintro ⟨-, sooner⟩
  simpa using sooner 0 (Nat.succ_pos place)

/-- The search for a closing parenthesis finds the place where the last one is closed. -/
theorem closing?_eq_some_iff (open_ : 0 < depth) :
    Document.closing? depth cs = some place ↔ ClosesAll depth cs place := by
  induction cs generalizing depth place with
  | nil =>
      simp [Document.closing?, ClosesAll]
      omega
  | cons c cs ih =>
      rw [Document.closing?]
      by_cases opens : c = '('
      · rw [if_pos opens]
        cases place with
        | zero => simp [closesAll_zero, opens]
        | succ place =>
            rw [closesAll_succ (depth + 1) open_ (by simp [opens]), ← ih (by omega)]
            simp
      rw [if_neg opens]
      by_cases closes : c = ')'
      · rw [if_pos closes]
        by_cases last : depth ≤ 1
        · obtain rfl : depth = 1 := by omega
          cases place with
          | zero => simp [closesAll_zero, closes]
          | succ place =>
              rw [closesAll_succ 0 open_ (by simp [closes])]
              simp [not_closesAll_none]
        · rw [if_neg last]
          cases place with
          | zero => simp [closesAll_zero, closes]; omega
          | succ place =>
              rw [closesAll_succ (depth - 1) open_ (by simp [closes]; omega),
                ← ih (by omega)]
              simp
      · rw [if_neg closes]
        cases place with
        | zero => simp [closesAll_zero, closes]
        | succ place =>
            rw [closesAll_succ depth open_ (by simp [opens, closes]), ← ih open_]
            simp

/-- What stands before the closing parenthesis is balanced. -/
theorem ClosesAll.balanced (closes : ClosesAll 1 cs place) : Balanced (cs.take place) := by
  have last : cs[place]? = some ')' :=
    Document.getElem?_of_closing? ((closing?_eq_some_iff Nat.one_pos).mpr closes)
  obtain ⟨total, sooner⟩ := closes
  have whole : cs.take (place + 1) = cs.take place ++ [')'] := by
    rw [List.take_add_one, last]
    rfl
  constructor
  · simp only [whole, List.count_append] at total
    simpa using total
  · intro before start
    have short : before = cs.take before.length :=
      List.prefix_iff_eq_take.mp (start.trans (List.take_prefix place cs))
    have bound : before.length ≤ place := start.length_le.trans (List.length_take_le place cs)
    have fewer := sooner before.length (Nat.lt_succ_of_le bound)
    rw [← short] at fewer
    exact Nat.le_of_lt_succ fewer

namespace Document

variable {d : Document} {name : Range} {stop opened closed : Nat}

/-- Counted from an opening parenthesis on, the closing ones come up with the opening ones at the
given offset, and not before. -/
def Closes (d : Document) (opened closed : Nat) : Prop :=
  opened < closed ∧
    (d.slice opened (closed + 1)).count ')' = (d.slice opened (closed + 1)).count '(' ∧
    ∀ earlier, opened < earlier → earlier < closed →
      (d.slice opened (earlier + 1)).count ')' < (d.slice opened (earlier + 1)).count '('

theorem slice_opening (opens : d.text[opened]? = some '(') (length : Nat) :
    d.slice opened (opened + 1 + length) = '(' :: (d.text.drop (opened + 1)).take length := by
  have long : opened + 1 + length - opened = length + 1 := by omega
  rw [slice, List.drop_take, drop_opening opens, long, List.take_succ_cons]

theorem closes_iff (opens : d.text[opened]? = some '(') (length : Nat) :
    d.Closes opened (opened + 1 + length) ↔ ClosesAll 1 (d.text.drop (opened + 1)) length := by
  have counted (n : Nat) : (d.slice opened (opened + 1 + n)).count ')' =
      ((d.text.drop (opened + 1)).take n).count ')' ∧
      (d.slice opened (opened + 1 + n)).count '(' =
        ((d.text.drop (opened + 1)).take n).count '(' + 1 := by
    rw [slice_opening opens]
    simp
  unfold Closes ClosesAll
  rw [Nat.add_assoc _ length 1, (counted _).1, (counted _).2]
  constructor
  · rintro ⟨-, total, sooner⟩
    refine ⟨total, fun shorter before => ?_⟩
    cases shorter with
    | zero => simp
    | succ shorter =>
        have known := sooner (opened + 1 + shorter) (by omega) (by omega)
        rwa [Nat.add_assoc _ shorter 1, (counted _).1, (counted _).2] at known
  · rintro ⟨total, sooner⟩
    refine ⟨by omega, total, fun earlier behind before => ?_⟩
    obtain ⟨shorter, rfl⟩ := Nat.exists_eq_add_of_le (Nat.succ_le_of_lt behind)
    have known := sooner (shorter + 1) (by omega)
    rwa [Nat.succ_eq_add_one, Nat.add_assoc _ shorter 1, (counted _).1, (counted _).2]

theorem closingOffset?_eq_some_iff (opens : d.text[opened]? = some '(') :
    d.closingOffset? opened = some closed ↔ d.Closes opened closed := by
  constructor
  · intro found
    obtain ⟨length, inner, rfl⟩ := Option.map_eq_some_iff.mp found
    exact (closes_iff opens length).mpr ((closing?_eq_some_iff Nat.one_pos).mp inner)
  · intro closes
    obtain ⟨length, rfl⟩ := Nat.exists_eq_add_of_le (Nat.succ_le_of_lt closes.1)
    have inner := (closing?_eq_some_iff Nat.one_pos).mpr ((closes_iff opens length).mp closes)
    rw [closingOffset?, inner]
    rfl

/-! ## The arguments of a call -/

/-- Arguments that are closed, and the text from one parenthesis to the other. -/
theorem slice_of_closes (opens : d.text[opened]? = some '(') (closes : d.Closes opened closed) :
    closed < d.text.length ∧ Balanced (d.slice (opened + 1) closed) ∧
      d.slice opened (closed + 1) = '(' :: d.slice (opened + 1) closed ++ [')'] := by
  obtain ⟨length, inner, rfl⟩ :=
    Option.map_eq_some_iff.mp ((closingOffset?_eq_some_iff opens).mpr closes)
  have last := getElem?_of_closing? inner
  rw [slice_inside, Nat.add_assoc _ length 1, slice_opening opens, List.take_add_one, last]
  rw [List.getElem?_drop] at last
  exact ⟨(List.getElem?_eq_some_iff.mp last).1,
    ((closing?_eq_some_iff Nat.one_pos).mp inner).balanced, rfl⟩

/-- The arguments of a call go from the first parenthesis that opens behind its name to the one that
closes it, or else to the end of the text. -/
theorem arguments_match (ends : d.EndsAt name stop) :
    ((∀ place, stop ≤ place → d.text[place]? ≠ some '(') → d.arguments name = .ok ("", none)) ∧
      ∀ opened, d.FirstOpening stop opened →
        (∀ closed, d.Closes opened closed →
          let inside := d.slice (opened + 1) closed
          let range : Range := ⟨d.positionAt opened, d.positionAt ↑(closed + 1)⟩
          d.arguments name = .ok (String.ofList inside, some range) ∧ Balanced inside ∧
            d.textOf range = .ok ('(' :: inside ++ [')'])) ∧
        ((∀ closed, ¬ d.Closes opened closed) →
          let inside := d.text.drop (opened + 1)
          let range : Range := ⟨d.positionAt opened, d.lastPosition⟩
          d.arguments name = .ok (String.ofList inside, some range) ∧
            d.textOf range = .ok ('(' :: inside)) := by
  refine ⟨ends.arguments_eq_none, fun opened opening => ⟨fun closed closes => ?_, fun open_ => ?_⟩⟩
  · obtain ⟨bound, balanced, whole⟩ := slice_of_closes opening.opens closes
    have before : opened < closed := closes.1
    refine ⟨?_, balanced, ?_⟩
    · rw [ends.arguments_eq opening, (closingOffset?_eq_some_iff opening.opens).mpr closes]
    · rw [textOf_positionAt (by omega) bound, Nat.succ_eq_add_one, whole]
  · have never : d.closingOffset? opened = none := by
      rw [Option.eq_none_iff_forall_ne_some]
      intro closed found
      exact open_ closed ((closingOffset?_eq_some_iff opening.opens).mp found)
    have bound := (List.getElem?_eq_some_iff.mp opening.opens).1
    refine ⟨by rw [ends.arguments_eq opening, never], ?_⟩
    rw [lastPosition, textOf_positionAt (Nat.le_of_lt bound) le_rfl, slice, List.take_length,
      drop_opening opening.opens]

/-- A call in the arguments of another one, and a parenthesis that nothing closes. -/
theorem unfinished_arguments_match :
    let d := Document.ofString "f(g(x)) + h(y"
    let closed : Range := ⟨⟨0, 0⟩, ⟨0, 1⟩⟩
    let open_ : Range := ⟨⟨0, 10⟩, ⟨0, 11⟩⟩
    d.EndsAt closed 1 ∧ d.FirstOpening 1 1 ∧ d.Closes 1 6 ∧
      d.arguments closed = .ok ("g(x)", some ⟨⟨0, 1⟩, ⟨0, 7⟩⟩) ∧
      d.textOf ⟨⟨0, 1⟩, ⟨0, 7⟩⟩ = .ok "(g(x))".toList ∧
      d.EndsAt open_ 11 ∧ d.FirstOpening 11 11 ∧ (∀ place, ¬ d.Closes 11 place) ∧
      d.arguments open_ = .ok ("y", some ⟨⟨0, 11⟩, ⟨0, 13⟩⟩) := by
  intro d closed open_
  have first : d.EndsAt closed 1 := by
    refine ⟨rfl, fun before last => ?_⟩
    obtain rfl : before = 0 := by omega
    decide
  have second : d.EndsAt open_ 11 := by
    refine ⟨rfl, fun before last => ?_⟩
    obtain rfl : before = 10 := by omega
    decide
  have opening : d.FirstOpening 1 1 := ⟨le_rfl, rfl, fun place behind before => by omega⟩
  have opening' : d.FirstOpening 11 11 := ⟨le_rfl, rfl, fun place behind before => by omega⟩
  have closes : d.Closes 1 6 := (closingOffset?_eq_some_iff rfl).mp rfl
  have never : ∀ place, ¬ d.Closes 11 place := by
    intro place closes
    cases (closingOffset?_eq_some_iff opening'.opens).mpr closes
  obtain ⟨read, -, whole⟩ := ((arguments_match first).2 1 opening).1 6 closes
  obtain ⟨read', -⟩ := ((arguments_match second).2 11 opening').2 never
  exact ⟨first, opening, closes, read, whole, second, opening', never, read'⟩

end Document

end CallDiagram
