import CallDiagram.Diagram.Number
import CallDiagram.Proofs.Text.Splitting

/-! # Sequence numbers and the tree of calls

`numberBelow` writes a step down the tree of calls as one more component behind a dot. The
components give the step back: a number has as many components as there are steps to it, and two
steps that lead to one number start at the same place and have the same index.
-/

namespace CallDiagram

open Text

/-- The components of a sequence number. The empty number has none. -/
def components (number : String) : List String :=
  (dotted number).filter (· ≠ "")

def numberDepth (number : String) : Nat :=
  (components number).length

/-- Whether a sequence number is that of a call directly below a number. -/
def isDirectlyBelow (parent number : String) : Bool :=
  !(components number).isEmpty && (components number).dropLast = components parent

theorem notMem_repr {c : Char} (noDigit : c.isDigit = false) (index : Nat) :
    c ∉ index.repr.toList := by
  rw [Nat.toList_repr]
  intro member
  rw [Nat.isDigit_of_mem_toDigits (by decide) (by decide) member] at noDigit
  cases noDigit

theorem notMem_repr_int {c : Char} (noDigit : c.isDigit = false) (noSign : c ≠ '-') (n : Int) :
    c ∉ n.repr.toList := by
  cases n with
  | ofNat n => exact notMem_repr noDigit n
  | negSucc n =>
      have written : (Int.negSucc n).repr = "-" ++ (n + 1).repr := rfl
      rw [written, String.toList_append, List.mem_append]
      rintro (sign | digit)
      · exact noSign (List.mem_singleton.mp sign)
      · exact notMem_repr noDigit _ digit

theorem repr_int_ne_empty (n : Int) : n.repr ≠ "" := by
  cases n with
  | ofNat n =>
      intro empty
      exact Nat.toDigits_ne_nil (Nat.toList_repr.symm.trans (congrArg String.toList empty))
  | negSucc n =>
      have written : (Int.negSucc n).repr = "-" ++ (n + 1).repr := rfl
      simp [written]

theorem notMem_numberBelow {c : Char} (noDot : c ≠ '.') (noDigit : c.isDigit = false)
    {parent : String} (above : c ∉ parent.toList) (index : Nat) :
    c ∉ (numberBelow parent index).toList := by
  have written : toString (index : Int) = index.repr := rfl
  rw [numberBelow, written]
  split
  · exact notMem_repr noDigit index
  · simp only [String.toList_append, List.mem_append, not_or]
    exact ⟨⟨above, by simpa using noDot⟩, notMem_repr noDigit index⟩

theorem repr_inj {i j : Nat} : i.repr = j.repr ↔ i = j := by
  constructor
  · intro same
    have digits : Nat.toDigits 10 i = Nat.toDigits 10 j := by
      rw [← Nat.toList_repr, ← Nat.toList_repr, same]
    have value := congrArg (Nat.ofDigitChars 10 · 0) digits
    simpa only [Nat.ofDigitChars_ten_toDigits] using value
  · rintro rfl
    rfl

theorem repr_int_inj {i j : Int} (same : i.repr = j.repr) : i = j := by
  have minus (n k : Nat) : n.repr ≠ "-" ++ (k + 1).repr := by
    intro same
    have sign : '-' ∈ n.repr.toList := by simp [same]
    exact notMem_repr (by decide) n sign
  cases i with
  | ofNat n =>
      cases j with
      | ofNat k => exact congrArg Int.ofNat (repr_inj.mp same)
      | negSucc k => exact (minus n k same).elim
  | negSucc n =>
      cases j with
      | ofNat k => exact (minus k n same.symm).elim
      | negSucc k =>
          have digits : (n + 1).repr = (k + 1).repr := (String.append_right_inj "-").mp same
          rw [Nat.succ_injective (repr_inj.mp digits)]

theorem components_repr (index : Int) : components index.repr = [index.repr] := by
  have noDot : '.' ∉ index.repr.toList := notMem_repr_int (by decide) (by decide) index
  have whole : dotted index.repr = [index.repr] := by
    rw [dotted, splitOnChar_eq_singleton noDot, List.map_singleton, String.ofList_toList]
  have nonempty : index.repr ≠ "" := repr_int_ne_empty index
  simp [components, whole, nonempty]

@[simp] theorem components_empty : components "" = [] := by
  decide

theorem components_numberBelow_int (parent : String) (index : Int) :
    components (numberBelow parent index) = components parent ++ [index.repr] := by
  have written : toString index = index.repr := rfl
  rw [numberBelow, written]
  split
  · next top =>
    rw [top, components_empty, components_repr, List.nil_append]
  · have cut : dotted (parent ++ "." ++ index.repr) = dotted parent ++ dotted index.repr := by
      simp only [dotted, String.toList_append, List.append_assoc, ← List.map_append]
      exact congrArg _ (splitOnChar_append '.' _ _)
    rw [← components_repr index]
    simp only [components, cut, List.filter_append]

@[simp] theorem components_numberBelow (parent : String) (index : Nat) :
    components (numberBelow parent index) = components parent ++ [index.repr] :=
  components_numberBelow_int parent index

@[simp] theorem numberDepth_empty : numberDepth "" = 0 := by
  simp [numberDepth]

@[simp] theorem numberDepth_numberBelow (parent : String) (index : Nat) :
    numberDepth (numberBelow parent index) = numberDepth parent + 1 := by
  simp [numberDepth]

theorem isDirectlyBelow_iff {parent number : String} :
    isDirectlyBelow parent number = true ↔
      ∃ last, components number = components parent ++ [last] := by
  constructor
  · intro below
    obtain ⟨some, above⟩ := Bool.and_eq_true_iff.mp below
    have nonempty : components number ≠ [] := by simpa using some
    refine ⟨(components number).getLast nonempty, ?_⟩
    rw [← of_decide_eq_true above, List.dropLast_concat_getLast]
  · rintro ⟨last, extended⟩
    simp [isDirectlyBelow, extended]

@[simp] theorem isDirectlyBelow_numberBelow (parent above : String) (index : Nat) :
    isDirectlyBelow parent (numberBelow above index) = true ↔ components above = components parent := by
  simp [isDirectlyBelow]

end CallDiagram
