import CallDiagram.Text.Digit
import Mathlib.Data.Nat.Digits.Defs

/-! # Integers in decimal digits

An integer that is written in decimal digits is read back, unless it has more digits than may be
read.
-/

namespace CallDiagram.Text

theorem digitValue?_of_isDigit {c : Char} (digit : c.isDigit = true) :
    digitValue? c = some (c.toNat - 48) := by
  have bounds : 48 ≤ c.toNat ∧ c.toNat ≤ 57 := by
    simpa [Char.isDigit, UInt32.le_iff_toNat_le] using digit
  have latin : zeros = 48 :: zeros.tail := rfl
  rw [digitValue?, latin, List.find?_cons_of_pos, Option.map_some]
  simp only [Bool.and_eq_true, decide_eq_true_eq]
  omega

/-- Digits alone, without underscores between them, are read one by one. -/
theorem digits?_of_isDigit {cs : List Char} (nonempty : cs ≠ [])
    (digits : ∀ c ∈ cs, c.isDigit = true) : digits? cs = some (cs.map (·.toNat - 48)) := by
  induction cs with
  | nil => exact absurd rfl nonempty
  | cons c rest ih =>
      obtain ⟨digit, others⟩ := List.forall_mem_cons.mp digits
      cases rest with
      | nil => simp [digits?, digitValue?_of_isDigit digit]
      | cons c' rest =>
          have plain : ∀ behind, c' :: rest ≠ '_' :: behind := by
            rintro behind ⟨⟩
            exact absurd (others '_' List.mem_cons_self) (by decide)
          rw [digits?, digitValue?_of_isDigit digit, ih (List.cons_ne_nil _ _) others]
          · rfl
          · exact List.cons_ne_nil _ _
          · exact plain

theorem ofDigits_map (cs : List Char) :
    ofDigits (cs.map (·.toNat - 48)) = Nat.ofDigitChars 10 cs 0 := by
  rw [ofDigits, List.foldl_map, Nat.ofDigitChars_eq_foldl]
  simp only [Nat.mul_comm]
  rfl

theorem isNumberBlank_of_isDigit {c : Char} (digit : c.isDigit = true) :
    isNumberBlank c = false := by
  have bounds : 48 ≤ c.toNat ∧ c.toNat ≤ 57 := by
    simpa [Char.isDigit, UInt32.le_iff_toNat_le] using digit
  have space : c ≠ ' ' := by
    rintro rfl
    exact absurd digit (by decide)
  rw [isNumberBlank, if_pos (by omega)]
  simp only [beq_eq_false_iff_ne.mpr space, Bool.false_or, Bool.and_eq_false_iff,
    decide_eq_false_iff_not]
  omega

theorem dropEnds_of_solid {p : Char → Bool} {cs : List Char} (solid : ∀ c ∈ cs, p c = false) :
    dropEnds p cs = cs := by
  have start : dropStart p cs = cs :=
    dropStart_eq_self fun c first => solid c (List.mem_of_mem_head? first)
  rw [dropEnds, start]
  exact dropEnd_eq_self fun c last => solid c (List.mem_of_getLast? last)

theorem digitCount_le_iff {i : Int} {n : Nat} (positive : 0 < n) :
    digitCount i ≤ n ↔ i.natAbs < 10 ^ n :=
  Nat.length_toDigits_le_iff (by decide) positive

theorem digitCount_pos (i : Int) : 0 < digitCount i :=
  Nat.length_toDigits_pos

theorem digitCount_le_of_natAbs_le {i j : Int} (le : i.natAbs ≤ j.natAbs) :
    digitCount i ≤ digitCount j := by
  have enough := (digitCount_le_iff (digitCount_pos j)).mp le_rfl
  exact (digitCount_le_iff (digitCount_pos j)).mpr (le.trans_lt enough)

theorem lt_digitCount_pow {n : Nat} (positive : 0 < n) : n < digitCount (10 ^ n) := by
  rw [← Nat.not_le, digitCount_le_iff positive, Int.natAbs_pow]
  exact Nat.lt_irrefl _

theorem isDigit_of_mem_toDigits {n : Nat} {c : Char} (member : c ∈ Nat.toDigits 10 n) :
    c.isDigit = true :=
  Nat.isDigit_of_mem_toDigits (by decide) (by decide) member

theorem digits?_toDigits (n : Nat) :
    ∃ ds, digits? (Nat.toDigits 10 n) = some ds ∧ ds.length = (Nat.toDigits 10 n).length ∧
      ofDigits ds = n := by
  refine ⟨_, digits?_of_isDigit Nat.toDigits_ne_nil fun _ => isDigit_of_mem_toDigits,
    by rw [List.length_map], ?_⟩
  rw [ofDigits_map, Nat.ofDigitChars_ten_toDigits]

/-- Digits with a sign in front of them, if at all a minus, are read as a whole. -/
theorem readInteger_of_digits {s : String} {n : Nat} (negative : Bool)
    (spelled : s.toList = (if negative then ['-'] else []) ++ Nat.toDigits 10 n) :
    readInteger s =
      if (Nat.toDigits 10 n).length ≤ digitLimit then .ok (if negative then -(n : Int) else n)
      else .error (.tooLong (Nat.toDigits 10 n).length) := by
  obtain ⟨ds, read, length, value⟩ := digits?_toDigits n
  have solid : dropEnds isNumberBlank s.toList = s.toList := by
    refine dropEnds_of_solid fun c member => ?_
    rw [spelled, List.mem_append] at member
    rcases member with sign | digit
    · cases negative with
      | true => rw [List.mem_singleton.mp sign, isNumberBlank]; decide
      | false => cases sign
    · exact isNumberBlank_of_isDigit (isDigit_of_mem_toDigits digit)
  unfold readInteger
  rw [solid, spelled]
  simp only [← Nat.not_lt, ite_not]
  cases negative with
  | true =>
      simp only [if_true, List.singleton_append, read, length, value]
      rfl
  | false =>
      obtain ⟨c, rest, first⟩ := List.exists_cons_of_ne_nil (Nat.toDigits_ne_nil (n := n) (b := 10))
      have digit : c.isDigit = true := isDigit_of_mem_toDigits (first ▸ List.mem_cons_self)
      have minus : c ≠ '-' := by
        rintro rfl
        exact absurd digit (by decide)
      have plus : c ≠ '+' := by
        rintro rfl
        exact absurd digit (by decide)
      rw [first] at read length ⊢
      simp only [Bool.false_eq_true, ↓reduceIte, List.nil_append, ↓Char.isValue,
        List.cons.injEq, minus, false_and, imp_self, implies_true, plus, read, length,
        List.length_cons, value]
      rfl

/-- An integer is read back if it has no more digits than may be read. -/
theorem readInteger_repr (i : Int) :
    readInteger i.repr =
      if digitCount i ≤ digitLimit then .ok i else .error (.tooLong (digitCount i)) := by
  cases i with
  | ofNat n =>
      have spelled : (Int.ofNat n).repr.toList = [] ++ Nat.toDigits 10 n :=
        Nat.toList_repr
      exact readInteger_of_digits false spelled
  | negSucc n =>
      have spelled : (Int.negSucc n).repr.toList = ['-'] ++ Nat.toDigits 10 (n + 1) := by
        have written : (Int.negSucc n).repr = "-" ++ (n + 1).repr := rfl
        rw [written, String.toList_append, Nat.toList_repr]
        rfl
      exact readInteger_of_digits true spelled

end CallDiagram.Text
