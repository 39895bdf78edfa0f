import CallDiagram.Proofs.CallSite.Offsets
import CallDiagram.Proofs.CallSite.Reading
import Mathlib.Data.Prod.Lex
import Mathlib.Order.Hom.Basic

/-! # The positions of a document

Positions are ordered by lines, and within a line by characters. In this order the positions of a
document are its offsets from the start of the text to its end; what lies beside them is taken for
the nearest of them, if only the line exists.
-/

namespace CallDiagram

namespace Position

def key (p : Position) : ℤ ×ₗ ℤ :=
  toLex (p.line, p.character)

theorem key_injective : Function.Injective key := by
  intro p q same
  obtain ⟨line, character⟩ := p
  obtain ⟨line', character'⟩ := q
  simpa [key] using same

instance : LinearOrder Position :=
  LinearOrder.lift' key key_injective

variable {p q : Position}

theorem lt_eq_true_iff : p.lt q = true ↔ p < q := by
  have order : p < q ↔ p.key < q.key := Iff.rfl
  rw [order, key, key, Prod.Lex.toLex_lt_toLex]
  simp [Position.lt]

theorem le_eq_true_iff : p.le q = true ↔ p ≤ q := by
  rw [le_iff_not_lt, lt_eq_true_iff, not_lt]

end Position

namespace Document

variable {d : Document} {p q : Position} {m n : Nat}

theorem lineAt_eq_ok_iff {line : Nat} {cs : List Char} :
    d.lineAt line = .ok cs ↔ d.lines[line]? = some cs := by
  cases known : d.lines[line]? <;> simp [lineAt, known]

/-! ## One position for each offset -/

theorem hasPosition_of_at (stands : d.At p m) : d.HasPosition p := by
  obtain ⟨line, character, cs, known, within, rfl, rfl⟩ := stands
  exact ⟨cs, lineAt_eq_ok_iff.mpr known, Int.natCast_nonneg character, Int.ofNat_le.mpr within⟩

theorem eq_of_at (first : d.At p m) (second : d.At q m) : p = q := by
  refine le_antisymm ?_ ?_
  · exact Position.le_eq_true_iff.mp ((le_iff_of_at first second).mpr le_rfl)
  · exact Position.le_eq_true_iff.mp ((le_iff_of_at second first).mpr le_rfl)

/-- The positions of a document, each at the place of its offset. -/
def positions (d : Document) : Fin (d.text.length + 1) ≃o {p : Position // d.HasPosition p} where
  toFun m := ⟨d.positionAt m, hasPosition_of_at (at_positionAt (Nat.le_of_lt_succ m.isLt))⟩
  invFun p := ⟨(d.offsetAt p).toOption.getD 0, by
    obtain ⟨m, stands⟩ := at_of_hasPosition p.property
    rw [offsetAt_of_at stands]
    exact Nat.lt_succ_of_le (le_length_of_at stands)⟩
  left_inv m := by
    have stands := at_positionAt (d := d) (Nat.le_of_lt_succ m.isLt)
    exact Fin.ext (congrArg (fun offset => offset.toOption.getD 0) (offsetAt_of_at stands))
  right_inv p := by
    obtain ⟨m, stands⟩ := at_of_hasPosition p.property
    refine Subtype.ext ?_
    dsimp only
    rw [offsetAt_of_at stands]
    exact eq_of_at (at_positionAt (le_length_of_at stands)) stands
  map_rel_iff' := by
    intro m n
    have first := at_positionAt (d := d) (Nat.le_of_lt_succ m.isLt)
    have second := at_positionAt (d := d) (Nat.le_of_lt_succ n.isLt)
    exact Position.le_eq_true_iff.symm.trans (le_iff_of_at first second)

theorem offsetAt_eq_positions_symm (p : {p : Position // d.HasPosition p}) :
    d.offsetAt p = .ok (d.positions.symm p : Nat) := by
  obtain ⟨m, stands⟩ := at_of_hasPosition p.property
  have offset := offsetAt_of_at stands
  rw [offset]
  exact congrArg (fun offset => Except.ok (offset.toOption.getD 0)) offset.symm

/-! ## Beside the text -/

theorem offsetAt_eq_error_iff :
    d.offsetAt p = .error (.noLine p.line d.lineCount) ↔ ¬ (0 ≤ p.line ∧ p.line < d.lineCount) := by
  cases found : d.lineAt p.line with
  | ok cs => simp [offsetAt, found, Except.map, bounds_of_lineAt found]
  | error e =>
      have missing : ¬ (0 ≤ p.line ∧ p.line < d.lineCount) := by
        rintro ⟨nonneg, bound⟩
        obtain ⟨n, same⟩ := Int.eq_ofNat_of_zero_le nonneg
        obtain ⟨cs, known⟩ := lineAt_of_lt (d := d) (n := n) (by omega)
        rw [same, known] at found
        cases found
      simp [offsetAt, found, Except.map, lineAt_eq_error found, missing]

theorem offsetAt_clamped {line : Nat} {cs : List Char} (known : d.lines[line]? = some cs)
    (character : Int) :
    d.offsetAt ⟨line, character⟩ = d.offsetAt ⟨line, max 0 (min character cs.length)⟩ := by
  have found : d.lineAt line = .ok cs := lineAt_eq_ok_iff.mpr known
  have same : min character.toNat cs.length =
      min (max 0 (min character cs.length)).toNat cs.length := by
    omega
  simp only [offsetAt, found, Except.map, same]

theorem positionAt_clamped (offset : Int) :
    d.positionAt offset = d.positionAt (max 0 (min offset d.text.length)) := by
  have same : min offset.toNat d.text.length =
      min (max 0 (min offset d.text.length)).toNat d.text.length := by
    omega
  rw [positionAt, positionAt, same]

theorem textOf_positionAt (first : m ≤ d.text.length) (last : n ≤ d.text.length) :
    d.textOf ⟨d.positionAt m, d.positionAt n⟩ = .ok (d.slice m n) := by
  simp [textOf, offsetAt_of_at (at_positionAt first), offsetAt_of_at (at_positionAt last), bind,
    Except.bind, pure, Except.pure]

/-- Positions and offsets are the same places in the same order, and what lies beside them counts as
the nearest of them. -/
theorem positions_match_offsets (d : Document) :
    (∀ m : Fin (d.text.length + 1), (d.positions m : Position) = d.positionAt m) ∧
      (∀ p : {p : Position // d.HasPosition p},
        d.offsetAt p = .ok (d.positions.symm p : Nat)) ∧
      (∀ p : Position, d.offsetAt p = .error (.noLine p.line d.lineCount) ↔
        ¬ (0 ≤ p.line ∧ p.line < d.lineCount)) ∧
      (∀ (line : Nat) (cs : List Char), d.lines[line]? = some cs → ∀ character : Int,
        d.offsetAt ⟨line, character⟩ = d.offsetAt ⟨line, max 0 (min character cs.length)⟩) ∧
      (∀ offset : Int, d.positionAt offset = d.positionAt (max 0 (min offset d.text.length))) ∧
      ∀ m n : Nat, m ≤ n → n ≤ d.text.length →
        d.textOf ⟨d.positionAt m, d.positionAt n⟩ = .ok ((d.text.take n).drop m) := by
  refine ⟨fun _ => rfl, offsetAt_eq_positions_symm, fun _ => offsetAt_eq_error_iff,
    fun _ _ known => offsetAt_clamped known, positionAt_clamped, ?_⟩
  intro m n before bound
  exact textOf_positionAt (before.trans bound) bound

/-- A text with an empty line and nothing behind its last line feed. -/
theorem emptyLines_match_offsets :
    let d := Document.ofString "ab\n\nc\n"
    (d.positions 3 : Position) = ⟨1, 0⟩ ∧ d.offsetAt ⟨1, 0⟩ = .ok 3 ∧
      d.offsetAt ⟨4, 0⟩ = .error (.noLine 4 4) ∧ d.lines[1]? = some [] ∧
      d.offsetAt ⟨1, 7⟩ = d.offsetAt ⟨1, 0⟩ ∧ d.positionAt 9 = d.positionAt 6 ∧
      d.textOf ⟨d.positionAt 1, d.positionAt 4⟩ = .ok "b\n\n".toList := by
  intro d
  obtain ⟨position, offset, missing, beside, behind, text⟩ := positions_match_offsets d
  have known : d.HasPosition ⟨1, 0⟩ := ⟨[], rfl, le_rfl, le_rfl⟩
  refine ⟨position 3, ?_, (missing ⟨4, 0⟩).mpr (by decide), rfl, beside 1 [] rfl 7, behind 9,
    text 1 4 (by decide) (by decide)⟩
  rw [offset ⟨_, known⟩]
  rfl

end Document

end CallDiagram
