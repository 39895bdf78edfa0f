import CallDiagram.Document
import Mathlib.Data.List.Basic

/-! # Positions and offsets

Every offset of a document has one position, and positions are ordered as their offsets are. So
whatever is said of positions can be proved of offsets.
-/

namespace CallDiagram

open Text

theorem Position.le_iff_not_lt {p q : Position} : p.le q = true ↔ ¬ q.lt p = true := by
  simp only [Position.le, Position.lt, Bool.or_eq_true, Bool.and_eq_true, decide_eq_true_eq]
  omega

namespace Document

variable {d : Document} {p q : Position} {m n : Nat}

/-- A position stands at an offset. -/
def At (d : Document) (p : Position) (offset : Nat) : Prop :=
  ∃ (line character : Nat) (cs : List Char), d.lines[line]? = some cs ∧ character ≤ cs.length ∧
    p = ⟨line, character⟩ ∧ offset = d.lineStart line + character

/-- A document has a position: its line, and in the line a character or the end. -/
def HasPosition (d : Document) (p : Position) : Prop :=
  ∃ cs, d.lineAt p.line = .ok cs ∧ 0 ≤ p.character ∧ p.character ≤ cs.length

theorem at_of_hasPosition (has : d.HasPosition p) : ∃ offset, d.At p offset := by
  obtain ⟨line, character⟩ := p
  obtain ⟨cs, known, nonneg, within⟩ := has
  obtain ⟨character, rfl⟩ := Int.eq_ofNat_of_zero_le nonneg
  cases line with
  | negSucc n => cases known
  | ofNat n =>
      cases line : d.lines[n]? with
      | none => simp [lineAt, line] at known
      | some cs' =>
          simp only [lineAt, line, Except.ok.injEq] at known
          subst known
          exact ⟨_, n, character, cs', line, Int.ofNat_le.mp within, rfl, rfl⟩

theorem offsetAt_of_at (stands : d.At p m) : d.offsetAt p = .ok m := by
  obtain ⟨line, character, cs, known, within, rfl, rfl⟩ := stands
  have found : d.lineAt (line : Int) = .ok cs := by
    simp only [lineAt, known]
  simp [offsetAt, found, Except.map, within]

theorem lineStart_succ {line : Nat} {cs : List Char} (known : d.lines[line]? = some cs) :
    d.lineStart (line + 1) = d.lineStart line + cs.length + 1 := by
  unfold lineStart
  generalize d.lines = lines at known
  induction lines generalizing line with
  | nil => simp at known
  | cons first lines ih =>
      cases line with
      | zero =>
          simp only [List.getElem?_cons_zero, Option.some.injEq] at known
          subst known
          simp [lengthWithFeeds]
      | succ line =>
          rw [List.getElem?_cons_succ] at known
          have rest := ih known
          simp only [List.take_succ_cons, lengthWithFeeds] at rest ⊢
          omega

theorem lineStart_mono {line other : Nat} (before : line ≤ other) :
    d.lineStart line ≤ d.lineStart other := by
  unfold lineStart
  generalize d.lines = lines
  induction lines generalizing line other with
  | nil => simp
  | cons first lines ih =>
      cases line with
      | zero => simp [lengthWithFeeds]
      | succ line =>
          cases other with
          | zero => omega
          | succ other =>
              have rest := ih (Nat.le_of_succ_le_succ before)
              simp only [List.take_succ_cons, lengthWithFeeds]
              omega

theorem lineStart_add_lt {line other : Nat} {cs : List Char} (known : d.lines[line]? = some cs)
    (before : line < other) : d.lineStart line + cs.length < d.lineStart other := by
  have next := lineStart_succ known
  have later : d.lineStart (line + 1) ≤ d.lineStart other := lineStart_mono before
  omega

/-- Positions are ordered as their offsets are. -/
theorem lt_iff_of_at (first : d.At p m) (second : d.At q n) : p.lt q = true ↔ m < n := by
  obtain ⟨line, character, cs, known, within, rfl, rfl⟩ := first
  obtain ⟨line', character', cs', known', within', rfl, rfl⟩ := second
  simp only [Position.lt, Bool.or_eq_true, Bool.and_eq_true, decide_eq_true_eq, Int.ofNat_lt,
    Int.ofNat_inj]
  rcases Nat.lt_trichotomy line line' with before | same | behind
  · have far := lineStart_add_lt known before
    omega
  · subst same
    omega
  · have far := lineStart_add_lt known' behind
    omega

theorem le_iff_of_at (first : d.At p m) (second : d.At q n) : p.le q = true ↔ m ≤ n := by
  rw [Position.le_iff_not_lt, lt_iff_of_at second first, Nat.not_lt]

theorem lengthWithFeeds_splitOnChar (cs : List Char) :
    lengthWithFeeds (splitOnChar '\n' cs) = cs.length + 1 := by
  induction cs with
  | nil => rfl
  | cons c rest ih =>
      simp only [splitOnChar]
      split
      · simp only [lengthWithFeeds, ih, List.length_nil, List.length_cons]
        omega
      · cases pieces : splitOnChar '\n' rest with
        | nil => exact absurd pieces (splitOnChar_ne_nil '\n' rest)
        | cons piece others =>
            rw [pieces] at ih
            simp only [lengthWithFeeds, List.length_cons] at ih ⊢
            omega

theorem le_length_of_at (stands : d.At p m) : m ≤ d.text.length := by
  obtain ⟨line, character, cs, known, within, rfl, rfl⟩ := stands
  have bound := (List.getElem?_eq_some_iff.mp known).1
  have far := lineStart_add_lt known bound
  have whole : d.lineStart d.lines.length = d.text.length + 1 := by
    rw [lineStart, List.take_length, d.lines_eq, lengthWithFeeds_splitOnChar]
  omega

theorem locate_spec (lines : List (List Char)) (offset : Nat) (nonempty : lines ≠ [])
    (within : offset < lengthWithFeeds lines) :
    ∃ cs, lines[(locate lines offset).1]? = some cs ∧ (locate lines offset).2 ≤ cs.length ∧
      offset = lengthWithFeeds (lines.take (locate lines offset).1) + (locate lines offset).2 := by
  induction lines generalizing offset with
  | nil => exact absurd rfl nonempty
  | cons first lines ih =>
      cases lines with
      | nil =>
          simp only [lengthWithFeeds] at within
          exact ⟨first, rfl, Nat.le_of_lt_succ within, by simp [locate, lengthWithFeeds]⟩
      | cons next lines =>
          rw [locate]
          split
          · next here => exact ⟨first, rfl, here, by simp [lengthWithFeeds]⟩
          · next beyond =>
            rw [lengthWithFeeds] at within
            obtain ⟨cs, known, inside, total⟩ :=
              ih (offset - (first.length + 1)) (List.cons_ne_nil _ _) (by omega)
            refine ⟨cs, known, inside, ?_⟩
            simp only [List.take_succ_cons, lengthWithFeeds]
            omega

theorem at_positionAt (bound : m ≤ d.text.length) : d.At (d.positionAt m) m := by
  have nonempty : d.lines ≠ [] := by
    rw [d.lines_eq]
    exact splitOnChar_ne_nil '\n' d.text
  have within : m < lengthWithFeeds d.lines := by
    rw [d.lines_eq, lengthWithFeeds_splitOnChar]
    omega
  obtain ⟨cs, known, inside, total⟩ := locate_spec d.lines m nonempty within
  have clamped : min (m : Int).toNat d.text.length = m := by
    rw [Int.toNat_natCast, Nat.min_eq_left bound]
  refine ⟨_, _, cs, known, inside, ?_, total⟩
  rw [positionAt, clamped]

end Document

end CallDiagram
