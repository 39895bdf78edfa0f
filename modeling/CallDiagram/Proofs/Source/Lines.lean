import CallDiagram.Source.Lexer

/-! # Tokens in lines

Tokens are listed in the order of their lines, and behind the end of a logical line a new line
starts. Main statement: `pairwise_tokens`.
-/

namespace CallDiagram.Source

theorem bind_eq_ok {ε α β : Type} {x : Except ε α} {f : α → Except ε β} {b : β} :
    (x >>= f) = .ok b ↔ ∃ a, x = .ok a ∧ f a = .ok b := by
  cases x <;> simp [bind, Except.bind]

theorem Mark.line_le_after (m : Mark) (cs : List Char) : m.line ≤ (m.after cs).line := by
  fun_induction Mark.after m cs with
  | case1 => exact Nat.le_refl _
  | case2 m rest ih => exact Nat.le_trans (Nat.le_succ _) ih
  | case3 m c rest _ ih => exact ih

/-- The token starts no later than on the line of the mark; the end of a line starts above it. -/
structure Token.Above (t : Token) (m : Mark) : Prop where
  start : t.span.start.line ≤ m.line
  ending : t.lexeme = .newline → t.span.start.line < m.line

theorem Token.Above.mono {t : Token} {m m' : Mark} (above : t.Above m) (later : m.line ≤ m'.line) :
    t.Above m' :=
  ⟨Nat.le_trans above.start later, fun ending => Nat.lt_of_lt_of_le (above.ending ending) later⟩

/-- The tokens before the mark `m`, last first, stand in lines. -/
structure InLines (m : Mark) (done : List Token) : Prop where
  sorted : done.Pairwise fun b a => a.Above b.span.start
  above : ∀ t ∈ done, t.Above m

namespace InLines

variable {m m' : Mark} {done : List Token} {t : Token}

theorem nil (m : Mark) : InLines m [] := ⟨.nil, by simp⟩

theorem mono (lines : InLines m done) (later : m.line ≤ m'.line) : InLines m' done :=
  ⟨lines.sorted, fun t member => (lines.above t member).mono later⟩

/-- A token at the mark is read, and the reading goes on at `m'`. -/
theorem cons (lines : InLines m done) (start : t.span.start = m) (above : t.Above m') :
    InLines m' (t :: done) where
  sorted := List.pairwise_cons.mpr ⟨fun a member => start ▸ lines.above a member, lines.sorted⟩
  above a member := by
    rcases List.mem_cons.mp member with rfl | earlier
    · exact above
    · exact (lines.above a earlier).mono (start ▸ above.start)

/-- Indentations are read where they are. -/
theorem layout {marks : List LayoutLexeme} (lines : InLines m done)
    (inner : ∀ l ∈ marks, l.val ≠ .newline) :
    InLines m (marks.map (.ofLayout m) ++ done) := by
  induction marks with
  | nil => exact lines
  | cons l marks ih =>
      obtain ⟨first, others⟩ := List.forall_mem_cons.mp inner
      exact (ih others).cons rfl ⟨Nat.le_refl _, fun ending => absurd ending first⟩

end InLines

/-! ## Steps of the reader -/

theorem not_newline_of_literal {start : Mark} {letters rest behind : List Char} {quote : Char}
    {l : Lexeme} (h : literal start letters quote rest = .ok (l, behind)) : l ≠ .newline := by
  rintro rfl
  unfold literal at h
  dsimp only at h
  split at h <;> cases h

theorem not_newline_of_lexeme {start : Mark} {cs rest : List Char} {l : Lexeme}
    (h : lexeme start cs = .ok (l, rest)) : l ≠ .newline := by
  rintro rfl
  unfold lexeme at h
  split at h
  · exact not_newline_of_literal h rfl
  · cases h
  · split at h
    · split at h <;> cases h
    · split at h
      · dsimp only at h
        split at h <;> cases h
      · split at h <;> cases h

theorem not_newline_of_startLine {layout layout' : Layout} {wide narrow : Nat}
    {marks : List LayoutLexeme} (h : layout.startLine wide narrow = .ok (layout', marks)) :
    ∀ l ∈ marks, l.val ≠ .newline := by
  unfold Layout.startLine at h
  dsimp only at h
  intro l member
  split at h
  · split at h <;> cases h
    cases member
  · split at h
    · split at h
      · cases h
      · split at h <;> cases h
        rw [List.mem_singleton.mp member]
        exact nofun
    · split at h <;> cases h
      rw [List.eq_of_mem_replicate member]
      exact nofun

theorem not_newline_of_lineStart {layout layout' : Layout} {cs rest : List Char}
    {marks : List LayoutLexeme} (h : lineStart layout cs = .ok (layout', marks, rest)) :
    ∀ l ∈ marks, l.val ≠ .newline := by
  unfold lineStart at h
  simp only [bind, Except.bind, pure, Except.pure] at h
  split at h
  · cases h
  · split at h
    · cases h
      simp
    · split at h
      · cases h
        simp
      · split at h
        · cases h
        · next started =>
          cases h
          exact not_newline_of_startLine started

theorem inLines_tokensFrom {layout : Layout} {m : Mark} {done ts : List Token} {cs : List Char}
    (lines : InLines m done) (h : tokensFrom layout m done cs = .ok ts) :
    ts.Pairwise fun a b => a.Above b.span.start := by
  fun_induction tokensFrom layout m done cs with
  | case1 =>
      cases h
      exact List.pairwise_reverse.mpr (List.pairwise_cons.mpr ⟨lines.above, lines.sorted⟩)
  | case2 => cases h
  | case3 _ _ _ _ _ _ ih => exact ih (lines.mono (Mark.line_le_after ..)) h
  | case4 _ _ _ _ _ _ ih => exact ih (lines.mono (Mark.line_le_after ..)) h
  | case5 => cases h
  | case6 _ m _ _ _ _ _ started _ _ _ next done' start ih =>
      -- The only place where the end of a line is entered: the reading goes on one line below.
      have line : m.line < next.line := Nat.lt_succ_self _
      have ended : InLines next done' := by
        dsimp only [done']
        split
        · exact lines.mono (Nat.le_of_lt line)
        · exact lines.cons rfl ⟨Nat.le_of_lt line, fun _ => line⟩
      exact ih ((ended.mono (Mark.line_le_after ..)).layout (not_newline_of_lineStart started)) h
  | case7 _ _ _ _ _ _ _ _ ih => exact ih (lines.mono (Mark.line_le_after ..)) h
  | case8 => cases h
  | case9 _ _ _ _ _ _ _ _ _ _ failed =>
      split at h
      · cases h
      · next read => cases failed.symm.trans read
  | case10 _ _ _ _ _ _ _ _ _ _ _ _ unbalanced read =>
      split at h
      · cases h
      · next read' =>
          cases read.symm.trans read'
          simp only [unbalanced] at h
          cases h
  | case11 _ m _ _ _ _ _ _ _ _ _ _ _ balanced _ _ read _ ih =>
      split at h
      · cases h
      · next read' =>
          cases read.symm.trans read'
          simp only [balanced] at h
          exact ih (lines.cons rfl ⟨Mark.line_le_after .., nofun⟩) h
  | case12 _ m _ _ _ _ _ _ _ _ _ _ _ _ _ read other ih =>
      split at h
      · cases h
      · next read' =>
          cases read.symm.trans read'
          split at h
          · exact (other _ _ rfl .rfl).elim
          · exact ih (lines.cons rfl
              ⟨Mark.line_le_after .., fun ending => absurd ending (not_newline_of_lexeme read)⟩) h

/-- A token starts no earlier than on the line of each token before it, and the end of a line lies
above all that follows. -/
theorem pairwise_tokens {start : Mark} {cs : List Char} {ts : List Token}
    (h : tokens start cs = .ok ts) : ts.Pairwise fun a b => a.Above b.span.start := by
  unfold tokens at h
  dsimp only at h
  split at h
  · cases h
  obtain ⟨⟨layout, marks, rest⟩, started, h⟩ := bind_eq_ok.mp h
  have first (m : Mark) := (InLines.nil m).layout (not_newline_of_lineStart started)
  simp only [List.append_nil] at first
  exact inLines_tokensFrom (first _) h

end CallDiagram.Source
