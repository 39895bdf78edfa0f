import CallDiagram.Proofs.CallSite.Arguments
import CallDiagram.Proofs.CallSite.Positions
import CallDiagram.Proofs.Text.Splitting

/-! # Detected calls

A name is called if a parenthesis opens behind it, after white space at most and no further away
than on the next line. It is the first parenthesis behind the name, so the arguments that are read
are those of the detected call.
-/

namespace CallDiagram

open Text

theorem head?_stripStart_eq_some_iff {cs : List Char} {c : Char} :
    (stripStart cs).head? = some c ↔ isBlank c = false ∧ ∃ place : Nat, cs[place]? = some c ∧
      ∀ earlier < place, ∃ b, cs[earlier]? = some b ∧ isBlank b = true := by
  have search : (stripStart cs).head? = cs.find? fun c => !isBlank c := by
    rw [List.find?_eq_head?_dropWhile_not]
    simp [stripStart, dropStart]
  rw [search, List.find?_eq_some_iff_getElem, Bool.not_eq_true']
  refine and_congr_right fun _ => exists_congr fun place => ?_
  constructor
  · rintro ⟨bound, found, blank⟩
    refine ⟨List.getElem?_eq_some_iff.mpr ⟨bound, found⟩, fun earlier before => ?_⟩
    exact ⟨_, List.getElem?_eq_getElem (before.trans bound), by simpa using blank earlier before⟩
  · rintro ⟨found, blank⟩
    obtain ⟨bound, same⟩ := List.getElem?_eq_some_iff.mp found
    refine ⟨bound, same, fun earlier before => ?_⟩
    obtain ⟨b, known, white⟩ := blank earlier before
    rw [List.getElem?_eq_getElem (before.trans bound), Option.some.injEq] at known
    simp [known, white]

namespace Document

variable {d : Document} {p : Position} {name : Range} {m line stop opened : Nat} {cs : List Char}

/-! ## Lines in the text -/

theorem drop_joinWith {lines : List (List Char)} (known : lines[line]? = some cs) :
    ∃ rest, (joinWith ['\n'] lines).drop (lengthWithFeeds (lines.take line)) = cs ++ rest ∧
      ∀ c, rest.head? = some c → c = '\n' := by
  induction lines generalizing line with
  | nil => simp at known
  | cons first lines ih =>
      cases line with
      | zero =>
          obtain rfl : first = cs := by simpa using known
          cases lines with
          | nil => exact ⟨[], by simp [joinWith, lengthWithFeeds], by simp⟩
          | cons next lines =>
              refine ⟨'\n' :: joinWith ['\n'] (next :: lines), ?_, by simp [eq_comm]⟩
              simp [joinWith, lengthWithFeeds]
      | succ line =>
          rw [List.getElem?_cons_succ] at known
          obtain ⟨rest, cut, feeds⟩ := ih known
          refine ⟨rest, ?_, feeds⟩
          have some_ : lines ≠ [] := by
            rintro rfl
            simp at known
          have long : lengthWithFeeds ((first :: lines).take (line + 1)) =
              (first ++ ['\n']).length + lengthWithFeeds (lines.take line) := by
            simp [lengthWithFeeds]
          rw [joinWith_cons _ _ some_, long, ← List.append_assoc, List.drop_length_add_append, cut]

/-- Behind a line comes a line feed, if anything. -/
theorem eq_feed_of_lineEnd {c : Char} (known : d.lines[line]? = some cs)
    (found : d.text[d.lineStart line + cs.length]? = some c) : c = '\n' := by
  obtain ⟨rest, cut, feeds⟩ := drop_joinWith known
  have whole : joinWith ['\n'] d.lines = d.text := by
    rw [d.lines_eq, joinWith_splitOnChar]
  rw [whole] at cut
  refine feeds c ?_
  rw [List.head?_eq_getElem?, ← found, ← List.getElem?_drop, lineStart, cut,
    List.getElem?_append_right le_rfl, Nat.sub_self]

theorem lineEnd_eq (known : d.lines[line]? = some cs) :
    d.lineEnd line = .ok (d.lineStart line + cs.length) := by
  have bound : line < d.lineCount := (List.getElem?_eq_some_iff.mp known).1
  rw [lineEnd, if_neg (by omega), lineAt_eq_ok_iff.mpr known]
  rfl

theorem line_le_iff_of_at (stands : d.At p m) (known : d.lines[line]? = some cs) :
    p.line ≤ line ↔ m ≤ d.lineStart line + cs.length := by
  obtain ⟨line', character, cs', known', within, rfl, rfl⟩ := stands
  rw [Int.ofNat_le]
  rcases Nat.lt_trichotomy line' line with before | rfl | behind
  · have far := lineStart_add_lt known' before
    omega
  · obtain rfl : cs = cs' := Option.some.inj (known.symm.trans known')
    omega
  · have far := lineStart_add_lt known behind
    omega

theorem le_line_iff_of_at (line : Nat) (stands : d.At p m) :
    line ≤ p.line ↔ d.lineStart line ≤ m := by
  obtain ⟨line', character, cs', known', within, rfl, rfl⟩ := stands
  rw [Int.ofNat_le]
  rcases Nat.lt_or_ge line' line with before | behind
  · have far := lineStart_add_lt known' before
    omega
  · have order := lineStart_mono (d := d) behind
    omega

theorem exists_line_of_offsetAt (offset : d.offsetAt p = .ok m) :
    ∃ (line : Nat) (cs : List Char), d.lines[line]? = some cs ∧ p.line = line ∧
      d.lineStart line ≤ m ∧ m ≤ d.lineStart line + cs.length := by
  cases found : d.lineAt p.line with
  | error e => simp [offsetAt, found, Except.map] at offset
  | ok cs =>
      obtain ⟨line, same⟩ := Int.eq_ofNat_of_zero_le (bounds_of_lineAt found).1
      rw [same] at found
      simp only [offsetAt, same, found, Except.map, Int.toNat_natCast, Except.ok.injEq] at offset
      exact ⟨line, cs, lineAt_eq_ok_iff.mp found, same, by omega, by omega⟩

/-! ## The parenthesis of a call -/

/-- A parenthesis that opens the arguments of a name: only white space stands between them, and it
is on the line on which the name ends or on the next one. -/
structure OpensCall (d : Document) (name : Range) (stop opened : Nat) : Prop where
  behind : stop ≤ opened
  opens : d.text[opened]? = some '('
  blank : ∀ place, stop ≤ place → place < opened → ∃ c, d.text[place]? = some c ∧ isBlank c = true
  near : (d.positionAt opened).line = name.stop.line ∨
    (d.positionAt opened).line = name.stop.line + 1

theorem OpensCall.firstOpening (call : d.OpensCall name stop opened) :
    d.FirstOpening stop opened where
  behind := call.behind
  opens := call.opens
  first place from_ before found := by
    obtain ⟨c, known, white⟩ := call.blank place from_ before
    rw [Option.some.inj (known.symm.trans found)] at white
    exact absurd white (by decide)

theorem line_positionAt (offset : d.offsetAt p = .ok m) : (d.positionAt m).line = p.line := by
  obtain ⟨line, cs, known, same, from_, upTo⟩ := exists_line_of_offsetAt offset
  have ends : d.At ⟨line, cs.length⟩ (d.lineStart line + cs.length) :=
    ⟨line, cs.length, cs, known, le_rfl, rfl, rfl⟩
  have stands := at_positionAt (upTo.trans (le_length_of_at ends))
  rw [same]
  exact le_antisymm ((line_le_iff_of_at stands known).mpr upTo)
    ((le_line_iff_of_at line stands).mpr from_)

/-- Calls are looked for up to the end of the line behind the one on which the name ends. -/
theorem exists_lookahead (offset : d.offsetAt name.stop = .ok stop) :
    ∃ upTo, d.lineEnd (min (name.stop.line + 1) (d.lineCount - 1)) = .ok upTo ∧
      ∀ opened, stop ≤ opened → d.text[opened]? = some '(' →
        (opened < upTo ↔ (d.positionAt opened).line = name.stop.line ∨
          (d.positionAt opened).line = name.stop.line + 1) := by
  obtain ⟨line, cs, known, same, from_, -⟩ := exists_line_of_offsetAt offset
  have bound : line < d.lineCount := (List.getElem?_eq_some_iff.mp known).1
  obtain ⟨next, last⟩ : ∃ next : Nat, (next : Int) = min (name.stop.line + 1) (d.lineCount - 1) :=
    ⟨min (line + 1) (d.lineCount - 1), by omega⟩
  obtain ⟨cs', known'⟩ : ∃ cs', d.lines[next]? = some cs' :=
    ⟨_, List.getElem?_eq_getElem (show next < d.lineCount by omega)⟩
  refine ⟨d.lineStart next + cs'.length, by rw [← last, lineEnd_eq known'], ?_⟩
  intro opened behind opens
  have stands := at_positionAt (d := d) (List.getElem?_eq_some_iff.mp opens).1.le
  have lower := (le_line_iff_of_at line stands).mpr (from_.trans behind)
  have upper := line_le_iff_of_at stands known'
  have inText : (d.positionAt opened).line < d.lineCount := by
    obtain ⟨cs, found, -⟩ := hasPosition_of_at stands
    exact (bounds_of_lineAt found).2
  -- The place behind a line holds a line feed or nothing, so no parenthesis.
  have notEnd : opened ≠ d.lineStart next + cs'.length := by
    rintro rfl
    exact absurd (eq_feed_of_lineEnd known' opens) (by decide)
  omega

/-- Whether a name is called is told wherever the name ends in the text. -/
theorem isCall_iff (offset : d.offsetAt name.stop = .ok stop) :
    ∃ called, d.isCall name = .ok called ∧
      (called = true ↔ ∃ opened, d.OpensCall name stop opened) := by
  obtain ⟨upTo, lookahead, near⟩ := exists_lookahead offset
  have read : d.isCall name = .ok ((d.text.drop stop).head? = some '(' ||
      (stripStart (d.slice stop upTo)).head? = some '(') := by
    rw [isCall, offset]
    simp only [lookahead, bind, Except.bind, pure, Except.pure]
  refine ⟨_, read, ?_⟩
  rw [Bool.or_eq_true, decide_eq_true_eq, decide_eq_true_eq, List.head?_drop,
    head?_stripStart_eq_some_iff]
  simp only [getElem?_slice]
  constructor
  · rintro (directly | ⟨-, place, opens, blank⟩)
    · exact ⟨stop, le_rfl, directly, fun place _ _ => by omega, .inl (line_positionAt offset)⟩
    · have bound : stop + place < upTo := by
        by_contra beyond
        rw [if_neg beyond] at opens
        cases opens
      rw [if_pos bound] at opens
      refine ⟨stop + place, Nat.le_add_right _ _, opens, fun earlier from_ before => ?_,
        (near _ (Nat.le_add_right _ _) opens).mp bound⟩
      obtain ⟨earlier, rfl⟩ := Nat.exists_eq_add_of_le from_
      obtain ⟨c, known, white⟩ := blank earlier (by omega)
      rw [if_pos (by omega)] at known
      exact ⟨c, known, white⟩
  · rintro ⟨opened, call⟩
    have bound := (near opened call.behind call.opens).mpr call.near
    obtain ⟨place, rfl⟩ := Nat.exists_eq_add_of_le call.behind
    refine .inr ⟨by decide, place, by rw [if_pos bound, call.opens], fun earlier before => ?_⟩
    rw [if_pos (by omega)]
    exact call.blank _ (Nat.le_add_right _ _) (by omega)

/-- Where arguments were read, only white space stands between the name and the parenthesis that
opens them. -/
theorem argumentRange_spec {tokens : List String} {range : Range} (ends : d.At name.stop stop)
    (positive : 0 < stop) (last : d.text[stop - 1]? ≠ some '(')
    (read : (d.readCall tokens name).1.argumentRange = some range) :
    ∃ opened, stop ≤ opened ∧ d.text[opened]? = some '(' ∧
      (∀ place, stop ≤ place → place < opened → ∃ c, d.text[place]? = some c ∧ isBlank c = true) ∧
      range = ⟨d.positionAt ↑opened, d.positionAt ↑(d.argumentStop opened)⟩ := by
  have endsAt : d.EndsAt name stop := ⟨offsetAt_of_at ends, by rintro before rfl; exact last⟩
  unfold readCall at read
  split at read
  · cases read
  · cases read
  · next called =>
    obtain ⟨_, told, calls⟩ := isCall_iff endsAt.offset
    obtain ⟨opened, call⟩ := calls.mp (Except.ok.inj (told.symm.trans called))
    obtain ⟨arguments, known⟩ := endsAt.exists_arguments call.firstOpening
    split at read
    · cases read
    · simp only [known, Option.some.injEq] at read
      exact ⟨opened, call.behind, call.opens, call.blank, read.symm⟩

/-- A name is called exactly if a parenthesis opens behind it, after white space at most and no
further away than on the next line, and that is where the arguments start that are read. -/
theorem isCall_agrees (ends : d.EndsAt name stop) :
    ∃ called, d.isCall name = .ok called ∧
      (called = true ↔ ∃ opened, d.OpensCall name stop opened) ∧
      ∀ opened, d.OpensCall name stop opened → ∃ arguments finish,
        d.arguments name = .ok (arguments, some ⟨d.positionAt opened, finish⟩) := by
  obtain ⟨called, read, told⟩ := isCall_iff ends.offset
  refine ⟨called, read, told, fun opened call => ?_⟩
  obtain ⟨arguments, known⟩ := ends.exists_arguments call.firstOpening
  exact ⟨arguments, _, known⟩

/-- The arguments stand on the next line, and another call follows. -/
theorem nextLine_isCall_agrees :
    let d := Document.ofString "f \n (x)\ng(y)"
    let name : Range := ⟨⟨0, 0⟩, ⟨0, 1⟩⟩
    d.EndsAt name 1 ∧ d.OpensCall name 1 4 ∧ d.isCall name = .ok true ∧
      ∃ arguments finish, d.arguments name = .ok (arguments, some ⟨⟨1, 1⟩, finish⟩) := by
  intro d name
  have ends : d.EndsAt name 1 := by
    refine ⟨rfl, fun before last => ?_⟩
    obtain rfl : before = 0 := by omega
    decide
  have call : d.OpensCall name 1 4 := by
    refine ⟨by decide, rfl, fun place behind before => ?_, .inr rfl⟩
    obtain rfl | rfl | rfl : place = 1 ∨ place = 2 ∨ place = 3 := by omega
    · exact ⟨' ', rfl, rfl⟩
    · exact ⟨'\n', rfl, rfl⟩
    · exact ⟨' ', rfl, rfl⟩
  obtain ⟨called, read, told, starts⟩ := isCall_agrees ends
  rw [told.mpr ⟨4, call⟩] at read
  exact ⟨ends, call, read, starts 4 call⟩

end Document

end CallDiagram
