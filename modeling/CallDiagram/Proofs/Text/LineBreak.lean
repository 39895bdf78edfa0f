import CallDiagram.Text.Wrap
import Mathlib.Data.List.Basic

/-! # Where a line ends

A text that is too long for a line is cut near the ideal width if it can be cut there, else at the
first place behind it that leaves more than a stub. What this says of a single cut is enough for
every run: the text is the line, the white space around the cut and the rest, and a line that is
still too long cannot be cut again.
-/

namespace CallDiagram.Text

/-- A text that neither starts nor ends with white space. -/
structure IsTrimmed (cs : List Char) : Prop where
  start : ∀ c, cs.head? = some c → isBlank c = false
  stop : ∀ c, cs.getLast? = some c → isBlank c = false

theorem isTrimmed_strip (cs : List Char) : IsTrimmed (strip cs) :=
  ⟨fun _ => head?_strip, fun _ => getLast?_strip⟩

theorem IsTrimmed.strip_eq {cs : List Char} (trimmed : IsTrimmed cs) : strip cs = cs := by
  have start : dropStart isBlank cs = cs := dropStart_eq_self trimmed.start
  rw [strip, dropEnds, start]
  exact dropEnd_eq_self trimmed.stop

/-- What is left of a trimmed text when its beginning is taken off together with the white space
behind it. -/
theorem IsTrimmed.stripStart_drop {cs : List Char} (trimmed : IsTrimmed cs) {i : Nat}
    (inside : i < cs.length) :
    stripStart (cs.drop i) ≠ [] ∧ IsTrimmed (stripStart (cs.drop i)) := by
  have last : (cs.drop i).getLast? = cs.getLast? := by
    rw [List.getLast?_drop, if_neg (by omega)]
  have nonempty : stripStart (cs.drop i) ≠ [] := by
    have some : cs.drop i ≠ [] := by
      rw [ne_eq, List.drop_eq_nil_iff]
      omega
    have solid := trimmed.stop _ (last.symm.trans (List.getLast?_eq_some_getLast some))
    exact dropStart_ne_nil (List.getLast_mem some) solid
  obtain ⟨dropped, whole, -⟩ := exists_dropStart isBlank (cs.drop i)
  refine ⟨nonempty, fun c => head?_dropStart, fun c stop => trimmed.stop c ?_⟩
  rw [← last, ← whole, List.getLast?_append, show (dropStart isBlank _).getLast? = some c from stop]
  rfl

namespace Wrapper

/-! ## Places to cut at -/

theorem lt_of_breaksAt {text : List Char} {i : Nat} (breaks : breaksAt text i = true) :
    i < text.length := by
  rw [breaksAt, Option.any_eq_true] at breaks
  obtain ⟨c, found, -⟩ := breaks
  exact (List.getElem?_eq_some_iff.mp found).1

theorem breaksAt_mono {line text : List Char} (start : line <+: text) {i : Nat}
    (breaks : breaksAt line i = true) : breaksAt text i = true := by
  obtain ⟨rest, rfl⟩ := start
  rw [breaksAt, List.getElem?_append_left (lt_of_breaksAt breaks)]
  exact breaks

section Choice

variable (w : Wrapper) (width : Nat) (text : List Char)

/-- The places off the ideal one by less than the soft limit, in the order in which they are
tried. -/
def nearPlaces : List Nat :=
  let forward := List.range' (width + 1) (w.softLimit - 1)
  let lowest := width - w.softLimit + 1
  let backward := (List.range' lowest (width - lowest)).reverse
  width ::
    if 2 * (text.length - width) < 3 * w.softLimit then backward ++ forward
    else forward ++ backward

/-- The places from the soft limit on. -/
def farPlaces : List Nat :=
  List.range' (width + w.softLimit) (text.length - (width + w.softLimit))

/-- The first place for a cut from the soft limit on, unless only a stub would be left. -/
def farBreak? : Option Nat :=
  ((w.farPlaces width text).find? (breaksAt text)).filter (w.softLimit ≤ text.length - · - 1)

theorem breakIndex?_eq :
    w.breakIndex? width text =
      ((w.nearPlaces width text).find? (breaksAt text)).or (w.farBreak? width text) := by
  have far : w.farBreak? width text = (do
      let i ← firstBreak? text (width + w.softLimit) (text.length - (width + w.softLimit))
      if text.length - i - 1 < w.softLimit then none else some i) := by
    rw [farBreak?, farPlaces, ← firstBreak?]
    cases firstBreak? text (width + w.softLimit) (text.length - (width + w.softLimit)) with
    | none => rfl
    | some i =>
        by_cases stub : text.length - i - 1 < w.softLimit
        · simp [stub]
        · simp [stub, Nat.not_lt.mp stub]
  have either (a b : Option Nat) : (a <|> b) = a.or b := by cases a <;> rfl
  rw [breakIndex?, far, nearPlaces, List.find?_cons]
  cases breaksAt text width with
  | true => rfl
  | false =>
      simp only [Bool.false_eq_true, if_false, either, firstBreak?, lastBreak?]
      split <;> rw [List.find?_append]

end Choice

variable {w : Wrapper} {width : Nat} {text : List Char}

theorem mem_nearPlaces (positive : 0 < width) {i : Nat} :
    i ∈ w.nearPlaces width text ↔ width - w.softLimit < i ∧ i < width + w.softLimit := by
  have soft := w.softLimit_pos
  have sides : i ∈ w.nearPlaces width text ↔ i = width ∨
      i ∈ List.range' (width - w.softLimit + 1) (width - (width - w.softLimit + 1)) ∨
      i ∈ List.range' (width + 1) (w.softLimit - 1) := by
    rw [nearPlaces, List.mem_cons]
    split
    · rw [List.mem_append, List.mem_reverse]
    · rw [List.mem_append, List.mem_reverse, or_comm (a := i ∈ List.range' (width + 1) _)]
  rw [sides, List.mem_range'_1, List.mem_range'_1]
  omega

theorem mem_farPlaces {i : Nat} :
    i ∈ w.farPlaces width text ↔ width + w.softLimit ≤ i ∧ i < text.length := by
  rw [farPlaces, List.mem_range'_1]
  omega

theorem farBreak?_eq_some {i : Nat} (found : w.farBreak? width text = some i) :
    width + w.softLimit ≤ i ∧ breaksAt text i = true ∧ w.softLimit ≤ text.length - i - 1 ∧
      ∀ j, width + w.softLimit ≤ j → j < i → breaksAt text j = false := by
  obtain ⟨first, rest⟩ := Option.filter_eq_some_iff.mp found
  rw [farPlaces, List.find?_range'_eq_some, List.mem_range'_1] at first
  obtain ⟨breaks, ⟨low, -⟩, before⟩ := first
  exact ⟨low, breaks, by simpa using rest, by simpa using before⟩

theorem farBreak?_eq_none_iff :
    w.farBreak? width text = none ↔
      ∀ i, width + w.softLimit ≤ i → breaksAt text i = true →
        text.length - i - 1 < w.softLimit := by
  constructor
  · intro refused i low breaks
    have member := mem_farPlaces.mpr ⟨low, lt_of_breaksAt breaks⟩
    obtain ⟨j, first⟩ := Option.isSome_iff_exists.mp (List.find?_isSome.mpr ⟨i, member, breaks⟩)
    have stub := Option.filter_eq_none_iff.mp refused j first
    rw [farPlaces, List.find?_range'_eq_some] at first
    have earliest : j ≤ i := by
      by_contra later
      have free := first.2.2 i low (by omega)
      rw [breaks] at free
      cases free
    simp only [decide_eq_true_eq, Nat.not_le] at stub
    omega
  · intro stubs
    by_contra found
    obtain ⟨i, found⟩ := Option.ne_none_iff_exists'.mp found
    obtain ⟨low, breaks, rest, -⟩ := farBreak?_eq_some found
    exact Nat.not_le.mpr (stubs i low breaks) rest

/-- A text is left whole if every place to cut it at that is not too far down the line comes later
than allowed and would leave a stub. -/
theorem breakIndex?_eq_none_iff (positive : 0 < width) :
    w.breakIndex? width text = none ↔
      ∀ i, width - w.softLimit < i → breaksAt text i = true →
        width + w.softLimit ≤ i ∧ text.length - i - 1 < w.softLimit := by
  have soft := w.softLimit_pos
  rw [breakIndex?_eq, Option.or_eq_none_iff, List.find?_eq_none, farBreak?_eq_none_iff]
  constructor
  · rintro ⟨near, far⟩ i low breaks
    have high : width + w.softLimit ≤ i := by
      by_contra below
      exact near i ((mem_nearPlaces positive).mpr ⟨low, by omega⟩) breaks
    exact ⟨high, far i high breaks⟩
  · intro stubs
    refine ⟨fun i member breaks => ?_, fun i high breaks => (stubs i (by omega) breaks).2⟩
    obtain ⟨low, high⟩ := (mem_nearPlaces positive).mp member
    exact Nat.not_le.mpr high (stubs i low breaks).1

theorem breaksAt_of_breakIndex? {i : Nat} (found : w.breakIndex? width text = some i) :
    breaksAt text i = true := by
  rw [breakIndex?_eq, Option.or_eq_some_iff] at found
  rcases found with near | ⟨-, far⟩
  · exact List.find?_some near
  · exact (farBreak?_eq_some far).2.1

/-! ## A single cut -/

variable (w width text) in
/-- What is known of the index at which a trimmed text is cut. -/
structure CutAt (i : Nat) : Prop where
  trimmed : IsTrimmed text
  long : width + w.softLimit < text.length
  found : w.breakIndex? width text = some i
  above : width - w.softLimit < i
  breaks : breaksAt text i = true
  /-- Something stays behind the cut. -/
  inside : i + 1 < text.length
  /-- A cut as far off as the soft limit or farther is at the first place there is. -/
  first : width + w.softLimit ≤ i → ∀ j, width - w.softLimit < j → j < i → breaksAt text j = false

theorem cutAt_of_breakIndex? {i : Nat} (positive : 0 < width) (trimmed : IsTrimmed text)
    (long : width + w.softLimit < text.length) (found : w.breakIndex? width text = some i) :
    CutAt w width text i := by
  have soft := w.softLimit_pos
  have choice := found
  rw [breakIndex?_eq, Option.or_eq_some_iff] at choice
  rcases choice with near | ⟨clear, far⟩
  · obtain ⟨low, high⟩ := (mem_nearPlaces positive).mp (List.mem_of_find?_eq_some near)
    exact ⟨trimmed, long, found, low, List.find?_some near, by omega, fun beyond => by omega⟩
  · obtain ⟨high, breaks, rest, before⟩ := farBreak?_eq_some far
    refine ⟨trimmed, long, found, by omega, breaks, by omega, fun _ j low earlier => ?_⟩
    rcases Nat.lt_or_ge j (width + w.softLimit) with close | beyond
    · have free := List.find?_eq_none.mp clear j ((mem_nearPlaces positive).mpr ⟨low, close⟩)
      simpa using free
    · exact before j beyond earlier

/-- A line ends where white space was, or behind punctuation. -/
def EndsInPunctuation (line : List Char) : Prop :=
  ∃ c ∈ punctuation, line.getLast? = some c

theorem lineUpTo_begins (text : List Char) (i : Nat) : lineUpTo text i <+: text := by
  rw [lineUpTo]
  split
  · have start : stripEnd (text.take i) <+: text.take i := dropEnd_prefix isBlank _
    exact start.trans (List.take_prefix i text)
  · exact List.take_prefix (i + 1) text

theorem length_lineUpTo_le (text : List Char) (i : Nat) : (lineUpTo text i).length ≤ i + 1 := by
  rw [lineUpTo]
  split
  · have start : stripEnd (text.take i) <+: text.take i := dropEnd_prefix isBlank _
    have shorter := start.length_le
    rw [List.length_take] at shorter
    omega
  · rw [List.length_take]
    omega

namespace CutAt

variable {i : Nat}

theorem positive (cut : CutAt w width text i) : 0 < i := by
  have := cut.above
  omega

/-- The line and the rest are all that was there but for white space between them. -/
theorem split (cut : CutAt w width text i) :
    ∃ gap, text = lineUpTo text i ++ gap ++ stripStart (text.drop (i + 1)) ∧
      (∀ c ∈ gap, isBlank c = true) ∧ (gap = [] → EndsInPunctuation (lineUpTo text i)) := by
  have inside : i < text.length := Nat.lt_of_succ_lt cut.inside
  have whole : text.take i ++ text[i] :: text.drop (i + 1) = text := by
    rw [← List.drop_eq_getElem_cons inside, List.take_append_drop]
  obtain ⟨after, behind, blankAfter⟩ := exists_dropStart isBlank (text.drop (i + 1))
  rw [lineUpTo, List.getElem?_eq_getElem inside, Option.any_some]
  cases kind : isBlank text[i] with
  | true =>
      obtain ⟨before, ahead, blankBefore⟩ := exists_dropEnd isBlank (text.take i)
      refine ⟨before ++ text[i] :: after, ?_, fun c member => ?_, fun none => by simp at none⟩
      · calc text = text.take i ++ text[i] :: text.drop (i + 1) := whole.symm
          _ = dropEnd isBlank (text.take i) ++ before ++
                text[i] :: (after ++ dropStart isBlank (text.drop (i + 1))) := by rw [ahead, behind]
          _ = _ := by simp [stripEnd, stripStart]
      · rcases List.mem_append.mp member with early | late
        · exact blankBefore c early
        · rcases List.mem_cons.mp late with rfl | late
          · exact kind
          · exact blankAfter c late
  | false =>
      have line : text.take (i + 1) = text.take i ++ [text[i]] :=
        List.take_succ_eq_append_getElem inside
      refine ⟨after, ?_, blankAfter, fun _ => ⟨text[i], ?_, ?_⟩⟩
      · calc text = text.take (i + 1) ++ text.drop (i + 1) := (List.take_append_drop _ _).symm
          _ = _ := by rw [if_neg Bool.false_ne_true, List.append_assoc, stripStart, behind]
      · have breaks := cut.breaks
        simpa [breaksAt, inside, canBreakAt, kind] using breaks
      · rw [if_neg Bool.false_ne_true, line, List.getLast?_append]
        rfl

theorem lineUpTo_ne_nil (cut : CutAt w width text i) : lineUpTo text i ≠ [] := by
  have positive := cut.positive
  have inside : 0 < text.length := by
    have := cut.inside
    omega
  rw [lineUpTo]
  split
  · have first : text.head? = some text[0] := by
      rw [List.head?_eq_getElem?, List.getElem?_eq_getElem inside]
    have among : text[0] ∈ text.take i :=
      List.mem_take_iff_getElem.mpr ⟨0, Nat.lt_min.mpr ⟨positive, inside⟩, rfl⟩
    exact dropEnd_ne_nil among (cut.trimmed.start _ first)
  · rw [ne_eq, List.take_eq_nil_iff, not_or]
    exact ⟨Nat.succ_ne_zero i, List.ne_nil_of_length_pos inside⟩

theorem isTrimmed_lineUpTo (cut : CutAt w width text i) : IsTrimmed (lineUpTo text i) := by
  have inside : i < text.length := Nat.lt_of_succ_lt cut.inside
  constructor
  · intro c first
    obtain ⟨rest, whole⟩ := lineUpTo_begins text i
    refine cut.trimmed.start c ?_
    rw [← whole, List.head?_append, first]
    rfl
  · intro c last
    rw [lineUpTo] at last
    split at last
    · exact getLast?_dropEnd last
    · next solid =>
      rw [List.take_succ_eq_append_getElem inside, List.getLast?_append] at last
      obtain rfl := Option.some.inj last
      simpa [inside] using solid

theorem rest (cut : CutAt w width text i) :
    stripStart (text.drop (i + 1)) ≠ [] ∧ IsTrimmed (stripStart (text.drop (i + 1))) :=
  cut.trimmed.stripStart_drop cut.inside

end CutAt

/-! ## Lines that stay as they are -/

variable (w width) in
/-- A line that wrapping leaves alone: it is short enough or cannot be cut. -/
structure IsLine (line : List Char) : Prop where
  nonempty : line ≠ []
  trimmed : IsTrimmed line
  uncut : width + w.softLimit < line.length → w.breakIndex? width line = none

/-- A line that is cut off is not cut again: all that could be cut at lies at its end. -/
theorem CutAt.isLine {i : Nat} (positive : 0 < width) (cut : CutAt w width text i) :
    IsLine w width (lineUpTo text i) := by
  refine ⟨cut.lineUpTo_ne_nil, cut.isTrimmed_lineUpTo, fun long => ?_⟩
  have soft := w.softLimit_pos
  have short : (lineUpTo text i).length ≤ i + 1 := length_lineUpTo_le text i
  rw [breakIndex?_eq_none_iff positive]
  intro j low breaks
  have inside := lt_of_breaksAt breaks
  have last : i ≤ j := by
    by_contra earlier
    have free := cut.first (by omega) j low (by omega)
    rw [breaksAt_mono (lineUpTo_begins text i) breaks] at free
    cases free
  omega

/-! ## Runs -/

theorem linesOf_nil (w : Wrapper) (width : Nat) : w.linesOf width [] = [] := by
  rw [linesOf]
  simp

theorem IsLine.linesOf_eq {line : List Char} (whole : IsLine w width line) :
    w.linesOf width line = [line] := by
  rw [linesOf]
  split
  · next long => rw [whole.uncut long]
  · rw [if_neg (by simpa using whole.nonempty)]

theorem CutAt.linesOf_eq {i : Nat} (cut : CutAt w width text i) :
    w.linesOf width text =
      lineUpTo text i :: w.linesOf width (stripStart (text.drop (i + 1))) := by
  rw [linesOf, dif_pos cut.long, cut.found]
  exact if_neg (by simpa using cut.lineUpTo_ne_nil)

/-- A trimmed text is empty, a line or cut, and what is left behind a cut is trimmed again. -/
theorem linesOf_induction {motive : List Char → List (List Char) → Prop} (positive : 0 < width)
    (nothing : motive [] [])
    (line : ∀ line, IsLine w width line → motive line [line])
    (cut : ∀ text i, CutAt w width text i →
      motive (stripStart (text.drop (i + 1))) (w.linesOf width (stripStart (text.drop (i + 1)))) →
      motive text (lineUpTo text i :: w.linesOf width (stripStart (text.drop (i + 1)))))
    (trimmed : IsTrimmed text) : motive text (w.linesOf width text) := by
  induction size : text.length using Nat.strongRecOn generalizing text with
  | ind n ih =>
      by_cases nonempty : text = []
      · rw [nonempty, linesOf_nil]
        exact nothing
      · by_cases whole : width + w.softLimit < text.length → w.breakIndex? width text = none
        · have whole : IsLine w width text := ⟨nonempty, trimmed, whole⟩
          rw [whole.linesOf_eq]
          exact line text whole
        · obtain ⟨long, found⟩ := Classical.not_imp.mp whole
          obtain ⟨i, found⟩ := Option.ne_none_iff_exists'.mp found
          have here := cutAt_of_breakIndex? positive trimmed long found
          have shorter : (stripStart (text.drop (i + 1))).length < n := by
            have less : (stripStart (text.drop (i + 1))).length ≤ (text.drop (i + 1)).length :=
              (List.dropWhile_sublist isBlank).length_le
            rw [List.length_drop] at less
            have := here.inside
            omega
          rw [here.linesOf_eq]
          exact cut text i here (ih _ shorter here.rest.2 rfl)

end Wrapper

end CallDiagram.Text
