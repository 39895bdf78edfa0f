import CallDiagram.Proofs.Text.LineBreak
import CallDiagram.Proofs.Text.Splitting

/-! # What wrapping does to a text

The lines of a segment are the segment but for white space: between two lines nothing else is
dropped, and where not even that is, the first of them ends in punctuation. A line is longer than
allowed only if it holds no place where a cut would be right: all such places are so close to its
end that only a stub would be left.
-/

namespace CallDiagram.Text.Wrapper

/-! ## Looking at places of the text only -/

/-- What a test says of the character at an index; nothing if the text has no such index. -/
def look? (text : List Char) (test : Char → Bool) (i : Nat) : Option Bool :=
  text[i]?.map test

/-- The first of some indexes at which a text can be cut; nothing if the search looks at an index
that the text does not have. -/
def search? (text : List Char) : List Nat → Option (Option Nat)
  | [] => some none
  | i :: later => do
    if ← look? text canBreakAt i then some (some i) else search? text later

/-- The index to cut at, found by a search that fails where it looks outside of the text. -/
def breakIndexWithin? (w : Wrapper) (width : Nat) (text : List Char) : Option (Option Nat) := do
  match ← search? text (w.nearPlaces width text) with
  | some i => some (some i)
  | none =>
    let far ← search? text (w.farPlaces width text)
    some (far.filter (w.softLimit ≤ text.length - · - 1))

/-- The lines of a text, cut by searches that fail where they look outside of the text. -/
def linesWithin? (w : Wrapper) (width : Nat) (text : List Char) : Option (List (List Char)) :=
  if _h : width + w.softLimit < text.length then do
    match ← w.breakIndexWithin? width text with
    | none => some [text]
    | some i =>
      let line := if ← look? text isBlank i then stripEnd (text.take i) else text.take (i + 1)
      let lines ← linesWithin? w width (stripStart (text.drop (i + 1)))
      some (if line.isEmpty then lines else line :: lines)
  else some (if text.isEmpty then [] else [text])
termination_by text.length
decreasing_by
  have : (stripStart (text.drop (i + 1))).length ≤ (text.drop (i + 1)).length :=
    (List.dropWhile_sublist _).length_le
  rw [List.length_drop] at this
  omega

theorem look?_eq {text : List Char} {i : Nat} (inside : i < text.length) (test : Char → Bool) :
    look? text test i = some ((text[i]?).any test) := by
  simp [look?, inside]

theorem search?_eq {text : List Char} {places : List Nat}
    (inside : ∀ i ∈ places, i < text.length) :
    search? text places = some (places.find? (breaksAt text)) := by
  induction places with
  | nil => rfl
  | cons i later ih =>
      obtain ⟨first, rest⟩ := List.forall_mem_cons.mp inside
      rw [search?, look?_eq first, Option.bind_eq_bind, Option.bind_some, List.find?_cons, ih rest,
        ← breaksAt]
      cases breaksAt text i <;> rfl

/-- The search for the index to cut at never leaves the text. -/
theorem breakIndexWithin?_eq {w : Wrapper} {width : Nat} {text : List Char} (positive : 0 < width)
    (long : width + w.softLimit < text.length) :
    w.breakIndexWithin? width text = some (w.breakIndex? width text) := by
  have near : ∀ i ∈ w.nearPlaces width text, i < text.length := by
    intro i member
    have := (mem_nearPlaces positive).mp member
    omega
  have far : ∀ i ∈ w.farPlaces width text, i < text.length :=
    fun i member => (mem_farPlaces.mp member).2
  rw [breakIndexWithin?, search?_eq near, search?_eq far, breakIndex?_eq, farBreak?]
  cases (w.nearPlaces width text).find? (breaksAt text) <;> rfl

/-- Wrapping never looks at an index that the text does not have. -/
theorem linesWithin?_eq (w : Wrapper) {width : Nat} (positive : 0 < width) (text : List Char) :
    w.linesWithin? width text = some (w.linesOf width text) := by
  induction text using linesOf.induct w width with
  | case1 text long whole =>
      rw [linesWithin?, linesOf, dif_pos long, dif_pos long, breakIndexWithin?_eq positive long,
        whole]
      rfl
  | case2 text long i found line _ ih | case3 text long i found line _ ih =>
      have inside := lt_of_breaksAt (breaksAt_of_breakIndex? found)
      rw [linesWithin?, linesOf, dif_pos long, dif_pos long, breakIndexWithin?_eq positive long,
        found]
      simp only [Option.bind_eq_bind, Option.bind_some, look?_eq inside, ih, lineUpTo]
      rfl
  | case4 text short empty | case5 text short empty =>
      rw [linesWithin?, linesOf, dif_neg short, dif_neg short]

/-! ## What is kept -/

/-- A text is broken into lines: only white space is dropped between two lines, and if nothing is,
the first of the two ends in punctuation. -/
inductive BrokenInto : List Char → List (List Char) → Prop where
  | nothing : BrokenInto [] []
  | last (line : List Char) : BrokenInto line [line]
  | cut {line gap rest : List Char} {lines : List (List Char)} :
      (∀ c ∈ gap, isBlank c = true) → (gap = [] → EndsInPunctuation line) → lines ≠ [] →
      BrokenInto rest lines → BrokenInto (line ++ gap ++ rest) (line :: lines)

theorem BrokenInto.ne_nil {text : List Char} {lines : List (List Char)}
    (broken : BrokenInto text lines) (nonempty : text ≠ []) : lines ≠ [] := by
  cases broken with
  | nothing => exact absurd rfl nonempty
  | last | cut => exact List.cons_ne_nil _ _

theorem BrokenInto.infix_of_mem {text line : List Char} {lines : List (List Char)}
    (broken : BrokenInto text lines) (member : line ∈ lines) : line <:+: text := by
  induction broken with
  | nothing => cases member
  | last text => exact List.mem_singleton.mp member ▸ List.infix_refl _
  | @cut first gap rest others _ _ _ _ ih =>
      rcases List.mem_cons.mp member with rfl | later
      · exact ⟨[], gap ++ rest, by simp⟩
      · exact (ih later).trans (List.suffix_append _ _).isInfix

theorem filter_blanks {gap : List Char} (blank : ∀ c ∈ gap, isBlank c = true) :
    gap.filter (!isBlank ·) = [] :=
  List.filter_eq_nil_iff.mpr fun c member => by simp [blank c member]

/-- No other character is lost, doubled or moved. -/
theorem BrokenInto.filter_flatten {text : List Char} {lines : List (List Char)}
    (broken : BrokenInto text lines) :
    lines.flatten.filter (!isBlank ·) = text.filter (!isBlank ·) := by
  induction broken with
  | nothing => rfl
  | last text => rw [List.flatten_singleton]
  | @cut first gap rest others blank _ _ _ ih =>
      rw [List.flatten_cons, List.filter_append, ih, List.filter_append, List.filter_append,
        filter_blanks blank, List.append_nil]

variable {w : Wrapper} {width : Nat}

theorem brokenInto_linesOf (positive : 0 < width) {text : List Char} (trimmed : IsTrimmed text) :
    BrokenInto text (w.linesOf width text) := by
  refine linesOf_induction positive ?nothing ?line ?cut trimmed
  case nothing => exact .nothing
  case line => exact fun line _ => .last line
  case cut =>
    intro text i cut ih
    obtain ⟨gap, whole, blank, ends⟩ := cut.split
    have broken := BrokenInto.cut blank ends (ih.ne_nil cut.rest.1) ih
    rwa [← whole] at broken

theorem isLine_of_mem_linesOf (positive : 0 < width) {text : List Char} (trimmed : IsTrimmed text) :
    ∀ line ∈ w.linesOf width text, IsLine w width line := by
  refine linesOf_induction (motive := fun _ lines => ∀ line ∈ lines, IsLine w width line) positive
    ?nothing ?line ?cut trimmed
  case nothing => exact List.forall_mem_nil _
  case line => exact fun line whole => List.forall_mem_singleton.mpr whole
  case cut => exact fun text i cut ih => List.forall_mem_cons.mpr ⟨cut.isLine positive, ih⟩

/-! ## Segments and texts -/

theorem isLine_of_mem_segmentLines (positive : 0 < width) {segment line : List Char}
    (member : line ∈ w.segmentLines width segment) : IsLine w width line :=
  isLine_of_mem_linesOf positive (isTrimmed_strip segment) line member

theorem filter_strip (cs : List Char) :
    (strip cs).filter (!isBlank ·) = cs.filter (!isBlank ·) := by
  obtain ⟨before, start, blankBefore⟩ := exists_dropStart isBlank cs
  obtain ⟨behind, stop, blankBehind⟩ := exists_dropEnd isBlank (dropStart isBlank cs)
  calc (strip cs).filter (!isBlank ·)
      = (strip cs ++ behind).filter (!isBlank ·) := by
        rw [List.filter_append, filter_blanks blankBehind, List.append_nil]
    _ = (dropStart isBlank cs).filter (!isBlank ·) := by rw [strip, dropEnds, stop]
    _ = (before ++ dropStart isBlank cs).filter (!isBlank ·) := by
        rw [List.filter_append, filter_blanks blankBefore, List.nil_append]
    _ = cs.filter (!isBlank ·) := by rw [start]

/-- The width that counts if a text is wrapped with a width, or with none. -/
def lineWidth (w : Wrapper) (width : Nat) : Nat :=
  if width = 0 then w.width else width

theorem lineWidth_pos (w : Wrapper) (width : Nat) : 0 < w.lineWidth width := by
  rw [lineWidth]
  split
  · exact w.width_pos
  · omega

theorem lineWidth_of_pos (positive : 0 < width) : w.lineWidth width = width :=
  if_neg (Nat.ne_of_gt positive)

theorem wrap_of_short {text : List Char} (single : ¬ w.marker <:+: text)
    (short : text.length ≤ w.lineWidth width + w.softLimit) : w.wrap text width = text :=
  if_pos ⟨by rw [cutAt?_eq_none_iff.mpr single]; rfl, short⟩

theorem wrap_of_long {text : List Char}
    (long : ¬ (¬ w.marker <:+: text ∧ text.length ≤ w.lineWidth width + w.softLimit)) :
    w.wrap text width = joinWith w.marker
      ((splitOn w.marker w.marker_ne_nil text).flatMap (w.segmentLines (w.lineWidth width))) := by
  refine if_neg fun both => long ⟨?_, both.2⟩
  rw [← cutAt?_eq_none_iff]
  exact Option.isNone_iff_eq_none.mp both.1

/-- Wrapping cuts at white space and behind punctuation only, never looks beyond the end of a text
and drops nothing but white space at its cuts. A text of one segment that is short enough stays as
it is, and any other is wrapped segment by segment. -/
theorem segmentLines_broken (w : Wrapper) {width : Nat} (positive : 0 < width)
    (segment text : List Char) :
    w.linesWithin? width (strip segment) = some (w.segmentLines width segment) ∧
      BrokenInto (strip segment) (w.segmentLines width segment) ∧
      (w.segmentLines width segment).flatten.filter (!isBlank ·) = segment.filter (!isBlank ·) ∧
      w.wrap text = w.wrap text w.width ∧
      if ¬ w.marker <:+: text ∧ text.length ≤ width + w.softLimit then
        w.wrap text width = text
      else
        let segments := splitOn w.marker w.marker_ne_nil text
        joinWith w.marker segments = text ∧ (∀ segment ∈ segments, ¬ w.marker <:+: segment) ∧
          w.wrap text width = joinWith w.marker (segments.flatMap (w.segmentLines width)) := by
  have broken : BrokenInto (strip segment) (w.segmentLines width segment) :=
    brokenInto_linesOf positive (isTrimmed_strip segment)
  have counts : w.lineWidth width = width := lineWidth_of_pos positive
  refine ⟨w.linesWithin?_eq positive _, broken, broken.filter_flatten.trans (filter_strip segment),
    by simp [wrap], ?_⟩
  split
  · next short => exact wrap_of_short short.1 (counts.symm ▸ short.2)
  · next long =>
    refine ⟨joinWith_splitOn _ text, fun _ => not_infix_of_mem_splitOn _, ?_⟩
    rw [wrap_of_long (counts.symm ▸ long), counts]

/-- Lines of about 30 characters. -/
def usual : Wrapper :=
  ⟨30, 10, ['<', 'b', 'r', '>'], Nat.succ_pos 29, Nat.succ_pos 9, List.cons_ne_nil _ _⟩

theorem greek_broken :
    let text := "alpha beta gamma delta epsilon zeta eta theta iota kappa".toList
    let lines := ["alpha beta gamma delta epsilon".toList, "zeta eta theta iota kappa".toList]
    0 < 30 ∧ BrokenInto text lines ∧ usual.linesWithin? 30 text = some lines ∧
      usual.wrap text 30 = joinWith usual.marker lines := by
  intro text lines
  obtain ⟨looks, broken, -, -, wrapped⟩ := usual.segmentLines_broken (by decide : 0 < 30) text text
  have trimmed : strip text = text := by decide +kernel
  have cut : usual.segmentLines 30 text = lines := by decide +kernel
  have long : ¬ (¬ usual.marker <:+: text ∧ text.length ≤ 30 + usual.softLimit) := by
    decide +kernel
  have whole : splitOn usual.marker usual.marker_ne_nil text = [text] := by decide +kernel
  rw [if_neg long, whole] at wrapped
  rw [trimmed, cut] at looks broken
  refine ⟨by decide, broken, looks, wrapped.2.2.trans ?_⟩
  rw [List.flatMap_singleton, cut]

/-- A short text keeps the white space that the lines of its segments would not have. -/
theorem blank_start_stays :
    usual.wrap " a".toList 30 ≠ joinWith usual.marker
      ((splitOn usual.marker usual.marker_ne_nil " a".toList).flatMap (usual.segmentLines 30)) := by
  decide +kernel

/-- Lines are trimmed and not empty, and one that is too long holds no place for a cut near its
ideal end and behind that only places that would leave a stub. -/
theorem segmentLines_uncut (w : Wrapper) {width : Nat} (positive : 0 < width)
    (segment : List Char) :
    ∀ line ∈ w.segmentLines width segment, line ≠ [] ∧ IsTrimmed line ∧
      (width + w.softLimit < line.length → ∀ i, breaksAt line i = true →
        ¬ (width - w.softLimit < i ∧ i < width + w.softLimit) ∧
          (width + w.softLimit ≤ i → line.length - i - 1 < w.softLimit)) := by
  intro line member
  have whole := isLine_of_mem_segmentLines positive member
  refine ⟨whole.nonempty, whole.trimmed, fun long i breaks => ?_⟩
  have stubs := (breakIndex?_eq_none_iff positive).mp (whole.uncut long) i
  constructor
  · rintro ⟨low, high⟩
    exact Nat.not_le.mpr high (stubs low breaks).1
  · intro high
    have soft := w.softLimit_pos
    exact (stubs (by omega) breaks).2

theorem stub_uncut :
    let text := List.replicate 42 'a' ++ " bb".toList
    0 < 30 ∧ text ∈ usual.segmentLines 30 text ∧ 30 + usual.softLimit < text.length ∧
      breaksAt text 42 = true ∧ IsTrimmed text ∧ text.length - 42 - 1 < usual.softLimit := by
  intro text
  have member : text ∈ usual.segmentLines 30 text := by decide +kernel
  obtain ⟨-, trimmed, stubs⟩ := usual.segmentLines_uncut (by decide : 0 < 30) text text member
  have last := stubs (by decide) 42 (by decide)
  exact ⟨by decide, member, by decide, by decide, trimmed, last.2 (by decide)⟩

end CallDiagram.Text.Wrapper
