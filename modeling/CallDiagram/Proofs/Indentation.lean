import CallDiagram.Document
import Mathlib.Data.List.TakeWhile
import Mathlib.Order.Bounds.Basic

/-! # Classes by indentation

The class around a declaration is read off the lines above it. Going up, only the least indentation
of the code passed so far has to be remembered: a line is indented less than all that code if and
only if it is indented less than the least of it. Main statement: `enclosingClass?_innermost`.
-/

namespace CallDiagram

open Text

/-! ## The header of a class -/

/-- The text starts with the word of a class header, white space and a name. -/
structure IsClassHeader (text blanks name : List Char) : Prop where
  spelled : "class".toList ++ (blanks ++ name) <+: text
  apart : blanks ≠ []
  blank : ∀ c ∈ blanks, isBlank c = true
  named : name ≠ []
  plain : ∀ c ∈ name, c ≠ '(' ∧ c ≠ ':'

/-- The name of a class header in a greedy reading: the white space reaches as far as it leaves a
name, and the name then reaches as far as it can. -/
def IsClassName (text name : List Char) : Prop :=
  ∃ blanks, IsClassHeader text blanks name ∧ ∀ blanks' name', IsClassHeader text blanks' name' →
    blanks'.length < blanks.length ∨
      blanks'.length = blanks.length ∧ name'.length ≤ name.length

theorem IsClassName.unique {text name name' : List Char} (is : IsClassName text name)
    (is' : IsClassName text name') : name = name' := by
  obtain ⟨blanks, header, greatest⟩ := is
  obtain ⟨blanks', header', greatest'⟩ := is'
  have longer := greatest _ _ header'
  have longer' := greatest' _ _ header
  have same : blanks ++ name = blanks' ++ name' := by
    have length : ("class".toList ++ (blanks ++ name)).length =
        ("class".toList ++ (blanks' ++ name')).length := by
      simp only [List.length_append]
      omega
    have prefixes := List.prefix_of_prefix_length_le header.spelled header'.spelled length.le
    exact List.append_cancel_left (prefixes.eq_of_length length)
  exact (List.append_inj same (by omega)).2

/-- What may stand in a name. -/
def isNamed (c : Char) : Bool :=
  c ≠ '(' && c ≠ ':'

theorem isNamed_of_isBlank {c : Char} (blank : isBlank c = true) : isNamed c = true := by
  rw [isNamed, Bool.and_eq_true, decide_eq_true_eq, decide_eq_true_eq]
  constructor
  · rintro rfl
    revert blank
    decide
  · rintro rfl
    revert blank
    decide

/-- What a text starts with is no longer than its longest start of that kind. -/
theorem prefix_takeWhile {p : Char → Bool} {cs whole : List Char} (start : cs <+: whole)
    (all : ∀ c ∈ cs, p c = true) : cs <+: whole.takeWhile p := by
  obtain ⟨rest, rfl⟩ := start
  rw [List.takeWhile_append_of_pos all]
  exact List.prefix_append cs _

namespace IsClassHeader

variable {spaces tail blanks name : List Char}

theorem isNamed (header : IsClassHeader tail blanks name) :
    ∀ c ∈ name, CallDiagram.isNamed c = true := by
  intro c member
  simp [CallDiagram.isNamed, header.plain c member]

theorem start (header : IsClassHeader ("class".toList ++ (spaces ++ tail)) blanks name) :
    blanks ++ name <+: spaces ++ tail :=
  (List.prefix_append_right_inj _).mp header.spelled

/-- The white space of a header is white space of the text. -/
theorem blanks_prefix (header : IsClassHeader ("class".toList ++ (spaces ++ tail)) blanks name)
    (blank : ∀ c ∈ spaces, isBlank c = true) (solid : tail.takeWhile isBlank = []) :
    blanks <+: spaces := by
  have all := prefix_takeWhile ((List.prefix_append _ _).trans header.start) header.blank
  rwa [List.takeWhile_append_of_pos blank, solid, List.append_nil] at all

/-- Behind the white space stands no more of a name than the text has there. -/
theorem name_prefix (header : IsClassHeader ("class".toList ++ (blanks ++ tail)) blanks name) :
    name <+: tail.takeWhile CallDiagram.isNamed :=
  prefix_takeWhile ((List.prefix_append_right_inj _).mp header.start) header.isNamed

end IsClassHeader

section Reading

variable {spaces tail : List Char} (blank : ∀ c ∈ spaces, isBlank c = true)
  (solid : tail.takeWhile isBlank = [])

include blank solid

/-- Where a name follows the white space, that is the name. -/
theorem isClassName_of_ne_nil (apart : spaces ≠ []) (named : tail.takeWhile isNamed ≠ []) :
    IsClassName ("class".toList ++ (spaces ++ tail)) (tail.takeWhile isNamed) := by
  have whole : IsClassHeader ("class".toList ++ (spaces ++ tail)) spaces
      (tail.takeWhile isNamed) := by
    constructor
    case spelled =>
      rw [List.prefix_append_right_inj, List.prefix_append_right_inj]
      exact List.takeWhile_prefix isNamed
    case plain =>
      intro c member
      simpa [isNamed] using List.mem_takeWhile_imp member
    all_goals assumption
  refine ⟨spaces, whole, fun blanks' name' header => ?_⟩
  have within := header.blanks_prefix blank solid
  rcases within.length_le.lt_or_eq with shorter | same
  · exact .inl shorter
  · cases within.eq_of_length same
    exact .inr ⟨rfl, header.name_prefix.length_le⟩

/-- Where none follows, the last of several blanks is taken for the name. -/
theorem isClassName_of_nil {first : List Char} {last : Char} (split : spaces = first ++ [last])
    (apart : first ≠ []) (unnamed : tail.takeWhile isNamed = []) :
    IsClassName ("class".toList ++ (spaces ++ tail)) [last] := by
  subst split
  have lastBlank : isBlank last = true := blank last (by simp)
  have whole : IsClassHeader ("class".toList ++ (first ++ [last] ++ tail)) first [last] := by
    constructor
    case spelled =>
      rw [List.prefix_append_right_inj]
      exact List.prefix_append _ tail
    case blank =>
      intro c member
      exact blank c (List.mem_append_left _ member)
    case plain =>
      intro c member
      cases List.mem_singleton.mp member
      simpa [isNamed] using isNamed_of_isBlank lastBlank
    case named => exact List.cons_ne_nil _ _
    case apart => exact apart
  refine ⟨first, whole, fun blanks' name' header => ?_⟩
  have within := header.blanks_prefix blank solid
  rcases (List.prefix_concat_iff.mp within) with all | within
  · -- The white space cannot take all: nothing of a name would be left.
    subst all
    have gone := header.name_prefix
    rw [unnamed, List.prefix_nil] at gone
    exact absurd gone header.named
  · rcases within.length_le.lt_or_eq with shorter | same
    · exact .inl shorter
    · cases within.eq_of_length same
      rw [List.append_assoc] at header
      have short := header.name_prefix.length_le
      rw [List.singleton_append, List.takeWhile_cons, isNamed_of_isBlank lastBlank] at short
      simp only [if_true, unnamed] at short
      exact .inr ⟨rfl, short⟩

/-- A single blank that no name follows makes no header. -/
theorem not_isClassName (short : spaces.length ≤ 1) (unnamed : tail.takeWhile isNamed = [])
    (name : List Char) : ¬ IsClassName ("class".toList ++ (spaces ++ tail)) name := by
  rintro ⟨blanks, header, -⟩
  have within := header.blanks_prefix blank solid
  have some := List.length_pos_iff.mpr header.apart
  have bound := within.length_le
  cases within.eq_of_length (by omega)
  have gone := header.name_prefix
  rw [unnamed, List.prefix_nil] at gone
  exact header.named gone

end Reading

theorem takeWhile_dropWhile (p : Char → Bool) (cs : List Char) :
    (cs.dropWhile p).takeWhile p = [] := by
  cases rest : cs.dropWhile p with
  | nil => rfl
  | cons c rest' =>
      have head : (dropStart p cs).head? = some c := by rw [dropStart, rest, List.head?_cons]
      rw [List.takeWhile_cons, head?_dropStart head]
      rfl

namespace Document

theorem declaredClass?_eq {line spaces tail : List Char}
    (text : strip line = "class".toList ++ (spaces ++ tail))
    (blank : ∀ c ∈ spaces, isBlank c = true) (solid : tail.takeWhile isBlank = []) :
    declaredClass? line = if tail.takeWhile isNamed ≠ [] then some (strip (tail.takeWhile isNamed))
      else if 1 < spaces.length then some [] else none := by
  have behind : (strip line).drop "class".length = spaces ++ tail := by
    rw [text]
    rfl
  have first : (spaces ++ tail).takeWhile isBlank = spaces := by
    rw [List.takeWhile_append_of_pos blank, solid, List.append_nil]
  have rest : (spaces ++ tail).dropWhile isBlank = tail := by
    have cut := List.takeWhile_append_dropWhile (p := isBlank) (l := spaces ++ tail)
    rw [first] at cut
    exact List.append_cancel_left cut
  have allowed : (fun c => decide (c ≠ '(') && decide (c ≠ ':')) = isNamed := rfl
  simp only [declaredClass?, behind, first, rest, allowed]
  cases tail.takeWhile isNamed <;> simp

/-- The white space behind the word of a class line. -/
theorem exists_of_startsClass {line : List Char} (starts : startsClass line = true) :
    ∃ spaces tail, strip line = "class".toList ++ (spaces ++ tail) ∧
      (∀ c ∈ spaces, isBlank c = true) ∧ tail.takeWhile isBlank = [] ∧ spaces ≠ [] := by
  obtain ⟨behind, spelled⟩ := List.isPrefixOf_iff_prefix.mp starts
  refine ⟨' ' :: behind.takeWhile isBlank, behind.dropWhile isBlank, ?_, ?_,
    takeWhile_dropWhile isBlank behind, List.cons_ne_nil _ _⟩
  · rw [List.cons_append, List.takeWhile_append_dropWhile, ← spelled]
    rfl
  · intro c member
    rcases List.mem_cons.mp member with rfl | later
    · rfl
    · exact List.mem_takeWhile_imp later

/-- A class line declares the name that its header is read with. -/
theorem declaredClass?_eq_some_iff {line name : List Char} (starts : startsClass line = true) :
    declaredClass? line = some name ↔
      ∃ header, IsClassName (strip line) header ∧ name = strip header := by
  obtain ⟨spaces, tail, text, blank, solid, apart⟩ := exists_of_startsClass starts
  have read {header : List Char} (is : IsClassName (strip line) header) :
      some (strip header) = some name ↔
        ∃ header, IsClassName (strip line) header ∧ name = strip header := by
    constructor
    · rintro ⟨⟩
      exact ⟨header, is, rfl⟩
    · rintro ⟨other, is', rfl⟩
      rw [is.unique is']
  rw [declaredClass?_eq text blank solid]
  rw [text] at read ⊢
  by_cases named : tail.takeWhile isNamed = []
  · obtain ⟨first, last, rfl⟩ : ∃ first last, spaces = first ++ [last] :=
      ⟨_, _, (List.dropLast_concat_getLast apart).symm⟩
    rw [if_neg (not_not_intro named)]
    by_cases several : first = []
    · have short : (first ++ [last]).length ≤ 1 := by simp [several]
      rw [if_neg (Nat.not_lt.mpr short)]
      constructor
      · exact nofun
      · rintro ⟨header, is, -⟩
        exact absurd is (not_isClassName blank solid short named header)
    · have long : 1 < (first ++ [last]).length := by
        have := List.length_pos_iff.mpr several
        simpa using this
      have lastBlank : isBlank last = true := blank last (by simp)
      have empty : strip [last] = [] := by simp [strip, dropEnds, dropStart, lastBlank]
      have found := read (isClassName_of_nil blank solid rfl several named)
      rw [empty] at found
      rw [if_pos long]
      exact found
  · rw [if_pos named]
    exact read (isClassName_of_ne_nil blank solid apart named)

/-! ## The search for the line -/

variable {d : Document} {depth l k : Nat} {line code : List Char}

/-- Line `k` starts a class, and is indented less than the depth and than all code between it and
line `l` below it. -/
structure Encloses (d : Document) (depth l k : Nat) (line : List Char) : Prop where
  above : k < l
  text : d.lines[k]? = some line
  startsClass : startsClass line = true
  shallower : indentation line < depth
  code : ∀ n other, k < n → n < l → d.lines[n]? = some other → isRemark other = false →
    indentation line < indentation other

/-- The line is the last one that encloses line `l`. -/
def IsInnermost (d : Document) (depth l : Nat) (line : List Char) : Prop :=
  ∃ k, d.Encloses depth l k line ∧ ∀ j other, d.Encloses depth l j other → j ≤ k

/-- The depth that is left above a line: code on it narrows what can enclose it. -/
def narrowed (depth : Nat) (code : List Char) : Nat :=
  if isRemark code then depth else min depth (indentation code)

theorem classLineAbove?_cons (depth : Nat) (code : List Char) (above : List (List Char)) :
    classLineAbove? depth (code :: above) =
      if indentation code < depth ∧ CallDiagram.Document.startsClass code = true then some code
      else classLineAbove? (narrowed depth code) above := by
  rw [classLineAbove?, narrowed]
  by_cases shallow : indentation code < depth
  · by_cases starts : CallDiagram.Document.startsClass code = true
    · simp [shallow, starts]
    · simp [shallow, starts, Nat.min_eq_right (Nat.le_of_lt shallow)]
  · simp [shallow, Nat.min_eq_left (Nat.not_lt.mp shallow)]

/-- The lines above line `l` that enclose what is below it. -/
theorem encloses_succ_iff (here : d.lines[l]? = some code) (above : k < l) :
    d.Encloses depth (l + 1) k line ↔ d.Encloses (narrowed depth code) l k line := by
  constructor
  · intro encloses
    refine ⟨above, encloses.text, encloses.startsClass, ?_, fun n other behind before =>
      encloses.code n other behind (Nat.lt_succ_of_lt before)⟩
    have shallower := encloses.shallower
    rw [narrowed]
    split
    · exact shallower
    · next remark =>
      have less := encloses.code l code above (Nat.lt_succ_self l) here (by simpa using remark)
      omega
  · intro encloses
    have shallower := encloses.shallower
    rw [narrowed] at shallower
    refine ⟨Nat.lt_succ_of_lt above, encloses.text, encloses.startsClass, ?_, ?_⟩
    · split at shallower <;> omega
    · intro n other behind before known remark
      rcases Nat.lt_succ_iff_lt_or_eq.mp before with earlier | rfl
      · exact encloses.code n other behind earlier known remark
      · cases here.symm.trans known
        rw [remark] at shallower
        simp only [Bool.false_eq_true, if_false] at shallower
        omega

/-- The search gives the last enclosing line, or there is none. The induction goes up the lines;
the depth stands for all code below. -/
theorem classLineAbove?_spec (l : Nat) (depth : Nat) (within : l ≤ d.lines.length) :
    match classLineAbove? depth (d.lines.take l).reverse with
    | some line => d.IsInnermost depth l line
    | none => ∀ k line, ¬ d.Encloses depth l k line := by
  induction l generalizing depth with
  | zero => exact fun k line encloses => absurd encloses.above (Nat.not_lt_zero k)
  | succ l ih =>
      obtain ⟨code, here⟩ : ∃ code, d.lines[l]? = some code :=
        ⟨_, List.getElem?_eq_getElem within⟩
      have lines : (d.lines.take (l + 1)).reverse = code :: (d.lines.take l).reverse := by
        rw [List.take_add_one, here, List.reverse_append]
        rfl
      rw [lines, classLineAbove?_cons]
      by_cases found : indentation code < depth ∧ CallDiagram.Document.startsClass code = true
      · rw [if_pos found]
        refine ⟨l, ⟨Nat.lt_succ_self l, here, found.2, found.1, ?_⟩, fun j other encloses => ?_⟩
        · intro n other behind before
          omega
        · exact Nat.le_of_lt_succ encloses.above
      · have passed (k : Nat) (line : List Char) : d.Encloses depth (l + 1) k line ↔
            d.Encloses (narrowed depth code) l k line := by
          by_cases above : k < l
          · exact encloses_succ_iff here above
          · constructor
            · intro encloses
              obtain rfl : k = l := by
                have := encloses.above
                omega
              cases here.symm.trans encloses.text
              exact absurd ⟨encloses.shallower, encloses.startsClass⟩ found
            · intro encloses
              exact absurd encloses.above above
        rw [if_neg found]
        simp only [IsInnermost, passed]
        exact ih (narrowed depth code) (Nat.le_of_succ_le within)

theorem lineAt_of_getElem? {line : List Char} (known : d.lines[l]? = some line) :
    d.lineAt (l : Int) = .ok line := by
  simp only [lineAt, known]

theorem enclosingClass?_of_outside {p : Position} (outside : p.line < 0 ∨ d.lineCount ≤ p.line) :
    d.enclosingClass? p = none := by
  have missing : d.lineAt p.line = .error (.noLine p.line d.lineCount) := by
    cases line : p.line with
    | ofNat l =>
        have beyond : d.lines[l]? = none := by
          rw [List.getElem?_eq_none_iff]
          rw [lineCount, line, Int.ofNat_eq_natCast] at outside
          omega
        simp only [lineAt, beyond]
    | negSucc l => rfl
  rw [enclosingClass?, missing]

/-- The line of a position cannot enclose itself, so the search starts above it. -/
theorem enclosingClass?_eq {p : Position} (at_line : p.line = (l : Nat))
    (known : d.lines[l]? = some line) : d.enclosingClass? p =
      (classLineAbove? (indentation line) (d.lines.take l).reverse).bind fun above =>
        (declaredClass? above).map String.ofList := by
  have lines : (d.lines.take (l + 1)).reverse = line :: (d.lines.take l).reverse := by
    rw [List.take_add_one, known, List.reverse_append]
    rfl
  have itself : narrowed (indentation line) line = indentation line := by simp [narrowed]
  rw [enclosingClass?, at_line, lineAt_of_getElem? known, Int.toNat_natCast]
  dsimp only
  rw [lines, classLineAbove?_cons, if_neg (by simp), itself]
  cases classLineAbove? (indentation line) (d.lines.take l).reverse with
  | none => rfl
  | some above => cases name : declaredClass? above <;> simp [name]

/-- Outside the lines there is no class around a declaration. On line `l` it is the class that the
last line around it names; there is none if no line is around it or that line names none. -/
theorem enclosingClass?_innermost (d : Document) (p : Position) :
    (p.line < 0 ∨ d.lineCount ≤ p.line → d.enclosingClass? p = none) ∧
    ∀ (l : Nat) (own : List Char), p.line = l → d.lines[l]? = some own →
      ((∀ k line, ¬ d.Encloses (indentation own) l k line) → d.enclosingClass? p = none) ∧
      ∀ line, d.IsInnermost (indentation own) l line →
        ∀ name, d.enclosingClass? p = some name ↔
          ∃ header, IsClassName (strip line) header ∧ name = String.ofList (strip header) := by
  refine ⟨enclosingClass?_of_outside, fun l own at_line known => ?_⟩
  have within : l < d.lines.length := (List.getElem?_eq_some_iff.mp known).1
  have search := classLineAbove?_spec l (indentation own) within.le
  rw [enclosingClass?_eq at_line known]
  cases found : classLineAbove? (indentation own) (d.lines.take l).reverse with
  | none =>
      rw [found] at search
      refine ⟨fun _ => rfl, ?_⟩
      rintro line ⟨k, encloses, -⟩
      exact absurd encloses (search k line)
  | some above =>
      rw [found] at search
      obtain ⟨k, encloses, last⟩ := search
      refine ⟨fun none => absurd encloses (none k above), ?_⟩
      rintro line ⟨j, encloses', last'⟩ name
      obtain rfl : k = j := Nat.le_antisymm (last' k above encloses) (last j line encloses')
      cases encloses.text.symm.trans encloses'.text
      simp only [Option.bind_some, Option.map_eq_some_iff,
        declaredClass?_eq_some_iff encloses.startsClass]
      constructor
      · rintro ⟨_, ⟨header, is, rfl⟩, rfl⟩
        exact ⟨header, is, rfl⟩
      · rintro ⟨header, is, rfl⟩
        exact ⟨_, ⟨header, is, rfl⟩, rfl⟩

/-- A class in a class, with a comment in the first column and a blank line below its header. -/
def nestedClasses : Document :=
  .ofString ("class Outer:\n    class Inner (Base):\n# note\n        def run(self):\n\n"
    ++ "            pass")

/-- Neither the comment nor the blank line hides the inner class, and it hides the outer one. -/
theorem nestedClasses_inner :
    nestedClasses.IsInnermost 12 5 "    class Inner (Base):".toList ∧
      nestedClasses.enclosingClass? ⟨5, 0⟩ = some "Inner" := by
  have innermost : nestedClasses.IsInnermost 12 5 "    class Inner (Base):".toList := by
    have search := classLineAbove?_spec (d := nestedClasses) 5 12 (by decide)
    have found : classLineAbove? 12 (nestedClasses.lines.take 5).reverse =
        some "    class Inner (Base):".toList := by decide +kernel
    rwa [found] at search
  have header : IsClassName (strip "    class Inner (Base):".toList) "Inner ".toList :=
    @isClassName_of_ne_nil [' '] "Inner (Base):".toList (List.forall_mem_singleton.mpr rfl)
      (by decide) (by decide) (by decide)
  have named := ((enclosingClass?_innermost nestedClasses ⟨5, 0⟩).2 5 "            pass".toList
    (by decide) (by decide)).2 _ innermost "Inner"
  exact ⟨innermost, named.mpr ⟨_, header, by decide⟩⟩

end Document

end CallDiagram
