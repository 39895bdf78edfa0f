import CallDiagram.Proofs.Index.Callees
import CallDiagram.Proofs.Index.Declared
import Mathlib.Data.Bool.AllAny
import Mathlib.Data.String.Basic

/-! # Ranges of names

Columns count bytes and positions count characters, but both say what stands before them on a line.
So a range lies on a name if the columns that it is made of do. For the name in a heading, only the
column of the heading is known, and the name is searched for behind it. The search ends at a word
boundary, which lies behind the name if and only if its last character belongs to words. Main
statement: `moduleIndex_nameRanges`.
-/

namespace CallDiagram.Index

open Source Text

/-! ## Bytes and characters -/

theorem charOffset_append (before rest : List Char) :
    charOffset (before ++ rest) (String.ofList before).utf8ByteSize = before.length := by
  rw [String.utf8ByteSize_ofList]
  induction before with
  | nil =>
      cases rest with
      | nil => rfl
      | cons c rest => simp [charOffset, c.utf8Size_pos.ne']
  | cons c before ih => simp [charOffset, String.utf8Len_cons, ih]

theorem charOffset_take {line : List Char} {k : Nat} (within : k ≤ line.length) :
    charOffset line (String.ofList (line.take k)).utf8ByteSize = k := by
  have whole := charOffset_append (line.take k) (line.drop k)
  rwa [List.take_append_drop, List.length_take_of_le within] at whole

/-! ## What stands at a place -/

variable {s : Setting} {m : Mark}

/-- The mark cuts its line into these parts. -/
structure Setting.Cuts (s : Setting) (m : Mark) (before rest : List Char) : Prop where
  counted : 0 < m.line
  line : s.lines[m.line - 1]? = some (before ++ rest)
  column : m.column = (String.ofList before).utf8ByteSize

/-- The range lies on a text that stands behind another one on a line. -/
structure Setting.Covers (s : Setting) (r : Range) (row : Nat) (before text : List Char) :
    Prop where
  line : ∃ rest, s.lines[row]? = some (before ++ (text ++ rest))
  range : r = ⟨⟨row, before.length⟩, ⟨row, (before ++ text).length⟩⟩

namespace Setting.Cuts

variable {before rest : List Char}

theorem line_eq (cuts : s.Cuts m before rest) : s.line m.line = before ++ rest := by
  have counted := cuts.counted
  rw [Setting.line, if_neg (by omega), cuts.line, Option.getD_some]

theorem charOffset_eq (cuts : s.Cuts m before rest) :
    charOffset (s.line m.line) m.column = before.length := by
  rw [cuts.line_eq, cuts.column]
  exact charOffset_append before rest

theorem row_eq (cuts : s.Cuts m before rest) : (m.line : Int) - 1 = ((m.line - 1 : Nat) : Int) := by
  have counted := cuts.counted
  omega

theorem position_eq (cuts : s.Cuts m before rest) :
    s.position m = ⟨((m.line - 1 : Nat) : Int), before.length⟩ := by
  rw [Setting.position, cuts.charOffset_eq, cuts.row_eq]

end Setting.Cuts

/-- Where a text stands can be found out by cutting the line at the column. -/
theorem exists_cuts_iff {text : List Char} :
    (∃ before rest, s.Cuts m before (text ++ rest)) ↔ 0 < m.line ∧
      ∃ line ∈ s.lines[m.line - 1]?,
        (String.ofList (line.take (charOffset line m.column))).utf8ByteSize = m.column ∧
          text <+: line.drop (charOffset line m.column) := by
  constructor
  · rintro ⟨before, rest, cuts⟩
    have offset := charOffset_append before (text ++ rest)
    refine ⟨cuts.counted, _, cuts.line, ?_, ?_⟩
    · rw [cuts.column, offset, List.take_left]
    · rw [cuts.column, offset, List.drop_left]
      exact List.prefix_append text rest
  · rintro ⟨counted, line, known, column, rest, behind⟩
    refine ⟨line.take (charOffset line m.column), rest, counted, ?_, column.symm⟩
    rw [behind, List.take_append_drop]
    exact known

/-! ## References of calls -/

/-- The stretch reaches over the text, on one line. -/
def Setting.Spelled (s : Setting) (span : Span) (text : String) : Prop :=
  (∃ before rest, s.Cuts span.start before (text.toList ++ rest)) ∧
    span.stop = ⟨span.start.line, span.start.column + text.utf8ByteSize⟩

/-- What is called is written where it is said to be: a name by itself, or an attribute's name that
ends at a mark. -/
def Setting.Spells (s : Setting) : Expr → Prop
  | .name id span => s.Spelled span id
  | .attribute _ attr stop => ∃ start, s.Spelled ⟨start, stop⟩ attr
  | _ => True

instance (span : Span) (text : String) : Decidable (s.Spelled span text) :=
  letI := decidable_of_iff' _ (@exists_cuts_iff s span.start text.toList)
  inferInstanceAs (Decidable (_ ∧ _))

theorem exists_spelled_iff {stop : Mark} {attr : String} :
    (∃ start, s.Spelled ⟨start, stop⟩ attr) ↔ attr.utf8ByteSize ≤ stop.column ∧
      s.Spelled ⟨⟨stop.line, stop.column - attr.utf8ByteSize⟩, stop⟩ attr := by
  constructor
  · rintro ⟨start, spelled⟩
    have stop_eq := spelled.2
    dsimp only at stop_eq
    have bytes : attr.utf8ByteSize ≤ stop.column := by
      rw [stop_eq]
      exact Nat.le_add_left _ _
    have start_eq : start = ⟨stop.line, stop.column - attr.utf8ByteSize⟩ := by
      rw [stop_eq, Nat.add_sub_cancel_right]
    exact ⟨bytes, start_eq ▸ spelled⟩
  · rintro ⟨-, spelled⟩
    exact ⟨_, spelled⟩

instance : DecidablePred s.Spells
  | .name _ _ => inferInstanceAs (Decidable (s.Spelled _ _))
  | .attribute _ _ _ => decidable_of_iff' _ exists_spelled_iff
  | .call .. | .subscript .. | .await _ | .text _ | .starred _ | .compound .. =>
    inferInstanceAs (Decidable True)

theorem Setting.Spelled.cuts {span : Span} {text : String} (spelled : s.Spelled span text) :
    ∃ before rest, s.Cuts span.start before (text.toList ++ rest) ∧
      s.Cuts span.stop (before ++ text.toList) rest ∧ span.stop.line = span.start.line := by
  obtain ⟨⟨before, rest, cuts⟩, stop⟩ := spelled
  refine ⟨before, rest, cuts, ?_, by rw [stop]⟩
  rw [stop]
  refine ⟨cuts.counted, ?_, ?_⟩
  · rw [List.append_assoc]
    exact cuts.line
  · dsimp only
    rw [cuts.column, String.ofList_append, String.utf8ByteSize_append, String.ofList_toList]

/-- The reference of a call lies on the called name. -/
theorem Setting.Spells.covers {func : Expr} {r : CallReference} (spells : s.Spells func)
    (made : s.reference? func = some r) :
    ∃ row before, s.Covers r.range row before r.name.toList := by
  match func with
  | .name id span =>
    cases made
    obtain ⟨before, rest, start, stop, line⟩ := Setting.Spelled.cuts spells
    refine ⟨span.start.line - 1, before, ⟨rest, start.line⟩, ?_⟩
    rw [Setting.range, start.position_eq, stop.position_eq, line]
  | .attribute value attr stop =>
    cases made
    obtain ⟨start, spelled⟩ := spells
    obtain ⟨before, rest, cuts, cuts', line⟩ := spelled.cuts
    refine ⟨start.line - 1, before, ⟨rest, cuts.line⟩, ?_⟩
    have stop_eq := cuts'.position_eq
    dsimp only at stop_eq line ⊢
    rw [stop_eq, line]
    simp [← String.length_toList]

/-! ## Names in headings -/

/-- What may stand at the start of a declaration, before its keyword. -/
inductive IsPrelude : (keyword : String) → (prelude : List Char) → Prop where
  | none (keyword : String) : IsPrelude keyword []
  | async {blanks : List Char} : (∀ c ∈ blanks, isBlank c = true) →
      IsPrelude "def" ("async".toList ++ blanks)

/-- The declaration starts behind `before`, and its keyword and its name are written on one line.
The name is a whole word. -/
structure Setting.Writes (s : Setting) (heading : Heading) (keyword : String)
    (before prelude blanks rest : List Char) : Prop where
  cuts : s.Cuts heading.span.start before
    (prelude ++ (keyword.toList ++ (blanks ++ (heading.name.toList ++ rest))))
  prelude : IsPrelude keyword prelude
  apart : blanks ≠ []
  blank : ∀ c ∈ blanks, isBlank c = true
  solid : ∀ c ∈ heading.name.toList, isBlank c = false
  ends : endsWord rest = true

/-- The last character of a name belongs to words. -/
def EndsInWord (name : List Char) : Prop :=
  ∃ c, name.getLast? = some c ∧ isWordChar c = true

section Search

variable {keyword name blanks rest text : List Char} {place : Nat}

/-- Where a word ends before the rest of a line, it ends if it has started. -/
theorem wordBoundary_iff (ends : endsWord rest = true) :
    wordBoundary name.getLast? rest = true ↔ EndsInWord name := by
  cases last : name.getLast? with
  | none => simp [wordBoundary, EndsInWord, ends, last]
  | some c => simp [wordBoundary, EndsInWord, ends, last]

theorem nameAfterKeyword?_of_endsInWord (apart : blanks ≠ [])
    (blank : ∀ c ∈ blanks, isBlank c = true) (solid : ∀ c ∈ name, isBlank c = false)
    (ends : endsWord rest = true) (word : EndsInWord name) :
    nameAfterKeyword? keyword name (keyword ++ (blanks ++ (name ++ rest))) =
      some (keyword.length + blanks.length, keyword.length + blanks.length + name.length) := by
  have behind : afterPrefix? keyword (keyword ++ (blanks ++ (name ++ rest))) =
      some (blanks ++ (name ++ rest)) := afterPrefix?_eq_some_iff.mpr rfl
  have spaces : (blanks ++ (name ++ rest)).takeWhile isBlank = blanks := by
    cases name with
    | nil =>
        obtain ⟨c, none, -⟩ := word
        cases none
    | cons c name =>
        rw [List.takeWhile_append_of_pos blank, List.cons_append, List.takeWhile_cons,
          solid c List.mem_cons_self]
        exact List.append_nil blanks
  have named : afterPrefix? name (name ++ rest) = some rest := afterPrefix?_eq_some_iff.mpr rfl
  have boundary := (wordBoundary_iff ends).mpr word
  have some : blanks.length ≠ 0 := (List.length_pos_iff.mpr apart).ne'
  simp only [nameAfterKeyword?, behind, spaces, List.drop_left, named, boundary, some,
    Option.bind_eq_bind, Option.bind_some, if_false, if_true]

theorem findName?_of_some {a b : Nat} (found : nameAfterKeyword? keyword name text = some (a, b)) :
    findName? keyword name text place = some (place + a, place + b) := by
  cases text with
  | nil => rw [findName?, found, Option.map_some]
  | cons c text => rw [findName?, found]

/-- The keyword does not start where its first letter does not stand. -/
theorem findName?_skip {first : Char} {front : List Char} (other : ∀ c ∈ front, c ≠ first) :
    findName? (first :: keyword) name (front ++ text) place =
      findName? (first :: keyword) name text (place + front.length) := by
  induction front generalizing place with
  | nil => rfl
  | cons c front ih =>
      obtain ⟨here, later⟩ := List.forall_mem_cons.mp other
      have missed : nameAfterKeyword? (first :: keyword) name (c :: (front ++ text)) = none := by
        simp [nameAfterKeyword?, afterPrefix?, Ne.symm here]
      rw [List.cons_append, findName?, missed]
      dsimp only
      rw [ih later, List.length_cons, Nat.add_right_comm, Nat.add_assoc]

theorem exists_of_nameAfterKeyword? {a b : Nat}
    (found : nameAfterKeyword? keyword name text = some (a, b)) :
    ∃ blanks rest, text = keyword ++ (blanks ++ (name ++ rest)) ∧
      a = keyword.length + blanks.length ∧ wordBoundary name.getLast? rest = true := by
  unfold nameAfterKeyword? at found
  obtain ⟨behind, spelled, found⟩ := Option.bind_eq_some_iff.mp found
  dsimp only at found
  split at found
  · cases found
  · obtain ⟨rest, named, found⟩ := Option.bind_eq_some_iff.mp found
    split at found
    · next boundary =>
      cases found
      refine ⟨behind.takeWhile isBlank, rest, ?_, rfl, boundary⟩
      have whole : behind.takeWhile isBlank ++ behind.drop (behind.takeWhile isBlank).length =
          behind := by
        nth_rewrite 1 [List.prefix_iff_eq_take.mp (List.takeWhile_prefix isBlank)]
        exact List.take_append_drop _ behind
      rw [afterPrefix?_eq_some_iff.mp spelled, ← afterPrefix?_eq_some_iff.mp named, whole]
    · cases found

/-- Where a name is found, it is written behind the keyword and ends at a word boundary. -/
theorem exists_of_findName? {first last : Nat}
    (found : findName? keyword name text place = some (first, last)) :
    ∃ front blanks rest, text = front ++ (keyword ++ (blanks ++ (name ++ rest))) ∧
      first = place + (front.length + keyword.length + blanks.length) ∧
      wordBoundary name.getLast? rest = true := by
  induction text generalizing place with
  | nil =>
      obtain ⟨⟨a, b⟩, here, same⟩ := Option.map_eq_some_iff.mp found
      obtain ⟨blanks, rest, spelled, rfl, boundary⟩ := exists_of_nameAfterKeyword? here
      cases same
      exact ⟨[], blanks, rest, spelled, by simp, boundary⟩
  | cons c text ih =>
      rw [findName?] at found
      split at found
      · next a b here =>
        obtain ⟨blanks, rest, spelled, rfl, boundary⟩ := exists_of_nameAfterKeyword? here
        cases found
        exact ⟨[], blanks, rest, spelled, by simp, boundary⟩
      · obtain ⟨front, blanks, rest, rfl, rfl, boundary⟩ := ih found
        refine ⟨c :: front, blanks, rest, rfl, ?_, boundary⟩
        rw [List.length_cons]
        omega

end Search

namespace Setting.Writes

variable {heading : Heading} {keyword : String} {before prelude blanks rest : List Char}

theorem findName?_eq (writes : s.Writes heading keyword before prelude blanks rest)
    (word : EndsInWord heading.name.toList) (place : Nat) :
    findName? keyword.toList heading.name.toList
        (prelude ++ (keyword.toList ++ (blanks ++ (heading.name.toList ++ rest)))) place =
      some (place + (prelude ++ (keyword.toList ++ blanks)).length,
        place + (prelude ++ (keyword.toList ++ (blanks ++ heading.name.toList))).length) := by
  have here : nameAfterKeyword? keyword.toList _ _ = _ := nameAfterKeyword?_of_endsInWord
    writes.apart writes.blank writes.solid writes.ends word
  cases writes.prelude with
  | none =>
      rw [List.nil_append, findName?_of_some here]
      simp [Nat.add_assoc]
  | @async gap blank =>
      have letters : ∀ c ∈ "async".toList, c ≠ 'd' :=
        List.all_iff_forall_prop.mp (by decide +kernel)
      have other : ∀ c ∈ "async".toList ++ gap, c ≠ 'd' := by
        intro c member
        rcases List.mem_append.mp member with letter | space
        · exact letters c letter
        · rintro rfl
          exact absurd (blank _ space) (by decide)
      have keyword : "def".toList = 'd' :: "ef".toList := by decide
      rw [keyword] at here ⊢
      rw [findName?_skip other, findName?_of_some here]
      simp
      omega

/-- The range of the name lies on the name in the heading if the name ends in a word, and else it
lies somewhere else. -/
theorem covers_iff (writes : s.Writes heading keyword before prelude blanks rest) :
    s.Covers (s.nameRange heading keyword) (heading.span.start.line - 1)
        (before ++ (prelude ++ (keyword.toList ++ blanks))) heading.name.toList ↔
      EndsInWord heading.name.toList := by
  have start := writes.cuts.charOffset_eq
  have tail : (s.line heading.span.start.line).drop before.length =
      prelude ++ (keyword.toList ++ (blanks ++ (heading.name.toList ++ rest))) := by
    rw [writes.cuts.line_eq, List.drop_left]
  constructor
  · intro covers
    have place := congrArg (·.start.character) covers.range
    simp only [Setting.nameRange, start, tail, List.length_append, Int.natCast_inj] at place
    cases found : findName? keyword.toList heading.name.toList
        (prelude ++ (keyword.toList ++ (blanks ++ (heading.name.toList ++ rest))))
        before.length with
    | none =>
        have apart := List.length_pos_iff.mpr writes.apart
        rw [found] at place
        simp only [Option.getD_none] at place
        omega
    | some pair =>
        obtain ⟨first, last⟩ := pair
        obtain ⟨front, blanks', rest', spelled, rfl, boundary⟩ := exists_of_findName? found
        rw [found] at place
        simp only [Option.getD_some] at place
        -- The name is found where it is written, so the same rest stands behind it.
        have same : (prelude ++ (keyword.toList ++ (blanks ++ heading.name.toList))) ++ rest =
            (front ++ (keyword.toList ++ (blanks' ++ heading.name.toList))) ++ rest' := by
          simpa only [List.append_assoc] using spelled
        have rest_eq := (List.append_inj same (by simp only [List.length_append]; omega)).2
        rw [← rest_eq] at boundary
        exact (wordBoundary_iff writes.ends).mp boundary
  · intro word
    refine ⟨⟨rest, ?_⟩, ?_⟩
    · simpa using writes.cuts.line
    · rw [Setting.nameRange]
      dsimp only
      rw [start, tail, writes.findName?_eq word, writes.cuts.row_eq]
      simp

end Setting.Writes

/-- The item of a declaration. Where the declaration is written on one line, the range of the name
lies on the name behind the keyword if and only if the name ends in a word. -/
structure Setting.Selects (s : Setting) (keyword : String) (heading : Heading) (item : Item) :
    Prop where
  name : item.name = heading.name
  range : item.range = s.range heading.span
  selection : ∀ before prelude blanks rest, s.Writes heading keyword before prelude blanks rest →
    (s.Covers item.selection (heading.span.start.line - 1)
      (before ++ (prelude ++ (keyword.toList ++ blanks))) item.name.toList ↔
        EndsInWord item.name.toList)

/-- The headings of all functions, in the order in which they start. -/
def functionHeadings (statements : List Stmt) : List Heading :=
  (declarationsOf statements).filterMap Declaration.function?

def classHeadings (statements : List Stmt) : List Heading :=
  (declarationsOf statements).filterMap Declaration.class?

theorem selects_of_labels {keyword : String} {headings : List Heading} {items : List Item}
    (labels : items.map label = headings.map (s.label keyword)) :
    List.Forall₂ (s.Selects keyword) headings items := by
  induction headings generalizing items with
  | nil =>
      cases List.map_eq_nil_iff.mp labels
      exact .nil
  | cons heading headings ih =>
      cases items with
      | nil => cases labels
      | cons item items =>
          obtain ⟨first, others⟩ := List.cons.inj labels
          injection first with _ name range selection
          refine .cons ⟨name, range, fun before prelude blanks rest writes => ?_⟩ (ih others)
          rw [selection, name]
          exact writes.covers_iff

/-- Characters are counted right from the bytes that they take up. So the items of the functions and
of the classes, one for each in their order, have the range of the name in the heading if and only
if the name ends in a word; and if what is called is written where it is said to be, every recorded
call lies on the called name. -/
theorem moduleIndex_nameRanges (s : Setting) (statements : List Stmt) :
    (∀ (line : List Char) (k : Nat), k ≤ line.length →
      charOffset line (String.ofList (line.take k)).utf8ByteSize = k) ∧
    List.Forall₂ (s.Selects "def") (functionHeadings statements)
      ((moduleIndex s statements).definitions.map (·.item)) ∧
    List.Forall₂ (s.Selects "class") (classHeadings statements)
      ((moduleIndex s statements).classStatements.map (·.item)) ∧
    ((∀ func ∈ calleesOf statements, s.Spells func) →
      ∀ d ∈ (moduleIndex s statements).definitions, ∀ r ∈ d.calls,
        ∃ row before, s.Covers r.range row before r.name.toList) := by
  have declares := declares_moduleIndex s statements
  refine ⟨fun line k => charOffset_take, selects_of_labels declares.definitions,
    selects_of_labels declares.classes, ?_⟩
  intro spells d listed r recorded
  have refers : s.Refers (calleesOf statements) fun r =>
      ∃ row before, s.Covers r.range row before r.name.toList := by
    intro func called r made
    exact (spells func called).covers made
  exact records_moduleIndex refers _ (List.mem_map_of_mem listed) r recorded

/-! ### Names beyond ASCII -/

/-- A file of a project with this text. -/
def settingOf (text : String) : Setting :=
  ⟨"/w/a.py", "a", false, splitOnChar '\n' text.toList, ["self"]⟩

def parsed (text : String) : List Stmt :=
  (parseModule text).toOption.getD []

theorem parseModule_eq {text : String} (isOk : (parseModule text).isOk = true) :
    parseModule text = .ok (parsed text) := by
  cases read : parseModule text with
  | error e =>
      rw [read] at isOk
      cases isOk
  | ok statements => rw [parsed, read]; rfl

/-- A coroutine and a class whose names take up more bytes than characters, calls behind such a name
and on a continued line, and a remark that looks like a class. -/
def accentedText : String :=
  "async  def größe(x):\n    return ä + bär(x).\\\n        zähle()\n\n" ++
    "class Maß: pass  # class Maß\n"

/-- The only declaration of its kind, by its name and where it starts. -/
theorem exists_heading {headings : List Heading} {name : String} {start : Mark}
    (known : headings.map (fun h => (h.name, h.span.start)) = [(name, start)]) :
    ∃ heading, headings = [heading] ∧ heading.name = name ∧ heading.span.start = start := by
  obtain ⟨heading, single, same⟩ := List.map_eq_singleton_iff.mp known
  cases same
  exact ⟨heading, single, rfl, rfl⟩

/-- The only item is that of the only declaration. -/
theorem exists_item {keyword : String} {heading : Heading} {items : List Item}
    (selects : List.Forall₂ (s.Selects keyword) [heading] items) :
    ∃ item, items = [item] ∧ s.Selects keyword heading item := by
  cases selects with
  | cons first others =>
      cases others
      exact ⟨_, rfl, first⟩

theorem accented_nameRanges :
    parseModule accentedText = .ok (parsed accentedText) ∧
    (∀ func ∈ calleesOf (parsed accentedText), (settingOf accentedText).Spells func) ∧
    (∃ heading item,
      (settingOf accentedText).Writes heading "def" [] "async  ".toList [' '] "(x):".toList ∧
      (moduleIndex (settingOf accentedText) (parsed accentedText)).definitions.map (·.item) =
        [item] ∧
      (settingOf accentedText).Covers item.selection 0 "async  def ".toList item.name.toList) ∧
    ∀ d ∈ (moduleIndex (settingOf accentedText) (parsed accentedText)).definitions,
      ∀ r ∈ d.calls, ∃ row before,
        (settingOf accentedText).Covers r.range row before r.name.toList := by
  have spelled : ∀ func ∈ calleesOf (parsed accentedText),
      (settingOf accentedText).Spells func := by decide +kernel
  obtain ⟨-, functions, -, calls⟩ :=
    moduleIndex_nameRanges (settingOf accentedText) (parsed accentedText)
  have known : (functionHeadings (parsed accentedText)).map (fun h => (h.name, h.span.start)) =
      [("größe", ⟨1, 0⟩)] := by decide +kernel
  obtain ⟨heading, single, name, start⟩ := exists_heading known
  rw [single] at functions
  obtain ⟨item, only, selects⟩ := exists_item functions
  have writes : (settingOf accentedText).Writes heading "def" [] "async  ".toList [' ']
      "(x):".toList := by
    constructor
    case cuts =>
      rw [start, name]
      exact ⟨by decide, by decide +kernel, by decide +kernel⟩
    case prelude =>
      have blank : ∀ c ∈ "  ".toList, isBlank c = true :=
        List.all_iff_forall_prop.mp (by decide +kernel)
      exact .async blank
    case apart => decide
    case blank => exact List.forall_mem_singleton.mpr rfl
    case solid =>
      rw [name]
      exact List.all_iff_forall_prop.mp (by decide +kernel)
    case ends => decide +kernel
  have word : EndsInWord item.name.toList := by
    refine ⟨'e', ?_, by decide +kernel⟩
    rw [selects.name, name]
    decide +kernel
  have covers := (selects.selection _ _ _ _ writes).mpr word
  rw [start] at covers
  exact ⟨parseModule_eq (by decide +kernel), spelled, ⟨heading, item, writes, only, covers⟩,
    calls spelled⟩

/-- A function whose name ends in a vowel sign, which prolongs names but belongs to no words. -/
def vowelSignText : String :=
  "def कि():\n    pass\n"

/-- The range that is taken for the name's lies on the keyword. -/
theorem vowelSign_selects_keyword :
    parseModule vowelSignText = .ok (parsed vowelSignText) ∧
    ∃ heading item, functionHeadings (parsed vowelSignText) = [heading] ∧
      (settingOf vowelSignText).Writes heading "def" [] [] [' '] "():".toList ∧
      (moduleIndex (settingOf vowelSignText) (parsed vowelSignText)).definitions.map (·.item) =
        [item] ∧
      item.name = "कि" ∧ item.selection = ⟨⟨0, 0⟩, ⟨0, 2⟩⟩ ∧
      ¬ ∃ row before, (settingOf vowelSignText).Covers item.selection row before
        item.name.toList := by
  have known : (functionHeadings (parsed vowelSignText)).map (fun h => (h.name, h.span.start)) =
      [("कि", ⟨1, 0⟩)] := by decide +kernel
  obtain ⟨heading, single, name, start⟩ := exists_heading known
  have items : ((moduleIndex (settingOf vowelSignText) (parsed vowelSignText)).definitions.map
      (·.item)).map (fun i => (i.name, i.selection)) = [("कि", ⟨⟨0, 0⟩, ⟨0, 2⟩⟩)] := by
    decide +kernel
  obtain ⟨item, only, same⟩ := List.map_eq_singleton_iff.mp items
  obtain ⟨name', selection⟩ := Prod.mk.inj same
  refine ⟨parseModule_eq (by decide +kernel), heading, item, single, ?_, only, name', selection, ?_⟩
  · constructor
    case cuts =>
      rw [start, name]
      exact ⟨by decide, by decide +kernel, by decide +kernel⟩
    case prelude => exact .none "def"
    case apart => decide
    case blank => exact List.forall_mem_singleton.mpr rfl
    case solid =>
      rw [name]
      exact List.all_iff_forall_prop.mp (by decide +kernel)
    case ends => decide +kernel
  · rintro ⟨row, before, ⟨rest, line⟩, range⟩
    rw [selection] at range
    injection range with begins _
    injection begins with atRow atStart
    obtain rfl : row = 0 := by omega
    obtain rfl : before = [] := List.length_eq_zero_iff.mp (by omega)
    have keyword : (settingOf vowelSignText).lines[0]? = some "def कि():".toList := by
      decide +kernel
    rw [name', keyword] at line
    have first : some 'd' = some 'क' := congrArg (·.bind List.head?) line
    exact absurd first (by decide)

end CallDiagram.Index
