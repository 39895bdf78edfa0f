/-! # White space

The characters at which texts are stripped and split. Main statements: a stripped text neither
starts nor ends with a blank, so nothing is left to strip from it.
-/

namespace CallDiagram.Text

/-- White space of every script: controls that move the pen or separate records, spaces of any
width, and the separators of lines and paragraphs. -/
def isBlank (c : Char) : Bool :=
  let code := c.toNat
  (9 ≤ code && code ≤ 13) || (28 ≤ code && code ≤ 32) || code == 0x85 || code == 0xA0
    || code == 0x1680 || (0x2000 ≤ code && code ≤ 0x200A) || code == 0x2028 || code == 0x2029
    || code == 0x202F || code == 0x205F || code == 0x3000

/-- A list without the leading elements that satisfy `p`. -/
abbrev dropStart (p : Char → Bool) (cs : List Char) : List Char :=
  cs.dropWhile p

/-- A list without the trailing elements that satisfy `p`. -/
def dropEnd (p : Char → Bool) (cs : List Char) : List Char :=
  (cs.reverse.dropWhile p).reverse

def dropEnds (p : Char → Bool) (cs : List Char) : List Char :=
  dropEnd p (dropStart p cs)

def stripStart (cs : List Char) : List Char :=
  dropStart isBlank cs

def stripEnd (cs : List Char) : List Char :=
  dropEnd isBlank cs

def strip (cs : List Char) : List Char :=
  dropEnds isBlank cs

def stripped (s : String) : String :=
  String.ofList (strip s.toList)

@[simp] theorem dropEnd_nil (p : Char → Bool) : dropEnd p [] = [] := rfl

@[simp] theorem strip_nil : strip [] = [] := rfl

theorem dropEnd_prefix (p : Char → Bool) (cs : List Char) : dropEnd p cs <+: cs := by
  have h : cs.reverse.dropWhile p <:+ cs.reverse := List.dropWhile_suffix p
  simpa [dropEnd] using List.reverse_prefix.2 h

theorem exists_dropStart (p : Char → Bool) (cs : List Char) :
    ∃ dropped, dropped ++ dropStart p cs = cs ∧ ∀ c ∈ dropped, p c = true :=
  ⟨cs.takeWhile p, List.takeWhile_append_dropWhile, List.all_eq_true.1 List.all_takeWhile⟩

theorem exists_dropEnd (p : Char → Bool) (cs : List Char) :
    ∃ dropped, dropEnd p cs ++ dropped = cs ∧ ∀ c ∈ dropped, p c = true := by
  obtain ⟨dropped, whole, all⟩ := exists_dropStart p cs.reverse
  refine ⟨dropped.reverse, ?_, fun c hc => all c (List.mem_reverse.1 hc)⟩
  rw [dropEnd, ← List.reverse_append, whole, List.reverse_reverse]

theorem dropStart_ne_nil {p : Char → Bool} {cs : List Char} {c : Char} (member : c ∈ cs)
    (solid : p c = false) : dropStart p cs ≠ [] := by
  obtain ⟨dropped, whole, all⟩ := exists_dropStart p cs
  intro gone
  rw [gone, List.append_nil] at whole
  rw [← whole] at member
  exact Bool.false_ne_true (solid.symm.trans (all c member))

theorem dropEnd_ne_nil {p : Char → Bool} {cs : List Char} {c : Char} (member : c ∈ cs)
    (solid : p c = false) : dropEnd p cs ≠ [] := by
  have rest : dropStart p cs.reverse ≠ [] := dropStart_ne_nil (List.mem_reverse.2 member) solid
  rwa [dropEnd, ne_eq, List.reverse_eq_nil_iff]

theorem head?_dropStart {p : Char → Bool} {cs : List Char} {c : Char}
    (h : (dropStart p cs).head? = some c) : p c = false := by
  have hp := List.head?_dropWhile_not p cs
  rw [h] at hp
  simpa using hp

theorem getLast?_dropEnd {p : Char → Bool} {cs : List Char} {c : Char}
    (h : (dropEnd p cs).getLast? = some c) : p c = false := by
  rw [dropEnd, List.getLast?_reverse] at h
  exact head?_dropStart h

theorem head?_dropEnds {p : Char → Bool} {cs : List Char} {c : Char}
    (h : (dropEnds p cs).head? = some c) : p c = false := by
  obtain ⟨ending, he⟩ := dropEnd_prefix p (dropStart p cs)
  have hs : (dropStart p cs).head? = some c := by
    rw [← he, List.head?_append]
    simp only [dropEnds] at h
    simp [h]
  exact head?_dropStart hs

theorem head?_strip {cs : List Char} {c : Char} (h : (strip cs).head? = some c) :
    isBlank c = false :=
  head?_dropEnds h

theorem getLast?_strip {cs : List Char} {c : Char} (h : (strip cs).getLast? = some c) :
    isBlank c = false :=
  getLast?_dropEnd h

theorem dropEnds_isInfix (p : Char → Bool) (cs : List Char) : dropEnds p cs <:+: cs := by
  have start : dropEnds p cs <+: dropStart p cs := dropEnd_prefix p _
  exact start.isInfix.trans (List.dropWhile_suffix p).isInfix

theorem strip_isInfix (cs : List Char) : strip cs <:+: cs :=
  dropEnds_isInfix isBlank cs

theorem dropStart_eq_self {p : Char → Bool} {cs : List Char}
    (h : ∀ c, cs.head? = some c → p c = false) : dropStart p cs = cs := by
  cases cs with
  | nil => rfl
  | cons c cs => simp [dropStart, h c rfl]

theorem dropEnd_eq_self {p : Char → Bool} {cs : List Char}
    (h : ∀ c, cs.getLast? = some c → p c = false) : dropEnd p cs = cs := by
  have hr : cs.reverse.dropWhile p = cs.reverse :=
    dropStart_eq_self fun c hc => h c (by rwa [List.head?_reverse] at hc)
  rw [dropEnd, hr, List.reverse_reverse]

@[simp] theorem strip_strip (cs : List Char) : strip (strip cs) = strip cs := by
  have h : dropStart isBlank (strip cs) = strip cs := dropStart_eq_self fun _ => head?_strip
  rw [strip, dropEnds, h]
  exact dropEnd_eq_self fun _ => getLast?_strip

end CallDiagram.Text
