import CallDiagram.Text.Split

/-! # Globs

Patterns for paths: a star stands for any text, a question mark for any character, and brackets for
one character of a set. The stars do not stop at slashes. A pattern and a text match as a whole.
-/

namespace CallDiagram.Text

/-- What stands for one character in a set: a character, or a hyphen between the ends of a range. -/
inductive SetPart where
  | char (c : Char)
  | through
  deriving Repr, DecidableEq

inductive GlobPart where
  | anyText
  | anyChar
  | char (c : Char)
  | oneOf (negated : Bool) (ranges : List (Char × Char))
  deriving Repr, DecidableEq

namespace GlobPart

/-- Cuts what stands between brackets at the hyphens that make ranges. The first character and the
two behind such a hyphen are plain. -/
def chunks (plain : Nat) (chunk : List Char) : List Char → List (List Char)
  | [] => [chunk]
  | c :: cs =>
    if plain = 0 ∧ c = '-' then chunk :: chunks 2 [] cs
    else chunks (plain - 1) (chunk ++ [c]) cs

/-- A hyphen at the very end is plain. -/
def closeLast : List (List Char) → List (List Char)
  | [chunk, []] => [chunk ++ ['-']]
  | chunk :: rest => chunk :: closeLast rest
  | [] => []

/-- Leaves out the ranges that end before they start, with both of their ends. -/
def dropEmptyRanges : List (List Char) → List (List Char)
  | [] => []
  | chunk :: rest =>
    match dropEmptyRanges rest with
    | (c :: cs) :: rest =>
      if (chunk.getLast?.any fun last => c < last) then (chunk.dropLast ++ cs) :: rest
      else chunk :: (c :: cs) :: rest
    | rest => chunk :: rest

def setParts : List (List Char) → List SetPart
  | [] => []
  | [chunk] => chunk.map .char
  | chunk :: rest => chunk.map .char ++ .through :: setParts rest

/-- The ranges that the parts of a set spell; a hyphen without a start is a character. -/
def rangesOf : List SetPart → List (Char × Char)
  | [] => []
  | .char c :: .through :: .char d :: rest => (c, d) :: rangesOf rest
  | .char c :: rest => (c, c) :: rangesOf rest
  | .through :: rest => ('-', '-') :: rangesOf rest

def ofSet (inside : List Char) : GlobPart :=
  let plain := if inside.head? = some '!' then 2 else 1
  match setParts (dropEmptyRanges (closeLast (chunks plain [] inside))) with
  | [] => .oneOf false []
  | [.char '!'] => .anyChar
  | .char '!' :: rest => .oneOf true (rangesOf rest)
  | parts => .oneOf false (rangesOf parts)

/-- What belongs to a set although it might close it: a bracket at the very start or behind the
exclamation mark of a negation. -/
def setStart : List Char → List Char × List Char
  | '!' :: ']' :: rest => (['!', ']'], rest)
  | '!' :: rest => (['!'], rest)
  | ']' :: rest => ([']'], rest)
  | rest => ([], rest)

def cutSet? (cs : List Char) : Option (List Char × List Char) :=
  (cutAt? [']'] (setStart cs).2).map fun (inside, behind) => ((setStart cs).1 ++ inside, behind)

theorem setStart_append (cs : List Char) : (setStart cs).1 ++ (setStart cs).2 = cs := by
  unfold setStart
  split <;> rfl

theorem cutSet?_shorter {cs inside behind : List Char} (h : cutSet? cs = some (inside, behind)) :
    behind.length < cs.length := by
  simp only [cutSet?, Option.map_eq_some_iff] at h
  obtain ⟨⟨b, r⟩, hb, he⟩ := h
  obtain ⟨-, rfl⟩ := Prod.mk.inj he
  have hs := congrArg List.length (setStart_append cs)
  have hc := congrArg List.length (cutAt?_eq_some hb)
  simp only [List.length_append, List.length_cons, List.length_nil] at hs hc ⊢
  omega

def parse (cs : List Char) : List GlobPart :=
  match cs with
  | [] => []
  | '*' :: rest => .anyText :: parse rest
  | '?' :: rest => .anyChar :: parse rest
  | '[' :: rest =>
    match _h : cutSet? rest with
    | some (inside, behind) => ofSet inside :: parse behind
    | none => .char '[' :: parse rest
  | c :: rest => .char c :: parse rest
termination_by cs.length
decreasing_by
  all_goals simp only [List.length_cons]
  all_goals try have hs := cutSet?_shorter _h
  all_goals omega

def fits (c : Char) : GlobPart → Bool
  | .anyText | .anyChar => true
  | .char d => c = d
  | .oneOf negated ranges => (ranges.any fun (first, last) => first ≤ c && c ≤ last) != negated

def matchAll : List GlobPart → List Char → Bool
  | [], cs => cs.isEmpty
  | .anyText :: parts, [] => matchAll parts []
  | .anyText :: parts, c :: cs => matchAll parts (c :: cs) || matchAll (.anyText :: parts) cs
  | _ :: _, [] => false
  | part :: parts, c :: cs => fits c part && matchAll parts cs
termination_by parts cs => (parts.length, cs.length)

end GlobPart

def globMatches (pattern text : String) : Bool :=
  GlobPart.matchAll (GlobPart.parse pattern.toList) text.toList

end CallDiagram.Text
