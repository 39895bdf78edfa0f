/-! # Splitting and joining

A text is cut at every occurrence of a separator: the pieces joined by the separator give the
text back. For one-character separators the pieces hold no separator.
-/

namespace CallDiagram.Text

/-- The pieces between the occurrences of a separating character; never the empty list. -/
def splitOnChar (sep : Char) : List Char → List (List Char)
  | [] => [[]]
  | c :: rest =>
    if c = sep then [] :: splitOnChar sep rest
    else match splitOnChar sep rest with
      | piece :: pieces => (c :: piece) :: pieces
      | [] => [[c]]

theorem splitOnChar_ne_nil (sep : Char) (cs : List Char) : splitOnChar sep cs ≠ [] := by
  cases cs with
  | nil => simp [splitOnChar]
  | cons c rest => simp only [splitOnChar]; split <;> (try split) <;> simp

theorem not_mem_of_mem_splitOnChar {sep : Char} {cs piece : List Char}
    (h : piece ∈ splitOnChar sep cs) : sep ∉ piece := by
  induction cs generalizing piece with
  | nil => simp_all [splitOnChar]
  | cons c rest ih =>
    simp only [splitOnChar] at h
    split at h
    · rcases List.mem_cons.1 h with rfl | h
      · simp
      · exact ih h
    · next hc =>
      cases hs : splitOnChar sep rest with
      | nil => exact absurd hs (splitOnChar_ne_nil sep rest)
      | cons first others =>
        rw [hs] at h
        rcases List.mem_cons.1 h with rfl | h
        · have := @ih first (by simp [hs])
          simp [this, Ne.symm hc]
        · exact ih (by simp [hs, h])

def joinWith (sep : List Char) : List (List Char) → List Char
  | [] => []
  | [piece] => piece
  | piece :: pieces => piece ++ sep ++ joinWith sep pieces

theorem joinWith_splitOnChar (sep : Char) (cs : List Char) :
    joinWith [sep] (splitOnChar sep cs) = cs := by
  induction cs with
  | nil => rfl
  | cons c rest ih =>
    have hne := splitOnChar_ne_nil sep rest
    simp only [splitOnChar]
    split
    · next h =>
      subst h
      cases hs : splitOnChar c rest with
      | nil => exact absurd hs hne
      | cons p ps => rw [hs] at ih; simp [joinWith, ih]
    · cases hs : splitOnChar sep rest with
      | nil => exact absurd hs hne
      | cons p ps =>
        rw [hs] at ih
        cases ps with
        | nil => simpa [joinWith] using ih
        | cons q qs => simpa [joinWith] using ih

/-- The rest of a text behind a given beginning, if the text has that beginning. -/
def afterPrefix? : List Char → List Char → Option (List Char)
  | [], cs => some cs
  | _ :: _, [] => none
  | p :: ps, c :: cs => if p = c then afterPrefix? ps cs else none

/-- Where a separator first occurs: what stands before it and what stands behind it. -/
def cutAt? (sep : List Char) : List Char → Option (List Char × List Char)
  | [] => (afterPrefix? sep []).map ([], ·)
  | c :: rest =>
    match afterPrefix? sep (c :: rest) with
    | some behind => some ([], behind)
    | none => (cutAt? sep rest).map fun (before, behind) => (c :: before, behind)

theorem afterPrefix?_eq_some_iff {ps cs rest : List Char} :
    afterPrefix? ps cs = some rest ↔ cs = ps ++ rest := by
  induction ps generalizing cs with
  | nil => simp [afterPrefix?, eq_comm]
  | cons p ps ih =>
    cases cs with
    | nil => simp [afterPrefix?]
    | cons c cs =>
      simp only [afterPrefix?]
      split
      · next h => subst h; simp [ih]
      · next h => simp [Ne.symm h]

theorem cutAt?_eq_some {sep cs before behind : List Char}
    (h : cutAt? sep cs = some (before, behind)) : cs = before ++ sep ++ behind := by
  induction cs generalizing before with
  | nil =>
    simp only [cutAt?, Option.map_eq_some_iff] at h
    obtain ⟨r, hr, he⟩ := h
    obtain ⟨rfl, rfl⟩ := Prod.mk.inj he
    simpa using afterPrefix?_eq_some_iff.1 hr
  | cons c rest ih =>
    simp only [cutAt?] at h
    split at h
    · next r hr =>
      obtain ⟨rfl, rfl⟩ := Prod.mk.inj (Option.some.inj h)
      simpa using afterPrefix?_eq_some_iff.1 hr
    · simp only [Option.map_eq_some_iff] at h
      obtain ⟨⟨b, r⟩, hb, he⟩ := h
      obtain ⟨rfl, rfl⟩ := Prod.mk.inj he
      simp [ih hb]

def splitOn (sep : List Char) (h : sep ≠ []) (cs : List Char) : List (List Char) :=
  match _h : cutAt? sep cs with
  | none => [cs]
  | some (before, behind) => before :: splitOn sep h behind
termination_by cs.length
decreasing_by
  have := cutAt?_eq_some _h
  have : 0 < sep.length := List.length_pos_iff.2 h
  grind

/-- A text cut at its first occurrence of a character; no second part if it has none. -/
def partition (sep : Char) (cs : List Char) : List Char × List Char :=
  (cs.takeWhile (· ≠ sep), (cs.dropWhile (· ≠ sep)).drop 1)

/-- A text cut at its last occurrence of a character; no first part if it has none. -/
def partitionLast (sep : Char) (cs : List Char) : List Char × List Char :=
  let back := cs.reverse
  (((back.dropWhile (· ≠ sep)).drop 1).reverse, (back.takeWhile (· ≠ sep)).reverse)

def dotted (s : String) : List String :=
  (splitOnChar '.' s.toList).map String.ofList

def replace (old : List Char) (h : old ≠ []) (new cs : List Char) : List Char :=
  joinWith new (splitOn old h cs)

end CallDiagram.Text
