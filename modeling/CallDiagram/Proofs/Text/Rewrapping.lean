import CallDiagram.Proofs.Text.Wrapping

/-! # Wrapping a text again

A wrapped text stays as it is when it is wrapped again: its lines are found again between the
markers, and wrapping leaves every one of them alone. The first needs that no marker begins in a
line and ends in a marker behind it.
-/

namespace CallDiagram.Text.Wrapper

variable {w : Wrapper} {width : Nat}

theorem IsLine.segmentLines_eq {line : List Char} (whole : IsLine w width line) :
    w.segmentLines width line = [line] := by
  rw [segmentLines, whole.trimmed.strip_eq, whole.linesOf_eq]

theorem infix_of_mem_segmentLines (positive : 0 < width) {segment line : List Char}
    (member : line ∈ w.segmentLines width segment) : line <:+: segment :=
  ((brokenInto_linesOf positive (isTrimmed_strip segment)).infix_of_mem member).trans
    (strip_isInfix segment)

/-- Joined lines that each would be left alone are left alone together. -/
theorem wrap_joinWith (single : IsUnbordered w.marker) {lines : List (List Char)}
    (free : ∀ line ∈ lines, ¬ w.marker <:+: line)
    (whole : ∀ line ∈ lines, IsLine w (w.lineWidth width) line) :
    w.wrap (joinWith w.marker lines) width = joinWith w.marker lines := by
  by_cases short : ¬ w.marker <:+: joinWith w.marker lines ∧
      (joinWith w.marker lines).length ≤ w.lineWidth width + w.softLimit
  · exact wrap_of_short short.1 short.2
  · rw [wrap_of_long short]
    by_cases any : lines = []
    · have absent : ¬ w.marker <:+: [] := by simpa using w.marker_ne_nil
      rw [any, joinWith, splitOn_eq_singleton w.marker_ne_nil absent, List.flatMap_singleton,
        segmentLines, strip_nil, linesOf_nil, joinWith]
    · have same : lines.flatMap (w.segmentLines (w.lineWidth width)) = lines := by
        calc lines.flatMap (w.segmentLines (w.lineWidth width))
            = lines.flatMap fun line => [line] :=
              List.flatMap_congr fun line member => (whole line member).segmentLines_eq
          _ = lines := List.flatMap_singleton' lines
      rw [single.splitOn_joinWith w.marker_ne_nil any free, same]

/-- Wrapping a wrapped text changes nothing. -/
theorem wrap_wrap (w : Wrapper) (single : IsUnbordered w.marker) (text : List Char)
    (width : Nat) : w.wrap (w.wrap text width) width = w.wrap text width := by
  have positive := w.lineWidth_pos width
  by_cases short : ¬ w.marker <:+: text ∧ text.length ≤ w.lineWidth width + w.softLimit
  · rw [wrap_of_short short.1 short.2, wrap_of_short short.1 short.2]
  · rw [wrap_of_long short]
    apply wrap_joinWith single
    · intro line member
      obtain ⟨segment, among, member⟩ := List.mem_flatMap.mp member
      intro inside
      exact not_infix_of_mem_splitOn w.marker_ne_nil among
        (inside.trans (infix_of_mem_segmentLines positive member))
    · intro line member
      obtain ⟨segment, -, member⟩ := List.mem_flatMap.mp member
      exact isLine_of_mem_segmentLines positive member

theorem usual_wrap_wrap :
    let lineFeeds : Wrapper :=
      { usual with marker := ['\n'], marker_ne_nil := List.cons_ne_nil _ _ }
    let text := "alpha beta gamma delta epsilon zeta eta theta iota kappa".toList
    let narrow := "alpha beta\ngamma delta\nepsilon zeta\neta theta\niota kappa".toList
    (IsUnbordered usual.marker ∧ usual.wrap (usual.wrap text) = usual.wrap text) ∧
      IsUnbordered lineFeeds.marker ∧ lineFeeds.wrap text 9 = narrow ∧
        lineFeeds.wrap narrow 9 = narrow := by
  intro lineFeeds text narrow
  have breakTag : IsUnbordered usual.marker := by decide
  have lineFeed : IsUnbordered lineFeeds.marker := by decide
  have once : lineFeeds.wrap text 9 = narrow := by decide +kernel
  have again := lineFeeds.wrap_wrap lineFeed text 9
  rw [once] at again
  exact ⟨⟨breakTag, usual.wrap_wrap breakTag text 0⟩, lineFeed, once, again⟩

end CallDiagram.Text.Wrapper
