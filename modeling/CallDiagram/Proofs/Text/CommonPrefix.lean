import CallDiagram.Proofs.Sorting
import CallDiagram.Proofs.Text.Splitting
import CallDiagram.Text.CommonPrefix
import Mathlib.Data.String.Basic
import Mathlib.Data.List.Infix

/-! # The longest common beginning

Comparing the least and the greatest of some texts is enough to find what all of them begin with:
a text that lies between two others in the order of the alphabet begins with whatever those two
have in common. How the texts are listed does not matter. Taking a beginning off as often as it is
there leaves a text that does not have it.
-/

namespace CallDiagram.Text

/-- The longest text that each of some texts begins with. -/
structure IsCommonPrefix (common : List Char) (texts : List (List Char)) : Prop where
  start : ∀ text ∈ texts, common <+: text
  longest : ∀ other, (∀ text ∈ texts, other <+: text) → other <+: common

theorem prefix_agreeing_iff {α : Type} [DecidableEq α] {start as bs : List α} :
    start <+: agreeing as bs ↔ start <+: as ∧ start <+: bs := by
  induction start generalizing as bs with
  | nil => simp
  | cons c start ih =>
      cases as with
      | nil => simp [agreeing]
      | cons a as =>
          cases bs with
          | nil => simp [agreeing]
          | cons b bs =>
              by_cases same : a = b
              · subst same
                simp only [agreeing, if_pos, List.cons_prefix_cons, ih]
                tauto
              · simp only [agreeing, if_neg same, List.cons_prefix_cons, List.prefix_nil]
                grind

/-- A list between two others begins with what both of them begin with. -/
theorem prefix_of_between {start low text high : List Char} (above : ¬ text < low)
    (below : ¬ high < text) (first : start <+: low) (last : start <+: high) : start <+: text := by
  induction start generalizing low text high with
  | nil => exact List.nil_prefix
  | cons c start ih =>
      obtain ⟨low, rfl, lower⟩ := List.cons_prefix_iff.mp first
      obtain ⟨high, rfl, upper⟩ := List.cons_prefix_iff.mp last
      cases text with
      | nil => exact absurd (List.nil_lt_cons c low) above
      | cons d text =>
          rw [List.cons_lt_cons_iff, not_or] at above below
          obtain rfl : c = d := le_antisymm (not_lt.mp above.1) (not_lt.mp below.1)
          have rest : start <+: text :=
            ih (fun less => above.2 ⟨rfl, less⟩) (fun less => below.2 ⟨rfl, less⟩) lower upper
          rwa [List.cons_prefix_cons, and_iff_right rfl]

/-- Going through some texts and changing over to each that comes before the last choice leads to
one of them that none of them comes before. -/
theorem foldl_choice (before : String → String → Prop) [DecidableRel before]
    [IsStrictOrder String before] (s : String) (texts : List String) :
    let choice := texts.foldl (fun best t => if before t best then t else best) s
    choice ∈ s :: texts ∧ (choice = s ∨ before choice s) ∧ ∀ t ∈ texts, ¬ before t choice := by
  induction texts generalizing s with
  | nil => simp
  | cons t texts ih =>
      rw [List.foldl_cons]
      split
      · next better =>
        obtain ⟨member, first, later⟩ := ih t
        refine ⟨List.mem_cons_of_mem s member, .inr ?_, List.forall_mem_cons.mpr ⟨?_, later⟩⟩
        · rcases first with same | less
          · rwa [same]
          · exact IsTrans.trans _ _ _ less better
        · rcases first with same | less
          · rw [same]
            exact irrefl t
          · exact asymm less
      · next worse =>
        obtain ⟨member, first, later⟩ := ih s
        refine ⟨?_, first, List.forall_mem_cons.mpr ⟨fun less => worse ?_, later⟩⟩
        · rcases List.mem_cons.mp member with same | among
          · rw [same]
            exact List.mem_cons_self
          · exact List.mem_cons_of_mem s (List.mem_cons_of_mem t among)
        · rcases first with same | lower
          · rwa [same] at less
          · exact IsTrans.trans _ _ _ less lower

theorem leastOf_spec (s : String) (texts : List String) :
    leastOf s texts ∈ s :: texts ∧ ∀ t ∈ s :: texts, ¬ t < leastOf s texts := by
  obtain ⟨member, first, later⟩ := foldl_choice (· < ·) s texts
  refine ⟨member, List.forall_mem_cons.mpr ⟨?_, later⟩⟩
  exact not_lt.mpr (first.elim le_of_eq le_of_lt)

theorem greatestOf_spec (s : String) (texts : List String) :
    greatestOf s texts ∈ s :: texts ∧ ∀ t ∈ s :: texts, ¬ greatestOf s texts < t := by
  obtain ⟨member, first, later⟩ := foldl_choice (· > ·) s texts
  refine ⟨member, List.forall_mem_cons.mpr ⟨?_, later⟩⟩
  exact not_lt.mpr (first.elim ge_of_eq le_of_lt)

theorem isCommonPrefix_commonPrefix {texts : List String} (some : texts ≠ []) :
    IsCommonPrefix (commonPrefix texts).toList (texts.map (·.toList)) := by
  cases texts with
  | nil => exact absurd rfl some
  | cons s texts =>
      obtain ⟨least, above⟩ := leastOf_spec s texts
      obtain ⟨greatest, below⟩ := greatestOf_spec s texts
      have common : (commonPrefix (s :: texts)).toList =
          agreeing (leastOf s texts).toList (greatestOf s texts).toList := by
        rw [commonPrefix, String.toList_ofList]
      rw [common]
      constructor
      · intro text member
        obtain ⟨t, among, rfl⟩ := List.mem_map.mp member
        obtain ⟨lower, upper⟩ := prefix_agreeing_iff.mp
          (List.prefix_refl (agreeing (leastOf s texts).toList (greatestOf s texts).toList))
        exact prefix_of_between (above t among) (below t among) lower upper
      · intro other all
        rw [prefix_agreeing_iff]
        exact ⟨all _ (List.mem_map_of_mem least), all _ (List.mem_map_of_mem greatest)⟩

/-! ## The order of the texts -/

theorem IsCommonPrefix.unique {common other : List Char} {texts : List (List Char)}
    (longest : IsCommonPrefix common texts) (longest' : IsCommonPrefix other texts) :
    common = other := by
  have shorter : common <+: other := longest'.longest common longest.start
  have longer : other <+: common := longest.longest other longest'.start
  exact shorter.eq_of_length_le longer.length_le

theorem IsCommonPrefix.congr {common : List Char} {texts others : List (List Char)}
    (longest : IsCommonPrefix common texts) (same : ∀ text, text ∈ others ↔ text ∈ texts) :
    IsCommonPrefix common others where
  start text member := longest.start text ((same text).mp member)
  longest other all := longest.longest other fun text member => all text ((same text).mpr member)

/-- The longest common beginning depends on neither the order of the texts nor on repetitions. -/
theorem commonPrefix_eq_of_mem_iff {texts others : List String}
    (same : ∀ text, text ∈ others ↔ text ∈ texts) : commonPrefix others = commonPrefix texts := by
  by_cases any : texts = []
  · have none_ : others = [] := by
      refine List.eq_nil_iff_forall_not_mem.mpr fun text listed => ?_
      rw [same, any] at listed
      exact List.not_mem_nil listed
    rw [none_, any]
  · obtain ⟨first, listed⟩ := List.exists_mem_of_ne_nil texts any
    have any' : others ≠ [] := List.ne_nil_of_mem ((same first).mpr listed)
    have common : IsCommonPrefix (commonPrefix texts).toList (others.map (·.toList)) :=
      (isCommonPrefix_commonPrefix any).congr fun text => by simp only [List.mem_map, same]
    exact String.toList_inj.mp ((isCommonPrefix_commonPrefix any').unique common)

theorem head?_sortedBy_id (s : String) (texts : List String) :
    (sortedBy id (s :: texts)).head? = some (leastOf s texts) := by
  obtain ⟨member, lower⟩ := leastOf_spec s texts
  have known := (sortedBy_perm id (s :: texts)).mem_iff.mpr member
  have front := List.head?_eq_some_head (List.ne_nil_of_mem known)
  have listed := (sortedBy_perm id (s :: texts)).mem_iff.mp (List.mem_of_head? front)
  rw [front, Option.some_inj]
  -- Both are among the texts, and neither has a text before it.
  exact le_antisymm (le_of_head?_sortedBy id front _ member) (not_lt.mp (lower _ listed))

theorem getLast?_sortedBy_id (s : String) (texts : List String) :
    (sortedBy id (s :: texts)).getLast? = some (greatestOf s texts) := by
  obtain ⟨member, upper⟩ := greatestOf_spec s texts
  have known := (sortedBy_perm id (s :: texts)).mem_iff.mpr member
  have back := List.getLast?_eq_some_getLast (List.ne_nil_of_mem known)
  have listed := (sortedBy_perm id (s :: texts)).mem_iff.mp (List.mem_of_getLast? back)
  rw [back, Option.some_inj]
  exact le_antisymm (not_lt.mp (upper _ listed)) (le_of_getLast?_sortedBy id back _ member)

/-- All of some texts begin with what the first and the last of them, once they are sorted, have in
common, and with nothing longer. It stays the same in any other order and with repetitions. -/
theorem commonPrefix_sorted {texts : List String} (any : texts ≠ []) :
    IsCommonPrefix (commonPrefix texts).toList (texts.map (·.toList)) ∧
      (∃ first last, (sortedBy id texts).head? = some first ∧
        (sortedBy id texts).getLast? = some last ∧
          (commonPrefix texts).toList = agreeing first.toList last.toList) ∧
      ∀ others, (∀ text, text ∈ others ↔ text ∈ texts) →
        commonPrefix others = commonPrefix texts := by
  refine ⟨isCommonPrefix_commonPrefix any, ?_, fun others => commonPrefix_eq_of_mem_iff⟩
  obtain ⟨s, texts, rfl⟩ := List.exists_cons_of_ne_nil any
  refine ⟨_, _, head?_sortedBy_id s texts, getLast?_sortedBy_id s texts, ?_⟩
  rw [commonPrefix, String.toList_ofList]

/-- A folder that is listed among its files, twice, is all that they begin with. -/
theorem listed_folder_commonPrefix :
    let texts := ["lib/util.py", "lib/", "lib/core/a.py", "lib/"]
    texts ≠ [] ∧ sortedBy id texts = ["lib/", "lib/", "lib/core/a.py", "lib/util.py"] ∧
      agreeing "lib/".toList "lib/util.py".toList = "lib/".toList ∧
      IsCommonPrefix "lib/".toList (texts.map (·.toList)) ∧
      commonPrefix ["lib/", "lib/core/a.py", "lib/util.py"] = "lib/" := by
  intro texts
  have any : texts ≠ [] := List.cons_ne_nil _ _
  have common : commonPrefix texts = "lib/" := by decide
  have sorted : sortedBy id texts = ["lib/", "lib/", "lib/core/a.py", "lib/util.py"] := by
    have perm : texts.Perm ["lib/", "lib/", "lib/core/a.py", "lib/util.py"] := by decide
    rw [sortedBy_eq_of_perm id perm fun _ _ _ _ same => same]
    exact sortedBy_eq_self id (by decide)
  obtain ⟨longest, ⟨first, last, front, back, ends⟩, listing⟩ := commonPrefix_sorted any
  rw [common] at longest ends listing
  rw [sorted] at front back
  cases front
  cases back
  refine ⟨any, sorted, ends.symm, longest, listing _ fun text => ?_⟩
  simp only [texts, List.mem_cons]
  tauto

/-! ## Taking a beginning off -/

@[simp] theorem withoutPrefix_nil (cs : List Char) : withoutPrefix [] cs = cs := by
  rw [withoutPrefix]
  exact dif_pos rfl

theorem withoutPrefix_eq_self {start cs : List Char} (absent : ¬ start <+: cs) :
    withoutPrefix start cs = cs := by
  rw [withoutPrefix]
  split
  · rfl
  · split
    · next rest found =>
      exact absurd ⟨rest, (afterPrefix?_eq_some_iff.mp found).symm⟩ absent
    · rfl

theorem withoutPrefix_append (start cs : List Char) :
    withoutPrefix start (start ++ cs) = withoutPrefix start cs := by
  by_cases empty : start = []
  · rw [empty, List.nil_append]
  · rw [withoutPrefix, dif_neg empty, afterPrefix?_eq_some_iff.mpr rfl]

/-- A text is what is taken off, some times over, and what is left. -/
theorem exists_withoutPrefix (start cs : List Char) :
    ∃ times, cs = (List.replicate times start).flatten ++ withoutPrefix start cs := by
  by_cases empty : start = []
  · exact ⟨0, by simp [empty]⟩
  · induction cs using withoutPrefix.induct start with
    | case1 cs empty' => exact absurd empty' empty
    | case2 cs _ rest found ih =>
        obtain ⟨times, whole⟩ := ih
        refine ⟨times + 1, ?_⟩
        rw [afterPrefix?_eq_some_iff.mp found, withoutPrefix_append, List.replicate_succ,
          List.flatten_cons, List.append_assoc, ← whole]
    | case3 cs _ missing =>
        refine ⟨0, ?_⟩
        rw [withoutPrefix_eq_self (afterPrefix?_eq_none_iff.mp missing)]
        simp

theorem not_prefix_withoutPrefix {start : List Char} (nonempty : start ≠ []) (cs : List Char) :
    ¬ start <+: withoutPrefix start cs := by
  induction cs using withoutPrefix.induct start with
  | case1 cs empty => exact absurd empty nonempty
  | case2 cs _ rest found ih =>
      rwa [afterPrefix?_eq_some_iff.mp found, withoutPrefix_append]
  | case3 cs _ missing =>
      have absent := afterPrefix?_eq_none_iff.mp missing
      rwa [withoutPrefix_eq_self absent]

/-- A beginning is taken off just once unless it is there twice in a row. -/
theorem eq_append_withoutPrefix_iff {start cs : List Char} (begins : start <+: cs) :
    cs = start ++ withoutPrefix start cs ↔ start = [] ∨ ¬ start ++ start <+: cs := by
  obtain ⟨rest, rfl⟩ := begins
  rw [withoutPrefix_append, List.append_cancel_left_eq, List.prefix_append_right_inj]
  by_cases empty : start = []
  · simp [empty]
  · rw [or_iff_right empty]
    constructor
    · intro once
      rw [once]
      exact not_prefix_withoutPrefix empty rest
    · exact fun absent => (withoutPrefix_eq_self absent).symm

end CallDiagram.Text
