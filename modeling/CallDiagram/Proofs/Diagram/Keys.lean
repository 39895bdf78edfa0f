import CallDiagram.Proofs.Diagram.Numbering
import CallDiagram.Proofs.Sorting
import CallDiagram.Proofs.Text.Integers
import Mathlib.Data.List.Lex

/-! # The keys of sequence numbers

An index is written into a number unless it has too many digits, and such a number is read back: its
key is the path to it through the tree of calls. So two paths never lead to one number. Keys are
compared as lists of integers, so numbers that stand in the order of their keys are sorted back into
it.
-/

namespace CallDiagram

open Text

/-! ## Writing a number -/

/-- The number at the end of a path through the tree of calls, if its indices can be written. -/
def numberOf (path : List Int) : Except LongIndex String :=
  path.foldlM formatNumber ""

/-- The text of that number, however long its indices are. -/
def numberText (path : List Int) : String :=
  path.foldl numberBelow ""

section Writing

variable {path : List Int} {number text : String} {index : Int}

theorem formatNumber_of_short (number : String) (short : digitCount index ≤ digitLimit) :
    formatNumber number index = .ok (numberBelow number index) :=
  if_pos short

theorem formatNumber_of_long (number : String) (long : digitLimit < digitCount index) :
    formatNumber number index = .error ⟨index⟩ :=
  if_neg long.not_ge

theorem foldlM_formatNumber (number : String)
    (short : ∀ index ∈ path, digitCount index ≤ digitLimit) :
    path.foldlM formatNumber number = .ok (path.foldl numberBelow number) := by
  induction path generalizing number with
  | nil => rfl
  | cons index path ih =>
      obtain ⟨first, rest⟩ := List.forall_mem_cons.mp short
      rw [List.foldlM_cons, formatNumber_of_short number first]
      exact ih (numberBelow number index) rest

theorem short_of_foldlM (written : path.foldlM formatNumber number = .ok text) :
    ∀ index ∈ path, digitCount index ≤ digitLimit := by
  induction path generalizing number with
  | nil => exact fun _ member => (List.not_mem_nil member).elim
  | cons index path ih =>
      rw [List.foldlM_cons] at written
      rcases Nat.lt_or_ge digitLimit (digitCount index) with long | short
      · rw [formatNumber_of_long number long] at written
        cases written
      · rw [formatNumber_of_short number short] at written
        exact List.forall_mem_cons.mpr ⟨short, ih written⟩

theorem numberOf_of_short (short : ∀ index ∈ path, digitCount index ≤ digitLimit) :
    numberOf path = .ok (numberText path) :=
  foldlM_formatNumber "" short

end Writing

/-! ## Reading a number back -/

theorem numberKey_numberBelow (number : String) (index : Int) :
    numberKey (numberBelow number index) = do
      let key ← numberKey number
      let last ← (readInteger index.repr).mapError (NumberError.mk index.repr)
      return key ++ [last] := by
  have below := components_numberBelow_int number index
  rw [components, components] at below
  simp only [numberKey, below, List.mapM_append, List.mapM_cons, List.mapM_nil, pure_bind,
    bind_assoc]

theorem numberKey_below_of_short {number : String} {key : List Int} {index : Int}
    (known : numberKey number = .ok key) (short : digitCount index ≤ digitLimit) :
    numberKey (numberBelow number index) = .ok (key ++ [index]) := by
  rw [numberKey_numberBelow, known, readInteger_repr, if_pos short]
  rfl

/-- An index of too many digits leaves the number without a key. -/
theorem numberKey_below_of_long {number : String} {key : List Int} {index : Int}
    (known : numberKey number = .ok key) (long : digitLimit < digitCount index) :
    numberKey (numberBelow number index) =
      .error ⟨index.repr, .tooLong (digitCount index)⟩ := by
  rw [numberKey_numberBelow, known, readInteger_repr, if_neg long.not_ge]
  rfl

theorem numberKey_foldl {path : List Int} {number : String} {key : List Int}
    (known : numberKey number = .ok key)
    (short : ∀ index ∈ path, digitCount index ≤ digitLimit) :
    numberKey (path.foldl numberBelow number) = .ok (key ++ path) := by
  induction path generalizing number key with
  | nil => rw [List.foldl_nil, List.append_nil, known]
  | cons index path ih =>
      obtain ⟨first, rest⟩ := List.forall_mem_cons.mp short
      rw [List.foldl_cons, ih (numberKey_below_of_short known first) rest, List.append_assoc,
        List.singleton_append]

theorem numberKey_numberText {path : List Int}
    (short : ∀ index ∈ path, digitCount index ≤ digitLimit) :
    numberKey (numberText path) = .ok path := by
  have top : numberKey "" = .ok [] := rfl
  exact numberKey_foldl top short

/-- Whatever path leads to a number is its key. -/
theorem numberKey_of_numberOf {path : List Int} {number : String}
    (written : numberOf path = .ok number) : numberKey number = .ok path := by
  have short := short_of_foldlM written
  obtain rfl := Except.ok.inj ((numberOf_of_short short).symm.trans written)
  exact numberKey_numberText short

theorem numberOf_inj {path path' : List Int} {number : String}
    (written : numberOf path = .ok number) (written' : numberOf path' = .ok number) :
    path = path' :=
  Except.ok.inj ((numberKey_of_numberOf written).symm.trans (numberKey_of_numberOf written'))

/-! ## Sorting by keys -/

theorem keyOrder_eq (a b : List Int) : keyOrder a b = decide (a ≤ b) := by
  induction a generalizing b with
  | nil => exact (decide_eq_true (not_lt.mp (List.not_lt_nil b))).symm
  | cons x a ih =>
      cases b with
      | nil => exact (decide_eq_false (not_le.mpr (List.nil_lt_cons x a))).symm
      | cons y b =>
          rcases eq_or_ne x y with rfl | different
          · have order : x :: a ≤ x :: b ↔ a ≤ b := by
              rw [← not_lt, ← not_lt, List.cons_lt_cons_self]
            simp only [keyOrder, ih, order, if_true]
          · have order : x :: a ≤ y :: b ↔ x < y := by
              rw [← not_lt, List.cons_lt_cons_iff]
              omega
            simp only [keyOrder, different, order, if_false]

theorem mapM_eq_ok_map {ε α β : Type} {f : α → Except ε β} {g : α → β} {list : List α}
    (known : ∀ a ∈ list, f a = .ok (g a)) : list.mapM f = .ok (list.map g) := by
  induction list with
  | nil => rfl
  | cons a list ih =>
      obtain ⟨first, rest⟩ := List.forall_mem_cons.mp known
      rw [List.mapM_cons, first, ih rest]
      rfl

/-- The key of a number that has one. -/
def keyOf (number : String) : List Int :=
  (numberKey number).toOption.getD []

theorem keyOf_eq {number : String} {key : List Int} (known : numberKey number = .ok key) :
    keyOf number = key := by
  rw [keyOf, known]
  rfl

theorem sortNumbers_eq {numbers : List String}
    (known : ∀ number ∈ numbers, ∃ key, numberKey number = .ok key) :
    sortNumbers numbers = .ok (sortedBy keyOf numbers) := by
  have keyed : (numbers.mapM fun number => return (← numberKey number, number)) =
      (.ok (numbers.map fun number => (keyOf number, number)) : Except NumberError _) := by
    refine mapM_eq_ok_map fun number member => ?_
    obtain ⟨key, read⟩ := known number member
    rw [keyOf_eq read, read]
    rfl
  have sorted := List.map_mergeSort (f := fun number => (keyOf number, number)) (l := numbers)
    (r := fun a b => decide (keyOf a ≤ keyOf b)) (s := fun a b => keyOrder a.1 b.1)
    fun a _ b _ => (keyOrder_eq (keyOf a) (keyOf b)).symm
  rw [sortNumbers, keyed]
  change Except.ok (((numbers.map fun number => (keyOf number, number)).mergeSort
    fun a b => keyOrder a.1 b.1).map (·.2)) = _
  rw [← sorted, List.map_map]
  exact congrArg Except.ok (List.map_id _)

section Paths

variable {paths : List (List Int)}

theorem mapM_numberOf (short : ∀ path ∈ paths, ∀ index ∈ path, digitCount index ≤ digitLimit) :
    paths.mapM numberOf = .ok (paths.map numberText) :=
  mapM_eq_ok_map fun path member => numberOf_of_short (short path member)

theorem mapM_numberKey (read : ∀ path ∈ paths, numberKey (numberText path) = .ok path) :
    (paths.map numberText).mapM numberKey = .ok paths := by
  have walked : paths.mapM (numberKey ∘ numberText) = .ok (paths.map id) := mapM_eq_ok_map read
  rw [List.mapM_map, walked, List.map_id]

/-- Numbers that stand in the order of their keys are sorted back into it, however they were
shuffled. -/
theorem sortNumbers_of_perm (read : ∀ path ∈ paths, numberKey (numberText path) = .ok path)
    (increasing : paths.Pairwise (· < ·)) {shuffled : List String}
    (perm : shuffled.Perm (paths.map numberText)) :
    sortNumbers shuffled = .ok (paths.map numberText) := by
  have known : ∀ number ∈ shuffled, ∃ key, numberKey number = .ok key := by
    intro number member
    obtain ⟨path, listed, rfl⟩ := List.mem_map.mp (perm.mem_iff.mp member)
    exact ⟨path, read path listed⟩
  have sorted : (paths.map numberText).Pairwise fun a b => keyOf a ≤ keyOf b := by
    rw [List.pairwise_map]
    refine increasing.imp_of_mem fun memberA memberB before => ?_
    rw [keyOf_eq (read _ memberA), keyOf_eq (read _ memberB)]
    exact before.le
  have distinct : ∀ a ∈ paths.map numberText, ∀ b ∈ paths.map numberText,
      keyOf a = keyOf b → a = b := by
    intro a memberA b memberB same
    obtain ⟨path, listed, rfl⟩ := List.mem_map.mp memberA
    obtain ⟨path', listed', rfl⟩ := List.mem_map.mp memberB
    rw [keyOf_eq (read _ listed), keyOf_eq (read _ listed')] at same
    rw [same]
  rw [sortNumbers_eq known, sortedBy_eq_of_perm keyOf perm distinct, sortedBy_eq_self keyOf sorted]

end Paths

end CallDiagram
