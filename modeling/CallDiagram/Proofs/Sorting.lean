import Mathlib.Data.List.Sort

/-! # Sorting by a key

Elements with different keys are sorted in one way, however they were listed, and elements with one
key keep their order. A property that a list loses only once cuts it in two.
-/

namespace CallDiagram

section SortedBy

variable {α κ : Type} [LinearOrder κ] (key : α → κ)

def sortedBy (list : List α) : List α :=
  list.mergeSort fun a b => decide (key a ≤ key b)

theorem sortedBy_perm (list : List α) : (sortedBy key list).Perm list :=
  List.mergeSort_perm _ _

theorem decide_key_trans (a b c : α) (first : decide (key a ≤ key b) = true)
    (second : decide (key b ≤ key c) = true) : decide (key a ≤ key c) = true := by
  rw [decide_eq_true_eq] at first second ⊢
  exact first.trans second

theorem decide_key_total (a b : α) : (decide (key a ≤ key b) || decide (key b ≤ key a)) = true := by
  rw [Bool.or_eq_true, decide_eq_true_eq, decide_eq_true_eq]
  exact le_total _ _

theorem pairwise_sortedBy (list : List α) :
    (sortedBy key list).Pairwise fun a b => key a ≤ key b := by
  have sorted := List.pairwise_mergeSort (decide_key_trans key) (decide_key_total key) list
  exact sorted.imp fun before => of_decide_eq_true before

theorem le_of_head?_sortedBy {list : List α} {a : α} (front : (sortedBy key list).head? = some a) :
    ∀ b ∈ list, key a ≤ key b := by
  intro b member
  obtain ⟨rest, sorted⟩ := List.head?_eq_some_iff.mp front
  have known : b ∈ a :: rest := sorted ▸ (sortedBy_perm key list).mem_iff.mpr member
  have order := pairwise_sortedBy key list
  rw [sorted, List.pairwise_cons] at order
  rcases List.mem_cons.mp known with rfl | behind
  · exact le_rfl
  · exact order.1 b behind

theorem le_of_getLast?_sortedBy {list : List α} {a : α}
    (back : (sortedBy key list).getLast? = some a) : ∀ b ∈ list, key b ≤ key a := by
  intro b member
  obtain ⟨front, sorted⟩ := List.getLast?_eq_some_iff.mp back
  have known : b ∈ front ++ [a] := sorted ▸ (sortedBy_perm key list).mem_iff.mpr member
  have order := pairwise_sortedBy key list
  rw [sorted, List.pairwise_append] at order
  rcases List.mem_append.mp known with before | last
  · exact order.2.2 b before a List.mem_cons_self
  · rw [List.mem_singleton.mp last]

theorem sortedBy_eq_of_perm {list others : List α} (perm : others.Perm list)
    (distinct : ∀ a ∈ list, ∀ b ∈ list, key a = key b → a = b) :
    sortedBy key others = sortedBy key list := by
  refine List.Perm.eq_of_pairwise ?_ (pairwise_sortedBy key others) (pairwise_sortedBy key list) ?_
  · intro a b memberA memberB first second
    have known := perm.mem_iff.mp ((sortedBy_perm key others).mem_iff.mp memberA)
    exact distinct a known b ((sortedBy_perm key list).mem_iff.mp memberB) (first.antisymm second)
  · exact (sortedBy_perm key others).trans (perm.trans (sortedBy_perm key list).symm)

theorem sortedBy_eq_self {list : List α} (sorted : list.Pairwise fun a b => key a ≤ key b) :
    sortedBy key list = list :=
  List.mergeSort_of_pairwise (sorted.imp decide_eq_true)

/-- Elements with one key keep their order. -/
theorem filter_sortedBy (list : List α) {chosen : α → Bool}
    (alike : ∀ a b, chosen a = true → chosen b = true → key a = key b) :
    (sortedBy key list).filter chosen = list.filter chosen := by
  have sorted : (list.filter chosen).Pairwise fun a b => decide (key a ≤ key b) = true := by
    refine List.pairwise_of_forall_mem_list fun a memberA b memberB => decide_eq_true ?_
    exact (alike a b (List.of_mem_filter memberA) (List.of_mem_filter memberB)).le
  have kept : (list.filter chosen).Sublist (sortedBy key list) :=
    List.sublist_mergeSort (decide_key_trans key) (decide_key_total key) sorted List.filter_sublist
  have together := kept.filter chosen
  simp only [List.filter_filter, Bool.and_self] at together
  exact (together.eq_of_length ((sortedBy_perm key list).filter chosen).length_eq.symm).symm

end SortedBy

/-- A property that no later element has without the earlier ones cuts a list in two. -/
theorem filter_append_filter {α : Type} {list : List α} {p : α → Bool}
    (once : list.Pairwise fun a b => p b = true → p a = true) :
    list.filter p ++ list.filter (fun a => !p a) = list := by
  induction list with
  | nil => rfl
  | cons a list ih =>
      obtain ⟨first, rest⟩ := List.pairwise_cons.mp once
      cases known : p a with
      | true => simp [known, ih rest]
      | false =>
          have none_ : list.filter p = [] := by
            rw [List.filter_eq_nil_iff]
            intro b member has
            exact absurd (first b member has) (by simp [known])
          have all : list.filter (fun a => !p a) = list := by
            have cut := ih rest
            rwa [none_, List.nil_append] at cut
          simp [known, none_, all]

end CallDiagram
