import CallDiagram.Proofs.CallSite.Execution

/-! # Selected call sites

For names that stand apart, each call site has a rank of its own, so its place among the others does
not depend on which of them are there. Call sites can therefore be selected by their targets before
or after they are put in order.
-/

namespace CallDiagram

theorem flattenCalls_filter (chosen : Item → Bool) (calls : List OutgoingCall) :
    flattenCalls (calls.filter fun call => chosen call.target) =
      (flattenCalls calls).filter fun site => chosen site.1 := by
  induction calls with
  | nil => rfl
  | cons call calls ih =>
      have first : ∀ others, flattenCalls (call :: others) =
          call.ranges.map (call.target, ·) ++ flattenCalls others := fun _ => List.flatMap_cons
      rw [first, List.filter_append, ← ih, List.filter_map]
      cases wanted : chosen call.target with
      | false => simp [wanted, Function.comp_def]
      | true => simp [wanted, Function.comp_def, first]

namespace Document

variable {d : Document} {sites : List (Item × Range)}

theorem filter_byRank (distinct : ∀ a ∈ sites, ∀ b ∈ sites, d.rank a.2 = d.rank b.2 → a = b)
    (chosen : Item × Range → Bool) :
    (d.byRank sites).filter chosen = d.byRank (sites.filter chosen) := by
  have known : ∀ a ∈ (d.byRank sites).filter chosen, a ∈ sites := by
    intro a member
    exact (List.mergeSort_perm _ _).mem_iff.mp (List.mem_of_mem_filter member)
  have perm : ((d.byRank sites).filter chosen).Perm (d.byRank (sites.filter chosen)) :=
    ((List.mergeSort_perm _ _).filter chosen).trans (List.mergeSort_perm _ _).symm
  -- Both lists are sorted, and sorted lists of the same places differ at most where ranks agree.
  refine perm.eq_of_pairwise ?_ ((d.pairwise_byRank sites).filter chosen) (d.pairwise_byRank _)
  intro a b memberA memberB first second
  exact distinct a (known a memberA) b (known b (perm.mem_iff.mpr memberB))
    (Nat.le_antisymm first second)

theorem Separate.filter (separate : d.Separate sites) (chosen : Item × Range → Bool) :
    d.Separate (sites.filter chosen) where
  names site member := separate.names site (List.mem_of_mem_filter member)
  apart := separate.apart.filter chosen

end Document

namespace Provider

variable {d : Document} {calls : List OutgoingCall}

theorem inOrder_readSites (p : Provider) (s : Settings)
    (separate : d.Separate (flattenCalls calls)) :
    CallSite.inOrder (p.readSites s d calls) =
      (d.byRank (flattenCalls calls)).map fun (target, range) =>
        (p.callSite s d target range).1 := by
  have places : (CallSite.inOrder (p.readSites s d calls)).map CallSite.place =
      d.byRank (flattenCalls calls) :=
    separate.map_inOrder (fun _ => readIn_of_mem) (.of_eq (p.map_readSites s d calls))
  have again : ∀ site ∈ CallSite.inOrder (p.readSites s d calls),
      (p.callSite s d site.target site.range).1 = site := by
    intro site member
    have unsorted := (List.mergeSort_perm _ _).mem_iff.mp member
    obtain ⟨⟨target, range⟩, -, rfl⟩ := List.mem_map.mp unsorted
    rfl
  rw [← places, List.map_map]
  exact ((List.map_congr_left again).trans (List.map_id _)).symm

/-- Selecting call sites by their targets leaves the order of the others as it is. -/
theorem filter_inOrder_readSites (p : Provider) (s : Settings)
    (separate : d.Separate (flattenCalls calls)) (chosen : Item → Bool) :
    (CallSite.inOrder (p.readSites s d calls)).filter (fun site => chosen site.target) =
      CallSite.inOrder (p.readSites s d (calls.filter fun call => chosen call.target)) := by
  have fewer : d.Separate (flattenCalls (calls.filter fun call => chosen call.target)) := by
    rw [flattenCalls_filter]
    exact separate.filter _
  rw [p.inOrder_readSites s separate, p.inOrder_readSites s fewer, flattenCalls_filter,
    ← Document.filter_byRank separate.eq_of_rank_eq, List.filter_map]
  rfl

end Provider

end CallDiagram
