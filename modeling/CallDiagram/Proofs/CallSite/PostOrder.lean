import CallDiagram.CallSite.Order
import CallDiagram.Proofs.CallSite.Nesting
import CallDiagram.Proofs.CallSite.Positions
import CallDiagram.Proofs.Sorting
import Mathlib.Data.List.Pairwise

/-! # The post-order of nested calls

Whole calls that lie in each other's arguments or apart form a forest. The order of execution is its
post-order: the calls in the arguments of a call, then the call itself, and trees from left to
right. Here the positions need not belong to a text, and calls at one place may be listed more than
once.
-/

namespace CallDiagram

instance (r other : Range) : Decidable (r.Apart other) :=
  inferInstanceAs (Decidable (_ ∨ _))

namespace CallSite

/-- From the start of the name to the end of the arguments, or of the name if there are none. -/
def extent (site : CallSite) : Range :=
  ⟨site.range.start, (site.reading.argumentRange.getD site.range).stop⟩

/-- The name and the arguments of a call are not empty, and the arguments do not start before the
name ends. -/
structure IsOrdered (site : CallSite) : Prop where
  name : site.range.start < site.range.stop
  arguments : ∀ range ∈ site.reading.argumentRange,
    site.range.stop ≤ range.start ∧ range.start < range.stop

instance (site : CallSite) : Decidable site.IsOrdered :=
  decidable_of_iff (site.range.start < site.range.stop ∧ ∀ range ∈ site.reading.argumentRange,
      site.range.stop ≤ range.start ∧ range.start < range.stop)
    ⟨fun both => ⟨both.1, both.2⟩, fun ordered => ⟨ordered.name, ordered.arguments⟩⟩

/-- A whole call lies in the arguments of another one. -/
def Encloses (outer inner : CallSite) : Prop :=
  ∃ range ∈ outer.reading.argumentRange, range.contains inner.extent = true

/-- Two sites have the same name range and the same arguments; their targets may differ. -/
def SamePlace (a b : CallSite) : Prop :=
  a.range = b.range ∧ a.reading.argumentRange = b.reading.argumentRange

instance (a b : CallSite) : Decidable (a.SamePlace b) :=
  inferInstanceAs (Decidable (_ ∧ _))

instance (outer inner : CallSite) : Decidable (outer.Encloses inner) :=
  inferInstanceAs (Decidable (∃ range ∈ _, _))

/-- Two sites are at one place, or the calls stand apart, or one lies in the arguments of the
other. -/
def Laminar (a b : CallSite) : Prop :=
  a.SamePlace b ∨ a.extent.Apart b.extent ∨ a.Encloses b ∨ b.Encloses a

instance (a b : CallSite) : Decidable (a.Laminar b) :=
  inferInstanceAs (Decidable (_ ∨ _))

structure WellNested (sites : List CallSite) : Prop where
  ordered : ∀ site ∈ sites, site.IsOrdered
  laminar : sites.Pairwise Laminar

/-- A list of call sites is the post-order of a forest. Last come the calls at the root of the last
tree, before them the calls in their arguments, and before these the trees on the left. -/
inductive PostOrder : List CallSite → Prop
  | nil : PostOrder []
  | trees {left inside copies : List CallSite} {root : CallSite} :
      PostOrder left → PostOrder inside →
      (∀ site ∈ left, site.extent.stop ≤ root.extent.start) →
      (∀ site ∈ inside, root.Encloses site) →
      (∀ site ∈ copies, root.SamePlace site) →
      PostOrder (left ++ inside ++ root :: copies)

/-- One call is carried out before another one: it ends before the other one starts, or it lies in
the arguments of that one. -/
def Before (a b : CallSite) : Prop :=
  a.extent.stop ≤ b.extent.start ∨ b.Encloses a

/-- In an order of execution the first of two sites is at the place of the second one or is carried
out before it. -/
def NotAfter (a b : CallSite) : Prop :=
  a.SamePlace b ∨ a.Before b

variable {a b c : CallSite} {sites others : List CallSite}

theorem SamePlace.symm (same : a.SamePlace b) : b.SamePlace a :=
  ⟨same.1.symm, same.2.symm⟩

theorem SamePlace.trans (first : a.SamePlace b) (second : b.SamePlace c) : a.SamePlace c :=
  ⟨first.1.trans second.1, first.2.trans second.2⟩

theorem SamePlace.extent_eq (same : a.SamePlace b) : a.extent = b.extent := by
  rw [extent, extent, same.1, same.2]

theorem SamePlace.encloses_iff (same : a.SamePlace b) : a.Encloses c ↔ b.Encloses c := by
  rw [Encloses, Encloses, same.2]

theorem IsOrdered.extent_lt (ordered : a.IsOrdered) : a.extent.start < a.extent.stop := by
  unfold extent
  cases known : a.reading.argumentRange with
  | none => exact ordered.name
  | some range =>
      obtain ⟨behind, nonempty⟩ := ordered.arguments range known
      exact ordered.name.trans (behind.trans_lt nonempty)

theorem IsOrdered.stop_le (ordered : a.IsOrdered) : a.range.stop ≤ a.extent.stop := by
  unfold extent
  cases known : a.reading.argumentRange with
  | none => exact le_rfl
  | some range =>
      obtain ⟨behind, nonempty⟩ := ordered.arguments range known
      exact behind.trans nonempty.le

theorem extent_stop_of_mem {range : Range} (known : range ∈ a.reading.argumentRange) :
    a.extent.stop = range.stop := by
  rw [extent, Option.mem_def.mp known]
  rfl

/-- What lies in the arguments of a call starts behind it and does not end behind it. -/
theorem Encloses.bounds (encloses : a.Encloses b) (ordered : a.IsOrdered) :
    a.extent.start < b.extent.start ∧ b.extent.stop ≤ a.extent.stop := by
  obtain ⟨range, known, inside⟩ := encloses
  obtain ⟨behind, -⟩ := ordered.arguments range known
  rw [Range.contains, Bool.and_eq_true, Position.le_eq_true_iff, Position.le_eq_true_iff] at inside
  exact ⟨ordered.name.trans_le (behind.trans inside.1), extent_stop_of_mem known ▸ inside.2⟩

theorem laminar_iff : Laminar a b ↔ a.SamePlace b ∨ a.Before b ∨ b.Before a := by
  simp only [Laminar, Range.Apart, Before, Position.le_eq_true_iff]
  tauto

theorem Laminar.symm (laminar : a.Laminar b) : b.Laminar a := by
  rw [laminar_iff] at laminar ⊢
  rcases laminar with same | before | behind
  · exact .inl same.symm
  · exact .inr (.inr before)
  · exact .inr (.inl behind)

/-! ## Ranks -/

/-- Calls with a smaller rank are carried out earlier: those that end earlier, and of those that end
together the one that starts later. -/
def rank (site : CallSite) : Position ×ₗ Positionᵒᵈ :=
  toLex (site.extent.stop, OrderDual.toDual site.extent.start)

theorem SamePlace.rank_eq (same : a.SamePlace b) : a.rank = b.rank := by
  rw [rank, rank, same.extent_eq]

theorem Before.rank_lt (before : a.Before b) (orderedB : b.IsOrdered) : a.rank < b.rank := by
  rw [rank, rank, Prod.Lex.toLex_lt_toLex]
  rcases before with clear | encloses
  · exact .inl (clear.trans_lt orderedB.extent_lt)
  · obtain ⟨behind, upTo⟩ := encloses.bounds orderedB
    rcases upTo.lt_or_eq with earlier | together
    · exact .inl earlier
    · exact .inr ⟨together, OrderDual.toDual_lt_toDual.mpr behind⟩

theorem NotAfter.rank_le (order : a.NotAfter b) (orderedB : b.IsOrdered) : a.rank ≤ b.rank := by
  rcases order with same | before
  · exact same.rank_eq.le
  · exact (before.rank_lt orderedB).le

/-! ## The comparison of call sites -/

theorem isNestedIn_iff : a.isNestedIn b = true ↔
    ∃ range ∈ b.reading.argumentRange, range.start ≤ a.range.start ∧ a.range.stop ≤ range.stop := by
  unfold isNestedIn
  cases b.reading.argumentRange with
  | none => simp
  | some range => simp [Range.contains, Position.le_eq_true_iff]

theorem Encloses.isNestedIn (encloses : b.Encloses a) (ordered : a.IsOrdered) :
    a.isNestedIn b = true := by
  obtain ⟨range, known, inside⟩ := encloses
  rw [Range.contains, Bool.and_eq_true, Position.le_eq_true_iff, Position.le_eq_true_iff] at inside
  exact isNestedIn_iff.mpr ⟨range, known, inside.1, ordered.stop_le.trans inside.2⟩

/-- No call lies in the arguments of one that is carried out earlier or that is at its place. -/
theorem not_isNestedIn (orderedA : a.IsOrdered) (orderedB : b.IsOrdered)
    (order : a.NotAfter b) : b.isNestedIn a = false := by
  rw [Bool.eq_false_iff]
  intro nested
  obtain ⟨range, known, from_, upTo⟩ := isNestedIn_iff.mp nested
  have later : a.range.start < b.range.start :=
    orderedA.name.trans_le ((orderedA.arguments range known).1.trans from_)
  rcases order with same | clear | encloses
  · exact later.ne (congrArg Range.start same.1)
  · rw [extent_stop_of_mem known] at clear
    exact (upTo.trans clear).not_gt orderedB.name
  · exact later.not_gt (encloses.bounds orderedB).1

theorem Before.start_lt (before : a.Before b) (orderedA : a.IsOrdered)
    (outside : a.isNestedIn b = false) : a.range.start < b.range.start := by
  rcases before with clear | encloses
  · exact orderedA.extent_lt.trans_le clear
  · rw [encloses.isNestedIn orderedA] at outside
    cases outside

theorem Before.precedes (before : a.Before b) (orderedA : a.IsOrdered) (orderedB : b.IsOrdered) :
    a.precedes b = true := by
  have outside := not_isNestedIn orderedA orderedB (.inr before)
  cases nested : a.isNestedIn b with
  | true => simp [CallSite.precedes, nested]
  | false =>
      have starts := Position.lt_eq_true_iff.mpr (before.start_lt orderedA nested)
      simp [CallSite.precedes, outside, starts]

theorem not_precedes (orderedA : a.IsOrdered) (orderedB : b.IsOrdered)
    (order : a.NotAfter b) : b.precedes a = false := by
  have outside := not_isNestedIn orderedA orderedB order
  cases nested : a.isNestedIn b with
  | true => simp [CallSite.precedes, nested, outside]
  | false =>
      have starts : b.range.start.lt a.range.start = false := by
        rw [Bool.eq_false_iff, ne_eq, Position.lt_eq_true_iff]
        rcases order with same | before
        · rw [same.1]
          exact lt_irrefl _
        · exact (before.start_lt orderedA nested).not_gt
      simp [CallSite.precedes, outside, starts]

/-- The comparison of call sites is the order of their ranks. -/
theorem not_precedes_eq (orderedA : a.IsOrdered) (orderedB : b.IsOrdered) (laminar : a.Laminar b) :
    (!b.precedes a) = decide (a.rank ≤ b.rank) := by
  rcases laminar_iff.mp laminar with same | before | behind
  · rw [not_precedes orderedA orderedB (.inl same), same.rank_eq]
    simp
  · rw [not_precedes orderedA orderedB (.inr before), decide_eq_true (before.rank_lt orderedB).le]
    rfl
  · rw [behind.precedes orderedB orderedA, decide_eq_false (behind.rank_lt orderedA).not_ge]
    rfl

theorem WellNested.laminar_of_mem (nested : WellNested sites) (memberA : a ∈ sites)
    (memberB : b ∈ sites) : a.Laminar b := by
  have : Std.Symm Laminar := ⟨fun _ _ => Laminar.symm⟩
  exact nested.laminar.forall_of_forall (fun _ _ => .inl ⟨rfl, rfl⟩) memberA memberB

theorem WellNested.inOrder_eq (nested : WellNested sites) :
    inOrder sites = sortedBy rank sites := by
  have sorted : (inOrder sites).map id =
      (sites.map id).mergeSort fun a b => decide (a.rank ≤ b.rank) :=
    List.map_mergeSort fun a memberA b memberB =>
      not_precedes_eq (nested.ordered a memberA) (nested.ordered b memberB)
        (nested.laminar_of_mem memberA memberB)
  rwa [List.map_id, List.map_id] at sorted

theorem WellNested.of_perm (nested : WellNested sites) (perm : others.Perm sites) :
    WellNested others where
  ordered site member := nested.ordered site (perm.mem_iff.mp member)
  laminar := perm.symm.pairwise nested.laminar Laminar.symm

theorem WellNested.pairwise_inOrder (nested : WellNested sites) :
    (inOrder sites).Pairwise NotAfter := by
  have perm : (inOrder sites).Perm sites := List.mergeSort_perm _ _
  have ranks := pairwise_sortedBy rank sites
  rw [← nested.inOrder_eq] at ranks
  refine ranks.imp_of_mem fun {a b} memberA memberB less => ?_
  have memberA := perm.mem_iff.mp memberA
  rcases laminar_iff.mp (nested.laminar_of_mem memberA (perm.mem_iff.mp memberB)) with
    same | before | behind
  · exact .inl same
  · exact .inr before
  · exact absurd (behind.rank_lt (nested.ordered a memberA)) less.not_gt

theorem WellNested.eq_of_rank_eq (nested : WellNested sites)
    (distinct : sites.Pairwise fun a b => a.SamePlace b → a = b) :
    ∀ a ∈ sites, ∀ b ∈ sites, a.rank = b.rank → a = b := by
  intro a memberA b memberB equal
  have : Std.Symm fun a b : CallSite => a.SamePlace b → a = b :=
    ⟨fun _ _ known same => (known same.symm).symm⟩
  rcases laminar_iff.mp (nested.laminar_of_mem memberA memberB) with same | before | behind
  · exact distinct.forall_of_forall (fun _ _ _ => rfl) memberA memberB same
  · exact absurd equal (before.rank_lt (nested.ordered b memberB)).ne
  · exact absurd equal (behind.rank_lt (nested.ordered a memberA)).ne'

/-! ## The forest of calls -/

theorem stop_le_of_rank_le (less : a.rank ≤ b.rank) : a.extent.stop ≤ b.extent.stop := by
  rw [rank, rank, Prod.Lex.toLex_le_toLex] at less
  rcases less with earlier | ⟨together, -⟩
  · exact earlier.le
  · exact together.le

/-- In the order of ranks the calls that end up to a position come first. -/
theorem filter_stop_append (ranks : sites.Pairwise fun a b => a.rank ≤ b.rank) (p : Position) :
    (sites.filter fun site => site.extent.stop ≤ p) ++
      (sites.filter fun site => !decide (site.extent.stop ≤ p)) = sites := by
  refine filter_append_filter (ranks.imp fun less ends => ?_)
  exact decide_eq_true ((stop_le_of_rank_le less).trans (of_decide_eq_true ends))

/-- In the order of ranks the calls in the arguments of a call come before those at its place. -/
theorem filter_encloses_append {root : CallSite} (ordered : root.IsOrdered)
    (ranks : sites.Pairwise fun a b => a.rank ≤ b.rank)
    (within : ∀ site ∈ sites, site.SamePlace root ∨ root.Encloses site) :
    (sites.filter fun site => root.Encloses site) ++
      (sites.filter fun site => !decide (root.Encloses site)) = sites := by
  refine filter_append_filter (ranks.imp_of_mem fun memberA memberB less inside => ?_)
  refine decide_eq_true ((within _ memberA).resolve_left fun same => ?_)
  have earlier := Before.rank_lt (.inr (of_decide_eq_true inside)) ordered
  exact (same.rank_eq ▸ less).not_gt earlier

/-- A list in the order of execution ends with a call and its copies; before them stand the calls in
its arguments, and before these the calls that end before it starts. -/
theorem exists_cut {init : List CallSite} {last : CallSite}
    (ordered : ∀ site ∈ init ++ [last], site.IsOrdered)
    (pairs : (init ++ [last]).Pairwise NotAfter) :
    ∃ left inside root copies, init ++ [last] = left ++ inside ++ root :: copies ∧
      (∀ site ∈ left, site.extent.stop ≤ root.extent.start) ∧
      (∀ site ∈ inside, root.Encloses site) ∧ ∀ site ∈ copies, root.SamePlace site := by
  have member : last ∈ init ++ [last] := by simp
  have orderedLast : last.IsOrdered := ordered last member
  have toLast : ∀ site ∈ init ++ [last], site.NotAfter last := by
    intro site member
    rcases List.mem_append.mp member with earlier | same
    · exact (List.pairwise_append.mp pairs).2.2 site earlier last (List.mem_singleton.mpr rfl)
    · rw [List.mem_singleton.mp same]
      exact .inl ⟨rfl, rfl⟩
  have ranks : (init ++ [last]).Pairwise fun a b => a.rank ≤ b.rank :=
    pairs.imp_of_mem fun _ memberB order => order.rank_le (ordered _ memberB)
  generalize init ++ [last] = sites at *
  let rest := sites.filter fun site => !decide (site.extent.stop ≤ last.extent.start)
  let roots := rest.filter fun site => !decide (last.Encloses site)
  have within : ∀ site ∈ rest, site.SamePlace last ∨ last.Encloses site := by
    intro site member
    obtain ⟨known, late⟩ := List.mem_filter.mp member
    rcases toLast site known with same | ends | inside
    · exact .inl same
    · simp [ends] at late
    · exact .inr inside
  have same : ∀ site ∈ roots, site.SamePlace last := by
    intro site member
    obtain ⟨known, outside⟩ := List.mem_filter.mp member
    exact (within site known).resolve_right fun inside => by simp [inside] at outside
  have isRoot : last ∈ roots := by
    have outside : ¬ last.Encloses last := fun inside => lt_irrefl _ (inside.bounds orderedLast).1
    exact List.mem_filter.mpr ⟨List.mem_filter.mpr ⟨member, by simpa using orderedLast.extent_lt⟩,
      by simpa using outside⟩
  obtain ⟨root, copies, split⟩ := List.exists_cons_of_ne_nil (List.ne_nil_of_mem isRoot)
  have sameRoot : root.SamePlace last := same root (by simp [split])
  -- The root need not be the last site itself, but what is said of places holds of both.
  refine ⟨sites.filter fun site => site.extent.stop ≤ last.extent.start,
    rest.filter fun site => last.Encloses site, root, copies, ?_, ?_, ?_, ?_⟩
  · rw [List.append_assoc, ← split, filter_encloses_append orderedLast (ranks.filter _) within,
      filter_stop_append ranks]
  · intro site member
    rw [sameRoot.extent_eq]
    exact of_decide_eq_true (List.mem_filter.mp member).2
  · intro site member
    exact sameRoot.encloses_iff.mpr (of_decide_eq_true (List.mem_filter.mp member).2)
  · intro site member
    exact sameRoot.trans (same site (by simp [split, member])).symm

/-- Sites in an order of execution are the post-order of a forest. -/
theorem PostOrder.of_pairwise (ordered : ∀ site ∈ sites, site.IsOrdered)
    (pairs : sites.Pairwise NotAfter) : PostOrder sites := by
  -- The trees on the left and the arguments of the last root are shorter lists, cut in turn.
  induction size : sites.length using Nat.strong_induction_on generalizing sites with
  | _ size' ih =>
      rcases List.eq_nil_or_concat sites with rfl | ⟨init, last, rfl⟩
      · exact .nil
      rw [List.concat_eq_append] at *
      obtain ⟨left, inside, root, copies, cut, clear, enclosed, same⟩ := exists_cut ordered pairs
      rw [cut] at ordered pairs size ⊢
      have shorter : ∀ part : List CallSite, part.Sublist (left ++ inside) → PostOrder part := by
        intro part sublist
        have whole := sublist.trans (List.sublist_append_left (left ++ inside) (root :: copies))
        refine ih part.length ?_ (fun site member => ordered site (whole.subset member))
          (pairs.sublist whole) rfl
        have bound := sublist.length_le
        rw [← size, List.length_append, List.length_cons]
        omega
      exact .trees (shorter left (List.sublist_append_left _ _))
        (shorter inside (List.sublist_append_right _ _)) clear enclosed same

/-! ## The order of execution -/

theorem NotAfter.not_contains (order : a.NotAfter b) (orderedA : a.IsOrdered)
    (orderedB : b.IsOrdered) :
    ∀ range ∈ a.reading.argumentRange, range.contains b.range = false := by
  intro range known
  have outside := not_isNestedIn orderedA orderedB order
  rwa [CallSite.isNestedIn, Option.mem_def.mp known] at outside

theorem NotAfter.stop_le_start (order : a.NotAfter b) (orderedA : a.IsOrdered)
    (orderedB : b.IsOrdered) (apart : a.extent.Apart b.extent) :
    a.extent.stop ≤ b.extent.start := by
  rw [Range.Apart, Position.le_eq_true_iff, Position.le_eq_true_iff] at apart
  refine apart.resolve_right fun behind => ?_
  have later : b.rank < a.rank := Before.rank_lt (.inl behind) orderedA
  exact later.not_ge (order.rank_le orderedB)

/-- Well nested call sites are put into the post-order of their forest, however they are listed, and
those at one place keep their order. -/
theorem inOrder_postOrder (nested : WellNested sites) :
    (inOrder sites).Perm sites ∧
      PostOrder (inOrder sites) ∧
      (inOrder sites).Pairwise (fun a b =>
        (∀ range ∈ a.reading.argumentRange, range.contains b.range = false) ∧
          (a.extent.Apart b.extent → a.extent.stop ≤ b.extent.start)) ∧
      (∀ site : CallSite, ((inOrder sites).filter fun other => site.SamePlace other) =
        sites.filter fun other => site.SamePlace other) ∧
      ((sites.Pairwise fun a b => a.SamePlace b → a = b) →
        ∀ others : List CallSite, others.Perm sites → inOrder others = inOrder sites) := by
  have perm : (inOrder sites).Perm sites := List.mergeSort_perm _ _
  have ordered : ∀ site ∈ inOrder sites, site.IsOrdered := fun site member =>
    nested.ordered site (perm.mem_iff.mp member)
  refine ⟨perm, .of_pairwise ordered nested.pairwise_inOrder, ?_, fun site => ?_, ?_⟩
  · refine nested.pairwise_inOrder.imp_of_mem fun memberA memberB order => ?_
    exact ⟨order.not_contains (ordered _ memberA) (ordered _ memberB),
      order.stop_le_start (ordered _ memberA) (ordered _ memberB)⟩
  · rw [nested.inOrder_eq]
    refine filter_sortedBy rank sites fun a b placeA placeB => ?_
    exact ((of_decide_eq_true placeA).symm.trans (of_decide_eq_true placeB)).rank_eq
  · intro distinct others shuffled
    rw [nested.inOrder_eq, (nested.of_perm shuffled).inOrder_eq]
    exact sortedBy_eq_of_perm rank shuffled (nested.eq_of_rank_eq distinct)

/-- A call on the first line of a file, with its arguments directly behind its name. -/
def onFirstLine (target : String) (start opened finish : Int) : CallSite where
  target := ⟨target, .function, "/w/a.py", default, default, ""⟩
  range := ⟨⟨0, start⟩, ⟨0, opened⟩⟩
  reading := { isCall := true, argumentRange := some ⟨⟨0, opened⟩, ⟨0, finish⟩⟩ }

/-- The calls of `f(g(1), g(2)) + h()`, the first of `g` once more for another target. -/
theorem nestedCalls_postOrder :
    let f := onFirstLine "f" 0 1 13
    let g := onFirstLine "g" 2 3 6
    let twin := onFirstLine "g of another class" 2 3 6
    let g' := onFirstLine "g" 8 9 12
    let h := onFirstLine "h" 16 17 19
    WellNested [h, f, twin, g', g] ∧ PostOrder (inOrder [h, f, twin, g', g]) ∧
      ((inOrder [h, f, twin, g', g]).filter fun other => g.SamePlace other) = [twin, g] ∧
      WellNested [f, g, g', h] ∧ inOrder [h, g', g, f] = inOrder [f, g, g', h] := by
  intro f g twin g' h
  have doubled : WellNested [h, f, twin, g', g] := ⟨by decide, by decide⟩
  have single : WellNested [f, g, g', h] := ⟨by decide, by decide⟩
  obtain ⟨-, postOrder, -, kept, -⟩ := inOrder_postOrder doubled
  obtain ⟨-, -, -, -, shuffled⟩ := inOrder_postOrder single
  refine ⟨doubled, postOrder, (kept g).trans (by decide), single, ?_⟩
  exact shuffled (by decide) _ (by decide)

end CallSite

end CallDiagram
