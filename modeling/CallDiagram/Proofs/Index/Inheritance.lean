import CallDiagram.Proofs.Index.Built
import Mathlib.Logic.Relation

/-! # Methods of base classes

A method is looked for in a class and then, base by base, in the classes that it derives from, and
no class is looked at twice. The lines of bases that lead from a class to another are ordered like
words: a depth-first search meets every class at the end of the least line that leads to it without
a repetition. Main statement: `method?_eq_first`.
-/

namespace CallDiagram.Index.ProjectGraph

open Source

/-- The class that a written base stands for among the names of the class's own module. -/
def baseAt? (g : ProjectGraph) (c : ClassInfo) (i : Nat) : Option ClassInfo := do
  let m ← g.modules.get? c.item.uri
  let name ← c.bases[i]?
  g.classByName? m name true

def Derives (g : ProjectGraph) (c base : ClassInfo) : Prop :=
  ∃ i, g.baseAt? c i = some base

/-- The bases at the places `line`, one behind the other, lead from `c` over the classes `above`
to the class `d`. -/
inductive Climbs (g : ProjectGraph) (c : ClassInfo) : List Nat → List ClassInfo → ClassInfo → Prop
  | here : Climbs g c [] [] c
  | base {line : List Nat} {above : List ClassInfo} {d e : ClassInfo} (i : Nat) :
      Climbs g c line above d → g.baseAt? d i = some e → Climbs g c (line ++ [i]) (above ++ [d]) e

/-- The line leads from `c`, without meeting a class twice, to a class with the method. -/
def Leads (g : ProjectGraph) (c : ClassInfo) (name : String) (line : List Nat) (item : Item) :
    Prop :=
  ∃ above d, g.Climbs c line above d ∧ (above ++ [d]).Nodup ∧ d.methods.get? name = some item

/-- Of all lines that lead to a method of the name this one is the first. -/
def LeadsFirst (g : ProjectGraph) (c : ClassInfo) (name : String) (line : List Nat)
    (item : Item) : Prop :=
  g.Leads c name line item ∧ ∀ line' item', g.Leads c name line' item' → ¬line' < line

/-- The method at the end of the first line, or nothing where no line leads to one. -/
def IsAnswer (g : ProjectGraph) (c : ClassInfo) (name : String) : Option Item → Prop
  | some item => ∃ line, g.LeadsFirst c name line item
  | none => ∀ line item, ¬g.Leads c name line item

variable {g : ProjectGraph} {c d e : ClassInfo} {line line' : List Nat}
  {above above' : List ClassInfo} {name : String} {item : Item}

/-! ## Lines -/

namespace Climbs

theorem of_nil (climbs : g.Climbs c [] above d) : above = [] ∧ d = c := by
  generalize same : ([] : List Nat) = line at climbs
  cases climbs with
  | here => exact ⟨rfl, rfl⟩
  | base => simp at same

theorem of_concat {i : Nat} (climbs : g.Climbs c (line ++ [i]) above e) :
    ∃ above' d, above = above' ++ [d] ∧ g.Climbs c line above' d ∧ g.baseAt? d i = some e := by
  generalize same : line ++ [i] = whole at climbs
  cases climbs with
  | here => simp at same
  | @base line' above' d _ i' climbs base =>
      obtain ⟨rfl, last⟩ := List.append_inj' same rfl
      cases last
      exact ⟨above', d, rfl, climbs, base⟩

theorem length (climbs : g.Climbs c line above d) : above.length = line.length := by
  induction climbs with
  | here => rfl
  | base i _ _ ih => simp [ih]

/-- A line determines the classes that it leads over. -/
theorem unique (climbs : g.Climbs c line above d) (climbs' : g.Climbs c line above' e) :
    above = above' ∧ d = e := by
  induction climbs generalizing above' e with
  | here =>
      obtain ⟨rfl, rfl⟩ := climbs'.of_nil
      exact ⟨rfl, rfl⟩
  | base i _ base ih =>
      obtain ⟨between, f, rfl, first, base'⟩ := climbs'.of_concat
      obtain ⟨rfl, rfl⟩ := ih first
      cases base.symm.trans base'
      exact ⟨rfl, rfl⟩

/-- The first part of a line leads over the first of its classes. -/
theorem split {behind : List Nat} (climbs : g.Climbs c (line ++ behind) above d) :
    ∃ above' e, g.Climbs c line above' e ∧ above' <+: above := by
  induction behind using List.reverseRecOn generalizing above d with
  | nil => exact ⟨above, d, by simpa using climbs, List.prefix_rfl⟩
  | append_singleton behind i ih =>
      rw [← List.append_assoc] at climbs
      obtain ⟨between, f, rfl, first, -⟩ := climbs.of_concat
      obtain ⟨above', e, climbs', within⟩ := ih first
      exact ⟨above', e, climbs', within.trans (List.prefix_append ..)⟩

theorem above_prefix (climbs : g.Climbs c line above d) (climbs' : g.Climbs c line' above' e)
    (within : line <+: line') : above <+: above' := by
  obtain ⟨behind, rfl⟩ := within
  obtain ⟨between, f, first, within⟩ := climbs'.split
  rwa [(climbs.unique first).1]

end Climbs

/-! ## The search -/

/-- A class that waits to be looked at, and the line that leads to it. -/
structure Waiting where
  line : List Nat
  above : List ClassInfo
  target : ClassInfo

def Seen (g : ProjectGraph) (unseen : List String) (c : ClassInfo) : Prop :=
  g.ListsClass c ∧ c.item.identity ∉ unseen

/-- How far the search for a method has come: the classes that were seen lack it, the bases of
each were seen or wait, and the first part of every line that leads to the method waits. What
waits is sorted, and its lines branch off from the line of the first one. -/
structure Searched (g : ProjectGraph) (c : ClassInfo) (name : String) (unseen : List String)
    (waiting : List Waiting) : Prop where
  distinct : unseen.Nodup
  climbs : ∀ w ∈ waiting, g.Climbs c w.line w.above w.target
  listed : ∀ w ∈ waiting, g.ListsClass w.target
  above : ∀ w ∈ waiting, w.above.Nodup ∧ ∀ a ∈ w.above, g.Seen unseen a
  order : waiting.Pairwise fun w w' => w'.above <+: w.above ∧ w.line < w'.line
  lacking : ∀ a, g.Seen unseen a → a.methods.get? name = none
  bases : ∀ a, g.Seen unseen a → ∀ i b, g.baseAt? a i = some b →
    g.Seen unseen b ∨ ∃ w ∈ waiting, w.target = b ∧ a ∈ w.above
  covers : ∀ line item, g.Leads c name line item → ∃ w ∈ waiting, w.line <+: line

namespace Searched

variable {unseen : List String} {w : Waiting} {waiting : List Waiting}

theorem start (listed : g.ListsClass c) :
    g.Searched c name (c.item.identity :: g.classIdentities).eraseDups [⟨[], [], c⟩] := by
  have unseen (a : ClassInfo) :
      ¬g.Seen (c.item.identity :: g.classIdentities).eraseDups a := by
    rintro ⟨known, seen⟩
    exact seen (List.mem_eraseDups.mpr (List.mem_cons_of_mem _ (mem_classIdentities known)))
  constructor
  · exact Registry.nodup_eraseDups _
  · exact List.forall_mem_singleton.mpr .here
  · exact List.forall_mem_singleton.mpr listed
  · exact List.forall_mem_singleton.mpr ⟨.nil, List.forall_mem_nil _⟩
  · exact List.pairwise_singleton ..
  · exact fun a seen => (unseen a seen).elim
  · exact fun a seen => (unseen a seen).elim
  · exact fun line _ _ => ⟨_, List.mem_singleton_self _, List.nil_prefix⟩

theorem finished (searched : g.Searched c name unseen []) : ¬g.Leads c name line item := by
  intro leads
  obtain ⟨w, none, -⟩ := searched.covers line item leads
  cases none

/-- Behind a class that was seen before, everything on a line without repetitions was seen. -/
theorem seen_behind (searched : g.Searched c name unseen (w :: waiting))
    (seen : g.Seen unseen w.target) (climbs : g.Climbs c line above d) (within : w.line <+: line)
    (simple : (above ++ [d]).Nodup) : g.Seen unseen d := by
  have first := searched.climbs w List.mem_cons_self
  induction climbs with
  | here =>
      rw [List.prefix_nil.mp within] at first
      rwa [← first.of_nil.2]
  | @base line between d e i climbs base ih =>
      rcases List.prefix_concat_iff.mp within with same | within
      · rw [same] at first
        rwa [← (first.unique (climbs.base i base)).2]
      · have met := ih within (List.nodup_append.mp simple).1
        rcases searched.bases d met i e base with known | ⟨w', waits, rfl, climbed'⟩
        · exact known
        · rcases List.mem_cons.mp waits with rfl | later
          · exact seen
          · have branch := ((List.pairwise_cons.mp searched.order).1 w' later).1
            have repeated := (first.above_prefix climbs within).mem (branch.mem climbed')
            have apart := List.disjoint_of_nodup_append (List.nodup_append.mp simple).1
            exact (apart repeated (List.mem_singleton_self d)).elim

theorem drop (searched : g.Searched c name unseen (w :: waiting))
    (seen : g.Seen unseen w.target) : g.Searched c name unseen waiting where
  distinct := searched.distinct
  climbs _ waits := searched.climbs _ (.tail _ waits)
  listed _ waits := searched.listed _ (.tail _ waits)
  above _ waits := searched.above _ (.tail _ waits)
  order := (List.pairwise_cons.mp searched.order).2
  lacking := searched.lacking
  bases a met i b base := by
    rcases searched.bases a met i b base with known | ⟨w', waits, rfl, climbed⟩
    · exact .inl known
    · rcases List.mem_cons.mp waits with rfl | later
      · exact .inl seen
      · exact .inr ⟨w', later, rfl, climbed⟩
  covers line item leads := by
    obtain ⟨w', waits, within⟩ := searched.covers line item leads
    rcases List.mem_cons.mp waits with rfl | later
    · obtain ⟨above, d, climbs, simple, method⟩ := leads
      have lacks := searched.lacking d (searched.seen_behind seen climbs within simple)
      rw [lacks] at method
      cases method
    · exact ⟨w', later, within⟩

end Searched

/-- The bases of a class, each behind the line to the class. -/
def waitingBases (g : ProjectGraph) (w : Waiting) : List Waiting :=
  (List.range w.target.bases.length).filterMap fun i =>
    (g.baseAt? w.target i).map fun b => ⟨w.line ++ [i], w.above ++ [w.target], b⟩

theorem mem_waitingBases {w w' : Waiting} : w' ∈ g.waitingBases w ↔
    ∃ i b, g.baseAt? w.target i = some b ∧ ⟨w.line ++ [i], w.above ++ [w.target], b⟩ = w' := by
  simp only [waitingBases, List.mem_filterMap, List.mem_range, Option.map_eq_some_iff]
  constructor
  · rintro ⟨i, -, b, base, same⟩
    exact ⟨i, b, base, same⟩
  · rintro ⟨i, b, base, same⟩
    obtain ⟨m, -, named⟩ := Option.bind_eq_some_iff.mp base
    obtain ⟨title, written, -⟩ := Option.bind_eq_some_iff.mp named
    exact ⟨i, (List.getElem?_eq_some_iff.mp written).1, b, base, same⟩

theorem filterMap_range {α β : Type} (f : α → Option β) (xs : List α) :
    (List.range xs.length).filterMap (fun i => xs[i]? >>= f) = xs.filterMap f := by
  induction xs with
  | nil => rfl
  | cons x xs ih =>
      rw [List.length_cons, List.range_succ_eq_map, List.filterMap_cons, List.filterMap_map,
        List.filterMap_cons, ← ih]
      rfl

theorem map_waitingBases (w : Waiting) :
    (g.waitingBases w).map (·.target) = g.basesOf w.target := by
  have targets : (g.waitingBases w).map (·.target) =
      (List.range w.target.bases.length).filterMap (g.baseAt? w.target) := by
    simp [waitingBases, List.map_filterMap, Function.comp_def]
  rw [targets, basesOf]
  cases home : g.modules.get? w.target.item.uri with
  | none => simp [baseAt?, home]
  | some m =>
      have places : g.baseAt? w.target =
          fun i => w.target.bases[i]? >>= (g.classByName? m · true) := by
        funext i
        rw [baseAt?, home]
        rfl
      rw [places, filterMap_range]

theorem pairwise_waitingBases (w : Waiting) : (g.waitingBases w).Pairwise fun w' w'' =>
    w''.above <+: w'.above ∧ w'.line < w''.line := by
  refine List.pairwise_lt_range.filterMap _ fun i j less w' found w'' found' => ?_
  obtain ⟨b, -, rfl⟩ := Option.map_eq_some_iff.mp found
  obtain ⟨b', -, rfl⟩ := Option.map_eq_some_iff.mp found'
  exact ⟨List.prefix_rfl, Node.append_lt_append w.line less [] []⟩

/-- A line to the method goes on through a base where the class itself lacks the method. -/
theorem exists_waitingBases {w : Waiting} (climbs : g.Climbs c w.line w.above w.target)
    (lacks : w.target.methods.get? name = none) (leads : g.Leads c name line item)
    (within : w.line <+: line) : ∃ w' ∈ g.waitingBases w, w'.line <+: line := by
  obtain ⟨behind, rfl⟩ := within
  obtain ⟨above, d, climbs', -, method⟩ := leads
  cases behind with
  | nil =>
      rw [List.append_nil] at climbs'
      rw [← (climbs.unique climbs').2, lacks] at method
      cases method
  | cons i behind =>
      rw [List.append_cons] at climbs' ⊢
      obtain ⟨between, f, first, -⟩ := climbs'.split
      obtain ⟨above', e, -, climbs'', base⟩ := first.of_concat
      rw [← (climbs.unique climbs'').2] at base
      exact ⟨_, mem_waitingBases.mpr ⟨i, f, base, rfl⟩, List.prefix_append ..⟩

/-- A line that is not the start of a later one stays before it, however it goes on. -/
theorem append_lt_of_lt {line line' : List Nat} (less : line < line')
    (length : line'.length ≤ line.length) (behind : List Nat) : line ++ behind < line' := by
  induction line generalizing line' with
  | nil =>
      rw [List.length_eq_zero_iff.mp (Nat.le_zero.mp length)] at less
      exact (List.not_lt_nil _ less).elim
  | cons i line ih =>
      cases line' with
      | nil => exact (List.not_lt_nil _ less).elim
      | cons j line' =>
          rw [List.cons_append, List.cons_lt_cons_iff]
          rcases List.cons_lt_cons_iff.mp less with first | ⟨same, others⟩
          · exact .inl first
          · exact .inr ⟨same, ih others (Nat.le_of_succ_le_succ length)⟩

theorem Built.listsClass_of_baseAt? (built : g.Built) {i : Nat} (h : g.baseAt? c i = some d) :
    g.ListsClass d := by
  obtain ⟨m, home, h⟩ := Option.bind_eq_some_iff.mp h
  obtain ⟨title, -, named⟩ := Option.bind_eq_some_iff.mp h
  exact built.listsClass_of_classByName? home named

theorem Built.seen_erase_iff (built : g.Built) {unseen : List String} (distinct : unseen.Nodup)
    (listed : g.ListsClass d) :
    g.Seen (unseen.erase d.item.identity) c ↔ g.Seen unseen c ∨ c = d := by
  unfold Seen
  rw [distinct.mem_erase_iff]
  constructor
  · rintro ⟨known, seen⟩
    by_cases same : c.item.identity = d.item.identity
    · exact .inr (built.class_eq known listed same)
    · exact .inl ⟨known, fun isNew => seen ⟨same, isNew⟩⟩
  · rintro (⟨known, seen⟩ | rfl)
    · exact ⟨known, fun isNew => seen isNew.2⟩
    · exact ⟨listed, fun isNew => isNew.1 rfl⟩

namespace Searched

variable {unseen : List String} {w : Waiting} {waiting : List Waiting}

theorem simple (searched : g.Searched c name unseen (w :: waiting))
    (isNew : w.target.item.identity ∈ unseen) : (w.above ++ [w.target]).Nodup := by
  obtain ⟨distinct, seenAbove⟩ := searched.above w List.mem_cons_self
  have fresh : w.target ∉ w.above := fun climbed => (seenAbove _ climbed).2 isNew
  rw [← List.concat_eq_append]
  exact distinct.concat fresh

/-- A class without the method is left: its bases wait in its place. -/
theorem visit (searched : g.Searched c name unseen (w :: waiting)) (built : g.Built)
    (isNew : w.target.item.identity ∈ unseen) (lacks : w.target.methods.get? name = none) :
    g.Searched c name (unseen.erase w.target.item.identity) (g.waitingBases w ++ waiting) := by
  have listed := searched.listed w List.mem_cons_self
  have climbs := searched.climbs w List.mem_cons_self
  obtain ⟨-, seenAbove⟩ := searched.above w List.mem_cons_self
  obtain ⟨branches, order⟩ := List.pairwise_cons.mp searched.order
  have seen {a : ClassInfo} :=
    built.seen_erase_iff (c := a) searched.distinct listed
  constructor
  case distinct => exact searched.distinct.erase _
  case climbs =>
    intro w' waits
    rcases List.mem_append.mp waits with below | later
    · obtain ⟨i, b, base, rfl⟩ := mem_waitingBases.mp below
      exact climbs.base i base
    · exact searched.climbs w' (.tail _ later)
  case listed =>
    intro w' waits
    rcases List.mem_append.mp waits with below | later
    · obtain ⟨i, b, base, rfl⟩ := mem_waitingBases.mp below
      exact built.listsClass_of_baseAt? base
    · exact searched.listed w' (.tail _ later)
  case above =>
    intro w' waits
    rcases List.mem_append.mp waits with below | later
    · obtain ⟨i, b, base, rfl⟩ := mem_waitingBases.mp below
      refine ⟨searched.simple isNew, fun a climbed => seen.mpr ?_⟩
      exact (List.mem_append.mp climbed).imp (seenAbove a) List.mem_singleton.mp
    · obtain ⟨simple', seenAbove'⟩ := searched.above w' (.tail _ later)
      exact ⟨simple', fun a climbed => seen.mpr (.inl (seenAbove' a climbed))⟩
  case order =>
    -- The lines of the bases go on from that of the class, so they stay before the lines that have
    -- branched off from it.
    refine List.pairwise_append.mpr ⟨pairwise_waitingBases w, order, fun w' base w'' later => ?_⟩
    obtain ⟨i, b, -, rfl⟩ := mem_waitingBases.mp base
    obtain ⟨branch, less⟩ := branches w'' later
    have length : w''.line.length ≤ w.line.length := by
      rw [← climbs.length, ← (searched.climbs w'' (.tail _ later)).length]
      exact branch.length_le
    exact ⟨branch.trans (List.prefix_append ..), append_lt_of_lt less length [i]⟩
  case lacking =>
    intro a met
    rcases seen.mp met with before | rfl
    · exact searched.lacking a before
    · exact lacks
  case bases =>
    intro a met i b base
    rcases seen.mp met with before | rfl
    · rcases searched.bases a before i b base with known | ⟨w', waits, rfl, climbed⟩
      · exact .inl (seen.mpr (.inl known))
      · rcases List.mem_cons.mp waits with rfl | later
        · exact .inl (seen.mpr (.inr rfl))
        · exact .inr ⟨w', List.mem_append_right _ later, rfl, climbed⟩
    -- The class has just been seen, and all its bases wait.
    · have waits := mem_waitingBases.mpr ⟨i, b, base, rfl⟩
      exact .inr ⟨_, List.mem_append_left _ waits, rfl, List.mem_append_right _ (.head _)⟩
  case covers =>
    intro line item leads
    obtain ⟨w', waits, within⟩ := searched.covers line item leads
    rcases List.mem_cons.mp waits with rfl | later
    · obtain ⟨w'', base, further⟩ := exists_waitingBases climbs lacks leads within
      exact ⟨w'', List.mem_append_left _ base, further⟩
    · exact ⟨w', List.mem_append_right _ later, within⟩

/-- What is found first is at the end of the first line that leads to the method. -/
theorem found (searched : g.Searched c name unseen (w :: waiting))
    (isNew : w.target.item.identity ∈ unseen) (has : w.target.methods.get? name = some item) :
    g.LeadsFirst c name w.line item := by
  have climbs := searched.climbs w List.mem_cons_self
  refine ⟨⟨w.above, w.target, climbs, searched.simple isNew, has⟩, fun line' item' leads earlier => ?_⟩
  obtain ⟨w', waits, within⟩ := searched.covers line' item' leads
  rcases List.mem_cons.mp waits with rfl | later
  · exact within.le earlier
  · have less := ((List.pairwise_cons.mp searched.order).1 w' later).2
    exact within.le (List.lt_trans earlier less)

/-- The search ends with the first of the lines that lead to the method, or with none. -/
theorem run (built : g.Built) {pending : List ClassInfo} (waiting : List Waiting)
    (same : waiting.map (·.target) = pending) (searched : g.Searched c name unseen waiting) :
    g.IsAnswer c name (g.methodAmong? name unseen pending) := by
  fun_induction methodAmong? g name unseen pending generalizing waiting with
  | case1 =>
      rw [List.map_eq_nil_iff] at same
      subst same
      exact fun line item => searched.finished
  | case2 unseen b rest isNew method has =>
      obtain ⟨w, waiting, rfl, rfl, rfl⟩ := List.map_eq_cons_iff.mp same
      exact ⟨w.line, searched.found isNew has⟩
  | case3 unseen b rest isNew lacks ih =>
      obtain ⟨w, waiting, rfl, rfl, rfl⟩ := List.map_eq_cons_iff.mp same
      refine ih _ ?_ (searched.visit built isNew lacks)
      rw [List.map_append, map_waitingBases]
  | case4 unseen b rest seen ih =>
      obtain ⟨w, waiting, rfl, rfl, rfl⟩ := List.map_eq_cons_iff.mp same
      exact ih waiting rfl (searched.drop ⟨searched.listed w List.mem_cons_self, seen⟩)

end Searched

/-! ## Reachable classes -/

theorem Climbs.reaches (climbs : g.Climbs c line above d) :
    Relation.ReflTransGen g.Derives c d := by
  induction climbs with
  | here => exact .refl
  | base i _ base ih => exact ih.tail ⟨i, base⟩

/-- The part of a line as far as one of its classes. -/
theorem Climbs.cut (climbs : g.Climbs c line above d) (simple : (above ++ [d]).Nodup)
    (met : e ∈ above ++ [d]) :
    ∃ line' above', g.Climbs c line' above' e ∧ (above' ++ [e]).Nodup := by
  induction climbs with
  | here =>
      rw [List.mem_singleton.mp met]
      exact ⟨[], [], .here, simple⟩
  | base i climbs base ih =>
      rcases List.mem_append.mp met with earlier | last
      · exact ih (List.nodup_append.mp simple).1 earlier
      · rw [List.mem_singleton.mp last]
        exact ⟨_, _, climbs.base i base, simple⟩

theorem LeadsFirst.unique {item' : Item} (first : g.LeadsFirst c name line item)
    (first' : g.LeadsFirst c name line' item') : item = item' := by
  obtain rfl : line = line' := List.le_antisymm (first.2 _ _ first'.1) (first'.2 _ _ first.1)
  obtain ⟨above, d, climbs, -, method⟩ := first.1
  obtain ⟨above', d', climbs', -, method'⟩ := first'.1
  rw [(climbs.unique climbs').2] at method
  exact Option.some.inj (method.symm.trans method')

end CallDiagram.Index.ProjectGraph
