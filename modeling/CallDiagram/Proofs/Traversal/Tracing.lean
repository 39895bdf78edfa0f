import CallDiagram.Proofs.Traversal.Diagram

/-! # Traced calls

An outline is read a second time here, with each call message beside the call site that it shows.
The calls directly below a number are those of one function, one for one and in order: no call with
another number comes between, because numbers tell the branches of the tree apart.
-/

namespace CallDiagram

/-- A call message with the call site that it shows. -/
structure TracedCall where
  message : Message
  site : CallSite

/-- The calls directly below a number: who makes them, their numbers and their sites. -/
def callsBelow (calls : List TracedCall) (number : String) :
    List (Participant × String × CallSite) :=
  (calls.filter fun c => isDirectlyBelow number c.message.number).map fun c =>
    (c.message.sender, c.message.number, c.site)

/-- The calls of a participant at some call sites, numbered from 1 on below a number. -/
def numberedCalls (sender : Participant) (number : String) (sites : List CallSite) :
    List (Participant × String × CallSite) :=
  (sites.zipIdx 1).map fun (site, index) => (sender, numberBelow number index, site)

theorem callsBelow_append (before after : List TracedCall) (number : String) :
    callsBelow (before ++ after) number = callsBelow before number ++ callsBelow after number := by
  simp only [callsBelow, List.filter_append, List.map_append]

theorem callsBelow_eq_nil {calls : List TracedCall} {number : String}
    (elsewhere : ∀ c ∈ calls, isDirectlyBelow number c.message.number = false) :
    callsBelow calls number = [] := by
  rw [callsBelow, List.map_eq_nil_iff, List.filter_eq_nil_iff]
  intro c member
  simp [elsewhere c member]

namespace Traversal

variable {t : Traversal} {who : Item → (objectName : String) → Participant}

def tracedCall (t : Traversal) (who : Item → (objectName : String) → Participant) (node : Item)
    (name number : String) (c : CallSite × Nat) : TracedCall :=
  ⟨⟨who node name, who c.1.target (objectName name c.1.reading.qualifier), label t.settings c.1,
    numberBelow number c.2, .call⟩, c.1⟩

/-- The calls of an outline with their call sites. -/
def tracedCalls (t : Traversal) (who : Item → (objectName : String) → Participant) :
    (depth : Nat) → (node : Item) → (name number : String) → List TracedCall
  | 0, _, _, _ => []
  | depth + 1, node, name, number =>
    ((t.keptSites node).zipIdx 1).flatMap fun c =>
      t.tracedCall who node name number c ::
        tracedCalls t who depth c.1.target (objectName name c.1.reading.qualifier)
          (numberBelow number c.2)

def tracedBranch (t : Traversal) (who : Item → (objectName : String) → Participant) (depth : Nat)
    (node : Item) (name number : String) (c : CallSite × Nat) : List TracedCall :=
  t.tracedCall who node name number c ::
    t.tracedCalls who depth c.1.target (objectName name c.1.reading.qualifier)
      (numberBelow number c.2)

theorem tracedCalls_succ (t : Traversal) (who : Item → (objectName : String) → Participant)
    (depth : Nat) (node : Item) (name number : String) :
    t.tracedCalls who (depth + 1) node name number =
      ((t.keptSites node).zipIdx 1).flatMap (t.tracedBranch who depth node name number) :=
  rfl

theorem tracedCalls_of_leaf {node : Item} (leaf : t.keptSites node = []) (depth : Nat)
    (name number : String) : t.tracedCalls who depth node name number = [] := by
  cases depth with
  | zero => rfl
  | succ depth => rw [tracedCalls_succ, leaf, List.zipIdx_nil, List.flatMap_nil]

theorem map_tracedCalls (t : Traversal) (who : Item → (objectName : String) → Participant)
    (depth : Nat) (node : Item) (name number : String) :
    (t.tracedCalls who depth node name number).map (·.message) =
      (shownMessages (t.outline who depth node name number)).filter (·.kind = .call) := by
  induction depth generalizing node name number with
  | zero =>
      rw [shownMessages_zero]
      rfl
  | succ depth ih =>
      rw [tracedCalls_succ, outline_succ, shownMessages, List.map_flatMap, List.filter_flatMap]
      refine congrArg (List.flatMap · _) (funext fun (site, index) => ?_)
      have within : ∀ (callee : Participant) (number : String) (nested : Nested),
          (inside callee number nested).filter (·.kind = .call) =
            (shownMessages nested).filter (·.kind = .call) := by
        intro callee number nested
        cases nested <;> rfl
      rw [callMessages_eq]
      simp [tracedBranch, tracedCall, ih, within]

theorem mem_tracedCalls_succ {depth : Nat} {node : Item} {name number : String} {c : TracedCall} :
    c ∈ t.tracedCalls who (depth + 1) node name number ↔
      ∃ site ∈ (t.keptSites node).zipIdx 1, c = t.tracedCall who node name number site ∨
        c ∈ t.tracedCalls who depth site.1.target (objectName name site.1.reading.qualifier)
          (numberBelow number site.2) := by
  simp only [tracedCalls_succ, List.mem_flatMap, tracedBranch, List.mem_cons]

theorem below_of_mem_tracedCalls {depth : Nat} {node : Item} {name number : String}
    {c : TracedCall} (member : c ∈ t.tracedCalls who depth node name number) :
    numberDepth c.message.number ≤ numberDepth number + depth ∧
      ∃ index : Nat, 1 ≤ index ∧
        components (numberBelow number index) <+: components c.message.number := by
  have shown : c.message ∈ (t.tracedCalls who depth node name number).map (·.message) :=
    List.mem_map_of_mem member
  rw [map_tracedCalls] at shown
  exact below_of_mem_outline (List.mem_filter.mp shown).1

/-! ## The calls directly below a number -/

theorem prefix_of_mem_tracedBranch {depth : Nat} {node : Item} {name number : String}
    {site : CallSite × Nat} {c : TracedCall}
    (member : c ∈ t.tracedBranch who depth node name number site) :
    components (numberBelow number site.2) <+: components c.message.number := by
  rcases List.mem_cons.mp member with rfl | deeper
  · exact List.prefix_rfl
  · obtain ⟨-, index, -, onward⟩ := below_of_mem_tracedCalls deeper
    rw [components_numberBelow _ index] at onward
    exact (List.prefix_append _ _).trans onward

/-- No call with an index stands below a number that begins with another index. -/
theorem callsBelow_tracedBranch_of_ne {depth : Nat} {node : Item} {name number above : String}
    {site : CallSite × Nat} {index : Nat} (different : site.2 ≠ index)
    (inside : components (numberBelow number index) <+: components above) :
    callsBelow (t.tracedBranch who depth node name number site) above = [] := by
  refine callsBelow_eq_nil fun c member => ?_
  rw [Bool.eq_false_iff]
  intro direct
  obtain ⟨last, extended⟩ := isDirectlyBelow_iff.mp direct
  have here := prefix_of_mem_tracedBranch member
  have there := inside.trans (extended ▸ List.prefix_append _ [last])
  simp only [components_numberBelow] at here there
  have same := (List.prefix_of_prefix_length_le here there (by simp)).eq_of_length (by simp)
  exact different (repr_inj.mp (List.singleton_inj.mp (List.append_cancel_left same)))

theorem callsBelow_tracedBranch {depth : Nat} {node : Item} {name number above : String}
    {site : CallSite × Nat}
    (inside : components (numberBelow number site.2) <+: components above) :
    callsBelow (t.tracedBranch who depth node name number site) above =
      callsBelow (t.tracedCalls who depth site.1.target (objectName name site.1.reading.qualifier)
        (numberBelow number site.2)) above := by
  have head : callsBelow [t.tracedCall who node name number site] above = [] := by
    refine callsBelow_eq_nil fun c member => ?_
    rw [Bool.eq_false_iff]
    intro direct
    obtain ⟨last, extended⟩ := isDirectlyBelow_iff.mp direct
    rw [List.mem_singleton.mp member, tracedCall] at extended
    have long := inside.length_le
    rw [extended, List.length_append, List.length_singleton] at long
    omega
  rw [tracedBranch, ← List.singleton_append, callsBelow_append, head, List.nil_append]

/-- Below a number that begins with the number of a call stand only calls from below that call. -/
theorem callsBelow_flatMap {depth : Nat} {node : Item} {name number above : String}
    {sites : List CallSite} {start : Nat} {chosen : CallSite × Nat}
    (member : chosen ∈ sites.zipIdx start)
    (inside : components (numberBelow number chosen.2) <+: components above) :
    callsBelow ((sites.zipIdx start).flatMap (t.tracedBranch who depth node name number)) above =
      callsBelow (t.tracedBranch who depth node name number chosen) above := by
  induction sites generalizing start with
  | nil => exact absurd member List.not_mem_nil
  | cons site sites ih =>
      rw [List.zipIdx_cons, List.flatMap_cons, callsBelow_append]
      rcases List.mem_cons.mp member with rfl | later
      · have rest : callsBelow ((sites.zipIdx (start + 1)).flatMap
            (t.tracedBranch who depth node name number)) above = [] := by
          rw [callsBelow, List.filter_flatMap, List.map_flatMap, List.flatMap_eq_nil_iff]
          intro other listed
          have beyond : start + 1 ≤ other.2 := List.le_snd_of_mem_zipIdx listed
          exact callsBelow_tracedBranch_of_ne (by omega) inside
        rw [rest, List.append_nil]
      · have beyond : start + 1 ≤ chosen.2 := List.le_snd_of_mem_zipIdx later
        rw [callsBelow_tracedBranch_of_ne (by dsimp only; omega) inside, ih later, List.nil_append]

theorem callsBelow_tracedCalls (t : Traversal) (who : Item → (objectName : String) → Participant)
    (depth : Nat) (node : Item) (name number : String) :
    callsBelow (t.tracedCalls who (depth + 1) node name number) number =
      numberedCalls (who node name) number (t.keptSites node) := by
  rw [tracedCalls_succ, numberedCalls]
  induction (t.keptSites node).zipIdx 1 with
  | nil => rfl
  | cons site sites ih =>
      have deeper : callsBelow (t.tracedCalls who depth site.1.target
          (objectName name site.1.reading.qualifier) (numberBelow number site.2)) number = [] := by
        refine callsBelow_eq_nil fun c member => ?_
        rw [Bool.eq_false_iff]
        intro direct
        obtain ⟨last, extended⟩ := isDirectlyBelow_iff.mp direct
        obtain ⟨-, index, -, onward⟩ := below_of_mem_tracedCalls member
        have long := onward.length_le
        simp [extended] at long
      have direct : isDirectlyBelow number (numberBelow number site.2) = true := by simp
      rw [List.flatMap_cons, callsBelow_append, ih, tracedBranch, List.map_cons,
        ← List.singleton_append, callsBelow_append, deeper]
      simp [callsBelow, tracedCall, direct]

/-- Directly below a call that is not at the bottom lie the calls of its target. -/
theorem callsBelow_of_mem {depth : Nat} {node : Item} {name number : String} {c : TracedCall}
    (member : c ∈ t.tracedCalls who depth node name number)
    (shallow : numberDepth c.message.number < numberDepth number + depth) :
    callsBelow (t.tracedCalls who depth node name number) c.message.number =
      numberedCalls c.message.receiver c.message.number (t.keptSites c.site.target) := by
  induction depth generalizing node name number with
  | zero => exact absurd member List.not_mem_nil
  | succ depth ih =>
      obtain ⟨site, listed, here | deeper⟩ := mem_tracedCalls_succ.mp member
      · subst here
        simp only [tracedCall, numberDepth_numberBelow] at shallow ⊢
        obtain ⟨depth, rfl⟩ := Nat.exists_eq_add_of_le' (show 1 ≤ depth by omega)
        rw [tracedCalls_succ, callsBelow_flatMap listed List.prefix_rfl,
          callsBelow_tracedBranch List.prefix_rfl, callsBelow_tracedCalls]
      · have branch : c ∈ t.tracedBranch who depth node name number site :=
          List.mem_cons_of_mem _ deeper
        have inside := prefix_of_mem_tracedBranch branch
        rw [tracedCalls_succ, callsBelow_flatMap listed inside, callsBelow_tracedBranch inside]
        exact ih deeper (by rw [numberDepth_numberBelow]; omega)

theorem parent_of_mem {depth : Nat} {node : Item} {name number : String} {c : TracedCall}
    (member : c ∈ t.tracedCalls who depth node name number) :
    isDirectlyBelow number c.message.number = true ∨
      ∃ above ∈ t.tracedCalls who depth node name number,
        isDirectlyBelow above.message.number c.message.number = true := by
  induction depth generalizing node name number with
  | zero => exact absurd member List.not_mem_nil
  | succ depth ih =>
      obtain ⟨site, listed, here | deeper⟩ := mem_tracedCalls_succ.mp member
      · subst here
        exact .inl (by simp [tracedCall])
      · right
        rcases ih deeper with direct | ⟨above, found, direct⟩
        · exact ⟨_, mem_tracedCalls_succ.mpr ⟨site, listed, .inl rfl⟩, direct⟩
        · exact ⟨above, mem_tracedCalls_succ.mpr ⟨site, listed, .inr found⟩, direct⟩

/-! ## What a call shows -/

theorem reaches_of_mem {entry : Item} {depth : Nat} {node : Item} {name number : String}
    {c : TracedCall} (reached : t.provider.Reaches entry node)
    (member : c ∈ t.tracedCalls who depth node name number) :
    t.provider.Reaches entry c.site.target := by
  induction depth generalizing node name number with
  | zero => exact absurd member List.not_mem_nil
  | succ depth ih =>
      obtain ⟨site, listed, here | deeper⟩ := mem_tracedCalls_succ.mp member
      · subst here
        exact reaches_keptSites reached (List.fst_mem_of_mem_zipIdx listed)
      · exact ih (reaches_keptSites reached (List.fst_mem_of_mem_zipIdx listed)) deeper

/-- A call goes to the participant of its target, on the object that its site names. -/
theorem receiver_of_mem (named : ∀ item objectName, (who item objectName).key.objectName = objectName)
    {depth : Nat} {node : Item} {name number : String} {c : TracedCall}
    (member : c ∈ t.tracedCalls who depth node name number) :
    c.message.label = label t.settings c.site ∧
      c.message.receiver = who c.site.target
        (objectName c.message.sender.key.objectName c.site.reading.qualifier) := by
  induction depth generalizing node name number with
  | zero => exact absurd member List.not_mem_nil
  | succ depth ih =>
      obtain ⟨site, -, here | deeper⟩ := mem_tracedCalls_succ.mp member
      · subst here
        simp [tracedCall, named]
      · exact ih deeper

theorem shownMessages_within (t : Traversal) (who : Item → (objectName : String) → Participant)
    (depth : Nat) (node : Item) (name number : String) (c : CallSite × Nat) :
    shownMessages (t.outline who depth c.1.target (objectName name c.1.reading.qualifier)
        (numberBelow number c.2)) <:+:
      t.callMessages who depth node name number c := by
  rw [callMessages_eq]
  cases t.outline who depth c.1.target (objectName name c.1.reading.qualifier)
      (numberBelow number c.2) with
  | shown messages => exact ⟨[_], [_], rfl⟩
  | truncated => exact List.nil_infix

/-- At the bottom a call is answered at once, after a note if its target has calls. -/
theorem bottom_of_mem {depth : Nat} {node : Item} {name number : String} {c : TracedCall}
    (member : c ∈ t.tracedCalls who depth node name number)
    (bottom : numberDepth c.message.number = numberDepth number + depth) :
    c.message ::
        (if t.keptSites c.site.target = [] then []
          else [⟨c.message.receiver, c.message.receiver, truncationNote, c.message.number, .note⟩]) ++
        [⟨c.message.receiver, c.message.sender, t.settings.returnMessageLabel, c.message.number,
          .return⟩]
      <:+: shownMessages (t.outline who depth node name number) := by
  induction depth generalizing node name number with
  | zero => exact absurd member List.not_mem_nil
  | succ depth ih =>
      obtain ⟨⟨site, index⟩, listed, within⟩ := mem_tracedCalls_succ.mp member
      have block : t.callMessages who depth node name number (site, index) <:+:
          shownMessages (t.outline who (depth + 1) node name number) :=
        List.infix_of_mem_flatten (List.mem_map_of_mem listed)
      refine .trans ?_ block
      rcases within with here | deeper
      · subst here
        rw [callMessages_eq]
        simp only [tracedCall, numberDepth_numberBelow] at bottom ⊢
        obtain rfl : depth = 0 := by omega
        by_cases leaf : t.keptSites site.target = [] <;> simp [outline, leaf]
      · have below := ih deeper (by rw [numberDepth_numberBelow]; omega)
        exact below.trans (shownMessages_within ..)

end Traversal

end CallDiagram
