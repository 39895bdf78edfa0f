import CallDiagram.Proofs.Traversal.Diagram

/-! # Cancelled traversals

A traversal looks for a cancellation when it enters a function, and then asks for the calls of that
function, once. It enters the function of the entry and the target of every call that it shows. So
it is cancelled right behind the question at which the cancellation came, and a cancellation that
comes with the last question is not noticed any more.
-/

namespace CallDiagram

def callCount (messages : List Message) : Nat :=
  messages.countP (·.kind = .call)

@[simp] theorem callCount_append (messages others : List Message) :
    callCount (messages ++ others) = callCount messages + callCount others :=
  List.countP_append

theorem Diagram.length_calls (d : Diagram) : d.calls.length = callCount d.messages :=
  List.countP_eq_length_filter.symm

namespace Walk

variable {α β : Type} {step : Walk α} {next : α → Walk β} {a : α} {b : β}
  {ρ σ τ : TraversalState} {n : Nat}

/-- A step, begun in one state, is cancelled in another. -/
def Cancels (step : Walk α) (before after : TraversalState) : Prop :=
  outcome step before = (.error ⟨⟩, after)

theorem cancels_bind_of (ran : Returns step σ a ρ) :
    Cancels (step >>= next) σ τ ↔ Cancels (next a) ρ τ := by
  have once : outcome step σ = (.ok a, ρ) := ran
  rw [Cancels, outcome_bind, once]
  rfl

theorem Cancels.bind (stopped : Cancels step σ τ) (next : α → Walk β) :
    Cancels (step >>= next) σ τ := by
  have once : outcome step σ = (.error ⟨⟩, τ) := stopped
  rw [Cancels, outcome_bind, once]

/-- A step ends in the way that is given, or it is cancelled at the n-th question if that is asked
before. -/
def Prompt (n : Nat) (step : Walk α) (before : TraversalState) (value : α)
    (after : TraversalState) : Prop :=
  if after.asked ≤ n then Returns step before value after
  else ∃ last, Cancels step before last ∧ last.asked = n

theorem prompt_bind_of (ran : Returns step σ a ρ) :
    Prompt n (step >>= next) σ b τ ↔ Prompt n (next a) ρ b τ := by
  simp only [Prompt, returns_bind_of ran, cancels_bind_of ran]

theorem Prompt.bind (first : Prompt n step σ a ρ)
    (rest : ρ.asked ≤ n → Prompt n (next a) ρ b τ) (onward : ρ.asked ≤ τ.asked) :
    Prompt n (step >>= next) σ b τ := by
  by_cases early : ρ.asked ≤ n
  · rw [Prompt, if_pos early] at first
    exact (prompt_bind_of first).mpr (rest early)
  · rw [Prompt, if_neg early] at first
    obtain ⟨last, stopped, asked⟩ := first
    rw [Prompt, if_neg (by omega)]
    exact ⟨last, stopped.bind next, asked⟩

theorem Prompt.of_returns (ran : Returns step σ a τ) (early : τ.asked ≤ n) :
    Prompt n step σ a τ := by
  rwa [Prompt, if_pos early]

theorem Prompt.of_cancels (stopped : Cancels step σ ρ) (asked : ρ.asked = n)
    (late : n < τ.asked) : Prompt n step σ a τ := by
  rw [Prompt, if_neg (Nat.not_le_of_lt late)]
  exact ⟨ρ, stopped, asked⟩

end Walk

open Walk

namespace Traversal

variable {t : Traversal} {σ τ : TraversalState} {n : Nat}

theorem cancels_deeper {α : Type} {step : Walk α}
    (stopped : Cancels step { σ with style := σ.style.indent } τ) :
    Cancels (deeper step) σ { τ with style := τ.style.outdent } := by
  have once : outcome step { σ with style := σ.style.indent } = (.error ⟨⟩, τ) := stopped
  rw [Cancels, outcome_deeper, once]

theorem prompt_deeper {α : Type} {step : Walk α} {a : α} {ρ : TraversalState}
    (inner : Prompt n step { σ with style := σ.style.indent } a ρ) :
    Prompt n (deeper step) σ a { ρ with style := ρ.style.outdent } := by
  by_cases early : ρ.asked ≤ n
  · rw [Prompt, if_pos early] at inner
    exact .of_returns (returns_deeper.mpr ⟨ρ, inner, rfl⟩) early
  · rw [Prompt, if_neg early] at inner
    obtain ⟨last, stopped, asked⟩ := inner
    exact .of_cancels (cancels_deeper stopped) asked (Nat.lt_of_not_le early)

/-! ## How often calls are asked for -/

theorem asked_withClass (t : Traversal) (σ : TraversalState) (item : Item) :
    (t.withClass σ item).asked = σ.asked := by
  unfold withClass
  split <;> rfl

theorem asked_participant {item : Item} {objectName : String} {p : Participant}
    (looked : Returns (t.participant item objectName) σ p τ) : τ.asked = σ.asked := by
  obtain ⟨-, rfl⟩ := returns_participant.mp looked
  exact asked_withClass t σ item

theorem asked_shownSites {node : Item} {probing : Bool} {sites : List CallSite}
    (ran : Returns (t.shownSites node probing) σ sites τ) : τ.asked = σ.asked + 1 := by
  obtain ⟨-, _, _, _, rfl⟩ := returns_shownSites ran
  rfl

theorem callCount_block (s : Settings) (caller callee : Participant) (site : CallSite)
    (number : String) (nested : Nested) :
    callCount (block s caller callee site number nested) =
      callCount (shownMessages nested) + 1 := by
  rw [block_eq]
  cases nested <;> simp [callCount, shownMessages]

theorem asked_messagesOf {below : Item → (name number : String) → Walk Nested}
    (deep : ∀ {item name number σ nested τ}, Returns (below item name number) σ nested τ →
      τ.asked = σ.asked + 1 + callCount (shownMessages nested))
    {node : Item} {name number : String} {caller : Participant} {sites : List (CallSite × Nat)}
    {ms : List Message}
    (ran : Returns (t.messagesOf below node name number caller sites) σ ms τ) :
    τ.asked = σ.asked + callCount ms := by
  induction sites generalizing σ ms with
  | nil =>
      obtain ⟨rfl, rfl⟩ := returns_messagesOf_nil.mp ran
      rfl
  | cons c sites ih =>
      obtain ⟨callee, ρ, nested, ρ', rest, found, went, others, rfl⟩ :=
        returns_messagesOf_cons.mp ran
      have looked : ρ.asked = σ.asked := asked_participant found
      have entered : ρ'.asked = ρ.asked + 1 + callCount (shownMessages nested) := (deep went :)
      have behind : τ.asked = ρ'.asked + callCount rest := (ih others :)
      rw [callCount_append, callCount_block]
      omega

/-- A visit asks for the calls of its function and of the target of every call that it shows. -/
theorem asked_visit {depth : Nat} {node : Item} {name number : String} {nested : Nested}
    (ran : Returns (t.visit depth node name number) σ nested τ) :
    τ.asked = σ.asked + 1 + callCount (shownMessages nested) := by
  induction depth generalizing node name number nested σ τ with
  | zero =>
      obtain ⟨-, sites, listed, rfl⟩ := returns_visit_zero.mp ran
      rw [asked_shownSites listed]
      cases sites <;> rfl
  | succ depth ih =>
      obtain ⟨-, sites, ρ, listed, rest⟩ := returns_visit_succ.mp ran
      have once : ρ.asked = σ.asked + 1 := (asked_shownSites listed :)
      rcases rest with ⟨-, rfl, rfl⟩ | ⟨-, caller, ρ', ms, found, others, rfl⟩
      · exact once
      · have behind : τ.asked = ρ'.asked + callCount ms := asked_messagesOf (ih ·) others
        rw [behind, asked_participant found, once]
        rfl

theorem asked_build {entry : Item} {d : Diagram} (ran : Returns (t.build entry) σ d τ) :
    τ.asked = σ.asked + 1 + callCount d.messages := by
  obtain ⟨first, ρ, nested, ρ', looked, went, rfl, rfl⟩ := returns_build.mp ran
  have found : ρ.asked = σ.asked := (asked_participant looked :)
  have below : ρ'.asked = ρ.asked + 1 + callCount (shownMessages nested) := asked_visit went
  rw [asked_withClass, diagramOf, ← found, ← below]
  rfl

/-! ## Cancelled and free traversals -/

/-- A traversal that is cancelled from its n-th question for calls on. -/
def stoppedAt (t : Traversal) (n : Nat) : Traversal :=
  { t with cancelAt := some n }

theorem goesOn_stoppedAt : (t.stoppedAt n).GoesOn σ ↔ σ.asked < n := by
  simp [GoesOn, stoppedAt]

theorem surviving_stoppedAt (t : Traversal) (n : Nat) (node : Item) (probing : Bool)
    (sites : List (CallSite × Nat)) :
    (t.stoppedAt n).surviving node probing sites = t.surviving node probing sites := by
  induction sites with
  | nil => rfl
  | cons c sites ih =>
      rw [surviving, surviving, ih]
      rfl

theorem shownSites_stoppedAt (t : Traversal) (n : Nat) (node : Item) (probing : Bool) :
    (t.stoppedAt n).shownSites node probing = t.shownSites node probing := by
  unfold shownSites
  simp only [surviving_stoppedAt]
  rfl

theorem cancels_checkCancelled (late : ¬ t.GoesOn σ) : Cancels t.checkCancelled σ σ := by
  obtain ⟨question, given, reached⟩ :
      ∃ question, t.cancelAt = some question ∧ question ≤ σ.asked := by
    simpa [GoesOn] using late
  have seen : Returns get σ σ σ := rfl
  simp only [checkCancelled, given]
  rw [cancels_bind_of seen, if_pos reached]
  rfl

theorem cancels_visit (late : ¬ t.GoesOn σ) (depth : Nat) (node : Item) (name number : String) :
    Cancels (t.visit depth node name number) σ σ := by
  have stopped : Cancels t.checkCancelled σ σ := cancels_checkCancelled late
  cases depth with
  | zero => exact stopped.bind _
  | succ depth =>
      rw [visit]
      exact stopped.bind _

theorem prompt_messagesOf {below other : Item → (name number : String) → Walk Nested}
    (asks : ∀ {item name number σ nested τ}, Returns (below item name number) σ nested τ →
      τ.asked = σ.asked + 1 + callCount (shownMessages nested))
    (deep : ∀ {item name number σ nested τ}, Returns (below item name number) σ nested τ →
      σ.asked ≤ n → Prompt n (other item name number) σ nested τ)
    {node : Item} {name number : String} {caller : Participant} {sites : List (CallSite × Nat)}
    {ms : List Message}
    (ran : Returns (t.messagesOf below node name number caller sites) σ ms τ)
    (begun : σ.asked ≤ n) :
    Prompt n ((t.stoppedAt n).messagesOf other node name number caller sites) σ ms τ := by
  induction sites generalizing σ ms with
  | nil =>
      obtain ⟨rfl, rfl⟩ := returns_messagesOf_nil.mp ran
      exact .of_returns (returns_messagesOf_nil.mpr ⟨rfl, rfl⟩) begun
  | cons c sites ih =>
      obtain ⟨site, index⟩ := c
      obtain ⟨callee, ρ, nested, ρ', rest, found, went, others, rfl⟩ :=
        returns_messagesOf_cons.mp ran
      have looked : ρ.asked = σ.asked := asked_participant found
      have onward : τ.asked = ρ'.asked + callCount rest := (asked_messagesOf asks others :)
      have found' : Returns ((t.stoppedAt n).participant site.target
          (objectName name site.reading.qualifier)) σ callee ρ := found
      have inner := deep went (looked ▸ begun)
      rw [messagesOf, prompt_bind_of found', prompt_bind_of (returns_noteCall (u := ()).mpr rfl)]
      refine (prompt_deeper inner).bind (fun early => ?_) (onward ▸ Nat.le_add_right _ _)
      -- The other calls are reached only if the first one was not cancelled.
      refine (ih others early).bind (fun done => ?_) (Nat.le_refl _)
      exact .of_returns (returns_pure.mpr ⟨rfl, rfl⟩) done

/-- A visit that begins with the n-th question is cancelled at once; only earlier ones go on. -/
theorem prompt_of_goesOn {depth : Nat} {node : Item} {name number : String} {nested : Nested}
    (ran : Returns (t.visit depth node name number) σ nested τ) (begun : σ.asked ≤ n)
    (onward : σ.asked < n → Prompt n ((t.stoppedAt n).visit depth node name number) σ nested τ) :
    Prompt n ((t.stoppedAt n).visit depth node name number) σ nested τ := by
  by_cases on : σ.asked < n
  · exact onward on
  · have late : ¬ (t.stoppedAt n).GoesOn σ := fun on' => on (goesOn_stoppedAt.mp on')
    have asked := asked_visit ran
    exact .of_cancels (cancels_visit late depth node name number) (by omega) (by omega)

/-- A visit goes as it does without a cancellation, until one is noticed. -/
theorem prompt_visit {depth : Nat} {node : Item} {name number : String} {nested : Nested}
    (ran : Returns (t.visit depth node name number) σ nested τ) (begun : σ.asked ≤ n) :
    Prompt n ((t.stoppedAt n).visit depth node name number) σ nested τ := by
  induction depth generalizing node name number nested σ τ with
  | zero =>
      refine prompt_of_goesOn ran begun fun on => ?_
      obtain ⟨-, sites, listed, rfl⟩ := returns_visit_zero.mp ran
      have once : τ.asked = σ.asked + 1 := asked_shownSites listed
      rw [← shownSites_stoppedAt t n] at listed
      exact .of_returns
        (returns_visit_zero.mpr ⟨goesOn_stoppedAt.mpr on, sites, listed, rfl⟩) (by omega)
  | succ depth ih =>
      refine prompt_of_goesOn ran begun fun on => ?_
      obtain ⟨-, sites, ρ, listed, rest⟩ := returns_visit_succ.mp ran
      have once : ρ.asked = σ.asked + 1 := (asked_shownSites listed :)
      rw [← shownSites_stoppedAt t n] at listed
      have unstopped : Returns (t.stoppedAt n).checkCancelled σ () σ :=
        returns_checkCancelled.mpr ⟨rfl, goesOn_stoppedAt.mpr on⟩
      rcases rest with ⟨rfl, rfl, rfl⟩ | ⟨some, caller, ρ', ms, found, others, rfl⟩
      · exact .of_returns (returns_visit_succ.mpr
          ⟨goesOn_stoppedAt.mpr on, [], τ, listed, .inl ⟨rfl, rfl, rfl⟩⟩) (by omega)
      · have looked : ρ'.asked = ρ.asked := asked_participant found
        have found' : Returns ((t.stoppedAt n).participant node name) ρ caller ρ' := found
        rw [visit, prompt_bind_of unstopped, prompt_bind_of (returns_modify (u := ()).mpr rfl),
          prompt_bind_of listed]
        simp only [List.isEmpty_iff, some, if_false]
        rw [prompt_bind_of found']
        have below := prompt_messagesOf asked_visit ih others (by omega)
        refine below.bind (fun done => ?_) (Nat.le_refl _)
        exact .of_returns (returns_pure.mpr ⟨rfl, rfl⟩) done

theorem prompt_build {entry : Item} {d : Diagram} (ran : Returns (t.build entry) σ d τ)
    (begun : σ.asked ≤ n) : Prompt n ((t.stoppedAt n).build entry) σ d τ := by
  obtain ⟨first, ρ, nested, ρ', looked, went, rfl, rfl⟩ := returns_build.mp ran
  have looked' : Returns ((t.stoppedAt n).participant entry entry.name)
      (starting entry σ) first ρ := looked
  have entered : ρ.asked = σ.asked := (asked_participant looked :)
  have ended : (t.withClass (finishing (shownMessages nested) ρ') entry).asked = ρ'.asked :=
    asked_withClass ..
  have below := prompt_visit (n := n) went (entered ▸ begun)
  by_cases early : ρ'.asked ≤ n
  · rw [Prompt, if_pos early] at below
    exact .of_returns (returns_build.mpr ⟨first, ρ, nested, ρ', looked', below, rfl, rfl⟩)
      (ended ▸ early)
  · rw [Prompt, if_neg early] at below
    obtain ⟨last, stopped, asked⟩ := below
    have cancelled : Cancels ((t.stoppedAt n).build entry) σ last := by
      rw [build, cancels_bind_of (returns_modify (u := ()).mpr rfl),
        cancels_bind_of (returns_noteCall (u := ()).mpr rfl)]
      exact (cancels_bind_of looked').mpr (stopped.bind _)
    exact .of_cancels cancelled asked (by omega)

end Traversal

/-- What building the diagram of an entry ends with. -/
def Provider.ending (p : Provider) (s : Settings) (entry : Item) (cancelAt : Option Nat := none) :
    Except Cancelled Diagram × TraversalState :=
  outcome ((p.traversal s cancelAt).build entry) { trace := (p.roots s).2 }

/-- How often calls are asked for until the diagram of an entry is built or cancelled. -/
def Provider.questions (p : Provider) (s : Settings) (entry : Item)
    (cancelAt : Option Nat := none) : Nat :=
  (p.ending s entry cancelAt).2.asked

theorem Provider.diagram_of_ending {p : Provider} {s : Settings} {entry : Item}
    {cancelAt : Option Nat} {result : Except Cancelled Diagram} {τ : TraversalState}
    (ended : p.ending s entry cancelAt = (result, τ)) : (p.diagram s entry cancelAt).1 = result :=
  congrArg Prod.fst ended

theorem Provider.stoppedAt_traversal (p : Provider) (s : Settings) (n : Nat) :
    (p.traversal s).stoppedAt n = p.traversal s (some n) := rfl

theorem Provider.ending_cancelled {p : Provider} {s : Settings} {entry : Item} {d : Diagram}
    {τ : TraversalState} (ended : p.ending s entry = (.ok d, τ)) (n : Nat) :
    if τ.asked ≤ n then p.ending s entry (some n) = (.ok d, τ)
    else ∃ last, p.ending s entry (some n) = (.error ⟨⟩, last) ∧ last.asked = n := by
  have ran : Returns ((p.traversal s).build entry) { trace := (p.roots s).2 } d τ := ended
  have prompt := Traversal.prompt_build ran (Nat.zero_le n)
  rw [Prompt, stoppedAt_traversal] at prompt
  exact prompt

/-- A cancellation is noticed at the next call that is shown, and otherwise changes nothing. -/
theorem Provider.diagram_cancelled (p : Provider) (s : Settings) (entry : Item) :
    ∃ d, (p.diagram s entry).1 = .ok d ∧ p.questions s entry = d.calls.length + 1 ∧
      ∀ n, ((p.diagram s entry (some n)).1, p.questions s entry (some n)) =
        if n ≤ d.calls.length then (.error ⟨⟩, n) else (.ok d, d.calls.length + 1) := by
  obtain ⟨d, built⟩ := p.diagram_built s entry
  obtain ⟨τ, ended⟩ : ∃ τ, p.ending s entry = (.ok d, τ) := returns_of_built built
  have asked : τ.asked = d.calls.length + 1 := by
    rw [d.length_calls, Nat.add_comm]
    exact Traversal.asked_build ended
  refine ⟨d, built, by rw [questions, ended, asked], fun n => ?_⟩
  have prompt := ending_cancelled ended n
  by_cases noticed : n ≤ d.calls.length
  · rw [if_neg (by omega)] at prompt
    obtain ⟨last, stopped, reached⟩ := prompt
    rw [diagram_of_ending stopped, questions, stopped, reached, if_pos noticed]
  · rw [if_pos (by omega)] at prompt
    rw [diagram_of_ending prompt, questions, prompt, asked, if_neg noticed]

end CallDiagram
