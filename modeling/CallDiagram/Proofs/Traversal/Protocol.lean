import CallDiagram.Proofs.Traversal.Blocks
import CallDiagram.Proofs.Traversal.Cancellation
import CallDiagram.Proofs.Traversal.Nesting

/-! # Protocols

The infos of a trace are the protocol of a traversal. It follows the calls of the diagram: behind
the line of a call stand the lines of the call sites that are skipped in its target, indented as deep
as the target is visited, and what is only probed leaves no line. The counts at the end are those of
the lines and of the messages. However a traversal ends, it leaves the level of the outermost call,
so nothing of one traversal is seen in the protocol of the next.
-/

namespace CallDiagram

open Walk

def infos (trace : List TraceLine) : List TraceLine :=
  trace.filter (·.severity = .info)

@[simp] theorem infos_append (trace others : List TraceLine) :
    infos (trace ++ others) = infos trace ++ infos others :=
  List.filter_append ..

def TraceStyle.at (style : TraceStyle) (level : Nat) : TraceStyle :=
  { style with level }

def noteCount (messages : List Message) : Nat :=
  messages.countP (·.kind = .note)

/-- Every call is answered, and notes stand alone. -/
theorem Block.length {depth index : Nat} {sender : Participant} {number : String}
    {messages : List Message} (block : Block depth sender number index messages) :
    messages.length = 2 * callCount messages + noteCount messages := by
  induction block with
  | done => rfl
  | nested _ _ inner behind =>
      simp [callCount, noteCount] at inner behind ⊢
      omega
  | noted _ _ behind =>
      simp [callCount, noteCount] at behind ⊢
      omega

/-- A call message with the function that makes the call and the call site that it shows. -/
structure NotedCall where
  caller : Item
  message : Message
  site : CallSite

/-- The line of a call, indented by the calls that it stands below. -/
def NotedCall.line (style : TraceStyle) (c : NotedCall) : TraceLine :=
  let style := style.at (numberDepth c.message.number - 1)
  ⟨.info, style.indented (Traversal.callText c.message.sender c.message.receiver c.caller
    c.site.target c.message.number style)⟩

/-- The line of a call site that is skipped, with its place among the call sites of the function. -/
def skipLine (style : TraceStyle) (function target : Item) (place : Nat) (reason : SkipReason) :
    TraceLine :=
  ⟨.info, style.indented
    (s!"Call {place} from {style.method function.name} to {style.method target.name} "
      ++ s!"{reason.text} and is therefore skipped")⟩

/-- The call sites of a function in the order in which they are carried out, those that are skipped
included; none if the function cannot be analyzed. -/
def Provider.sitesInOrder (p : Provider) (s : Settings) (function : Item) : List CallSite :=
  match p.callSites s function with
  | .error _ => []
  | .ok (sites, _) => sites

def Provider.isUnanalyzable (p : Provider) (s : Settings) (function : Item) : Bool :=
  match p.callSites s function with
  | .error _ => true
  | .ok _ => false

/-- A noted call shows the call site that its number leads to: that of the function that the number
above leads to, on the object of the sender. -/
structure Provider.Shows (p : Provider) (s : Settings) (entry : Item) (c : NotedCall) : Prop where
  site : ∃ (above : String) (index : Nat),
    p.Targets s entry above c.caller c.message.sender.key.objectName ∧
      (c.site, index) ∈ (p.shownCalls s c.caller).zipIdx 1 ∧
      c.message.number = numberBelow above index
  receiver : c.message.receiver.key.objectName =
    Traversal.objectName c.message.sender.key.objectName c.site.reading.qualifier

/-- Whether the function that a number leads to is visited, and not only probed. -/
def Settings.visits (s : Settings) (number : String) : Bool :=
  numberDepth number < s.maxCallDepth.val

namespace Provider

def skipLinesAmong (p : Provider) (s : Settings) (style : TraceStyle) (function : Item)
    (sites : List (CallSite × Nat)) : List TraceLine :=
  sites.filterMap fun c =>
    (skipReason? c.1.target.kind c.1.target.uri (p.traversal s).rules).map
      (skipLine style function c.1.target c.2)

/-- The lines of what is skipped in the function that a number leads to. -/
def skipLines (p : Provider) (s : Settings) (style : TraceStyle) (number : String)
    (function : Item) : List TraceLine :=
  if s.visits number then
    p.skipLinesAmong s (style.at (numberDepth number)) function
      ((p.sitesInOrder s function).zipIdx 1)
  else []

/-- The lines of some calls, each followed by those of what is skipped in its target. -/
def linesOf (p : Provider) (s : Settings) (style : TraceStyle) (calls : List NotedCall) :
    List TraceLine :=
  calls.flatMap fun c => c.line style :: p.skipLines s style c.message.number c.site.target

def skipLinesBelow (p : Provider) (s : Settings) (style : TraceStyle) (calls : List NotedCall) :
    List TraceLine :=
  calls.flatMap fun c => p.skipLines s style c.message.number c.site.target

end Provider

/-- The line that a protocol begins with. -/
def startLine (style : TraceStyle) (entry : Item) : TraceLine :=
  ⟨.info, (style.at 0).indented
    s!"Building sequence diagram of {style.method entry.name} in {entry.uri}"⟩

/-- The line that a protocol ends with, given the lines of what was skipped. -/
def Provider.closingLine (p : Provider) (s : Settings) (d : Diagram) (calls : List NotedCall)
    (skipped : List TraceLine) : TraceLine :=
  let messages := 2 * callCount d.messages + noteCount d.messages
  let visited := 1 + calls.countP (s.visits ·.message.number)
  let failed := (d.entry :: calls.map (·.site.target)).countP (p.isUnanalyzable s)
  ⟨.info, s!"✓ Sequence diagram built: {d.registry.size} participants, "
    ++ s!"{messages} messages ({visited} nodes visited, {skipped.length} calls skipped, "
    ++ s!"{failed} nodes failed)"⟩

/-! ## The level of a protocol -/

namespace Walk

variable {α β : Type} {step : Walk α} {next : α → Walk β}

/-- A step leaves the style of tracing as it was, whether it is cancelled or not. -/
def KeepsStyle (step : Walk α) : Prop :=
  ∀ σ, (outcome step σ).2.style = σ.style

theorem KeepsStyle.returns (keeps : KeepsStyle step) {σ τ : TraversalState} {a : α}
    (ran : Returns step σ a τ) : τ.style = σ.style := by
  have kept := keeps σ
  rwa [show outcome step σ = (.ok a, τ) from ran] at kept

theorem KeepsStyle.bind (first : KeepsStyle step) (rest : ∀ a, KeepsStyle (next a)) :
    KeepsStyle (step >>= next) := by
  intro σ
  have kept := first σ
  rw [outcome_bind]
  rcases ended : outcome step σ with ⟨_ | a, ρ⟩
  · rwa [ended] at kept
  · rw [ended] at kept
    exact (rest a ρ).trans kept

theorem KeepsStyle.of_total (total : Total step)
    (kept : ∀ {σ a τ}, Returns step σ a τ → τ.style = σ.style) : KeepsStyle step := by
  intro σ
  obtain ⟨a, τ, ran⟩ := total σ
  rw [show outcome step σ = (.ok a, τ) from ran]
  exact kept ran

theorem keepsStyle_pure (a : α) : KeepsStyle (pure a) :=
  fun _ => rfl

theorem keepsStyle_get : KeepsStyle get :=
  fun _ => rfl

theorem keepsStyle_modify {f : TraversalState → TraversalState}
    (kept : ∀ σ, (f σ).style = σ.style) : KeepsStyle (modify f) :=
  kept

end Walk

namespace Traversal

variable {t : Traversal} {σ ρ τ : TraversalState}

/-- One level deeper and back again, on every way out. -/
theorem keepsStyle_deeper {α : Type} {step : Walk α} (keeps : KeepsStyle step) :
    KeepsStyle (deeper step) := by
  intro σ
  rw [outcome_deeper]
  exact congrArg TraceStyle.outdent (keeps _)

theorem keepsStyle_noteCall (text : TraceStyle → String) : KeepsStyle (noteCall text) :=
  keepsStyle_modify fun _ => rfl

theorem keepsStyle_checkCancelled (t : Traversal) : KeepsStyle t.checkCancelled := by
  unfold checkCancelled
  cases t.cancelAt with
  | none => exact keepsStyle_pure ()
  | some question =>
      refine keepsStyle_get.bind fun σ => ?_
      split
      · exact fun _ => rfl
      · exact keepsStyle_pure _

theorem style_withClass (t : Traversal) (σ : TraversalState) (item : Item) :
    (t.withClass σ item).style = σ.style := by
  unfold withClass
  split <;> rfl

theorem keepsStyle_participant (t : Traversal) (item : Item) (objectName : String) :
    KeepsStyle (t.participant item objectName) := by
  refine .of_total (total_participant t item objectName) fun {σ _ _} looked => ?_
  obtain ⟨-, rfl⟩ := returns_participant.mp looked
  exact style_withClass t σ item

theorem keepsStyle_shownSites (t : Traversal) (node : Item) (probing : Bool) :
    KeepsStyle (t.shownSites node probing) := by
  refine .of_total (total_shownSites t node probing) fun listed => ?_
  obtain ⟨-, _, _, _, rfl⟩ := returns_shownSites listed
  rfl

theorem keepsStyle_messagesOf {below : Item → (name number : String) → Walk Nested}
    (deep : ∀ item name number, KeepsStyle (below item name number)) (node : Item)
    (name number : String) (caller : Participant) (sites : List (CallSite × Nat)) :
    KeepsStyle (t.messagesOf below node name number caller sites) := by
  induction sites with
  | nil => exact keepsStyle_pure []
  | cons c sites ih =>
      rw [messagesOf]
      refine (keepsStyle_participant t _ _).bind fun callee => ?_
      refine (keepsStyle_noteCall _).bind fun _ => ?_
      refine (keepsStyle_deeper (deep _ _ _)).bind fun nested => ?_
      exact ih.bind fun rest => keepsStyle_pure _

theorem keepsStyle_visit (t : Traversal) (depth : Nat) (node : Item) (name number : String) :
    KeepsStyle (t.visit depth node name number) := by
  induction depth generalizing node name number with
  | zero =>
      rw [visit]
      refine (keepsStyle_checkCancelled t).bind fun _ => ?_
      exact (keepsStyle_shownSites t _ _).bind fun sites => keepsStyle_pure _
  | succ depth ih =>
      rw [visit]
      refine (keepsStyle_checkCancelled t).bind fun _ => ?_
      refine KeepsStyle.bind (keepsStyle_modify ?kept) fun _ => ?_
      case kept => exact fun _ => rfl
      refine (keepsStyle_shownSites t _ _).bind fun sites => ?_
      split
      · exact keepsStyle_pure _
      · refine (keepsStyle_participant t _ _).bind fun caller => ?_
        exact (keepsStyle_messagesOf ih _ _ _ _ _).bind fun ms => keepsStyle_pure _

/-! ## What a part of a traversal tells -/

theorem objectName_participant {item : Item} {objectName : String} {p : Participant}
    (looked : Returns (t.participant item objectName) σ p τ) : p.key.objectName = objectName := by
  obtain ⟨rfl, -⟩ := returns_participant.mp looked
  rw [Registry.register_toParticipant]
  rfl

/-- What is added to the protocol and to the counts. -/
structure Tells (σ τ : TraversalState) (lines : List TraceLine) (visited skipped failed : Nat) :
    Prop where
  lines : infos τ.trace = infos σ.trace ++ lines
  visited : τ.visited = σ.visited + visited
  skipped : τ.skipped = σ.skipped + skipped
  failed : τ.failed = σ.failed + failed

theorem Tells.refl (σ : TraversalState) : Tells σ σ [] 0 0 0 :=
  ⟨(List.append_nil _).symm, rfl, rfl, rfl⟩

theorem Tells.trans {lines others : List TraceLine} {v v' s s' f f' : Nat}
    (first : Tells σ ρ lines v s f) (second : Tells ρ τ others v' s' f') :
    Tells σ τ (lines ++ others) (v + v') (s + s') (f + f') where
  lines := by rw [second.lines, first.lines, List.append_assoc]
  visited := by rw [second.visited, first.visited, Nat.add_assoc]
  skipped := by rw [second.skipped, first.skipped, Nat.add_assoc]
  failed := by rw [second.failed, first.failed, Nat.add_assoc]

theorem tells_withClass (t : Traversal) (σ : TraversalState) (item : Item) :
    Tells σ (t.withClass σ item) [] 0 0 0 := by
  have warned : infos (t.provider.classNotes item) = [] := by
    unfold Provider.classNotes
    split <;> rfl
  unfold withClass
  split
  · exact .refl σ
  · exact ⟨by simp [warned], rfl, rfl, rfl⟩

theorem tells_participant {item : Item} {objectName : String} {p : Participant}
    (looked : Returns (t.participant item objectName) σ p τ) : Tells σ τ [] 0 0 0 := by
  obtain ⟨-, rfl⟩ := returns_participant.mp looked
  obtain ⟨lines, visited, skipped, failed⟩ := tells_withClass t σ item
  exact ⟨lines, visited, skipped, failed⟩

variable {p : Provider} {s : Settings} {cancelAt : Option Nat} {base : TraceStyle} {entry : Item}

/-- Skipped call sites are told and counted, unless the function is only probed. -/
theorem tells_surviving {node : Item} {probing : Bool} {sites : List (CallSite × Nat)}
    {kept : List CallSite}
    (ran : Returns ((p.traversal s cancelAt).surviving node probing sites) σ kept τ) :
    let lines := if probing then [] else p.skipLinesAmong s σ.style node sites
    Tells σ τ lines 0 lines.length 0 := by
  induction sites generalizing σ kept with
  | nil =>
      obtain ⟨-, rfl⟩ := returns_pure.mp ran
      cases probing <;> exact .refl τ
  | cons c sites ih =>
      obtain ⟨site, place⟩ := c
      unfold surviving at ran
      cases reason : skipReason? site.target.kind site.target.uri
          (p.traversal s cancelAt).rules with
      | none =>
          have shown : skipReason? site.target.kind site.target.uri (p.traversal s).rules = none :=
            reason
          simp only [reason, returns_bind] at ran
          obtain ⟨others, ρ, ran, ended⟩ := ran
          obtain ⟨-, rfl⟩ := returns_pure.mp ended
          simpa [Provider.skipLinesAmong, shown] using ih ran
      | some reason' =>
          have hidden : skipReason? site.target.kind site.target.uri (p.traversal s).rules =
            some reason' := reason
          simp only [reason] at ran
          cases probing with
          | true => exact ih ran
          | false =>
              simp only [Bool.not_false, if_true, returns_modify_bind, noteCall] at ran
              let line := skipLine σ.style node site.target place reason'
              have told : Tells σ { σ with skipped := σ.skipped + 1, trace := σ.trace ++ [line] }
                  [line] 0 1 0 := ⟨infos_append .., rfl, rfl, rfl⟩
              simpa [Provider.skipLinesAmong, hidden, Nat.add_comm] using told.trans (ih ran)

theorem tells_shownSites {node : Item} {probing : Bool} {sites : List CallSite}
    (ran : Returns ((p.traversal s cancelAt).shownSites node probing) σ sites τ) :
    let lines := if probing then []
      else p.skipLinesAmong s σ.style node ((p.sitesInOrder s node).zipIdx 1)
    Tells σ τ lines 0 lines.length (if p.isUnanalyzable s node then 1 else 0) := by
  unfold shownSites at ran
  rw [returns_modify_bind] at ran
  unfold Provider.sitesInOrder Provider.isUnanalyzable
  cases listed : p.callSites s node with
  | error e =>
      have failing : (p.traversal s cancelAt).provider.callSites (p.traversal s cancelAt).settings
          node = .error e := listed
      simp only [failing, returns_modify_bind, note] at ran
      obtain ⟨-, rfl⟩ := returns_pure.mp ran
      have silent : ∀ line : TraceLine, line.severity = .warning → infos [line] = [] := by
        intro line warns
        simp [infos, warns]
      cases probing <;>
        exact ⟨by simp [silent, Provider.skipLinesAmong], rfl, rfl, rfl⟩
  | ok answer =>
      obtain ⟨all, warnings⟩ := answer
      have answered : (p.traversal s cancelAt).provider.callSites
          (p.traversal s cancelAt).settings node = .ok (all, warnings) := listed
      simp only [answered] at ran
      rw [returns_bind_of (returns_notes (u := ⟨⟩).mpr rfl)] at ran
      have silent : infos (warnings.map fun w => ⟨.warning, w.message⟩) = [] := by
        simp [infos]
      obtain ⟨lines, visited, skipped, failed⟩ := tells_surviving ran
      exact ⟨by simpa [silent] using lines, visited, skipped, failed⟩

/-- The calls among some messages, with their sites, and all that is told of them. -/
structure Told (p : Provider) (s : Settings) (base : TraceStyle) (entry : Item)
    (σ τ : TraversalState) (messages : List Message) (calls : List NotedCall) : Prop where
  all : calls.map (·.message) = messages.filter (·.kind = .call)
  shows : ∀ c ∈ calls, p.Shows s entry c
  tells : Tells σ τ (p.linesOf s base calls) (calls.countP (s.visits ·.message.number))
    (p.skipLinesBelow s base calls).length (calls.countP (p.isUnanalyzable s ·.site.target))

/-- What is told of a function itself when it is entered, before any of its calls. -/
def Enters (p : Provider) (s : Settings) (base : TraceStyle) (number : String) (node : Item)
    (σ τ : TraversalState) : Prop :=
  Tells σ τ (p.skipLines s base number node) (if s.visits number then 1 else 0)
    (p.skipLines s base number node).length (if p.isUnanalyzable s node then 1 else 0)

theorem Told.nil (σ : TraversalState) : Told p s base entry σ σ [] [] :=
  ⟨rfl, by simp, .refl σ⟩

theorem filter_block (s : Settings) (caller callee : Participant) (site : CallSite)
    (number : String) (nested : Nested) :
    (block s caller callee site number nested).filter (·.kind = .call) =
      ⟨caller, callee, label s site, number, .call⟩
        :: (shownMessages nested).filter (·.kind = .call) := by
  rw [block_eq]
  cases nested <;> simp [shownMessages]

theorem Told.after {messages : List Message} {calls : List NotedCall}
    (silent : Tells σ ρ [] 0 0 0) (told : Told p s base entry ρ τ messages calls) :
    Told p s base entry σ τ messages calls :=
  ⟨told.all, told.shows, by simpa using silent.trans told.tells⟩

/-- The line of a call, what is told of its target, of the calls below, and of the calls behind. -/
theorem Told.cons {ρ₁ ρ₂ ρ₃ : TraversalState} {c : NotedCall} {nested : Nested}
    {rest : List Message} {inner others : List NotedCall}
    (shown : p.Shows s entry c) (labelled : c.message = ⟨c.message.sender, c.message.receiver,
      label s c.site, c.message.number, .call⟩)
    (noted : Tells σ ρ₁ [c.line base] 0 0 0)
    (enters : Enters p s base c.message.number c.site.target ρ₁ ρ₂)
    (below : Told p s base entry ρ₂ ρ₃ (shownMessages nested) inner)
    (behind : Told p s base entry ρ₃ τ rest others) :
    Told p s base entry σ τ
      (block s c.message.sender c.message.receiver c.site c.message.number nested ++ rest)
      (c :: inner ++ others) where
  all := by
    rw [List.filter_append, filter_block, ← labelled, ← below.all, ← behind.all]
    simp
  shows := by
    simpa [or_imp, forall_and] using ⟨shown, below.shows, behind.shows⟩
  tells := by
    have told := noted.trans (enters.trans (below.tells.trans behind.tells))
    simpa [Provider.linesOf, Provider.skipLinesBelow, List.countP_cons, Nat.add_assoc,
      Nat.add_comm, Nat.add_left_comm] using told

theorem told_messagesOf {below : Item → (name number : String) → Walk Nested}
    (levelled : ∀ item name number, KeepsStyle (below item name number))
    {node : Item} {name number : String} (leads : p.Targets s entry number node name)
    (deep : ∀ {item name' number' σ nested τ},
      Returns (below item name' number') σ nested τ →
      numberDepth number' = numberDepth number + 1 → p.Targets s entry number' item name' →
      σ.style = base.at (numberDepth number') →
      ∃ ρ inner, Enters p s base number' item σ ρ ∧
        Told p s base entry ρ τ (shownMessages nested) inner)
    {caller : Participant} (named : caller.key.objectName = name)
    {sites : List (CallSite × Nat)} (listed : ∀ c ∈ sites, c ∈ (p.shownCalls s node).zipIdx 1)
    {ms : List Message} (level : σ.style = base.at (numberDepth number))
    (ran : Returns ((p.traversal s cancelAt).messagesOf below node name number caller sites) σ ms τ) :
    ∃ calls, Told p s base entry σ τ ms calls := by
  induction sites generalizing σ ms with
  | nil =>
      obtain ⟨rfl, rfl⟩ := returns_messagesOf_nil.mp ran
      exact ⟨[], .nil τ⟩
  | cons site sites ih =>
      obtain ⟨site, index⟩ := site
      obtain ⟨callee, ρ, nested, ρ', rest, looked, went, others, rfl⟩ :=
        returns_messagesOf_cons.mp ran
      let c : NotedCall :=
        ⟨node, ⟨caller, callee, label s site, numberBelow number index, .call⟩, site⟩
      have member := listed _ List.mem_cons_self
      have found := objectName_participant looked
      have shown : p.Shows s entry c :=
        ⟨⟨number, index, named ▸ leads, member, rfl⟩, named ▸ found⟩
      have deeper : numberDepth (numberBelow number index) = numberDepth number + 1 :=
        numberDepth_numberBelow number index
      have sameLevel : ρ.style = base.at (numberDepth number) :=
        ((keepsStyle_participant _ _ _).returns looked).trans level
      have nextLevel : ρ.style.indent = base.at (numberDepth (numberBelow number index)) := by
        rw [sameLevel, deeper]
        rfl
      have noted : Tells ρ (announcing (callText caller callee node site.target
          (numberBelow number index)) ρ) [c.line base] 0 0 0 := by
        refine ⟨?_, rfl, rfl, rfl⟩
        rw [announcing, sameLevel, NotedCall.line]
        simp only [infos_append, deeper, Nat.add_sub_cancel, c]
        rfl
      obtain ⟨ρ₁, inner, enters, told⟩ := deep went deeper (leads.call member) nextLevel
      have back : ρ'.style.outdent = base.at (numberDepth number) := by
        rw [(levelled _ _ _).returns went]
        exact sameLevel
      obtain ⟨calls, behind⟩ :=
        ih (fun c member => listed c (List.mem_cons_of_mem _ member)) back others
      have first : Tells σ _ [c.line base] 0 0 0 := (tells_participant looked).trans noted
      have told' : Told p s base entry ρ₁ { ρ' with style := ρ'.style.outdent }
          (shownMessages nested) inner :=
        ⟨told.all, told.shows, ⟨told.tells.1, told.tells.2, told.tells.3, told.tells.4⟩⟩
      exact ⟨_, .cons shown rfl first enters told' behind⟩

/-- A visit tells of the function and of the calls that it shows below. -/
theorem told_visit {depth : Nat} {node : Item} {name number : String} {nested : Nested}
    (levels : numberDepth number + depth = s.maxCallDepth.val)
    (leads : p.Targets s entry number node name)
    (level : σ.style = base.at (numberDepth number))
    (ran : Returns ((p.traversal s cancelAt).visit depth node name number) σ nested τ) :
    ∃ ρ calls, Enters p s base number node σ ρ ∧
      Told p s base entry ρ τ (shownMessages nested) calls := by
  induction depth generalizing node name number nested σ τ with
  | zero =>
      obtain ⟨-, sites, listed, rfl⟩ := returns_visit_zero.mp ran
      have probed : s.visits number = false := by
        simp only [Settings.visits, decide_eq_false_iff_not]
        omega
      have nothing : shownMessages (if sites.isEmpty then .shown [] else .truncated) = [] := by
        split <;> rfl
      rw [nothing]
      refine ⟨τ, [], ?_, .nil τ⟩
      simpa [Enters, Provider.skipLines, probed] using tells_shownSites listed
  | succ depth ih =>
      obtain ⟨-, sites, ρ, listed, rest⟩ := returns_visit_succ.mp ran
      have visited : s.visits number = true := by
        simp only [Settings.visits, decide_eq_true_eq]
        omega
      have enters : Enters p s base number node σ ρ := by
        have counted : Tells σ { σ with visited := σ.visited + 1 } [] 1 0 0 :=
          ⟨(List.append_nil _).symm, rfl, rfl, rfl⟩
        have told := counted.trans (tells_shownSites listed)
        simpa [Enters, Provider.skipLines, visited, level] using told
      have sameLevel : ρ.style = σ.style := ((keepsStyle_shownSites _ _ _).returns listed :)
      rcases rest with ⟨-, rfl, rfl⟩ | ⟨-, caller, ρ', ms, looked, others, rfl⟩
      · exact ⟨τ, [], enters, .nil τ⟩
      · have named := objectName_participant looked
        have sameLevel' : ρ'.style = base.at (numberDepth number) := by
          rw [(keepsStyle_participant _ _ _).returns looked, sameLevel, level]
        obtain ⟨rfl, -⟩ := returns_shownSites listed
        obtain ⟨calls, told⟩ := told_messagesOf (keepsStyle_visit _ depth) leads
          (fun went deeper leads level => ih (by omega) leads level went) named
          (fun _ member => member) sameLevel' others
        exact ⟨ρ, calls, enters, told.after (tells_participant looked)⟩

/-! ## What a whole traversal tells -/

/-- A build from a fresh state tells of the entry, of its calls, and in the end of their counts. -/
theorem told_build {d : Diagram} (new : σ.registry = {}) (unnamed : σ.classNames = [])
    (silent : infos σ.trace = []) (uncounted : σ.visited = 0 ∧ σ.skipped = 0 ∧ σ.failed = 0)
    (ran : Returns ((p.traversal s cancelAt).build entry) σ d τ) :
    ∃ calls, calls.map (·.message) = d.calls ∧ (∀ c ∈ calls, p.Shows s entry c) ∧
      infos τ.trace = startLine σ.style entry ::
        (p.skipLines s σ.style "" entry ++ p.linesOf s σ.style calls) ++
        [p.closingLine s d calls
          (p.skipLines s σ.style "" entry ++ p.skipLinesBelow s σ.style calls)] := by
  obtain ⟨_, finished⟩ := finished_build new unnamed ran
  have length := finished.block.length
  obtain ⟨first, ρ, nested, ρ', looked, went, rfl, rfl⟩ := returns_build.mp ran
  have level : ρ.style = σ.style.at (numberDepth "") := by
    rw [((keepsStyle_participant _ _ _).returns looked :), numberDepth_empty]
    rfl
  have leads : p.Targets s entry "" entry entry.name := .entry
  have levels : numberDepth "" + s.maxCallDepth.val = s.maxCallDepth.val := by simp
  obtain ⟨ρ₁, calls, enters, told⟩ := told_visit levels leads level went
  have entered : s.visits "" = true := by
    have positive := s.maxCallDepth.property.1
    simp only [Settings.visits, numberDepth_empty, decide_eq_true_eq]
    omega
  obtain ⟨lines, visited, skipped, failed⟩ :=
    (tells_participant looked).trans (enters.trans told.tells)
  have begun : infos (starting entry σ).trace = [startLine σ.style entry] := by
    rw [starting, infos_append, silent]
    rfl
  refine ⟨calls, told.all, told.shows, ?_⟩
  rw [(tells_withClass _ _ _).lines, List.append_nil, finishing, infos_append, lines, begun]
  have counts : ρ'.visited = 1 + calls.countP (s.visits ·.message.number) ∧
      ρ'.skipped = (p.skipLines s σ.style "" entry ++ p.skipLinesBelow s σ.style calls).length ∧
      ρ'.failed = (entry :: calls.map (·.site.target)).countP (p.isUnanalyzable s) := by
    simp only [starting, uncounted, entered, if_true, Nat.zero_add] at visited skipped failed
    refine ⟨visited, by rw [skipped, List.length_append], ?_⟩
    rw [failed, List.countP_cons, List.countP_map, Nat.add_comm]
    rfl
  obtain ⟨counted, omitted, lost⟩ := counts
  change (shownMessages nested).length = _ at length
  rw [counted, omitted, lost, length]
  simp [infos, Provider.closingLine, diagramOf]

theorem keepsStyle_className (t : Traversal) (item : Item) : KeepsStyle (t.className item) := by
  refine .of_total (fun σ => ⟨_, _, returns_className.mpr ⟨rfl, rfl⟩⟩) fun {σ _ _} looked => ?_
  obtain ⟨-, rfl⟩ := returns_className.mp looked
  exact style_withClass t σ item

/-- A build begins at the level of the outermost call, whatever was built before. -/
theorem outcome_build_reset (t : Traversal) (entry : Item) (σ : TraversalState) :
    outcome (t.build entry) σ = outcome (t.build entry) { σ with style := σ.style.reset } := by
  rw [build, outcome_bind, outcome_bind]
  rfl

/-- A build leaves the level of the outermost call behind, whether it is cancelled or not. -/
theorem style_build (t : Traversal) (entry : Item) (σ : TraversalState) :
    (outcome (t.build entry) σ).2.style = σ.style.reset := by
  have silent : ∀ text, KeepsStyle (note .info text) := fun _ => keepsStyle_modify fun _ => rfl
  rw [build, outcome_bind]
  refine KeepsStyle.bind (keepsStyle_noteCall _) (fun _ => ?_) { σ with style := σ.style.reset }
  refine (keepsStyle_participant t entry entry.name).bind fun _ => ?_
  refine (keepsStyle_visit t _ entry entry.name "").bind fun nested => ?_
  cases nested
  all_goals
    simp only [pure_bind]
    refine KeepsStyle.bind (keepsStyle_modify fun _ => rfl) fun _ => keepsStyle_get.bind fun _ => ?_
    refine (silent _).bind fun _ => (keepsStyle_className t entry).bind fun _ => ?_
    exact keepsStyle_get.bind fun _ => keepsStyle_pure _

end Traversal

/-! ## One build after another -/

/-- What builds diagrams one after another. From one build to the next it only keeps the style of its
protocol. -/
structure Engine where
  provider : Provider
  settings : Settings
  style : TraceStyle := {}

namespace Engine

/-- The engine as it is before its first build. -/
def fresh (e : Engine) : Engine :=
  { e with style := e.style.reset }

/-- The state that a build begins with. -/
def begun (e : Engine) : TraversalState :=
  { style := e.style, trace := (e.provider.roots e.settings).2 }

/-- A diagram or a cancellation, with its protocol, and the engine afterwards. -/
def build (e : Engine) (entry : Item) (cancelAt : Option Nat) :
    (Except Cancelled Diagram × List TraceLine) × Engine :=
  let (result, σ) := outcome ((e.provider.traversal e.settings cancelAt).build entry) e.begun
  ((result, σ.trace), { e with style := σ.style })

def buildAll (e : Engine) :
    List (Item × Option Nat) → List (Except Cancelled Diagram × List TraceLine)
  | [] => []
  | (entry, cancelAt) :: jobs => (e.build entry cancelAt).1 :: (e.build entry cancelAt).2.buildAll jobs

theorem diagram_eq_build (p : Provider) (s : Settings) (entry : Item) (cancelAt : Option Nat) :
    p.diagram s entry cancelAt = (build { provider := p, settings := s } entry cancelAt).1 := rfl

/-- The infos of a build that ends with a diagram, given its calls with their sites. -/
structure Protocol (e : Engine) (d : Diagram) (trace : List TraceLine) (calls : List NotedCall) :
    Prop where
  /-- There is a site for every call. -/
  all : calls.map (·.message) = d.calls
  shows : ∀ c ∈ calls, e.provider.Shows e.settings d.entry c
  lines : infos trace = startLine e.style d.entry ::
    (e.provider.skipLines e.settings e.style "" d.entry
        ++ e.provider.linesOf e.settings e.style calls)
      ++ [e.provider.closingLine e.settings d calls
        (e.provider.skipLines e.settings e.style "" d.entry
          ++ e.provider.skipLinesBelow e.settings e.style calls)]

theorem build_fresh (e : Engine) (entry : Item) (cancelAt : Option Nat) :
    e.fresh.build entry cancelAt = e.build entry cancelAt := by
  have same := Traversal.outcome_build_reset (e.provider.traversal e.settings cancelAt) entry e.begun
  rw [build, build, same]
  rfl

theorem build_leaves_fresh (e : Engine) (entry : Item) (cancelAt : Option Nat) :
    (e.build entry cancelAt).2 = e.fresh := by
  have style := Traversal.style_build (e.provider.traversal e.settings cancelAt) entry e.begun
  exact congrArg (Engine.mk e.provider e.settings) style

theorem buildAll_eq (e : Engine) (jobs : List (Item × Option Nat)) :
    e.buildAll jobs = jobs.map fun job => (e.fresh.build job.1 job.2).1 := by
  induction jobs generalizing e with
  | nil => rfl
  | cons job jobs ih =>
      rw [buildAll, build_leaves_fresh, ih, List.map_cons, build_fresh]
      rfl

theorem protocol_of_built {e : Engine} {entry : Item} {cancelAt : Option Nat} {d : Diagram}
    (built : (e.build entry cancelAt).1.1 = .ok d) :
    ∃ calls, d.entry = entry ∧ e.Protocol d (e.build entry cancelAt).1.2 calls := by
  have ran : Returns ((e.provider.traversal e.settings cancelAt).build entry)
      e.begun d _ := Prod.ext built rfl
  have silent : infos (e.provider.roots e.settings).2 = [] := by
    unfold Provider.roots
    split
    · rfl
    · split <;> rfl
  obtain ⟨_, finished⟩ := Traversal.finished_build rfl rfl ran
  obtain ⟨calls, all, shows, lines⟩ :=
    Traversal.told_build rfl rfl silent ⟨rfl, rfl, rfl⟩ ran
  obtain rfl := finished.entry_eq
  exact ⟨calls, rfl, all, shows, lines⟩

/-- Every build leaves the level of the outermost call behind, so that a sequence of builds gives
what as many fresh engines give; and the infos of every diagram are those of its calls. -/
theorem protocols (e : Engine) :
    (∀ entry cancelAt, (e.build entry cancelAt).2.style.level = 0) ∧
      (∀ jobs, e.buildAll jobs = jobs.map fun job => (e.fresh.build job.1 job.2).1) ∧
      ∀ entry cancelAt d, (e.build entry cancelAt).1.1 = .ok d →
        d.entry = entry ∧ ∃ calls, e.Protocol d (e.build entry cancelAt).1.2 calls := by
  refine ⟨fun entry cancelAt => ?_, e.buildAll_eq, fun entry cancelAt d built => ?_⟩
  · rw [build_leaves_fresh]
    rfl
  · obtain ⟨calls, entered, protocol⟩ := protocol_of_built built
    exact ⟨entered, calls, protocol⟩

/-- A build that begins as deep as a cancelled one might have left it. -/
theorem countdown_protocols :
    let e : Engine :=
      { provider := .countdown, settings := { maxCallDepth := ⟨2, by decide⟩ }, style := { level := 3 } }
    (∃ d, (e.build .countdown none).1.1 = .ok d ∧
      ∃ calls, e.Protocol d (e.build .countdown none).1.2 calls) ∧
    (infos (e.build .countdown none).1.2).map (·.text) =
      ["Building sequence diagram of count() in /w/a.py",
        "Call 1: a.count() ->> a.count()",
        "  Call 1.1: a.count() ->> a.count()",
        "✓ Sequence diagram built: 2 participants, 5 messages "
          ++ "(2 nodes visited, 0 calls skipped, 0 nodes failed)"] := by
  intro e
  constructor
  · obtain ⟨d, built⟩ := Provider.countdown.diagram_built e.settings .countdown
    have built' : (e.build .countdown none).1.1 = .ok d := by
      rw [← build_fresh]
      exact built
    exact ⟨d, built', (e.protocols.2.2 .countdown none d built').2⟩
  · decide +kernel

end Engine

end CallDiagram
