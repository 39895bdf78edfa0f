import CallDiagram.Proofs.Traversal.Drawing

/-! # Lost workspace roots

The roots of a workspace are used twice: they shorten the names of files, and they tell which calls
leave the workspace. A provider that cannot tell its roots therefore only gives longer names as long
as calls may leave the workspace. Where they may not, every call counts as one that leaves it, and
nothing is shown.
-/

namespace CallDiagram

open Traversal

/-- A provider that cannot tell its roots. -/
def Provider.rootless (p : Provider) (cause : ProviderError) : Provider :=
  { p with workspaceRoots := .error cause }

/-- Calls may leave the workspace. -/
def Settings.unrestricted (s : Settings) : Settings :=
  { s with ignoreNonWorkspaceFiles := false }

/-- All calls that a provider tells of lead to files below one of the roots. -/
def Provider.StaysWithin (p : Provider) (roots : List String) : Prop :=
  ∀ function calls, p.outgoingCalls function = .ok calls → ∀ call ∈ calls,
    ∃ root ∈ roots, ((Path.ofString call.target.uri).relativeTo? (Path.ofString root)).isSome

/-- Two messages that differ in their participants at most, and those are related. -/
structure Message.Relates (R : Participant → Participant → Prop) (m other : Message) : Prop where
  kind : m.kind = other.kind
  number : m.number = other.number
  label : m.label = other.label
  sender : R m.sender other.sender
  receiver : R m.receiver other.receiver

/-- A participant is known by the path of its file instead of the path below a root. -/
def Provider.Relocates (p : Provider) (entry : Item) (root : String) (a b : Participant) : Prop :=
  a.key.className = b.key.className ∧ a.key.objectName = b.key.objectName ∧
    ∃ item, p.Reaches entry item ∧ a.key.path = relativeNamespace item.uri root ∧
      b.key.path = (Path.ofString item.uri).toString

/-! ## The two uses of the roots -/

theorem relativeNamespace_empty (uri : String) :
    relativeNamespace uri "" = (Path.ofString uri).toString := by
  rw [relativeNamespace, if_pos rfl]

/-- Where calls may leave the workspace, its roots do not matter. -/
theorem skipReason?_unrestricted (kind : SymbolKind) (uri : String) {c : SkipConfiguration}
    (free : c.restrictToWorkspace = false) (roots : List String) :
    skipReason? kind uri { c with workspaceRoots := roots } = skipReason? kind uri c := by
  simp only [skipReason?, free, Bool.false_and]

/-- Within the workspace nothing is skipped for leaving it. -/
theorem skipReason?_within (kind : SymbolKind) {uri : String} {c : SkipConfiguration}
    (within : ∃ root ∈ c.workspaceRoots,
      ((Path.ofString uri).relativeTo? (Path.ofString root)).isSome) :
    skipReason? kind uri { c with restrictToWorkspace := false } = skipReason? kind uri c := by
  have inside : c.workspaceRoots.any
      (fun root => ((Path.ofString uri).relativeTo? (Path.ofString root)).isSome) = true :=
    List.any_eq_true.mpr within
  simp only [skipReason?, inside, Bool.not_true, Bool.and_false]

theorem isSome_skipReason?_of_no_roots (kind : SymbolKind) (uri : String) {c : SkipConfiguration}
    (restricted : c.restrictToWorkspace = true) (lost : c.workspaceRoots = []) :
    (skipReason? kind uri c).isSome := by
  unfold skipReason?
  split
  · rfl
  · split
    · rfl
    · simp [restricted, lost]

/-! ## Messages of related participants -/

namespace Traversal

variable {t : Traversal} {who who' : Item → (objectName : String) → Participant}
  {R : Participant → Participant → Prop}

theorem inside_relates {entry : Item}
    (related : ∀ item, t.provider.Reaches entry item → ∀ objectName,
      R (who item objectName) (who' item objectName))
    (depth : Nat) {node : Item} (reached : t.provider.Reaches entry node) (name number : String)
    {callee callee' : Participant} (called : R callee callee') (callNumber : String) :
    List.Forall₂ (Message.Relates R)
      (inside callee callNumber (t.outline who depth node name number))
      (inside callee' callNumber (t.outline who' depth node name number)) := by
  induction depth generalizing node name number callee callee' callNumber with
  | zero =>
      unfold outline
      split
      · exact .nil
      · exact .cons ⟨rfl, rfl, rfl, called, called⟩ .nil
  | succ depth ih =>
      rw [outline_succ, outline_succ, inside_shown, inside_shown]
      have same : List.Forall₂ (fun c c' => c = c' ∧ c ∈ (t.keptSites node).zipIdx 1)
          ((t.keptSites node).zipIdx 1) ((t.keptSites node).zipIdx 1) :=
        List.forall₂_same.mpr fun c listed => ⟨rfl, listed⟩
      refine List.rel_flatMap same fun c c' both => ?_
      obtain ⟨rfl, listed⟩ := both
      have target := reaches_keptSites reached (List.fst_mem_of_mem_zipIdx listed)
      have caller := related node reached name
      have receiver := related c.1.target target (objectName name c.1.reading.qualifier)
      rw [callMessages_eq, callMessages_eq, List.cons_append, List.cons_append]
      refine .cons ⟨rfl, rfl, rfl, caller, receiver⟩ ?_
      exact List.rel_append (ih target _ _ receiver _)
        (.cons ⟨rfl, rfl, rfl, receiver, caller⟩ .nil)

theorem messagesFor_relates {entry : Item}
    (related : ∀ item, t.provider.Reaches entry item → ∀ objectName,
      R (who item objectName) (who' item objectName)) :
    List.Forall₂ (Message.Relates R) (t.messagesFor entry who) (t.messagesFor entry who') := by
  obtain ⟨depth, positive⟩ := Nat.exists_eq_add_of_le' t.settings.maxCallDepth.property.1
  have inside := inside_relates related (depth + 1) .entry entry.name ""
    (related entry .entry entry.name) ""
  rw [messagesFor, messagesFor, positive]
  exact inside

theorem messages_of_leaf {entry : Item} (leaf : t.keptSites entry = []) :
    (t.drawing entry).messages = [] := by
  obtain ⟨depth, positive⟩ := Nat.exists_eq_add_of_le' t.settings.maxCallDepth.property.1
  rw [drawing, messagesFor, positive, outline_succ, leaf]
  rfl

end Traversal

namespace Provider

variable {p : Provider} {s : Settings} {roots : List String}

theorem rules_of_roots (unset : s.workspaceRoots = []) (known : p.workspaceRoots = .ok roots) :
    (p.traversal s).rules = { SkipConfiguration.ofSettings s [] with workspaceRoots := roots } := by
  simp [traversal, Provider.roots, SkipConfiguration.ofSettings, unset, known]

theorem root_of_roots (unset : s.workspaceRoots = []) (known : p.workspaceRoots = .ok roots) :
    (p.traversal s).root = commonRoot roots := by
  simp [traversal, Provider.roots, unset, known]

theorem rules_rootless (p : Provider) (cause : ProviderError) (unset : s.workspaceRoots = []) :
    ((p.rootless cause).traversal s).rules = SkipConfiguration.ofSettings s [] := by
  simp [traversal, Provider.roots, rootless, unset]

theorem root_rootless (p : Provider) (cause : ProviderError) (unset : s.workspaceRoots = []) :
    ((p.rootless cause).traversal s).root = "" := by
  simp [traversal, Provider.roots, rootless, unset, commonRoot]

/-- Within the roots the same calls are kept with them as without roots and restriction. -/
theorem keptSites_unrestricted (unset : s.workspaceRoots = [])
    (known : p.workspaceRoots = .ok roots) (within : p.StaysWithin roots) (cause : ProviderError)
    (node : Item) :
    (p.traversal s).keptSites node =
      ((p.rootless cause).traversal s.unrestricted).keptSites node := by
  let c := SkipConfiguration.ofSettings s []
  have keeps : ∀ site : CallSite, (∃ calls, p.outgoingCalls node = .ok calls ∧
      ∃ call ∈ calls, call.target = site.target) →
      (p.traversal s).keeps site = ((p.rootless cause).traversal s.unrestricted).keeps site := by
    rintro site ⟨calls, answered, call, member, same⟩
    have below := within node calls answered call member
    rw [same] at below
    rw [Traversal.keeps, Traversal.keeps, rules_of_roots unset known,
      rules_rootless (s := s.unrestricted) p cause unset]
    refine congrArg Option.isNone ?_
    calc
      skipReason? site.target.kind site.target.uri { c with workspaceRoots := roots }
        = skipReason? site.target.kind site.target.uri
            { c with workspaceRoots := roots, restrictToWorkspace := false } :=
          (skipReason?_within (c := { c with workspaceRoots := roots }) _ below).symm
      _ = skipReason? site.target.kind site.target.uri { c with restrictToWorkspace := false } :=
          skipReason?_unrestricted (c := { c with restrictToWorkspace := false }) _ _ rfl roots
  have listed : (p.traversal s).provider.callSites (p.traversal s).settings node =
      p.callSites s node := rfl
  have lost : ((p.rootless cause).traversal s.unrestricted).provider.callSites
      ((p.rootless cause).traversal s.unrestricted).settings node = p.callSites s node := rfl
  unfold keptSites
  rw [listed, lost]
  cases known : p.callSites s node with
  | error cause => rfl
  | ok answer =>
      exact List.filter_congr fun site member => keeps site (target_of_callSites known member)

theorem showsLike_unrestricted (unset : s.workspaceRoots = [])
    (known : p.workspaceRoots = .ok roots) (within : p.StaysWithin roots) (cause : ProviderError) :
    (p.traversal s).ShowsLike id ((p.rootless cause).traversal s.unrestricted) where
  calls node := by
    rw [keptSites_unrestricted unset known within cause]
    exact List.forall₂_same.mpr fun _ _ => ⟨rfl, rfl, rfl⟩
  answers := rfl

/-- A participant without the roots has the path of its file as path. -/
theorem relocates_participantFor (unset : s.workspaceRoots = [])
    (known : p.workspaceRoots = .ok roots) (within : p.StaysWithin roots) (cause : ProviderError)
    {entry item : Item} (reached : p.Reaches entry item) (objectName : String) :
    p.Relocates entry (commonRoot roots) ((p.traversal s).participantFor entry item objectName)
      (((p.rootless cause).traversal s.unrestricted).participantFor entry item objectName) := by
  have alike := showsLike_unrestricted unset known within cause
  have classes : (p.traversal s).classFor entry item =
      ((p.rootless cause).traversal s.unrestricted).classFor entry item := by
    rw [classFor, classFor, alike.lookups]
    rfl
  refine ⟨?_, rfl, item, reached, ?_, ?_⟩
  · change (Item.participantKey ..).className = (Item.participantKey ..).className
    rw [classes]
    rfl
  · change relativeNamespace item.uri (p.traversal s).root = _
    rw [root_of_roots unset known]
  · change relativeNamespace item.uri ((p.rootless cause).traversal s.unrestricted).root = _
    rw [root_rootless (s := s.unrestricted) p cause unset, relativeNamespace_empty]

theorem keptSites_restricted (restricted : s.ignoreNonWorkspaceFiles = true)
    (unset : s.workspaceRoots = []) (p : Provider) (cause : ProviderError) (node : Item) :
    ((p.rootless cause).traversal s).keptSites node = [] := by
  have none : ∀ site, ((p.rootless cause).traversal s).keeps site = false := by
    intro site
    have skipped := isSome_skipReason?_of_no_roots site.target.kind site.target.uri
      (c := SkipConfiguration.ofSettings s []) restricted
      (by simp [SkipConfiguration.ofSettings, unset])
    rw [Traversal.keeps, rules_rootless p cause unset]
    simpa [Option.isSome_iff_ne_none] using skipped
  unfold keptSites
  split
  · rfl
  · exact List.filter_eq_nil_iff.mpr fun site _ => by simp [none site]

/-- Lost roots change the paths of participants and nothing else, unless calls must not leave the
workspace: then there is no message left. -/
theorem diagram_rootless (p : Provider) (s : Settings) (entry : Item) (roots : List String)
    (cause : ProviderError) (unset : s.workspaceRoots = []) (known : p.workspaceRoots = .ok roots)
    (within : p.StaysWithin roots) :
    ∃ d lost free, (p.diagram s entry).1 = .ok d ∧
      ((p.rootless cause).diagram s entry).1 = .ok lost ∧
      ((p.rootless cause).diagram s.unrestricted entry).1 = .ok free ∧
      List.Forall₂ (Message.Relates (p.Relocates entry d.workspaceRoot)) d.messages free.messages ∧
      lost.messages = if s.ignoreNonWorkspaceFiles then [] else free.messages := by
  refine ⟨_, _, _, p.diagram_drawing s entry, (p.rootless cause).diagram_drawing s entry,
    (p.rootless cause).diagram_drawing s.unrestricted entry, ?_, ?_⟩
  · have alike := showsLike_unrestricted unset known within cause
    have related := @messagesFor_relates (p.traversal s) _ _ _ entry
      fun item met => relocates_participantFor unset known within cause met
    have shown := alike.messagesFor rfl entry
      (((p.rootless cause).traversal s.unrestricted).participantFor entry)
    rw [Message.mapLabel_id, List.map_id, List.map_id] at shown
    rw [← root_of_roots unset known, shown] at related
    exact related
  · cases restricted : s.ignoreNonWorkspaceFiles with
    | true => exact messages_of_leaf (keptSites_restricted restricted unset p cause entry)
    | false =>
        have same : s.unrestricted = s := by rw [Settings.unrestricted, ← restricted]
        rw [same]
        rfl

theorem countdown_staysWithin : countdown.StaysWithin ["/w"] := by
  intro function calls answered call member
  cases answered
  rw [List.mem_singleton.mp member]
  exact ⟨"/w", List.mem_singleton_self _, by decide +kernel⟩

theorem countdown_rootless :
    let s : Settings := { maxCallDepth := ⟨1, by decide⟩ }
    let q := countdown.rootless (.failed "no roots")
    s.workspaceRoots = [] ∧ countdown.workspaceRoots = .ok ["/w"] ∧
      countdown.StaysWithin ["/w"] ∧
      ∃ d lost free, (countdown.diagram s .countdown).1 = .ok d ∧
        (q.diagram s .countdown).1 = .ok lost ∧ (q.diagram s.unrestricted .countdown).1 = .ok free ∧
        List.Forall₂ (Message.Relates (countdown.Relocates .countdown d.workspaceRoot))
          d.messages free.messages ∧
        lost.messages = [] ∧ d.messages.map (·.receiver.key.path) = ["a.py", "a.py", "a.py"] ∧
        free.messages.map (·.receiver.key.path) = ["/w/a.py", "/w/a.py", "/w/a.py"] := by
  intro s q
  obtain ⟨d, lost, free, built, builtLost, builtFree, related, shown⟩ :=
    countdown.diagram_rootless s .countdown ["/w"] (.failed "no roots") rfl rfl
      countdown_staysWithin
  have paths : (countdown.diagram s .countdown).1.toOption.map
      (·.messages.map (·.receiver.key.path)) = some ["a.py", "a.py", "a.py"] := by decide +kernel
  have pathsFree : (q.diagram s.unrestricted .countdown).1.toOption.map
      (·.messages.map (·.receiver.key.path)) = some ["/w/a.py", "/w/a.py", "/w/a.py"] := by
    decide +kernel
  rw [built] at paths
  rw [builtFree] at pathsFree
  exact ⟨rfl, rfl, countdown_staysWithin, d, lost, free, built, builtLost, builtFree, related, shown,
    Option.some.inj paths, Option.some.inj pathsFree⟩

/-- Calls within the workspace are skipped for leaving it when its roots are lost. -/
theorem countdown_rootless_empties :
    let s : Settings := { maxCallDepth := ⟨1, by decide⟩ }
    s.workspaceRoots = [] ∧ countdown.workspaceRoots = .ok ["/w"] ∧
      countdown.StaysWithin ["/w"] ∧
      ∃ d lost, (countdown.diagram s .countdown).1 = .ok d ∧
        ((countdown.rootless (.failed "no roots")).diagram s .countdown).1 = .ok lost ∧
        d.messages.length ≠ lost.messages.length := by
  intro s
  obtain ⟨d, built⟩ := countdown.diagram_built s .countdown
  obtain ⟨lost, builtLost⟩ :=
    (countdown.rootless (.failed "no roots")).diagram_built s .countdown
  have many : (countdown.diagram s .countdown).1.toOption.map (·.messages.length) = some 3 := by
    decide +kernel
  have none : ((countdown.rootless (.failed "no roots")).diagram s .countdown).1.toOption.map
      (·.messages.length) = some 0 := by decide +kernel
  rw [built] at many
  rw [builtLost] at none
  refine ⟨rfl, rfl, countdown_staysWithin, d, lost, built, builtLost, fun same => ?_⟩
  have zero : 3 = 0 := (Option.some.inj many).symm.trans (same.trans (Option.some.inj none))
  omega

end Provider

end CallDiagram
