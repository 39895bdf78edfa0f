import CallDiagram.Proofs.Traversal.Drawing
import CallDiagram.Proofs.Traversal.Truncation

/-! # What a diagram depends on

A diagram depends on what a provider answers about the functions that calls lead to from its entry,
and on nothing else: neither on texts of other files nor on calls that are not reached.
-/

namespace CallDiagram

namespace Traversal

variable {t u : Traversal} {entry : Item}

/-- Two traversals cannot be told apart by the functions that an entry leads to. -/
structure AgreesFrom (t : Traversal) (entry : Item) (u : Traversal) : Prop where
  settings : t.settings = u.settings
  root : t.root = u.root
  kept : ∀ item, t.provider.Reaches entry item → t.keptSites item = u.keptSites item
  classes : ∀ item, t.provider.Reaches entry item → t.provider.classOf item = u.provider.classOf item

namespace AgreesFrom

theorem lookups (agree : t.AgreesFrom entry u) (depth : Nat) {node : Item}
    (reached : t.provider.Reaches entry node) : t.lookups depth node = u.lookups depth node := by
  induction depth generalizing node with
  | zero => rfl
  | succ depth ih =>
      rw [Traversal.lookups, Traversal.lookups, ← agree.kept node reached]
      have below : (t.keptSites node).flatMap (fun site => site.target :: t.lookups depth site.target) =
          (t.keptSites node).flatMap fun site => site.target :: u.lookups depth site.target :=
        List.flatMap_congr fun site kept => congrArg _ (ih (reaches_keptSites reached kept))
      rw [below]

theorem outline (agree : t.AgreesFrom entry u)
    (who : Item → (objectName : String) → Participant) (depth : Nat) {node : Item}
    (reached : t.provider.Reaches entry node) (name number : String) :
    t.outline who depth node name number = u.outline who depth node name number := by
  induction depth generalizing node name number with
  | zero => rw [Traversal.outline, Traversal.outline, agree.kept node reached]
  | succ depth ih =>
      rw [outline_succ, outline_succ, ← agree.kept node reached]
      refine congrArg Nested.shown (List.flatMap_congr fun c listed => ?_)
      have target := reaches_keptSites reached (List.fst_mem_of_mem_zipIdx listed)
      rw [callMessages, callMessages, ih target, agree.settings]

theorem keyFor (agree : t.AgreesFrom entry u) {item : Item}
    (reached : t.provider.Reaches entry item) (objectName : String) :
    t.keyFor entry item objectName = u.keyFor entry item objectName := by
  have looked := agree.lookups t.settings.maxCallDepth.val .entry
  rw [Traversal.keyFor, Traversal.keyFor, agree.root, classFor, classFor, ← agree.settings, ← looked]
  refine congrArg (item.participantKey u.root · objectName) (agree.classes _ ?_)
  cases found : (entry :: t.lookups t.settings.maxCallDepth.val entry).find?
      (·.identity = item.identity) with
  | none => exact reached
  | some first =>
      rcases List.mem_cons.mp (List.mem_of_find?_eq_some found) with rfl | below
      · exact .entry
      · exact reaches_lookups .entry below

/-- Messages agree if their participants do, for all functions that are reached. -/
theorem messagesFor (agree : t.AgreesFrom entry u)
    {who who' : Item → (objectName : String) → Participant}
    (same : ∀ item, t.provider.Reaches entry item → ∀ objectName,
      who item objectName = who' item objectName) :
    t.messagesFor entry who = u.messagesFor entry who' := by
  rw [Traversal.messagesFor, Traversal.messagesFor, outline_congr same _ .entry,
    agree.outline who' _ .entry, agree.settings]

theorem drawing (agree : t.AgreesFrom entry u) : t.drawing entry = u.drawing entry := by
  have registry : t.registryFor entry = u.registryFor entry := by
    rw [registryFor, registryFor, agree.keyFor .entry, agree.messagesFor fun item reached name => by
      rw [agree.keyFor reached name]]
  have messages : t.messagesFor entry (t.participantFor entry) =
      u.messagesFor entry (u.participantFor entry) := by
    refine agree.messagesFor fun item reached name => ?_
    rw [participantFor, participantFor, registry, agree.keyFor reached]
  rw [Traversal.drawing, Traversal.drawing, registry, messages, agree.classes entry .entry,
    agree.root]

end AgreesFrom

end Traversal

namespace Provider

variable {p q : Provider} {s : Settings} {entry : Item}

/-- Two providers answer alike about all that an entry leads to. -/
structure AnswersLike (p : Provider) (entry : Item) (q : Provider) : Prop where
  roots : p.workspaceRoots = q.workspaceRoots
  calls : ∀ item, p.Reaches entry item → p.outgoingCalls item = q.outgoingCalls item
  texts : ∀ item, p.Reaches entry item → p.sourceText item.uri = q.sourceText item.uri
  classes : ∀ item, p.Reaches entry item → p.classOf item = q.classOf item

theorem AnswersLike.roots_eq (alike : p.AnswersLike entry q) (s : Settings) :
    p.roots s = q.roots s := by
  rw [Provider.roots, Provider.roots, alike.roots]

/-- Where signatures are shown, the texts of the targets count as well; these are reached, too. -/
theorem AnswersLike.readSites (alike : p.AnswersLike entry q) {node : Item}
    (reached : p.Reaches entry node) {calls : List OutgoingCall}
    (answered : p.outgoingCalls node = .ok calls) (s : Settings) (caller : Document) :
    p.readSites s caller calls = q.readSites s caller calls := by
  refine List.map_congr_left fun site flat => ?_
  obtain ⟨call, known, grouped⟩ := List.mem_flatMap.mp flat
  obtain ⟨range, -, rfl⟩ := List.mem_map.mp grouped
  have text := alike.texts call.target (.call reached answered known)
  have signature : p.signature s call.target = q.signature s call.target := by
    rw [Provider.signature, Provider.signature, text]
  change (p.callSite s caller call.target range).1 = (q.callSite s caller call.target range).1
  rw [Provider.callSite, Provider.callSite, signature]

theorem AnswersLike.keptSites (alike : p.AnswersLike entry q) {node : Item}
    (reached : p.Reaches entry node) (s : Settings) :
    (p.traversal s).keptSites node = (q.traversal s).keptSites node := by
  have rules : (p.traversal s).keeps = (q.traversal s).keeps := by
    funext site
    rw [Traversal.keeps, Traversal.keeps, traversal, traversal, alike.roots_eq]
  have calls : (p.traversal s).provider.outgoingCalls node =
      (q.traversal s).provider.outgoingCalls node := alike.calls node reached
  have texts : (p.traversal s).provider.sourceText node.uri =
      (q.traversal s).provider.sourceText node.uri := alike.texts node reached
  rw [Traversal.keptSites_eq, Traversal.keptSites_eq, ← calls, ← texts, rules]
  cases answered : (p.traversal s).provider.outgoingCalls node with
  | error _ => rfl
  | ok calls =>
      cases (p.traversal s).provider.sourceText node.uri with
      | error _ => rfl
      | ok text =>
          have read := alike.readSites reached answered s (.ofString text)
          exact congrArg (fun sites => (CallSite.inOrder sites).filter (q.traversal s).keeps) read

end Provider

end CallDiagram
