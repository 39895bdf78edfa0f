import CallDiagram.Proofs.CallSite.Listing
import CallDiagram.Proofs.Traversal.Outline

/-! # The classes of a traversal

A traversal asks for the class of every function that it looks up and remembers the answer by the
identity of the function, so the first function of an identity counts for all. Which functions are
looked up, and in which order, is fixed by the call sites that are kept.
-/

namespace CallDiagram

open Walk

/-- The functions that calls lead to from an entry function, the entry included. -/
inductive Provider.Reaches (p : Provider) (entry : Item) : Item → Prop where
  | entry : p.Reaches entry entry
  | call {node : Item} {calls : List OutgoingCall} {call : OutgoingCall} :
      p.Reaches entry node → p.outgoingCalls node = .ok calls → call ∈ calls →
        p.Reaches entry call.target

namespace Traversal

variable {t : Traversal} {σ τ : TraversalState}

/-- Only a function whose calls and text are both known has call sites to show. -/
theorem keptSites_eq (t : Traversal) (node : Item) :
    t.keptSites node =
      match t.provider.outgoingCalls node, t.provider.sourceText node.uri with
      | .ok calls, .ok text =>
        (CallSite.inOrder (t.provider.readSites t.settings (.ofString text) calls)).filter t.keeps
      | _, _ => [] := by
  unfold keptSites
  cases answered : t.provider.outgoingCalls node with
  | error cause => simp only [Provider.callSites, answered]
  | ok calls =>
      cases source : t.provider.sourceText node.uri with
      | error cause => simp only [Provider.callSites, answered, source]
      | ok text =>
          obtain ⟨warnings, listed⟩ := Provider.callSites_of (s := t.settings) answered source
          simp only [listed]

theorem reaches_keptSites {entry node : Item} (reached : t.provider.Reaches entry node)
    {site : CallSite} (kept : site ∈ t.keptSites node) : t.provider.Reaches entry site.target := by
  unfold keptSites at kept
  split at kept
  · simp at kept
  · next sites warnings listed =>
    obtain ⟨calls, answered, call, known, same⟩ :=
      Provider.target_of_callSites listed (List.mem_filter.mp kept).1
    rw [← same]
    exact .call reached answered known

end Traversal

/-- What is known of classes after some functions have been looked up. -/
def Provider.remember (p : Provider) (known : Table String String) (items : List Item) :
    Table String String :=
  items.foldl (fun known item => known.setDefault item.identity (p.classOf item)) known

theorem Provider.remember_cons (p : Provider) (known : Table String String) (item : Item)
    (items : List Item) :
    p.remember known (item :: items) = p.remember (p.remember known [item]) items :=
  rfl

theorem Provider.remember_append (p : Provider) (known : Table String String)
    (items others : List Item) :
    p.remember known (items ++ others) = p.remember (p.remember known items) others :=
  List.foldl_append

/-- What was known counts, and then the first function of an identity. -/
theorem Provider.get?_remember (p : Provider) (known : Table String String) (items : List Item)
    (identity : String) :
    (p.remember known items).get? identity =
      (known.get? identity).or ((items.find? (·.identity = identity)).map p.classOf) := by
  induction items generalizing known with
  | nil => simp [remember]
  | cons item items ih =>
      have first : p.remember known [item] = known.setDefault item.identity (p.classOf item) := rfl
      rw [remember_cons, first, ih, Table.get?_setDefault, List.find?_cons]
      by_cases same : item.identity = identity
      · subst same
        rw [← Table.isSome_get?]
        cases known.get? item.identity <;> simp
      · simp [same]

namespace Traversal

variable {t : Traversal} {σ τ : TraversalState}

theorem classNames_withClass (t : Traversal) (σ : TraversalState) (item : Item) :
    (t.withClass σ item).classNames = t.provider.remember σ.classNames [item] := by
  unfold withClass
  rw [Table.isSome_get?]
  simp only [Provider.remember, List.foldl_cons, List.foldl_nil, Table.setDefault]
  split <;> rfl

theorem classNames_participant {item : Item} {objectName : String} {p : Participant}
    (looked : Returns (t.participant item objectName) σ p τ) :
    τ.classNames = t.provider.remember σ.classNames [item] := by
  obtain ⟨-, rfl⟩ := returns_participant.mp looked
  exact classNames_withClass t σ item

/-- The functions that a visit looks up, in order. -/
def lookups (t : Traversal) : (depth : Nat) → (node : Item) → List Item
  | 0, _ => []
  | depth + 1, node =>
    if t.keptSites node = [] then []
    else node :: (t.keptSites node).flatMap fun site => site.target :: lookups t depth site.target

theorem lookups_of_leaf {node : Item} (leaf : t.keptSites node = []) (depth : Nat) :
    t.lookups depth node = [] := by
  cases depth with
  | zero => rfl
  | succ depth => rw [lookups, if_pos leaf]

theorem reaches_lookups {entry : Item} {depth : Nat} {node item : Item}
    (reached : t.provider.Reaches entry node) (member : item ∈ t.lookups depth node) :
    t.provider.Reaches entry item := by
  induction depth generalizing node with
  | zero => exact absurd member List.not_mem_nil
  | succ depth ih =>
      rw [lookups] at member
      split at member
      · exact absurd member List.not_mem_nil
      · rcases List.mem_cons.mp member with rfl | below
        · exact reached
        · obtain ⟨site, kept, below⟩ := List.mem_flatMap.mp below
          have target := reaches_keptSites reached kept
          rcases List.mem_cons.mp below with rfl | deeper
          · exact target
          · exact ih target deeper

theorem classNames_messagesOf {depth : Nat}
    (deep : ∀ {item name number σ nested τ}, Returns (t.visit depth item name number) σ nested τ →
      τ.classNames = t.provider.remember σ.classNames (t.lookups depth item))
    {node : Item} {name number : String} {caller : Participant} {sites : List CallSite}
    {start : Nat} {ms : List Message}
    (ran : Returns (t.messagesOf (t.visit depth) node name number caller (sites.zipIdx start))
      σ ms τ) :
    τ.classNames = t.provider.remember σ.classNames
      (sites.flatMap fun site => site.target :: t.lookups depth site.target) := by
  induction sites generalizing start σ ms with
  | nil => rw [(returns_messagesOf_nil.mp ran).2]; rfl
  | cons site sites ih =>
      obtain ⟨callee, ρ, nested, ρ', rest, found, went, others, -⟩ := returns_messagesOf_cons.mp ran
      have entered : ρ'.classNames = t.provider.remember ρ.classNames (t.lookups depth site.target) :=
        (deep went :)
      rw [ih others, List.flatMap_cons, List.cons_append, Provider.remember_cons,
        Provider.remember_append, entered, classNames_participant found]

/-- A visit has asked for the classes of the functions that it looks up, and for no others. -/
theorem classNames_visit {depth : Nat} {node : Item} {name number : String} {nested : Nested}
    (ran : Returns (t.visit depth node name number) σ nested τ) :
    τ.classNames = t.provider.remember σ.classNames (t.lookups depth node) := by
  induction depth generalizing node name number nested σ τ with
  | zero =>
      obtain ⟨-, sites, listed, -⟩ := returns_visit_zero.mp ran
      obtain ⟨-, _, _, _, rfl⟩ := returns_shownSites listed
      rfl
  | succ depth ih =>
      obtain ⟨-, sites, ρ, listed, rest⟩ := returns_visit_succ.mp ran
      obtain ⟨rfl, _, _, _, rfl⟩ := returns_shownSites listed
      rw [lookups]
      rcases rest with ⟨leaf, -, rfl⟩ | ⟨some, caller, ρ', ms, found, others, -⟩
      · rw [if_pos leaf]
        rfl
      · rw [if_neg some, Provider.remember_cons, classNames_messagesOf ih others, classNames_participant found]

end Traversal

end CallDiagram
