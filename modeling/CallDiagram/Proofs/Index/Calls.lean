import CallDiagram.Proofs.Index.Collected
import Mathlib.Data.List.Forall2

/-! # Which definition a call belongs to

Every function of a tree has one definition, and the calls of a definition are the calls of names
and attributes that its function owns, in the order of a visit. A call in the body of some function
has one owner, unless it is in the annotation of a result; every other call has none.
-/

namespace CallDiagram.Source.Node

open Index

/-- The node at `p` is a call of a name or of an attribute. -/
def CallAt (root : Node) (p : NodePath) : Prop :=
  ∃ func arguments named, root.at? p = some (.expr (.call func arguments named)) ∧
    ((∃ id span, func = .name id span) ∨ ∃ value attr stop, func = .attribute value attr stop)

/-- The definition is that of the function at `f`, and its calls are those that the function owns,
each once, an outer call before the calls in its parts. -/
structure Records (root : Node) (s : Setting) (f : NodePath) (d : Definition) : Prop where
  heading : ∃ h, root.functionAt? f = some h ∧ d.item.name = h.name ∧
    d.item.range = s.range h.span
  calls : ∃ calls : List NodePath, calls.Pairwise (· < ·) ∧
    (∀ p, p ∈ calls ↔ root.CallAt p ∧ root.Owns f p) ∧
    List.Forall₂ (fun p r => root.referenceAt? s p = some r) calls d.calls

/-- The definitions of a module take up the calls of a tree. -/
structure Attributes (root : Node) (s : Setting) (m : Index.Module) : Prop where
  /-- There is one definition for each function, in the order of a visit. -/
  definitions : ∃ functions : List NodePath, functions.Pairwise (· < ·) ∧
    (∀ f, f ∈ functions ↔ (root.functionAt? f).isSome) ∧
    List.Forall₂ (root.Records s) functions m.definitions
  /-- A call in the body of a function has one owner. -/
  once : ∀ p f, root.CallAt p → root.InBodyOf f p → ¬root.InResult p → ∃! o, root.Owns o p
  /-- A call outside the bodies of functions, or in the annotation of a result, has no owner. -/
  nowhere : ∀ p, root.CallAt p → root.InResult p ∨ (∀ f, ¬root.InBodyOf f p) →
    ∀ o, ¬root.Owns o p
  /-- Only the bodies of functions have an owner of their own. What a statement or an expression
  has besides, such as the decorators and parameters of a function or the body, the bases and the
  decorators of a class, counts to the owner of the whole. -/
  inherited : ∀ p i parent part child o, root.at? p = some parent →
    parent.children[i]? = some (part, child) → part ≠ .result →
    (part = .body → parent.function? = none) → (root.Owns o (p ++ [i]) ↔ root.Owns o p)

variable {root : Node} {s : Setting} {p f : NodePath} {m : Index.Module}

theorem isSome_referenceAt?_iff : (root.referenceAt? s p).isSome ↔ root.CallAt p := by
  constructor
  · intro h
    obtain ⟨r, h⟩ := Option.isSome_iff_exists.1 h
    obtain ⟨n, hn, hr⟩ := Option.bind_eq_some_iff.1 h
    unfold reference? at hr
    split at hr
    · rename_i func arguments named
      refine ⟨func, arguments, named, hn, ?_⟩
      unfold Setting.reference? at hr
      split at hr
      · rename_i id span
        exact .inl ⟨id, span, rfl⟩
      · rename_i value attr stop
        exact .inr ⟨value, attr, stop, rfl⟩
      · cases hr
    · cases hr
  · rintro ⟨func, arguments, named, hp, ⟨id, span, rfl⟩ | ⟨value, attr, stop, rfl⟩⟩ <;>
    · rw [referenceAt?, hp]
      rfl

theorem Owns.unique {g : NodePath} (hf : root.Owns f p) (hg : root.Owns g p) : f = g :=
  (hg.2.1 f hf.1).sublist.antisymm (hf.2.1 g hg.1).sublist

/-- A tree lists its nodes from the root. -/
theorem mem_pathsFrom_root : p ∈ root.pathsFrom [] ↔ (root.at? p).isSome := by
  simp [mem_pathsFrom]

theorem mem_functionsAmong : f ∈ root.functionsAmong (root.pathsFrom []) ↔
    (root.functionAt? f).isSome := by
  rw [functionsAmong, List.mem_filter, mem_pathsFrom_root, and_iff_right_iff_imp, functionAt?]
  cases root.at? f <;> simp

theorem forall₂_filterMap {α β : Type} (g : α → Option β) (l : List α) :
    List.Forall₂ (fun a b => g a = some b) (l.filter fun a => (g a).isSome) (l.filterMap g) := by
  induction l with
  | nil => exact .nil
  | cons a l ih =>
    cases h : g a with
    | none => simpa [h] using ih
    | some b => simpa [h] using ih

/-- The calls that a function owns stand at sorted paths. -/
theorem calls_of_owner (root : Node) (s : Setting) (f : NodePath) :
    ∃ calls : List NodePath, calls.Pairwise (· < ·) ∧
      (∀ p, p ∈ calls ↔ root.CallAt p ∧ root.Owns f p) ∧
      List.Forall₂ (fun p r => root.referenceAt? s p = some r) calls
        (root.ownCalls s (root.pathsFrom []) f) := by
  refine ⟨_, ?_, fun p => ?_, forall₂_filterMap (root.referenceAt? s) _⟩
  · exact ((root.sorted_pathsFrom []).filter _).filter _
  · rw [List.mem_filter, List.mem_filter, isSome_referenceAt?_iff, mem_pathsFrom_root,
      decide_eq_true_iff]
    constructor
    · rintro ⟨⟨valid, owner⟩, call⟩
      obtain ⟨n, hn⟩ := Option.isSome_iff_exists.1 valid
      exact ⟨call, (function?_enclosing_iff hn).1 owner⟩
    · rintro ⟨call, owner⟩
      obtain ⟨func, arguments, named, hn, -⟩ := id call
      exact ⟨⟨by simp [hn], (function?_enclosing_iff hn).2 owner⟩, call⟩

/-- A record of all nodes has one definition for each function, with the function's calls. -/
theorem Indexes.records (ix : root.Indexes s (root.pathsFrom []) m) :
    List.Forall₂ (root.Records s) (root.functionsAmong (root.pathsFrom [])) m.definitions := by
  refine List.forall₂_iff_get.2 ⟨ix.length_items.trans items_length, fun i hf hd => ?_⟩
  have heading := congrArg (·[i]?) ix.headings
  have calls := congrArg (·[i]?) ix.calls
  simp only [items, List.map_map, List.getElem?_map, List.getElem?_eq_getElem hf,
    List.getElem?_eq_getElem hd, Option.map_some, Option.some_inj] at heading calls
  constructor
  · obtain ⟨h, hh, pair⟩ := Option.map_eq_some_iff.1 heading.symm
    exact ⟨h, hh, (congrArg Prod.fst pair).symm, (congrArg Prod.snd pair).symm⟩
  · rw [List.get_eq_getElem, List.get_eq_getElem, calls]
    exact calls_of_owner root s _

end CallDiagram.Source.Node

namespace CallDiagram.Index

open Source

/-- Every call belongs to the innermost function around it. -/
theorem moduleIndex_attributes (s : Setting) (statements : List Stmt) :
    (Node.module statements).Attributes s (moduleIndex s statements) where
  definitions := ⟨_, ((Node.module statements).sorted_pathsFrom []).filter _,
    fun _ => Node.mem_functionsAmong, (Node.indexes_moduleIndex s statements).records⟩
  once p f call inBody out := by
    obtain ⟨func, arguments, named, hp, -⟩ := call
    cases ho : ((Node.module statements).enclosing p).function? with
    | none =>
      obtain h | h := (Node.function?_enclosing_eq_none_iff hp).1 ho
      · exact absurd h out
      · exact absurd inBody (h f)
    | some o =>
      have owner := (Node.function?_enclosing_iff hp).1 ho
      exact ⟨o, owner, fun o' h => h.unique owner⟩
  nowhere p call outside o owner := by
    obtain h | h := outside
    · exact owner.2.2 h
    · exact h o owner.1
  inherited p i parent part child o hp hi hr hb := Node.owns_concat hp hi hb hr

end CallDiagram.Index
