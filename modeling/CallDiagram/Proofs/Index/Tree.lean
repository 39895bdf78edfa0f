import CallDiagram.Source.Syntax
import Mathlib.Data.List.Lex
import Mathlib.Order.Defs.LinearOrder

/-! # Paths into a syntax tree

A node of a syntax tree is reached by the places of the children that lead to it. Children are
numbered in the order in which a visit meets them. The bases of a class come before its body and
its decorators behind it; the decorators and parameters of a function come before its body, and the
annotation of its result comes last. So the lexicographic order of paths is the order of a visit
that meets every node before its parts.

Main statement: `Node.sorted_pathsFrom` with `Node.mem_pathsFrom`, the paths of all nodes below a
node as one sorted list.
-/

namespace CallDiagram.Source

inductive Node where
  | module (body : List Stmt)
  | stmt (statement : Stmt)
  | clause (clause : Clause)
  | expr (expression : Expr)

/-- What a node is to the node right above it. -/
inductive Part where
  /-- A statement in the body of a function or class. -/
  | body
  /-- The annotation of a function's result. -/
  | result
  | other
  deriving Repr, DecidableEq

/-- The places of children on the way from the root of a tree to a node. -/
abbrev NodePath := List Nat

def Expr.children : Expr → List Expr
  | .name .. | .text _ => []
  | .attribute value _ _ | .await value | .starred value => [value]
  | .call func arguments named => func :: (arguments ++ named)
  | .subscript value index => [value, index]
  | .compound _ parts => parts

namespace Node

/-- Expressions as children of a node. -/
def exprs (part : Part) (es : List Expr) : List (Part × Node) :=
  es.map fun e => (part, .expr e)

/-- Statements as children of a node. -/
def stmts (part : Part) (body : List Stmt) : List (Part × Node) :=
  body.map fun s => (part, .stmt s)

def children : Node → List (Part × Node)
  | .module body => stmts .other body
  | .clause (.mk heads body) => exprs .other heads ++ stmts .other body
  | .expr e => exprs .other e.children
  | .stmt (.simple parts) => exprs .other parts
  | .stmt (.assign targets value) => exprs .other (targets ++ [value])
  | .stmt (.annotate target annotation value) =>
    exprs .other (target :: annotation :: value.toList)
  | .stmt (.importModules _) | .stmt (.importNames ..) => []
  | .stmt (.function _ decorators parameters returns body) =>
    exprs .other (decorators ++ parameters) ++ stmts .body body ++ exprs .result returns.toList
  | .stmt (.classDef _ bases named body decorators) =>
    exprs .other (bases ++ named) ++ stmts .body body ++ exprs .other decorators
  | .stmt (.compound clauses) => clauses.map fun c => (.other, .clause c)

/-- The node that a path leads to. -/
def at? : Node → NodePath → Option Node
  | n, [] => some n
  | n, i :: path =>
    match n.children[i]? with
    | some (_, child) => child.at? path
    | none => none

theorem at?_append {n child : Node} {p q : NodePath} (h : n.at? p = some child) :
    n.at? (p ++ q) = child.at? q := by
  induction p generalizing n with
  | nil =>
    cases h
    rfl
  | cons i p ih =>
    rw [at?] at h
    rw [List.cons_append, at?]
    split at h
    · exact ih h
    · cases h

theorem at?_singleton (n : Node) (i : Nat) : n.at? [i] = n.children[i]?.map (·.2) := by
  rw [at?]
  cases n.children[i]? <;> rfl

theorem at?_concat {n parent child : Node} {part : Part} {p : NodePath} {i : Nat}
    (h : n.at? p = some parent) (hi : parent.children[i]? = some (part, child)) :
    n.at? (p ++ [i]) = some child := by
  rw [at?_append h, at?_singleton, hi]
  rfl

/-- A node that is not the root is a child of another one. -/
theorem exists_parent {n child : Node} {p : NodePath} {i : Nat}
    (h : n.at? (p ++ [i]) = some child) :
    ∃ parent part, n.at? p = some parent ∧ parent.children[i]? = some (part, child) := by
  induction p generalizing n with
  | nil =>
    rw [List.nil_append, at?_singleton, Option.map_eq_some_iff] at h
    obtain ⟨⟨part, _⟩, hi, rfl⟩ := h
    exact ⟨n, part, rfl, hi⟩
  | cons j p ih =>
    rw [List.cons_append, at?] at h
    split at h
    · rename_i below hj
      obtain ⟨parent, part, hp, hi⟩ := ih h
      refine ⟨parent, part, ?_, hi⟩
      rw [at?, hj]
      exact hp
    · cases h

/-! ## Runs of children -/

/-- The children of a node from the place `i` on start with these. -/
def Holds (n : Node) (i : Nat) (es : List (Part × Node)) : Prop :=
  es <+: n.children.drop i

namespace Holds

variable {n : Node} {i : Nat} {e : Part × Node} {es fs : List (Part × Node)}

theorem get {k : Nat} (h : n.Holds i es) (hk : es[k]? = some e) :
    n.children[i + k]? = some e := by
  obtain ⟨hlt, rfl⟩ := List.getElem?_eq_some_iff.1 hk
  rw [← List.getElem?_drop]
  exact List.prefix_iff_getElem?.1 h k hlt

theorem head (h : n.Holds i (e :: es)) : n.children[i]? = some e :=
  h.get (k := 0) rfl

theorem tail (h : n.Holds i (e :: es)) : n.Holds (i + 1) es := by
  obtain ⟨rest, h⟩ := h
  refine ⟨rest, ?_⟩
  rw [← List.tail_drop, ← h]
  rfl

theorem left (h : n.Holds i (es ++ fs)) : n.Holds i es :=
  (List.prefix_append es fs).trans h

theorem right (h : n.Holds i (es ++ fs)) : n.Holds (i + es.length) fs := by
  obtain ⟨rest, h⟩ := h
  refine ⟨rest, ?_⟩
  rw [← List.drop_drop, ← h, List.append_assoc, List.drop_left]

theorem all (h : n.children = es) : n.Holds 0 es :=
  ⟨[], by rw [List.append_nil, h, List.drop_zero]⟩

end Holds

/-! ## All nodes of a tree -/

theorem mem_exprs {part : Part} {es : List Expr} {e : Part × Node} :
    e ∈ exprs part es ↔ ∃ x ∈ es, e = (part, .expr x) := by
  simp [exprs, eq_comm]

theorem mem_stmts {part : Part} {body : List Stmt} {e : Part × Node} :
    e ∈ stmts part body ↔ ∃ s ∈ body, e = (part, .stmt s) := by
  simp [stmts, eq_comm]

theorem sizeOf_expr_child {x y : Expr} (h : y ∈ x.children) : sizeOf y < sizeOf x := by
  cases x <;> simp only [Expr.children, List.mem_cons, List.mem_append, List.not_mem_nil] at h <;>
    grind [→ List.sizeOf_lt_of_mem, Expr.attribute.sizeOf_spec, Expr.call.sizeOf_spec,
      Expr.subscript.sizeOf_spec, Expr.await.sizeOf_spec, Expr.starred.sizeOf_spec,
      Expr.compound.sizeOf_spec]

theorem sizeOf_child {n : Node} {e : Part × Node} (h : e ∈ n.children) :
    sizeOf e.2 < sizeOf n := by
  cases n with
  | module body =>
    obtain ⟨s, hs, rfl⟩ := mem_stmts.1 h
    grind [→ List.sizeOf_lt_of_mem, module.sizeOf_spec, stmt.sizeOf_spec]
  | clause c =>
    obtain ⟨heads, body⟩ := c
    simp only [children, List.mem_append, mem_exprs, mem_stmts] at h
    grind [→ List.sizeOf_lt_of_mem, clause.sizeOf_spec, Clause.mk.sizeOf_spec, expr.sizeOf_spec,
      stmt.sizeOf_spec]
  | expr x =>
    obtain ⟨y, hy, rfl⟩ := mem_exprs.1 h
    grind [→ sizeOf_expr_child, expr.sizeOf_spec]
  | stmt s =>
    cases s with
    | importModules | importNames => cases h
    | compound clauses =>
      obtain ⟨c, hc, rfl⟩ := List.mem_map.1 h
      grind [→ List.sizeOf_lt_of_mem, clause.sizeOf_spec, stmt.sizeOf_spec,
        Stmt.compound.sizeOf_spec]
    | _ =>
      simp only [children, List.mem_append, mem_exprs, mem_stmts, List.mem_cons,
        Option.mem_toList] at h
      grind [→ List.sizeOf_lt_of_mem, expr.sizeOf_spec, stmt.sizeOf_spec, Stmt.simple.sizeOf_spec,
        Stmt.assign.sizeOf_spec, Stmt.annotate.sizeOf_spec, Stmt.function.sizeOf_spec,
        Stmt.classDef.sizeOf_spec, Option.some.sizeOf_spec]

/-- The paths of a node and of all nodes below it, in the order of a visit; `p` is the node's own
path. -/
def pathsFrom (p : NodePath) (n : Node) : List NodePath :=
  p :: n.children.attach.zipIdx.flatMap fun e => pathsFrom (p ++ [e.2]) e.1.1.2
termination_by sizeOf n
decreasing_by exact sizeOf_child e.1.2

/-- The paths of all nodes in or below some of the children of a node, the first of which has the
place `i`. -/
def branchesFrom (p : NodePath) : (i : Nat) → (children : List (Part × Node)) → List NodePath
  | _, [] => []
  | i, e :: rest => pathsFrom (p ++ [i]) e.2 ++ branchesFrom p (i + 1) rest

theorem flatMap_zipIdx (p : NodePath) (i : Nat) (children : List (Part × Node)) :
    ((children.zipIdx i).flatMap fun e => pathsFrom (p ++ [e.2]) e.1.2) =
      branchesFrom p i children := by
  induction children generalizing i with
  | nil => rfl
  | cons e rest ih => simp only [List.zipIdx_cons, List.flatMap_cons, branchesFrom, ih]

theorem pathsFrom_eq (p : NodePath) (n : Node) :
    n.pathsFrom p = p :: branchesFrom p 0 n.children := by
  have unattached : n.children.zipIdx = n.children.attach.zipIdx.map (Prod.map Subtype.val id) := by
    rw [← List.zipIdx_map, List.attach_map_subtype_val]
  rw [pathsFrom, ← flatMap_zipIdx, unattached, List.flatMap_map]
  rfl

theorem branchesFrom_append (p : NodePath) (i : Nat) (es fs : List (Part × Node)) :
    branchesFrom p i (es ++ fs) = branchesFrom p i es ++ branchesFrom p (i + es.length) fs := by
  induction es generalizing i with
  | nil => rfl
  | cons e es ih =>
    simp only [List.cons_append, branchesFrom, ih, List.append_assoc, List.length_cons]
    rw [Nat.add_right_comm, Nat.add_assoc]

theorem mem_branchesFrom {p q : NodePath} {i : Nat} {es : List (Part × Node)} :
    q ∈ branchesFrom p i es ↔
      ∃ (k : Nat) (e : Part × Node), es[k]? = some e ∧ q ∈ e.2.pathsFrom (p ++ [i + k]) := by
  induction es generalizing i with
  | nil => simp [branchesFrom]
  | cons e es ih =>
    rw [branchesFrom, List.mem_append, ih]
    constructor
    · rintro (h | ⟨k, e', hk, h⟩)
      · exact ⟨0, e, rfl, h⟩
      · exact ⟨k + 1, e', hk, by rwa [← Nat.add_assoc, Nat.add_right_comm]⟩
    · rintro ⟨_ | k, e', hk, h⟩
      · cases hk
        exact .inl h
      · exact .inr ⟨k, e', hk, by rwa [Nat.add_right_comm, Nat.add_assoc]⟩

/-- The nodes of a tree are listed by their paths. -/
theorem mem_pathsFrom {n : Node} {p q : NodePath} :
    q ∈ n.pathsFrom p ↔ ∃ r, q = p ++ r ∧ (n.at? r).isSome := by
  induction h : sizeOf n using Nat.strongRecOn generalizing n p with
  | ind size ih =>
    subst h
    rw [pathsFrom_eq, List.mem_cons, mem_branchesFrom]
    constructor
    · rintro (rfl | ⟨k, e, hk, hq⟩)
      · exact ⟨[], by simp, rfl⟩
      · rw [ih _ (sizeOf_child (List.mem_of_getElem? hk)) rfl] at hq
        obtain ⟨r, rfl, hr⟩ := hq
        refine ⟨k :: r, by simp, ?_⟩
        rwa [at?, hk]
    · rintro ⟨_ | ⟨k, r⟩, rfl, hr⟩
      · simp
      · rw [at?] at hr
        split at hr
        · rename_i part child hk
          refine .inr ⟨k, (part, child), hk, ?_⟩
          rw [ih _ (sizeOf_child (List.mem_of_getElem? hk)) rfl]
          exact ⟨r, by simp, hr⟩
        · cases hr

theorem append_lt_append (p : NodePath) {i j : Nat} (h : i < j) (r r' : NodePath) :
    p ++ i :: r < p ++ j :: r' :=
  List.Lex.append_left _ (.rel h) p

theorem lt_append (p : NodePath) (i : Nat) (r : NodePath) : p < p ++ i :: r := by
  have := List.Lex.append_left (· < ·) (List.Lex.nil : List.Lex _ [] (i :: r)) p
  rwa [List.append_nil] at this

/-- Paths are listed in the order of a visit. -/
theorem sorted_pathsFrom (p : NodePath) (n : Node) : (n.pathsFrom p).Pairwise (· < ·) := by
  induction h : sizeOf n using Nat.strongRecOn generalizing n p with
  | ind size ih =>
    subst h
    have sorted_branches (es : List (Part × Node)) (sub : ∀ e ∈ es, e ∈ n.children) (i : Nat) :
        (branchesFrom p i es).Pairwise (· < ·) := by
      induction es generalizing i with
      | nil => exact .nil
      | cons e es ihes =>
        refine List.pairwise_append.2 ⟨ih _ (sizeOf_child (sub e (by simp))) _ _ rfl,
          ihes (fun e' he => sub e' (by simp [he])) _, fun a ha b hb => ?_⟩
        obtain ⟨k, e', -, hb⟩ := mem_branchesFrom.1 hb
        obtain ⟨r, rfl, -⟩ := mem_pathsFrom.1 ha
        obtain ⟨r', rfl, -⟩ := mem_pathsFrom.1 hb
        simpa using append_lt_append p (show i < i + 1 + k by omega) r r'
    rw [pathsFrom_eq, List.pairwise_cons]
    refine ⟨fun q hq => ?_, sorted_branches _ (fun _ he => he) 0⟩
    obtain ⟨k, e, -, hq⟩ := mem_branchesFrom.1 hq
    obtain ⟨r, rfl, -⟩ := mem_pathsFrom.1 hq
    simpa using lt_append p (0 + k) r

end Node

end CallDiagram.Source
