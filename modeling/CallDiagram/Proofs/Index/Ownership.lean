import CallDiagram.Proofs.Index.Tree
import Mathlib.Data.List.Induction

/-! # What a node stands in

A path leads through the bodies of functions and classes, and it may lead into the annotation of a
result. The innermost function whose body a path leads through owns the node at its end; the
innermost function or class whose body it leads through is the scope of the node.

Both are defined by what all enclosing bodies are. `Node.enclosing` finds them by going down the
path once, and `Node.function?_enclosing_iff` and `Node.class?_enclosing_iff` say that it does.
-/

namespace CallDiagram.Source.Node

def function? : Node → Option Heading
  | .stmt (.function heading ..) => some heading
  | _ => none

def class? : Node → Option Heading
  | .stmt (.classDef heading ..) => some heading
  | _ => none

/-- The heading of the function statement that a path leads to. -/
def functionAt? (root : Node) (p : NodePath) : Option Heading :=
  root.at? p >>= function?

/-- The heading of the class statement that a path leads to. -/
def classAt? (root : Node) (p : NodePath) : Option Heading :=
  root.at? p >>= class?

/-- The path `p` leads through such a part of the node at `g`. -/
def Through (root : Node) (part : Part) (g p : NodePath) : Prop :=
  ∃ i rest parent child, p = g ++ i :: rest ∧ root.at? g = some parent ∧
    parent.children[i]? = some (part, child)

/-- The node at `p` stands in the annotation of a function's result. -/
def InResult (root : Node) (p : NodePath) : Prop :=
  ∃ g, root.Through .result g p

/-- The node at `p` stands in the body of the function at `f`. -/
def InBodyOf (root : Node) (f p : NodePath) : Prop :=
  (root.functionAt? f).isSome ∧ root.Through .body f p

/-- The function at `f` is the innermost one whose body the node at `p` stands in, and the node is
not in the annotation of a result. -/
def Owns (root : Node) (f p : NodePath) : Prop :=
  root.InBodyOf f p ∧ (∀ g, root.InBodyOf g p → g <+: f) ∧ ¬root.InResult p

/-- The innermost body that the node at `p` stands in is that of the function or class at `g`. -/
def Scopes (root : Node) (g p : NodePath) : Prop :=
  root.Through .body g p ∧ ∀ g', root.Through .body g' p → g' <+: g

variable {root : Node} {f g p : NodePath} {part : Part} {i : Nat}

theorem Through.above (h : root.Through part g p) : g <+: p := by
  obtain ⟨i, rest, _, _, rfl, _⟩ := h
  exact List.prefix_append ..

theorem through_concat {parent child : Node} {edge : Part} (hp : root.at? p = some parent)
    (hi : parent.children[i]? = some (edge, child)) :
    root.Through part g (p ++ [i]) ↔ root.Through part g p ∨ (g = p ∧ edge = part) := by
  constructor
  · rintro ⟨j, rest, parent', child', h, hg, hj⟩
    obtain rfl | ⟨rest, k, rfl⟩ := rest.eq_nil_or_concat'
    · obtain ⟨rfl, hij⟩ := List.append_inj' h rfl
      cases hij
      cases hp.symm.trans hg
      cases hi.symm.trans hj
      exact .inr ⟨rfl, rfl⟩
    · rw [← List.cons_append, ← List.append_assoc] at h
      obtain ⟨rfl, -⟩ := List.append_inj' h rfl
      exact .inl ⟨j, rest, parent', child', rfl, hg, hj⟩
  · rintro (⟨j, rest, parent', child', rfl, hg, hj⟩ | ⟨rfl, rfl⟩)
    · exact ⟨j, rest ++ [i], parent', child', by simp, hg, hj⟩
    · exact ⟨i, [], parent, child, rfl, hp, hi⟩

/-! ## Parts of expressions -/

theorem mem_children_expr {x : Expr} {child : Node} (h : (part, child) ∈ (expr x).children) :
    part = .other ∧ ∃ y ∈ x.children, child = .expr y := by
  obtain ⟨y, hy, h⟩ := mem_exprs.1 h
  cases h
  exact ⟨rfl, y, hy, rfl⟩

/-- Below an expression there are only expressions. -/
theorem at?_expr {x : Expr} {n : Node} (h : (expr x).at? p = some n) : ∃ y, n = .expr y := by
  induction p generalizing x with
  | nil =>
    cases h
    exact ⟨x, rfl⟩
  | cons i p ih =>
    rw [at?] at h
    split at h
    · rename_i child hi
      obtain ⟨-, y, -, rfl⟩ := mem_children_expr (List.mem_of_getElem? hi)
      exact ih h
    · cases h

theorem result_is_expr {n child : Node} (h : (.result, child) ∈ n.children) :
    ∃ x, child = .expr x := by
  cases n with
  | stmt s =>
    cases s <;> simp [children, exprs, stmts] at h
    obtain ⟨x, -, hx⟩ := h
    exact ⟨x, hx.symm⟩
  | clause c => cases c; simp [children, exprs, stmts] at h
  | _ => simp [children, exprs, stmts] at h

theorem not_body_expr {n : Node} {x : Expr} : (.body, expr x) ∉ n.children := by
  cases n with
  | stmt s => cases s <;> simp [children, exprs, stmts]
  | clause c => cases c; simp [children, exprs, stmts]
  | _ => simp [children, exprs, stmts]

theorem ne_expr_of_class? {n : Node} {h : Heading} (hc : n.class? = some h) (x : Expr) :
    n ≠ .expr x := by
  rintro rfl
  cases hc

theorem ne_expr_of_function? {n : Node} {h : Heading} (hf : n.function? = some h) (x : Expr) :
    n ≠ .expr x := by
  rintro rfl
  cases hf

theorem class?_eq_none {n : Node} {h : Heading} (hf : n.function? = some h) :
    n.class? = none := by
  unfold function? at hf
  split at hf
  · rfl
  · cases hf

/-- Bodies belong to functions and classes. -/
theorem opens_of_body {n child : Node} (h : (.body, child) ∈ n.children) :
    n.function?.isSome ∨ n.class?.isSome := by
  cases n with
  | stmt s => cases s <;> simp [children, exprs, stmts] at h <;> simp [function?, class?]
  | clause c => cases c; simp [children, exprs, stmts] at h
  | _ => simp [children, exprs, stmts] at h

/-- Only expressions stand in the annotation of a result. -/
theorem not_inResult {n : Node} (h : root.at? p = some n) (statement : ∀ x, n ≠ .expr x) :
    ¬root.InResult p := by
  rintro ⟨g, i, rest, parent, child, rfl, hg, hi⟩
  rw [at?_append hg, at?, hi] at h
  obtain ⟨x, rfl⟩ := result_is_expr (List.mem_of_getElem? hi)
  obtain ⟨y, rfl⟩ := at?_expr h
  exact statement y rfl

/-! ## The innermost bodies -/

/-- The innermost function whose body a node stands in, and the class whose body it stands in if
that is innermost. -/
structure Enclosing where
  function? : Option NodePath := none
  class? : Option NodePath := none
  deriving DecidableEq

/-- What encloses a part of the node at `here`, which is enclosed by `e`. -/
def enter (n : Node) (part : Part) (here : NodePath) (e : Enclosing) : Enclosing :=
  match part with
  | .other => e
  | .result => {}
  | .body => if n.function?.isSome then { function? := some here }
    else { e with class? := some here }

/-- What encloses the node at the end of a path, which is given from its end. -/
def enclosingRev (root : Node) : NodePath → Enclosing
  | [] => {}
  | i :: rev =>
    match root.at? rev.reverse with
    | some parent =>
      match parent.children[i]? with
      | some (part, _) => parent.enter part rev.reverse (root.enclosingRev rev)
      | none => {}
    | none => {}

def enclosing (root : Node) (p : NodePath) : Enclosing :=
  root.enclosingRev p.reverse

@[simp] theorem enclosing_nil : root.enclosing [] = {} := rfl

theorem enclosing_concat {parent child : Node} (hp : root.at? p = some parent)
    (hi : parent.children[i]? = some (part, child)) :
    root.enclosing (p ++ [i]) = parent.enter part p (root.enclosing p) := by
  simp [enclosing, enclosingRev, hp, hi]

/-- A part of a node that is neither a body nor the annotation of a result is enclosed by what
encloses the node. -/
theorem enclosing_other {parent child : Node} (hp : root.at? p = some parent)
    (hi : parent.children[i]? = some (.other, child)) :
    root.enclosing (p ++ [i]) = root.enclosing p :=
  enclosing_concat hp hi

theorem enclosing_expr {x : Expr} {q : NodePath} (hp : root.at? p = some (.expr x))
    (hq : ((expr x).at? q).isSome) : root.enclosing (p ++ q) = root.enclosing p := by
  induction q generalizing p x with
  | nil => rw [List.append_nil]
  | cons i q ih =>
    rw [at?] at hq
    split at hq
    · rename_i child hi
      obtain ⟨rfl, y, -, rfl⟩ := mem_children_expr (List.mem_of_getElem? hi)
      rw [List.append_cons, ih (at?_concat hp hi) hq, enclosing_other hp hi]
    · cases hq

/-! ## The innermost bodies are the innermost ones -/

section Concat

variable {parent child : Node} {edge : Part} (hp : root.at? p = some parent)
  (hi : parent.children[i]? = some (edge, child))

include hp hi

theorem inBodyOf_concat : root.InBodyOf f (p ++ [i]) ↔
    root.InBodyOf f p ∨ (f = p ∧ edge = .body ∧ parent.function?.isSome) := by
  rw [InBodyOf, through_concat hp hi, and_or_left]
  refine or_congr .rfl ⟨?_, ?_⟩
  · rintro ⟨hf, rfl, rfl⟩
    rw [functionAt?, hp] at hf
    exact ⟨rfl, rfl, hf⟩
  · rintro ⟨rfl, rfl, hf⟩
    rw [functionAt?, hp]
    exact ⟨hf, rfl, rfl⟩

theorem inResult_concat : root.InResult (p ++ [i]) ↔ root.InResult p ∨ edge = .result := by
  simp only [InResult, through_concat hp hi, exists_or, exists_eq_left]

theorem inBodyOf_concat_of_ne (h : edge = .body → parent.function? = none) :
    root.InBodyOf f (p ++ [i]) ↔ root.InBodyOf f p := by
  rw [inBodyOf_concat hp hi]
  refine or_iff_left ?_
  rintro ⟨-, rfl, hf⟩
  simp [h rfl] at hf

theorem not_inResult_concat (hb : edge = .body) : ¬root.InResult (p ++ [i]) := by
  subst hb
  refine not_inResult (at?_concat hp hi) fun x hx => ?_
  subst hx
  exact not_body_expr (List.mem_of_getElem? hi)

/-- Going down into anything but the body of a function or the annotation of a result leaves the
owner as it is. -/
theorem owns_concat (h : edge = .body → parent.function? = none) (hr : edge ≠ .result) :
    root.Owns f (p ++ [i]) ↔ root.Owns f p := by
  rw [Owns, Owns, inResult_concat hp hi, or_iff_left hr]
  simp only [inBodyOf_concat_of_ne hp hi h]

/-- Every statement in the body of a function is owned by the function. -/
theorem owns_concat_body (hb : edge = .body) (hf : parent.function?.isSome) :
    root.Owns f (p ++ [i]) ↔ p = f := by
  have inBody : root.InBodyOf p (p ++ [i]) :=
    (inBodyOf_concat hp hi).2 (.inr ⟨rfl, hb, hf⟩)
  constructor
  · rintro ⟨hfp, innermost, -⟩
    obtain h | ⟨rfl, -⟩ := (inBodyOf_concat hp hi).1 hfp
    · exact (innermost p inBody).sublist.antisymm h.2.above.sublist
    · rfl
  · rintro rfl
    refine ⟨inBody, fun g hg => ?_, not_inResult_concat hp hi hb⟩
    obtain h | ⟨rfl, -⟩ := (inBodyOf_concat hp hi).1 hg
    · exact h.2.above
    · exact List.prefix_rfl

/-- A statement in the body of a function or class has that body as its scope. -/
theorem scopes_concat_body (hb : edge = .body) : root.Scopes g (p ++ [i]) ↔ p = g := by
  have inBody : root.Through .body p (p ++ [i]) := (through_concat hp hi).2 (.inr ⟨rfl, hb⟩)
  constructor
  · rintro ⟨hgp, innermost⟩
    obtain h | ⟨rfl, -⟩ := (through_concat hp hi).1 hgp
    · exact (innermost p inBody).sublist.antisymm h.above.sublist
    · rfl
  · rintro rfl
    refine ⟨inBody, fun g hg => ?_⟩
    obtain h | ⟨rfl, -⟩ := (through_concat hp hi).1 hg
    · exact h.above
    · exact List.prefix_rfl

theorem scopes_concat (hb : edge ≠ .body) : root.Scopes g (p ++ [i]) ↔ root.Scopes g p := by
  simp only [Scopes, through_concat hp hi, hb, and_false, or_false]

end Concat

theorem not_inBodyOf_nil : ¬root.InBodyOf f [] := by
  rintro ⟨-, i, rest, _, _, h, -⟩
  simp at h

/-- The innermost function found on the way down is the owner. -/
theorem function?_enclosing_iff {n : Node} (hp : root.at? p = some n) :
    (root.enclosing p).function? = some f ↔ root.Owns f p := by
  induction p using List.reverseRecOn generalizing n with
  | nil => exact iff_of_false nofun fun h => not_inBodyOf_nil h.1
  | append_singleton p i ih =>
    obtain ⟨parent, part, hp, hi⟩ := exists_parent hp
    rw [enclosing_concat hp hi]
    cases part with
    | other => rw [owns_concat hp hi nofun nofun, ← ih hp, enter]
    | result =>
      refine iff_of_false nofun fun h => h.2.2 ?_
      exact (inResult_concat hp hi).2 (.inr rfl)
    | body =>
      cases hf : parent.function? with
      | some => simp [enter, hf, owns_concat_body hp hi rfl (by simp [hf])]
      | none => simp [enter, hf, owns_concat hp hi (fun _ => hf) nofun, ← ih hp]

/-- A node without an owner stands in no body of a function, or in the annotation of a result. -/
theorem function?_enclosing_eq_none_iff {n : Node} (hp : root.at? p = some n) :
    (root.enclosing p).function? = none ↔ root.InResult p ∨ ∀ f, ¬root.InBodyOf f p := by
  induction p using List.reverseRecOn generalizing n with
  | nil => exact iff_of_true rfl (.inr fun _ => not_inBodyOf_nil)
  | append_singleton p i ih =>
    obtain ⟨parent, part, hp, hi⟩ := exists_parent hp
    rw [enclosing_concat hp hi]
    cases part with
    | other => simp [enter, ih hp, inResult_concat hp hi, inBodyOf_concat_of_ne hp hi]
    | result => simp [enter, inResult_concat hp hi]
    | body =>
      cases hf : parent.function? with
      | some =>
        have owned := (owns_concat_body hp hi rfl (by simp [hf])).2 rfl
        simp only [enter, hf, Option.isSome_some, if_true, reduceCtorEq, false_iff, not_or]
        exact ⟨owned.2.2, fun none => none p owned.1⟩
      | none => simp [enter, hf, ih hp, inResult_concat hp hi, inBodyOf_concat_of_ne hp hi]

/-- A statement without an owner stands in no body of a function. -/
theorem function?_enclosing_eq_none {n : Node} (hp : root.at? p = some n)
    (statement : ∀ x, n ≠ .expr x) :
    (root.enclosing p).function? = none ↔ ∀ f, ¬root.InBodyOf f p := by
  rw [function?_enclosing_eq_none_iff hp, or_iff_right (not_inResult hp statement)]

/-- The innermost class found on the way down is the scope. -/
theorem class?_enclosing_iff {n : Node} (hp : root.at? p = some n) (out : ¬root.InResult p) :
    (root.enclosing p).class? = some g ↔ (root.classAt? g).isSome ∧ root.Scopes g p := by
  induction p using List.reverseRecOn generalizing n with
  | nil =>
    refine iff_of_false nofun ?_
    rintro ⟨-, ⟨i, rest, _, _, h, -⟩, -⟩
    simp at h
  | append_singleton p i ih =>
    obtain ⟨parent, part, hp, hi⟩ := exists_parent hp
    rw [inResult_concat hp hi, not_or] at out
    rw [enclosing_concat hp hi]
    cases part with
    | other => rw [enter, ih hp out.1, scopes_concat hp hi nofun]
    | result => exact absurd rfl out.2
    | body =>
      have hc : root.classAt? p = parent.class? := by rw [classAt?, hp]; rfl
      rw [scopes_concat_body hp hi rfl]
      cases hf : parent.function? with
      | some =>
        simp only [enter, hf, Option.isSome_some, if_true, reduceCtorEq, false_iff]
        rintro ⟨hg, rfl⟩
        simp [hc, class?_eq_none hf] at hg
      | none =>
        have opens := opens_of_body (List.mem_of_getElem? hi)
        simp only [hf, Option.isSome_none, Bool.false_eq_true, false_or] at opens
        simp only [enter, hf, Option.isSome_none, Bool.false_eq_true, if_false, Option.some_inj]
        refine ⟨?_, And.right⟩
        rintro rfl
        exact ⟨by rwa [hc], rfl⟩

end CallDiagram.Source.Node
