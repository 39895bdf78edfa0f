import CallDiagram.Index.Collect
import CallDiagram.Proofs.Index.Ownership
import Mathlib.Data.List.Nodup

/-! # What the collector has recorded

The collector meets the nodes of a tree in the order of their paths. `Indexes` says what it has
recorded when it has met the nodes of a list `V`: one definition for each function and one class
statement for each class of the list, with the calls that the function owns and the methods that
stand right in the class's body. Each step of the collector keeps this, and so does a whole run
(`indexes_moduleIndex`).
-/

namespace CallDiagram.Source.Node

open Index

/-! ## Calls in expressions -/

/-- The reference that a node makes if it is a call. -/
def reference? (s : Setting) : Node → Option CallReference
  | .expr (.call func _ _) => s.reference? func
  | _ => none

def referenceAt? (root : Node) (s : Setting) (p : NodePath) : Option CallReference :=
  root.at? p >>= reference? s

variable {root n : Node} {s : Setting} {p : NodePath} {i : Nat} {part : Part}

theorem callsOfAll_append (es fs : List Expr) :
    s.callsOfAll (es ++ fs) = s.callsOfAll es ++ s.callsOfAll fs := by
  induction es with
  | nil => rfl
  | cons e es ih =>
    rw [List.cons_append, Setting.callsOfAll, Setting.callsOfAll, ih, List.append_assoc]

theorem calls_eq (x : Expr) :
    s.calls x = (reference? s (.expr x)).toList ++ s.callsOfAll x.children := by
  cases x <;> simp [Setting.calls, Setting.callsOfAll, Expr.children, reference?, callsOfAll_append]

/-- The calls of expressions that stand one behind the other, if each of them is as it should. -/
theorem filterMap_branchesFrom_exprs (hp : root.at? p = some n) {es : List Expr}
    (hn : n.Holds i (exprs part es))
    (each : ∀ x ∈ es, ∀ q, root.at? q = some (.expr x) →
      ((Node.expr x).pathsFrom q).filterMap (root.referenceAt? s) = s.calls x) :
    (branchesFrom p i (exprs part es)).filterMap (root.referenceAt? s) = s.callsOfAll es := by
  induction es generalizing i with
  | nil => rfl
  | cons x es ih =>
    rw [exprs, List.map_cons, branchesFrom, List.filterMap_append, Setting.callsOfAll,
      each x (by simp) _ (at?_concat hp hn.head)]
    exact congrArg _ (ih hn.tail fun y hy => each y (by simp [hy]))

theorem filterMap_pathsFrom_expr {x : Expr} (hp : root.at? p = some (.expr x)) :
    ((Node.expr x).pathsFrom p).filterMap (root.referenceAt? s) = s.calls x := by
  induction h : sizeOf x using Nat.strongRecOn generalizing x p with
  | ind size ih =>
    subst h
    have parts := filterMap_branchesFrom_exprs hp (Holds.all rfl)
      fun y hy q hq => ih _ (sizeOf_expr_child hy) hq rfl
    rw [pathsFrom_eq, List.filterMap_cons, calls_eq, ← parts, referenceAt?, hp]
    cases h : reference? s (.expr x) <;> simp [h, children]

/-! ## Nodes that open no body -/

/-- The nodes at these paths are neither functions nor classes, all are enclosed by `e`, and the
calls among them make these references. -/
structure Quiet (root : Node) (s : Setting) (e : Enclosing) (W : List NodePath)
    (calls : List CallReference) : Prop where
  plain : ∀ q ∈ W, root.functionAt? q = none ∧ root.classAt? q = none
  enclosing : ∀ q ∈ W, root.enclosing q = e
  references : W.filterMap (root.referenceAt? s) = calls

theorem Quiet.cons {e : Enclosing} {W : List NodePath} {calls : List CallReference}
    (hp : root.at? p = some n) (hf : n.function? = none) (hc : n.class? = none)
    (hr : n.reference? s = none) (he : root.enclosing p = e) (h : root.Quiet s e W calls) :
    root.Quiet s e (p :: W) calls where
  plain q hq := by
    obtain rfl | hq := List.mem_cons.1 hq
    · simp [functionAt?, classAt?, hp, hf, hc]
    · exact h.plain q hq
  enclosing q hq := by
    obtain rfl | hq := List.mem_cons.1 hq
    · exact he
    · exact h.enclosing q hq
  references := by
    rw [List.filterMap_cons, referenceAt?, hp]
    simp [hr, h.references]

theorem quiet_exprs (hp : root.at? p = some n) {es : List Expr} (hn : n.Holds i (exprs part es)) :
    root.Quiet s (n.enter part p (root.enclosing p)) (branchesFrom p i (exprs part es))
      (s.callsOfAll es) := by
  have below {q : NodePath} (hq : q ∈ branchesFrom p i (exprs part es)) :
      (∃ x, root.at? q = some (.expr x)) ∧
        root.enclosing q = n.enter part p (root.enclosing p) := by
    obtain ⟨k, e, hk, hq⟩ := mem_branchesFrom.1 hq
    obtain ⟨r, rfl, hr⟩ := mem_pathsFrom.1 hq
    obtain ⟨x, -, rfl⟩ := mem_exprs.1 (List.mem_of_getElem? hk)
    have hx := at?_concat hp (hn.get hk)
    obtain ⟨y, hy⟩ := Option.isSome_iff_exists.1 hr
    obtain ⟨z, rfl⟩ := at?_expr hy
    exact ⟨⟨z, by rw [at?_append hx, hy]⟩,
      by rw [enclosing_expr hx hr, enclosing_concat hp (hn.get hk)]⟩
  refine ⟨fun q hq => ?_, fun q hq => (below hq).2,
    filterMap_branchesFrom_exprs hp hn fun x _ q hq => filterMap_pathsFrom_expr hq⟩
  obtain ⟨⟨x, hx⟩, -⟩ := below hq
  simp [functionAt?, classAt?, hx, function?, class?]

/-! ## The record of the nodes met -/

def functionsAmong (root : Node) (V : List NodePath) : List NodePath :=
  V.filter fun p => (root.functionAt? p).isSome

def classesAmong (root : Node) (V : List NodePath) : List NodePath :=
  V.filter fun p => (root.classAt? p).isSome

/-- The calls among the nodes that the function at `f` owns. -/
def ownCalls (root : Node) (s : Setting) (V : List NodePath) (f : NodePath) :
    List CallReference :=
  (V.filter fun p => (root.enclosing p).function? = some f).filterMap (root.referenceAt? s)

/-- The items of the recorded definitions. -/
def items (m : Index.Module) : List Item :=
  m.definitions.map (·.item)

/-- The name of the class whose body the node at `p` stands right in. -/
def className? (root : Node) (e : Enclosing) : Option String :=
  (e.class? >>= root.classAt?).map (·.name)

/-- Methods by their names; of several with one name the first counts. -/
def methodTable (items : List Item) : Table String Item :=
  items.foldl (fun t item => t.setDefault item.name item) []

/-- The items of the functions that stand right in the body of the class at `c`. -/
def ownMethods (root : Node) (c : NodePath) (functions : List (NodePath × Item)) : List Item :=
  (functions.filter fun e => (root.enclosing e.1).class? = some c).map (·.2)

/-- The classes outside functions by their names; of several with one name the last counts. -/
def placeTable (root : Node) (classes : List (NodePath × Nat)) : Table String Nat :=
  (classes.filter fun e => (root.enclosing e.1).function?.isNone).foldl
    (fun t e => Table.set t (((root.classAt? e.1).map (·.name)).getD "") e.2) []

/-- What encloses a node has been met. -/
def Enclosing.Within (e : Enclosing) (V : List NodePath) : Prop :=
  (∀ f, e.function? = some f → f ∈ V) ∧ ∀ c, e.class? = some c → c ∈ V

/-- The module records the nodes of `V`. -/
structure Indexes (root : Node) (s : Setting) (V : List NodePath) (m : Index.Module) : Prop where
  headings : (items m).map (fun item => some (item.name, item.range)) =
    (root.functionsAmong V).map
      fun f => (root.functionAt? f).map fun h => (h.name, s.range h.span)
  calls : m.definitions.map (·.calls) = (root.functionsAmong V).map (root.ownCalls s V)
  classNames : m.definitions.map (·.className) =
    (root.functionsAmong V).map fun f => root.className? (root.enclosing f)
  titles : m.classStatements.map (fun c => some c.name) =
    (root.classesAmong V).map fun c => (root.classAt? c).map (·.name)
  methods : m.classStatements.map (·.methods) = (root.classesAmong V).map fun c =>
    methodTable (root.ownMethods c ((root.functionsAmong V).zip (items m)))
  places : m.classPlaces = root.placeTable (root.classesAmong V).zipIdx
  met : ∀ q ∈ V, (root.enclosing q).Within V

/-- The class whose body the statements of a scope stand right in. -/
def openClass? (scope : Scope) : Option OpenClass :=
  if scope.inClass then scope.classes.head? else none

/-- The collector's scope is what encloses a node, by the places of the definitions and classes. -/
structure Located (root : Node) (V : List NodePath) (scope : Scope) (e : Enclosing) : Prop where
  owner : Option.Rel (fun o f => (root.functionsAmong V)[o.place]? = some f)
    scope.definitions.head? e.function?
  title : Option.Rel (fun c q => (root.classesAmong V)[c.place]? = some q ∧
      (root.classAt? q).map (·.name) = some c.name) (openClass? scope) e.class?

variable {V W : List NodePath} {e : Enclosing} {scope : Scope} {m : Index.Module}
  {calls : List CallReference}

theorem rel_imp {α β : Type} {r r' : α → β → Prop} (imp : ∀ a b, r a b → r' a b) :
    {x : Option α} → {y : Option β} → Option.Rel r x y → Option.Rel r' x y
  | _, _, .some h => .some (imp _ _ h)
  | _, _, .none => .none

theorem cases_of_rel {α β : Type} {r : α → β → Prop} :
    {x : Option α} → {y : Option β} → Option.Rel r x y →
      (x = none ∧ y = none) ∨ ∃ a b, x = some a ∧ y = some b ∧ r a b
  | _, _, .none => .inl ⟨rfl, rfl⟩
  | _, _, .some h => .inr ⟨_, _, rfl, rfl, h⟩

theorem getElem?_append_of_some {α : Type} {xs ys : List α} {i : Nat} {a : α}
    (h : xs[i]? = some a) : (xs ++ ys)[i]? = some a := by
  rwa [List.getElem?_append_left (List.getElem?_eq_some_iff.1 h).1]

theorem Located.mono (h : root.Located V scope e) : root.Located (V ++ W) scope e where
  owner := rel_imp (fun _ _ hf => by
    rw [functionsAmong, List.filter_append]
    exact getElem?_append_of_some hf) h.owner
  title := rel_imp (fun _ _ hc => by
    rw [classesAmong, List.filter_append]
    exact ⟨getElem?_append_of_some hc.1, hc.2⟩) h.title

theorem Located.within (h : root.Located V scope e) : e.Within V := by
  constructor
  · intro f hf
    obtain ⟨-, none⟩ | ⟨o, f', -, hf', place⟩ := cases_of_rel h.owner
    · cases none.symm.trans hf
    · cases hf'.symm.trans hf
      exact (List.mem_filter.1 (List.mem_of_getElem? place)).1
  · intro c hc
    obtain ⟨-, none⟩ | ⟨k, c', -, hc', place, -⟩ := cases_of_rel h.title
    · cases none.symm.trans hc
    · cases hc'.symm.trans hc
      exact (List.mem_filter.1 (List.mem_of_getElem? place)).1

/-! ### Changing one element of a list -/

theorem map_modify_of_eq {α β : Type} {proj : α → β} {u : α → α} (h : ∀ a, proj (u a) = proj a)
    (l : List α) (i : Nat) : (l.modify i u).map proj = l.map proj := by
  refine List.ext_getElem? fun j => ?_
  simp only [List.getElem?_map, List.getElem?_modify]
  cases l[j]? with
  | none => simp
  | some a =>
    by_cases hij : i = j <;> simp [hij, h]

/-- Changing the element at one place, seen through a projection that is a function of keys. -/
theorem map_modify_eq {α β κ : Type} {l : List α} {keys : List κ} {proj : α → β} {u : α → α}
    {F G : κ → β} {i : Nat} {k : κ} (h : l.map proj = keys.map F) (nodup : keys.Nodup)
    (hk : keys[i]? = some k) (hit : ∀ a, proj a = F k → proj (u a) = G k)
    (miss : ∀ k' ∈ keys, k' ≠ k → G k' = F k') : (l.modify i u).map proj = keys.map G := by
  refine List.ext_getElem? fun j => ?_
  have hj := congrArg (·[j]?) h
  simp only [List.getElem?_map, List.getElem?_modify] at hj ⊢
  by_cases hij : i = j
  · subst hij
    rw [hk] at hj ⊢
    obtain ⟨a, ha, haF⟩ := Option.map_eq_some_iff.1 hj
    simp [ha, hit a haF]
  · have others (k' : κ) (hk' : keys[j]? = some k') : G k' = F k' := by
      refine miss k' (List.mem_of_getElem? hk') ?_
      rintro rfl
      exact hij ((List.getElem?_inj (List.getElem?_eq_some_iff.1 hk).1 nodup).1 (hk.trans hk'.symm))
    cases hkj : keys[j]? <;> simp_all

/-! ### Steps of the collector -/

theorem functionsAmong_append :
    root.functionsAmong (V ++ W) = root.functionsAmong V ++ root.functionsAmong W :=
  List.filter_append ..

theorem classesAmong_append :
    root.classesAmong (V ++ W) = root.classesAmong V ++ root.classesAmong W :=
  List.filter_append ..

theorem ownCalls_append (f : NodePath) :
    root.ownCalls s (V ++ W) f = root.ownCalls s V f ++ root.ownCalls s W f := by
  rw [ownCalls, List.filter_append, List.filterMap_append]
  rfl

namespace Quiet

variable (h : root.Quiet s e W calls)

include h

theorem functionsAmong_eq : root.functionsAmong W = [] :=
  List.filter_eq_nil_iff.2 fun q hq => by simp [(h.plain q hq).1]

theorem classesAmong_eq : root.classesAmong W = [] :=
  List.filter_eq_nil_iff.2 fun q hq => by simp [(h.plain q hq).2]

theorem ownCalls_eq {f : NodePath} (hf : e.function? = some f) :
    root.ownCalls s W f = calls := by
  rw [ownCalls, List.filter_eq_self.2, h.references]
  intro q hq
  simp [h.enclosing q hq, hf]

theorem ownCalls_eq_nil {f : NodePath} (hf : e.function? ≠ some f) :
    root.ownCalls s W f = [] := by
  rw [ownCalls, List.filter_eq_nil_iff.2, List.filterMap_nil]
  intro q hq
  simpa [h.enclosing q hq] using hf

end Quiet

theorem Enclosing.Within.mono (h : e.Within V) : e.Within (V ++ W) :=
  ⟨fun f hf => List.mem_append_left W (h.1 f hf), fun c hc => List.mem_append_left W (h.2 c hc)⟩

/-- What encloses nodes that are met next has been met, if it is where the collector is. -/
theorem Indexes.met_append (ix : root.Indexes s V m) (loc : root.Located V scope e)
    (here : ∀ q ∈ W, root.enclosing q = e) : ∀ q ∈ V ++ W, (root.enclosing q).Within (V ++ W) := by
  intro q hq
  obtain hq | hq := List.mem_append.1 hq
  · exact (ix.met q hq).mono
  · rw [here q hq]
    exact loc.within.mono

section Record

@[simp] theorem items_recordCalls : items (recordCalls scope calls m) = items m := by
  rw [items, recordCalls]
  split
  · refine map_modify_of_eq ?_ ..
    intro
    rfl
  · rfl

@[simp] theorem classNames_recordCalls :
    (recordCalls scope calls m).definitions.map (·.className) =
      m.definitions.map (·.className) := by
  rw [recordCalls]
  split
  · refine map_modify_of_eq ?_ ..
    intro
    rfl
  · rfl

@[simp] theorem classStatements_recordCalls :
    (recordCalls scope calls m).classStatements = m.classStatements := by
  rw [recordCalls]
  split <;> rfl

@[simp] theorem classPlaces_recordCalls :
    (recordCalls scope calls m).classPlaces = m.classPlaces := by
  rw [recordCalls]
  split <;> rfl

/-- The calls of nodes that open no body go to the definition that encloses them. -/
theorem Indexes.calls_record (ix : root.Indexes s V m) (loc : root.Located V scope e)
    (quiet : root.Quiet s e W calls) (nodup : V.Nodup) :
    (recordCalls scope calls m).definitions.map (·.calls) =
      (root.functionsAmong V).map (root.ownCalls s (V ++ W)) := by
  rw [recordCalls, Scope.owner?]
  obtain ⟨ho, hf⟩ | ⟨o, f, ho, hf, place⟩ := cases_of_rel loc.owner
  · rw [ho, ix.calls]
    refine List.map_congr_left fun f _ => ?_
    rw [ownCalls_append, quiet.ownCalls_eq_nil (by simp [hf]), List.append_nil]
  · rw [ho]
    refine map_modify_eq ix.calls (nodup.filter _) place (fun d hd => ?_) fun f' _ hne => ?_
    · rw [ownCalls_append, quiet.ownCalls_eq hf, hd]
    · rw [ownCalls_append, quiet.ownCalls_eq_nil (by simpa [hf] using hne.symm), List.append_nil]

theorem Indexes.record (ix : root.Indexes s V m) (loc : root.Located V scope e)
    (quiet : root.Quiet s e W calls) (nodup : V.Nodup) :
    root.Indexes s (V ++ W) (recordCalls scope calls m) := by
  have functions : root.functionsAmong (V ++ W) = root.functionsAmong V := by
    rw [functionsAmong_append, quiet.functionsAmong_eq, List.append_nil]
  have classes : root.classesAmong (V ++ W) = root.classesAmong V := by
    rw [classesAmong_append, quiet.classesAmong_eq, List.append_nil]
  constructor
  · rw [functions, items_recordCalls, ix.headings]
  · rw [functions, ix.calls_record loc quiet nodup]
  · rw [functions, classNames_recordCalls, ix.classNames]
  · rw [classes, classStatements_recordCalls, ix.titles]
  · rw [functions, classes, items_recordCalls, classStatements_recordCalls, ix.methods]
  · rw [classes, classPlaces_recordCalls, ix.places]
  · exact ix.met_append loc quiet.enclosing

end Record

/-! ### A function -/

section Function

variable {item : Item}

theorem plain_of_functionAt? {h : Heading} (hp : root.functionAt? p = some h) :
    root.classAt? p = none ∧ root.referenceAt? s p = none := by
  obtain ⟨n, hn, hf⟩ := Option.bind_eq_some_iff.1 hp
  rw [classAt?, referenceAt?, hn]
  refine ⟨class?_eq_none hf, ?_⟩
  cases n with
  | stmt => rfl
  | _ => cases hf

theorem definitions_addFunction : (addFunction scope item m).definitions =
    m.definitions ++ [⟨item, (openClass? scope).map (·.name), [], []⟩] := by
  rw [addFunction, openClass?]
  split
  · split <;> rfl
  · split <;> rfl

theorem classStatements_addFunction : (addFunction scope item m).classStatements =
    match openClass? scope with
    | some c => m.classStatements.modify c.place fun info =>
        { info with methods := info.methods.setDefault item.name item }
    | none => m.classStatements := by
  rw [addFunction, openClass?]
  split
  · split <;> rename_i h <;> rw [h]
  · split <;> rfl

theorem classPlaces_addFunction : (addFunction scope item m).classPlaces = m.classPlaces := by
  rw [addFunction]
  split
  · split <;> rfl
  · split <;> rfl

theorem Located.className (loc : root.Located V scope e) :
    (openClass? scope).map (·.name) = root.className? e := by
  rw [className?]
  obtain ⟨ho, hc⟩ | ⟨o, c, ho, hc, -, name⟩ := cases_of_rel loc.title
  · rw [ho, hc]
    rfl
  · rw [ho, hc]
    exact name.symm

theorem Indexes.not_within (ix : root.Indexes s V m) (fresh : p ∉ V) {q : NodePath} (hq : q ∈ V) :
    (root.enclosing q).function? ≠ some p ∧ (root.enclosing q).class? ≠ some p :=
  ⟨fun h => fresh ((ix.met q hq).1 p h), fun h => fresh ((ix.met q hq).2 p h)⟩

theorem methodTable_append (items : List Item) (item : Item) :
    methodTable (items ++ [item]) = (methodTable items).setDefault item.name item := by
  simp [methodTable]

theorem ownMethods_append (c : NodePath) (functions : List (NodePath × Item)) :
    root.ownMethods c (functions ++ [(p, item)]) =
      root.ownMethods c functions ++ if (root.enclosing p).class? = some c then [item] else [] := by
  rw [ownMethods, List.filter_append, List.map_append]
  by_cases h : (root.enclosing p).class? = some c <;> simp [h, ownMethods]

theorem ownCalls_concat (hp : root.referenceAt? s p = none) (f : NodePath) :
    root.ownCalls s (V ++ [p]) f = root.ownCalls s V f := by
  have none : root.ownCalls s [p] f = [] := by
    refine List.filterMap_eq_nil_iff.2 fun q hq => ?_
    obtain rfl := List.mem_singleton.1 (List.mem_filter.1 hq).1
    exact hp
  rw [ownCalls_append, none, List.append_nil]

/-- A function owns none of the nodes that are met before it. -/
theorem Indexes.ownCalls_eq_nil (ix : root.Indexes s V m) (fresh : p ∉ V) :
    root.ownCalls s V p = [] := by
  rw [ownCalls, List.filter_eq_nil_iff.2, List.filterMap_nil]
  intro q hq
  simpa using (ix.not_within fresh hq).1

theorem Indexes.length_items (ix : root.Indexes s V m) :
    (root.functionsAmong V).length = (items m).length := by
  simpa using (congrArg List.length ix.headings).symm

theorem items_length : (items m).length = m.definitions.length :=
  List.length_map ..

/-- The function that is met becomes a method of the class right around it. -/
theorem Indexes.methods_function (ix : root.Indexes s V m) (loc : root.Located V scope e)
    (he : root.enclosing p = e) (nodup : V.Nodup) :
    (addFunction scope item m).classStatements.map (·.methods) =
      (root.classesAmong V).map fun c => methodTable (root.ownMethods c
        ((root.functionsAmong V).zip (items m) ++ [(p, item)])) := by
  rw [classStatements_addFunction]
  obtain ⟨ho, hc⟩ | ⟨o, c, ho, hc, place, -⟩ := cases_of_rel loc.title
  · rw [ho, ix.methods]
    simp only [ownMethods_append, he, hc, reduceCtorEq, if_false, List.append_nil]
  · rw [ho]
    refine map_modify_eq ix.methods (nodup.filter _) place (fun info hinfo => ?_)
      fun c' _ hne => ?_
    · rw [ownMethods_append, he, hc, if_pos rfl, methodTable_append, hinfo]
    · rw [ownMethods_append, he, hc, if_neg (by simpa using hne.symm), List.append_nil]

/-- A function that is met gets a definition without calls, and the class right around it a
method. -/
theorem Indexes.function (ix : root.Indexes s V m) (loc : root.Located V scope e) {h : Heading}
    (hp : root.functionAt? p = some h) (he : root.enclosing p = e) (fresh : p ∉ V)
    (nodup : V.Nodup) (hi : (item.name, item.range) = (h.name, s.range h.span)) :
    root.Indexes s (V ++ [p]) (addFunction scope item m) := by
  have functions : root.functionsAmong (V ++ [p]) = root.functionsAmong V ++ [p] := by
    rw [functionsAmong_append]
    simp [functionsAmong, hp]
  obtain ⟨noClass, noCall⟩ := plain_of_functionAt? (s := s) hp
  have classes : root.classesAmong (V ++ [p]) = root.classesAmong V := by
    rw [classesAmong_append]
    simp [classesAmong, noClass]
  have items_eq : items (addFunction scope item m) = items m ++ [item] := by
    simp [items, definitions_addFunction]
  constructor
  · rw [functions, items_eq, List.map_append, List.map_append, ix.headings]
    simp [hp, hi]
  · rw [functions, definitions_addFunction, List.map_append, List.map_append, ix.calls]
    have same : root.ownCalls s (V ++ [p]) = root.ownCalls s V :=
      funext (ownCalls_concat noCall)
    rw [same, List.map_singleton, List.map_singleton, ix.ownCalls_eq_nil fresh]
  · rw [functions, definitions_addFunction, List.map_append, List.map_append, ix.classNames]
    simp [he, loc.className]
  · rw [classes, ← ix.titles, classStatements_addFunction]
    split
    · refine map_modify_of_eq ?_ ..
      intro
      rfl
    · rfl
  · rw [functions, classes, items_eq, List.zip_append ix.length_items]
    exact ix.methods_function loc he nodup
  · rw [classes, classPlaces_addFunction, ix.places]
  · exact ix.met_append loc fun q hq => by rw [List.mem_singleton.1 hq, he]

end Function

/-! ### A class -/

section Class

variable {h : Heading} {item : Item} {bases : List Expr}

theorem plain_of_classAt? (hp : root.classAt? p = some h) :
    root.functionAt? p = none ∧ root.referenceAt? s p = none := by
  obtain ⟨n, hn, hc⟩ := Option.bind_eq_some_iff.1 hp
  rw [functionAt?, referenceAt?, hn]
  cases n with
  | stmt statement => cases statement <;> first | exact ⟨rfl, rfl⟩ | cases hc
  | _ => cases hc

theorem Located.isEmpty (loc : root.Located V scope e) :
    scope.definitions.isEmpty = e.function?.isNone := by
  obtain ⟨ho, hf⟩ | ⟨o, f, ho, hf, -⟩ := cases_of_rel loc.owner
  · rw [List.head?_eq_none_iff.1 ho, hf]
    rfl
  · obtain ⟨others, ho⟩ := List.head?_eq_some_iff.1 ho
    rw [ho, hf]
    rfl

theorem placeTable_append (classes : List (NodePath × Nat)) (j : Nat)
    (hp : root.classAt? p = some h) : root.placeTable (classes ++ [(p, j)]) =
      if (root.enclosing p).function?.isNone then (root.placeTable classes).set h.name j
      else root.placeTable classes := by
  rw [placeTable, List.filter_append]
  split
  · rename_i outer
    simp [outer, hp, placeTable]
  · rename_i inner
    simp [inner, placeTable]

theorem Indexes.length_classes (ix : root.Indexes s V m) :
    (root.classesAmong V).length = m.classStatements.length := by
  simpa using (congrArg List.length ix.titles).symm

/-- No function that is met before a class is a method of it. -/
theorem Indexes.ownMethods_eq_nil (ix : root.Indexes s V m) (fresh : p ∉ V) :
    root.ownMethods p ((root.functionsAmong V).zip (items m)) = [] := by
  rw [ownMethods, List.filter_eq_nil_iff.2, List.map_nil]
  intro f hf
  have met := (List.mem_filter.1 (List.of_mem_zip hf).1).1
  simpa using (ix.not_within fresh met).2

/-- A class that is met gets a class statement without methods, and a place by its name if it is
outside functions. -/
theorem Indexes.class (ix : root.Indexes s V m) (loc : root.Located V scope e)
    (hp : root.classAt? p = some h) (he : root.enclosing p = e) (fresh : p ∉ V)
    (hi : item.name = h.name) : root.Indexes s (V ++ [p]) (addClass scope item bases m) := by
  obtain ⟨noFunction, noCall⟩ := plain_of_classAt? (s := s) hp
  have functions : root.functionsAmong (V ++ [p]) = root.functionsAmong V := by
    rw [functionsAmong_append]
    simp [functionsAmong, noFunction]
  have classes : root.classesAmong (V ++ [p]) = root.classesAmong V ++ [p] := by
    rw [classesAmong_append]
    simp [classesAmong, hp]
  have same : root.ownCalls s (V ++ [p]) = root.ownCalls s V := funext (ownCalls_concat noCall)
  constructor
  · rw [functions]
    exact ix.headings
  · rw [functions, same]
    exact ix.calls
  · rw [functions]
    exact ix.classNames
  · rw [classes, List.map_append, ← ix.titles]
    simp [addClass, hp, hi]
  · rw [classes, functions, List.map_append]
    have added : (addClass scope item bases m).classStatements.map (·.methods) =
        m.classStatements.map (·.methods) ++ [[]] :=
      List.map_append
    have itemsKept : items (addClass scope item bases m) = items m := rfl
    rw [added, itemsKept, ix.methods, List.map_singleton, ix.ownMethods_eq_nil fresh]
    rfl
  · rw [classes, List.zipIdx_append, List.zipIdx_singleton, placeTable_append _ _ hp, he,
      ← loc.isEmpty, ix.length_classes, ← ix.places, ← hi]
    simp [addClass]
  · exact ix.met_append loc fun q hq => by rw [List.mem_singleton.1 hq, he]

end Class

/-! ### Everything else that is recorded -/

/-- Two modules agree on what is recorded of functions and classes. -/
structure Agrees (m m' : Index.Module) : Prop where
  items : items m' = items m
  calls : m'.definitions.map (·.calls) = m.definitions.map (·.calls)
  classNames : m'.definitions.map (·.className) = m.definitions.map (·.className)
  titles : m'.classStatements.map (·.name) = m.classStatements.map (·.name)
  methods : m'.classStatements.map (·.methods) = m.classStatements.map (·.methods)
  places : m'.classPlaces = m.classPlaces

theorem Agrees.refl (m : Index.Module) : Agrees m m := ⟨rfl, rfl, rfl, rfl, rfl, rfl⟩

theorem Agrees.trans {m m' m'' : Index.Module} (h : Agrees m m') (h' : Agrees m' m'') :
    Agrees m m'' where
  items := h'.items.trans h.items
  calls := h'.calls.trans h.calls
  classNames := h'.classNames.trans h.classNames
  titles := h'.titles.trans h.titles
  methods := h'.methods.trans h.methods
  places := h'.places.trans h.places

theorem Indexes.congr {m' : Index.Module} (ix : root.Indexes s V m) (same : Agrees m m') :
    root.Indexes s V m' where
  headings := by rw [same.items, ix.headings]
  calls := by rw [same.calls, ix.calls]
  classNames := by rw [same.classNames, ix.classNames]
  titles := by
    have titles := congrArg (List.map some) same.titles
    simp only [List.map_map, Function.comp_def] at titles
    rw [titles, ix.titles]
  methods := by rw [same.methods, same.items, ix.methods]
  places := by rw [same.places, ix.places]
  met := ix.met

theorem agrees_recordType (target : Expr) (type : Option String) :
    Agrees m (recordType s scope target type m) := by
  unfold recordType
  split
  · split
    · refine ⟨?_, ?_, ?_, rfl, rfl, rfl⟩ <;>
      · refine map_modify_of_eq ?_ ..
        intro
        rfl
    · split
      · split
        · refine ⟨rfl, rfl, rfl, ?_, ?_, rfl⟩ <;>
          · refine map_modify_of_eq ?_ ..
            intro
            rfl
        · exact .refl m
      · exact .refl m
    · exact .refl m
  · exact .refl m

theorem agrees_foldl_recordType (targets : List Expr) (type : Option String) :
    Agrees m (targets.foldl (fun m target => recordType s scope target type m) m) := by
  induction targets generalizing m with
  | nil => exact .refl m
  | cons target targets ih => exact (agrees_recordType target type).trans ih

theorem agrees_recordCalls_nil : Agrees (recordCalls scope [] m) m where
  items := items_recordCalls.symm
  calls := by
    rw [recordCalls]
    split
    · refine (map_modify_of_eq ?_ ..).symm
      intro d
      exact List.append_nil d.calls
    · rfl
  classNames := classNames_recordCalls.symm
  titles := by rw [classStatements_recordCalls]
  methods := by rw [classStatements_recordCalls]
  places := classPlaces_recordCalls.symm

/-! ### A whole run -/

/-- Nodes that open no body and make no calls leave the record as it is. -/
theorem Indexes.skip (ix : root.Indexes s V m) (loc : root.Located V scope e)
    (quiet : root.Quiet s e W []) (nodup : V.Nodup) : root.Indexes s (V ++ W) m :=
  (ix.record loc quiet nodup).congr agrees_recordCalls_nil

/-- A statement that is known by its expressions. -/
theorem quiet_stmt {st : Stmt} {es : List Expr} (hp : root.at? p = some (.stmt st))
    (hc : (Node.stmt st).children = exprs .other es) (hf : (Node.stmt st).function? = none)
    (hk : (Node.stmt st).class? = none) :
    root.Quiet s (root.enclosing p) ((Node.stmt st).pathsFrom p) (s.callsOfAll es) := by
  rw [pathsFrom_eq, hc]
  exact .cons hp hf hk rfl rfl (quiet_exprs hp (.all hc))

theorem quiet_self (hp : root.at? p = some n) (hf : n.function? = none) (hc : n.class? = none)
    (hr : n.reference? s = none) : root.Quiet s (root.enclosing p) [p] [] :=
  .cons hp hf hc hr rfl ⟨by simp, by simp, rfl⟩

/-- Nothing is recorded of the annotation of a result. -/
theorem Indexes.result (ix : root.Indexes s V m) (quiet : root.Quiet s {} W calls)
    (nodup : V.Nodup) : root.Indexes s (V ++ W) m := by
  have nowhere : root.Located V ⟨[], [], false⟩ {} := ⟨.none, .none⟩
  exact ix.record nowhere quiet nodup

/-- The scope of the body of a function that has just been met. -/
theorem Indexes.located_function (ix : root.Indexes s V m) {h : Heading} {detail : String}
    {className : Option String} (hp : root.functionAt? p = some h) :
    root.Located (V ++ [p])
      { scope with
        definitions := ⟨m.definitions.length, detail, className⟩ :: scope.definitions
        inClass := false }
      { function? := some p } where
  owner := by
    refine .some ?_
    rw [← items_length, ← ix.length_items, functionsAmong_append]
    simp [functionsAmong, hp]
  title := .none

theorem Indexes.located_class (ix : root.Indexes s V m) (loc : root.Located V scope e)
    {h : Heading} {name detail : String} (hp : root.classAt? p = some h) (hi : name = h.name) :
    root.Located (V ++ [p])
      { scope with
        classes := ⟨m.classStatements.length, name, detail⟩ :: scope.classes
        inClass := true }
      { e with class? := some p } where
  owner := (loc.mono (W := [p])).owner
  title := by
    refine .some ⟨?_, by simp [hp, hi]⟩
    rw [← ix.length_classes, classesAmong_append]
    simp [classesAmong, hp]

theorem notMem_left {α : Type} {xs : List α} {a : α} (h : (xs ++ [a]).Nodup) : a ∉ xs :=
  fun ha => (List.nodup_append.1 h).2.2 a ha a (by simp) rfl

mutual

/-- A statement that is visited adds its nodes to those recorded. The recursion is the collector's
own; the paths are distinct, so a function or class that is met has not been met before. -/
theorem indexes_collect : (st : Stmt) → ∀ {V p scope m}, root.at? p = some (.stmt st) →
    root.Located V scope (root.enclosing p) → (V ++ (Node.stmt st).pathsFrom p).Nodup →
    root.Indexes s V m →
    root.Indexes s (V ++ (Node.stmt st).pathsFrom p) (Index.collect s scope m st)
  | .simple parts, V, p, scope, m, hp, loc, nodup, ix =>
    ix.record loc (quiet_stmt hp rfl rfl rfl) nodup.of_append_left
  | .assign targets value, V, p, scope, m, hp, loc, nodup, ix => by
    have quiet : root.Quiet s _ _ (s.callsOfAll (targets ++ [value])) :=
      quiet_stmt hp rfl rfl rfl
    rw [callsOfAll_append, Setting.callsOfAll, Setting.callsOfAll, List.append_nil] at quiet
    exact (ix.congr (agrees_foldl_recordType targets (constructedClass? value))).record loc quiet
      nodup.of_append_left
  | .annotate target annotation value, V, p, scope, m, hp, loc, nodup, ix =>
    (ix.congr (agrees_recordType target (annotatedClass? annotation))).record loc
      (quiet_stmt hp rfl rfl rfl) nodup.of_append_left
  | .importModules _, V, p, scope, m, hp, loc, nodup, ix => by
    have quiet : root.Quiet s _ _ (s.callsOfAll []) := quiet_stmt hp rfl rfl rfl
    exact (ix.skip loc quiet nodup.of_append_left).congr ⟨rfl, rfl, rfl, rfl, rfl, rfl⟩
  | .importNames .., V, p, scope, m, hp, loc, nodup, ix => by
    have quiet : root.Quiet s _ _ (s.callsOfAll []) := quiet_stmt hp rfl rfl rfl
    exact (ix.skip loc quiet nodup.of_append_left).congr ⟨rfl, rfl, rfl, rfl, rfl, rfl⟩
  | .function heading decorators parameters returns body, V, p, scope, m, hp, loc, nodup, ix => by
    have hn := Holds.all (n := .stmt (.function heading decorators parameters returns body)) rfl
    have hf : root.functionAt? p = some heading := by rw [functionAt?, hp]; rfl
    rw [pathsFrom_eq, children, branchesFrom_append, branchesFrom_append, List.append_cons,
      ← List.append_assoc, ← List.append_assoc] at nodup ⊢
    have nodupBody := nodup.of_append_left
    have nodupHead := nodupBody.of_append_left
    have nodupSelf := nodupHead.of_append_left
    have met : root.Indexes s _ (addFunction scope (functionItem s scope heading decorators) m) :=
      ix.function loc hf rfl (notMem_left nodupSelf) nodupSelf.of_append_left rfl
    -- Decorators and parameters are met in the scope around the function, the body in its own.
    have head := met.record loc.mono (quiet_exprs hp hn.left.left) nodupSelf
    rw [collect]
    refine Indexes.result ?_ (quiet_exprs hp hn.right) nodupBody
    exact indexes_collectAll body hp hn.left.right (ix.located_function hf).mono nodupBody head
  | .classDef heading bases named body decorators, V, p, scope, m, hp, loc, nodup, ix => by
    have hn := Holds.all (n := .stmt (.classDef heading bases named body decorators)) rfl
    have hc : root.classAt? p = some heading := by rw [classAt?, hp]; rfl
    rw [pathsFrom_eq, children, branchesFrom_append, branchesFrom_append, List.append_cons,
      ← List.append_assoc, ← List.append_assoc] at nodup ⊢
    have nodupBody := nodup.of_append_left
    have nodupHead := nodupBody.of_append_left
    have nodupSelf := nodupHead.of_append_left
    have met : root.Indexes s _ (addClass scope (classItem s scope heading) bases m) :=
      ix.class loc hc rfl (notMem_left nodupSelf) rfl
    have head := met.record loc.mono (quiet_exprs hp hn.left.left) nodupSelf
    rw [collect]
    refine Indexes.record ?_ loc.mono.mono.mono (quiet_exprs hp hn.right) nodupBody
    exact indexes_collectAll body hp hn.left.right (ix.located_class loc hc rfl).mono nodupBody
      head
  | .compound clauses, V, p, scope, m, hp, loc, nodup, ix => by
    rw [pathsFrom_eq, List.append_cons] at nodup ⊢
    have first := ix.skip loc (quiet_self hp rfl rfl rfl) nodup.of_append_left.of_append_left
    exact indexes_collectClauses clauses hp (.all rfl) loc.mono nodup first

theorem indexes_collectAll : (body : List Stmt) → ∀ {V n p i part scope m},
    root.at? p = some n → n.Holds i (stmts part body) →
    root.Located V scope (n.enter part p (root.enclosing p)) →
    (V ++ branchesFrom p i (stmts part body)).Nodup → root.Indexes s V m →
    root.Indexes s (V ++ branchesFrom p i (stmts part body)) (Index.collectAll s scope m body)
  | [], V, n, p, i, part, scope, m, hp, hn, loc, nodup, ix => by
    rw [stmts, List.map_nil, branchesFrom, List.append_nil]
    exact ix
  | st :: rest, V, n, p, i, part, scope, m, hp, hn, loc, nodup, ix => by
    rw [stmts, List.map_cons, branchesFrom, ← List.append_assoc] at nodup ⊢
    have here := enclosing_concat hp hn.head
    have one := indexes_collect st (at?_concat hp hn.head) (here ▸ loc) nodup.of_append_left ix
    exact indexes_collectAll rest hp hn.tail loc.mono nodup one

theorem indexes_collectClauses : (clauses : List Clause) → ∀ {V n p i scope m},
    root.at? p = some n → n.Holds i (clauses.map fun c => (.other, .clause c)) →
    root.Located V scope (root.enclosing p) →
    (V ++ branchesFrom p i (clauses.map fun c => (.other, .clause c))).Nodup →
    root.Indexes s V m →
    root.Indexes s (V ++ branchesFrom p i (clauses.map fun c => (.other, .clause c)))
      (Index.collectClauses s scope m clauses)
  | [], V, n, p, i, scope, m, hp, hn, loc, nodup, ix => by
    rw [List.map_nil, branchesFrom, List.append_nil]
    exact ix
  | .mk heads body :: rest, V, n, p, i, scope, m, hp, hn, loc, nodup, ix => by
    have hq := at?_concat hp hn.head
    have inside := Holds.all (n := .clause (.mk heads body)) rfl
    have here : root.enclosing (p ++ [i]) = root.enclosing p := enclosing_other hp hn.head
    rw [List.map_cons, branchesFrom, pathsFrom_eq, children, branchesFrom_append,
      ← List.cons_append, ← List.append_assoc, ← List.append_assoc] at nodup ⊢
    have nodupBody := nodup.of_append_left
    have nodupHead := nodupBody.of_append_left
    have quiet := (quiet_exprs (s := s) hq inside.left).cons hq rfl rfl rfl rfl
    have head := ix.record (here ▸ loc) quiet nodupHead.of_append_left
    have bodyMet := indexes_collectAll body hq inside.right (here ▸ loc.mono) nodupBody head
    exact indexes_collectClauses rest hp hn.tail loc.mono.mono nodup bodyMet

end

/-- A finished run has recorded all nodes of the tree. -/
theorem indexes_moduleIndex (s : Setting) (statements : List Stmt) :
    (Node.module statements).Indexes s ((Node.module statements).pathsFrom [])
      (moduleIndex s statements) := by
  have start : (Node.module statements).Indexes s [[]]
      ⟨s.path, s.moduleName, s.isPackage, [], [], [], [], []⟩ :=
    ⟨rfl, rfl, rfl, rfl, rfl, rfl, by simp [Enclosing.Within]⟩
  have nodup : ([[]] ++ branchesFrom [] 0 (stmts .other statements)).Nodup := by
    have sorted := (Node.module statements).sorted_pathsFrom []
    rw [pathsFrom_eq] at sorted
    exact sorted.imp ne_of_lt
  rw [pathsFrom_eq]
  exact indexes_collectAll statements rfl (.all rfl) ⟨.none, .none⟩ nodup start

end CallDiagram.Source.Node
