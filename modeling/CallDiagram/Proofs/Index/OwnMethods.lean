import CallDiagram.Index.Resolve
import CallDiagram.Proofs.Index.Calls

/-! # Calls on the instance itself

A method of a class that calls another method of the class on a self token finds it, if the class
is the one that its name stands for in the module. Classes inside functions are not entered under
their names, and of several classes with one name the last is.
-/

namespace CallDiagram.Source.Node

open Index

/-- All functions of a tree, in the order of a visit. -/
def functions (root : Node) : List NodePath :=
  root.functionsAmong (root.pathsFrom [])

/-- The definition belongs to the function at `f`: both have the same place among their kind. -/
def DefinitionAt (root : Node) (m : Index.Module) (f : NodePath) (d : Definition) : Prop :=
  ∃ i : Nat, root.functions[i]? = some f ∧ m.definitions[i]? = some d

/-- The class statement at `c` is the one that its name stands for: it is outside functions, and
no later class outside functions has its name. -/
structure Known (root : Node) (c : NodePath) (heading : Heading) : Prop where
  here : root.classAt? c = some heading
  outer : ∀ f, ¬root.InBodyOf f c
  last : ∀ c' h, c < c' → root.classAt? c' = some h → (∀ f, ¬root.InBodyOf f c') →
    h.name ≠ heading.name

/-- Every call on a self token from a function right in the body of the class at `c` refers to a
function of that name right in the body of the class, if there is one. -/
def FindsOwnMethods (root : Node) (g : ProjectGraph) (m : Index.Module) (c : NodePath) : Prop :=
  ∀ f d r token f' h, root.DefinitionAt m f d → root.Scopes c f → r ∈ d.calls →
    r.isAttribute → r.receiver = some token → token ∈ g.selfTokens →
    root.functionAt? f' = some h → h.name = r.name → root.Scopes c f' →
    ∃ o method, root.DefinitionAt m o method ∧ root.Scopes c o ∧ method.item.name = r.name ∧
      g.resolve? ⟨d, m⟩ r = some method.item

variable {root : Node} {s : Setting} {m : Index.Module} {c f : NodePath} {heading : Heading}

/-! ## Methods by name -/

/-- The method of a name is the first item with the name. -/
theorem get?_methodTable (items : List Item) (name : String) :
    (methodTable items).get? name = items.find? (·.name = name) := by
  induction items using List.reverseRecOn with
  | nil => rfl
  | append_singleton items item ih =>
    rw [methodTable_append, Table.get?_setDefault, ih, List.find?_append]
    by_cases h : item.name = name
    · subst h
      rw [← Table.isSome_get?, ih]
      cases items.find? (·.name = item.name) <;> simp
    · simp [h]

/-- A method of a class is the item of the definition of a function right in its body. -/
theorem mem_ownMethods {item : Item} :
    item ∈ root.ownMethods c (root.functions.zip (items m)) ↔
      ∃ f d, root.DefinitionAt m f d ∧ (root.enclosing f).class? = some c ∧ d.item = item := by
  simp only [ownMethods, List.mem_map, List.mem_filter, decide_eq_true_iff]
  constructor
  · rintro ⟨⟨f, _⟩, ⟨hmem, hclass⟩, rfl⟩
    obtain ⟨i, hi⟩ := List.mem_iff_getElem?.1 hmem
    rw [List.getElem?_zip_eq_some] at hi
    obtain ⟨d, hd, rfl⟩ := Option.map_eq_some_iff.1 (List.getElem?_map .. ▸ hi.2)
    exact ⟨f, d, ⟨i, hi.1, hd⟩, hclass, rfl⟩
  · rintro ⟨f, d, ⟨i, hf, hd⟩, hclass, rfl⟩
    refine ⟨(f, d.item), ⟨List.mem_iff_getElem?.2 ⟨i, ?_⟩, hclass⟩, rfl⟩
    rw [List.getElem?_zip_eq_some]
    exact ⟨hf, by simp [items, hd]⟩

/-! ## Classes by name -/

theorem mem_classesAmong : c ∈ root.classesAmong (root.pathsFrom []) ↔
    (root.classAt? c).isSome := by
  rw [classesAmong, List.mem_filter, mem_pathsFrom_root, and_iff_right_iff_imp, classAt?]
  cases root.at? c <;> simp

theorem get?_foldl_set_of_ne {ε κ α : Type} [DecidableEq κ] {key : ε → κ} {value : ε → α} {k : κ}
    {es : List ε} (h : ∀ e ∈ es, key e ≠ k) (t : Table κ α) :
    (es.foldl (fun t e => Table.set t (key e) (value e)) t).get? k = t.get? k := by
  induction es generalizing t with
  | nil => rfl
  | cons e es ih =>
    rw [List.foldl_cons, ih fun e' he => h e' (by simp [he]), Table.get?_set,
      if_neg (h e (by simp))]

/-- A name stands for the last class outside functions that has it. -/
theorem get?_placeTable_of_last (hc : root.classAt? c = some heading)
    (outer : (root.enclosing c).function?.isNone) {before behind : List (NodePath × Nat)} {j : Nat}
    (later : ∀ e ∈ behind, (root.enclosing e.1).function?.isNone →
      ((root.classAt? e.1).map (·.name)).getD "" ≠ heading.name) :
    (root.placeTable (before ++ (c, j) :: behind)).get? heading.name = some j := by
  rw [placeTable, List.filter_append, List.filter_cons, if_pos outer, List.foldl_append,
    List.foldl_cons, get?_foldl_set_of_ne, Table.get?_set, hc]
  · simp
  · intro e he
    rw [List.mem_filter] at he
    exact later e he.1 he.2

/-- The name of a known class stands for the place of its statement. -/
theorem Known.get?_classPlaces (known : root.Known c heading)
    (ix : root.Indexes s (root.pathsFrom []) m) :
    ∃ j : Nat, (root.classesAmong (root.pathsFrom []))[j]? = some c ∧
      m.classPlaces.get? heading.name = some j := by
  have hp := known.here
  obtain ⟨n, hn, hc⟩ := Option.bind_eq_some_iff.1 hp
  have met : c ∈ root.classesAmong (root.pathsFrom []) := mem_classesAmong.2 (by simp [hp])
  have sorted : (root.classesAmong (root.pathsFrom [])).Pairwise (· < ·) :=
    (root.sorted_pathsFrom []).filter _
  obtain ⟨before, behind, split⟩ := List.append_of_mem met
  rw [split] at sorted
  have outer : (root.enclosing c).function?.isNone := by
    rw [Option.isNone_iff_eq_none, function?_enclosing_eq_none hn (ne_expr_of_class? hc)]
    exact known.outer
  refine ⟨before.length, by rw [split]; simp, ?_⟩
  rw [ix.places, split, List.zipIdx_append, List.zipIdx_cons, Nat.zero_add]
  refine get?_placeTable_of_last hp outer fun e he outside => ?_
  have later : e.1 ∈ behind := List.fst_mem_of_mem_zipIdx he
  have above : c < e.1 :=
    List.rel_of_pairwise_cons (List.pairwise_append.1 sorted).2.1 later
  have isClass : e.1 ∈ root.classesAmong (root.pathsFrom []) := by simp [split, later]
  obtain ⟨h, hh⟩ := Option.isSome_iff_exists.1 (List.mem_filter.1 isClass).2
  obtain ⟨n', hn', hc'⟩ := Option.bind_eq_some_iff.1 hh
  rw [hh]
  rw [Option.isNone_iff_eq_none, function?_enclosing_eq_none hn' (ne_expr_of_class? hc')]
    at outside
  exact known.last e.1 h above hh outside

/-- The statement of a known class is found by the class's name. -/
theorem Known.class? (known : root.Known c heading) (ix : root.Indexes s (root.pathsFrom []) m) :
    ∃ info, m.class? heading.name = some info ∧
      info.methods = methodTable (root.ownMethods c (root.functions.zip (items m))) := by
  obtain ⟨j, hj, place⟩ := known.get?_classPlaces ix
  have methods := congrArg (·[j]?) ix.methods
  simp only [List.getElem?_map, hj, Option.map_some, Option.map_eq_some_iff] at methods
  obtain ⟨info, hinfo, hmethods⟩ := methods
  refine ⟨info, ?_, hmethods⟩
  rw [Module.class?, place]
  exact hinfo

theorem Indexes.className_eq (ix : root.Indexes s (root.pathsFrom []) m) {d : Definition}
    (hd : root.DefinitionAt m f d) : d.className = root.className? (root.enclosing f) := by
  obtain ⟨i, hf, hd⟩ := hd
  have := congrArg (·[i]?) ix.classNames
  rw [functions] at hf
  simpa [List.getElem?_map, hf, hd] using this

/-- The class right around a function is the one found on the way down. -/
theorem scopes_iff_class? (hf : (root.functionAt? f).isSome) (hc : (root.classAt? c).isSome) :
    root.Scopes c f ↔ (root.enclosing f).class? = some c := by
  obtain ⟨h, hf⟩ := Option.isSome_iff_exists.1 hf
  obtain ⟨n, hn, hf⟩ := Option.bind_eq_some_iff.1 hf
  rw [class?_enclosing_iff hn (not_inResult hn (ne_expr_of_function? hf)), and_iff_right hc]

/-! ## Definitions by place -/

theorem DefinitionAt.functionAt? {d : Definition} (hd : root.DefinitionAt m f d) :
    (root.functionAt? f).isSome := by
  obtain ⟨i, hf, -⟩ := hd
  exact mem_functionsAmong.1 (List.mem_of_getElem? hf)

theorem exists_getElem?_of_forall₂ {α β : Type} {R : α → β → Prop} {xs : List α} {ys : List β}
    (h : List.Forall₂ R xs ys) {i : Nat} {x : α} (hx : xs[i]? = some x) :
    ∃ y, ys[i]? = some y ∧ R x y := by
  induction h generalizing i with
  | nil => cases hx
  | cons hr _ ih =>
    cases i with
    | zero =>
      cases hx
      exact ⟨_, rfl, hr⟩
    | succ i => exact ih hx

theorem Indexes.exists_definition (ix : root.Indexes s (root.pathsFrom []) m) {h : Heading}
    (hf : root.functionAt? f = some h) : ∃ d, root.DefinitionAt m f d ∧ d.item.name = h.name := by
  have met : f ∈ root.functions := mem_functionsAmong.2 (by simp [hf])
  obtain ⟨i, hi⟩ := List.mem_iff_getElem?.1 met
  obtain ⟨d, hd, ⟨h', hh, hname, -⟩, -⟩ := exists_getElem?_of_forall₂ ix.records hi
  cases hf.symm.trans hh
  exact ⟨d, ⟨i, hi, hd⟩, hname⟩

/-- The method of a name is the item of a function of that name right in the body of the class. -/
theorem Indexes.exists_method (ix : root.Indexes s (root.pathsFrom []) m)
    (hc : (root.classAt? c).isSome) {h : Heading} (hf : root.functionAt? f = some h)
    (hs : root.Scopes c f) :
    ∃ o method, root.DefinitionAt m o method ∧ root.Scopes c o ∧ method.item.name = h.name ∧
      (methodTable (root.ownMethods c (root.functions.zip (items m)))).get? h.name =
        some method.item := by
  obtain ⟨d, hd, hname⟩ := ix.exists_definition hf
  have among : d.item ∈ root.ownMethods c (root.functions.zip (items m)) :=
    mem_ownMethods.2 ⟨f, d, hd, (scopes_iff_class? hd.functionAt? hc).1 hs, rfl⟩
  rw [get?_methodTable]
  cases found : (root.ownMethods c (root.functions.zip (items m))).find? (·.name = h.name) with
  | none =>
    have := List.find?_eq_none.1 found d.item among
    simp [hname] at this
  | some item =>
    obtain ⟨o, method, ho, hclass, rfl⟩ := mem_ownMethods.1 (List.mem_of_find?_eq_some found)
    exact ⟨o, method, ho, (scopes_iff_class? ho.functionAt? hc).2 hclass,
      by simpa using List.find?_some found, rfl⟩

/-- Where no two definitions have one item, an item tells its function. -/
theorem DefinitionAt.eq_of_item (distinct : (items m).Nodup) {g : NodePath} {d d' : Definition}
    (hf : root.DefinitionAt m f d) (hg : root.DefinitionAt m g d') (same : d.item = d'.item) :
    f = g := by
  obtain ⟨i, hf, hd⟩ := hf
  obtain ⟨j, hg, hd'⟩ := hg
  have hi : (items m)[i]? = some d.item := by simp [items, hd]
  have hj : (items m)[j]? = some d.item := by simp [items, hd', same]
  have ij := (List.getElem?_inj (List.getElem?_eq_some_iff.1 hi).1 distinct).1 (hi.trans hj.symm)
  subst ij
  exact Option.some.inj (hf.symm.trans hg)

/-- A call that refers to a function elsewhere is not found in the class. -/
theorem not_findsOwnMethods {g : ProjectGraph} {o f' : NodePath} {d target : Definition}
    {r : CallReference} {token : String} {h : Heading} (distinct : (items m).Nodup)
    (hd : root.DefinitionAt m f d) (hc : root.Scopes c f) (hr : r ∈ d.calls)
    (hself : r.isAttribute ∧ r.receiver = some token ∧ token ∈ g.selfTokens)
    (hf' : root.functionAt? f' = some h) (hname : h.name = r.name) (hc' : root.Scopes c f')
    (ho : root.DefinitionAt m o target) (elsewhere : ¬root.Scopes c o)
    (resolved : g.resolve? ⟨d, m⟩ r = some target.item) : ¬root.FindsOwnMethods g m c := by
  intro finds
  obtain ⟨o', method, ho', hco, -, found⟩ :=
    finds f d r token f' h hd hc hr hself.1 hself.2.1 hself.2.2 hf' hname hc'
  have same := ho.eq_of_item distinct ho' (Option.some.inj (resolved.symm.trans found))
  exact elsewhere (same ▸ hco)

end CallDiagram.Source.Node

namespace CallDiagram.Index.ProjectGraph

open Source

/-- A look-up in a class that has the method itself goes no further. -/
theorem method?_of_get? {g : ProjectGraph} {c : ClassInfo} {name : String} {item : Item}
    (h : c.methods.get? name = some item) : g.method? c name = some item := by
  rw [method?, methodAmong?, if_pos, h]
  simp

/-- The first rule of a call on something decides where it has an answer. -/
theorem resolve?_of_own {g : ProjectGraph} {d : Indexed} {own : ClassInfo} {r : CallReference}
    {token : String} {item : Item} (hr : r.isAttribute) (receiver : r.receiver = some token)
    (isSelf : token ∈ g.selfTokens) (hown : ownClass? d = some own)
    (found : own.methods.get? r.name = some item) : g.resolve? d r = some item := by
  have onSelf : g.resolveOnSelf? d token r.name = some item := by
    simp [resolveOnSelf?, hown, isSelf, method?_of_get? found]
  simp [resolve?, hr, resolveAttribute?, receiver, onSelf]

/-- A call on a self token finds the method of the class around it. -/
theorem findsOwnMethods_of_known (g : ProjectGraph) (s : Setting) {statements : List Stmt}
    {c : NodePath} {heading : Heading} (known : (Node.module statements).Known c heading)
    (named : heading.name ≠ "") :
    (Node.module statements).FindsOwnMethods g (moduleIndex s statements) c := by
  intro f d r token f' h hd hc hr isAttribute receiver isSelf hf' hname hc'
  have ix := Node.indexes_moduleIndex s statements
  obtain ⟨info, hinfo, methods⟩ := known.class? ix
  have isClass : ((Node.module statements).classAt? c).isSome := by simp [known.here]
  have own : ownClass? ⟨d, moduleIndex s statements⟩ = some info := by
    have around := (Node.scopes_iff_class? hd.functionAt? isClass).1 hc
    have className : d.className = some heading.name := by
      simp [ix.className_eq hd, Node.className?, around, known.here]
    simp [ownClass?, className, named, hinfo]
  obtain ⟨o, method, ho, hco, hmethod, found⟩ := ix.exists_method isClass hf' hc'
  rw [← methods, hname] at found
  exact ⟨o, method, ho, hco, hmethod.trans hname,
    resolve?_of_own isAttribute receiver isSelf own found⟩

/-! ### Classes that are not found by their names -/

/-- A class of five lines whose first method calls the second on `self`. -/
def selfCaller (name : String) (spelled : IsWord name) (line column : Nat) : Stmt :=
  let mark (below behind : Nat) : Mark := ⟨line + below, column + behind⟩
  .classDef ⟨name, ⟨mark 0 6, mark 0 7⟩, ⟨mark 0 0, mark 5 12⟩, spelled⟩ [] []
    [.function ⟨"run", ⟨mark 1 8, mark 1 11⟩, ⟨mark 1 4, mark 2 19⟩, by decide⟩ [] [] none
      [.simple [.call (.attribute (.name "self" ⟨mark 2 8, mark 2 12⟩) "step" (mark 2 17)) [] []]],
    .function ⟨"step", ⟨mark 4 8, mark 4 12⟩, ⟨mark 4 4, mark 5 12⟩, by decide⟩ [] [] none
      [.simple []]] []

/-- Two classes with one name, and one inside a function. -/
def namesakes : List Stmt :=
  [selfCaller "A" (by decide) 1 0, selfCaller "A" (by decide) 9 0,
    .function ⟨"make", ⟨⟨17, 4⟩, ⟨17, 8⟩⟩, ⟨⟨17, 0⟩, ⟨24, 12⟩⟩, by decide⟩ [] [] none
      [selfCaller "B" (by decide) 18 4, .simple [.name "B" ⟨⟨24, 11⟩, ⟨24, 12⟩⟩]]]

def namesakesSetting : Setting where
  path := "/proj/a.py"
  moduleName := "a"
  isPackage := false
  lines := ["class A:", "    def run(self):", "        self.step()", "", "    def step(self):",
    "        pass", "", "", "class A:", "    def run(self):", "        self.step()", "",
    "    def step(self):", "        pass", "", "", "def make():", "    class B:",
    "        def run(self):", "            self.step()", "", "        def step(self):",
    "            pass", "    return B", ""].map String.toList
  selfTokens := ["self", "cls"]

def namesakesIndex : Module := moduleIndex namesakesSetting namesakes

def namesakesGraph : ProjectGraph :=
  ({ root := ⟨.root, ["proj"]⟩, selfTokens := ["self", "cls"] } : ProjectGraph).insert
    namesakesIndex

theorem pathsFrom_namesakes : (Node.module namesakes).pathsFrom [] =
    [[], [0], [0, 0], [0, 0, 0], [0, 0, 0, 0], [0, 0, 0, 0, 0], [0, 0, 0, 0, 0, 0], [0, 1],
      [0, 1, 0], [1], [1, 0], [1, 0, 0], [1, 0, 0, 0], [1, 0, 0, 0, 0], [1, 0, 0, 0, 0, 0], [1, 1],
      [1, 1, 0], [2], [2, 0], [2, 0, 0], [2, 0, 0, 0], [2, 0, 0, 0, 0], [2, 0, 0, 0, 0, 0],
      [2, 0, 0, 0, 0, 0, 0], [2, 0, 1], [2, 0, 1, 0], [2, 1], [2, 1, 0]] := by
  simp [Node.pathsFrom_eq, Node.branchesFrom, Node.children, Node.exprs, Node.stmts, Expr.children,
    namesakes, selfCaller]

theorem functions_namesakes : (Node.module namesakes).functions =
    [[0, 0], [0, 1], [1, 0], [1, 1], [2], [2, 0, 0], [2, 0, 1]] := by
  rw [Node.functions, pathsFrom_namesakes]
  rfl

theorem length_namesakes : namesakesIndex.definitions.length = 7 := by decide +kernel

/-- The definition of the function that starts as the `i`-th. -/
def namesake (i : Fin 7) : Definition :=
  namesakesIndex.definitions.get (i.cast length_namesakes.symm)

theorem definitionAt_namesakes (i : Fin 7) {f : NodePath}
    (hf : (Node.module namesakes).functions[(i : Nat)]? = some f) :
    (Node.module namesakes).DefinitionAt namesakesIndex f (namesake i) :=
  ⟨i, hf, List.getElem?_eq_getElem _⟩

theorem scopes_namesakes {c f : NodePath}
    (h : ((Node.module namesakes).functionAt? f).isSome ∧
      ((Node.module namesakes).classAt? c).isSome) :
    (Node.module namesakes).Scopes c f ↔
      ((Node.module namesakes).enclosing f).class? = some c :=
  Node.scopes_iff_class? h.1 h.2

/-- The call in a method `run`, whose line and column are given. -/
def stepCall (line column : Int) : CallReference :=
  ⟨"step", ⟨⟨line, column⟩, ⟨line, column + 4⟩⟩, some "self", true⟩

theorem stepCall_self (line column : Int) :
    (stepCall line column).isAttribute ∧ (stepCall line column).receiver = some "self" ∧
      "self" ∈ namesakesGraph.selfTokens :=
  ⟨rfl, rfl, by decide +kernel⟩

/-- The calls on `self` in the first of two classes with one name and in a class inside a function
refer to the method of another class. -/
theorem namesakes_not_found :
    ((Node.module namesakes).classAt? [0]).isSome ∧
      ¬(Node.module namesakes).FindsOwnMethods namesakesGraph namesakesIndex [0] ∧
      ((Node.module namesakes).classAt? [2, 0]).isSome ∧
      ¬(Node.module namesakes).FindsOwnMethods namesakesGraph namesakesIndex [2, 0] := by
  have distinct : (Node.items namesakesIndex).Nodup := by decide +kernel
  have second : (Node.module namesakes).DefinitionAt namesakesIndex [1, 1] (namesake 3) :=
    definitionAt_namesakes 3 (by rw [functions_namesakes]; rfl)
  refine ⟨rfl, ?_, rfl, ?_⟩
  · have run : (Node.module namesakes).DefinitionAt namesakesIndex [0, 0] (namesake 0) :=
      definitionAt_namesakes 0 (by rw [functions_namesakes]; rfl)
    have step : ((Node.module namesakes).functionAt? [0, 1]).map (·.name) = some "step" := rfl
    obtain ⟨heading, hstep, hname⟩ := Option.map_eq_some_iff.1 step
    have scopes (f : NodePath) := scopes_namesakes (c := [0]) (f := f)
    -- The name of the class stands for the second class, which has the method itself.
    have own : ownClass? ⟨namesake 0, namesakesIndex⟩ =
        namesakesIndex.classStatements[1]? := by decide +kernel
    have resolved : namesakesGraph.resolve? ⟨namesake 0, namesakesIndex⟩ (stepCall 2 13) =
        some (namesake 3).item :=
      resolve?_of_own rfl rfl (stepCall_self 2 13).2.2 own (by decide +kernel)
    exact Node.not_findsOwnMethods distinct run ((scopes _ ⟨rfl, rfl⟩).2 rfl) (by decide +kernel)
      (stepCall_self 2 13) hstep hname ((scopes _ ⟨rfl, rfl⟩).2 rfl) second
      (by rw [scopes _ ⟨rfl, rfl⟩]; decide +kernel) resolved
  · have run : (Node.module namesakes).DefinitionAt namesakesIndex [2, 0, 0] (namesake 5) :=
      definitionAt_namesakes 5 (by rw [functions_namesakes]; rfl)
    have step : ((Node.module namesakes).functionAt? [2, 0, 1]).map (·.name) = some "step" := rfl
    obtain ⟨heading, hstep, hname⟩ := Option.map_eq_some_iff.1 step
    have scopes (f : NodePath) := scopes_namesakes (c := [2, 0]) (f := f)
    -- The name of the class stands for nothing, and one class of the project has such a method.
    have resolved : namesakesGraph.resolve? ⟨namesake 5, namesakesIndex⟩ (stepCall 19 17) =
        some (namesake 3).item := by decide +kernel
    exact Node.not_findsOwnMethods distinct run ((scopes _ ⟨rfl, rfl⟩).2 rfl) (by decide +kernel)
      (stepCall_self 19 17) hstep hname ((scopes _ ⟨rfl, rfl⟩).2 rfl) second
      (by rw [scopes _ ⟨rfl, rfl⟩]; decide +kernel) resolved

theorem classesAmong_namesakes :
    (Node.module namesakes).classesAmong ((Node.module namesakes).pathsFrom []) =
      [[0], [1], [2, 0]] := by
  rw [pathsFrom_namesakes]
  rfl

/-- The second of two classes with one name is the one that the name stands for. -/
theorem known_namesakes : ∃ heading, (Node.module namesakes).Known [1] heading ∧
    heading.name = "A" := by
  refine ⟨_, ⟨rfl, ?_, fun c h later hc _ => ?_⟩, rfl⟩
  · have found : (Node.module namesakes).at? [1] =
        some (.stmt (selfCaller "A" (by decide) 9 0)) := rfl
    rw [← Node.function?_enclosing_eq_none found nofun]
    rfl
  · have among : c ∈ (Node.module namesakes).classesAmong ((Node.module namesakes).pathsFrom []) :=
      Node.mem_classesAmong.2 (by simp [hc])
    simp only [classesAmong_namesakes, List.mem_cons, List.not_mem_nil, or_false] at among
    obtain rfl | rfl | rfl := among
    · exact absurd later (by decide)
    · exact absurd later (by decide)
    · cases hc
      decide

/-- A call on `self` in the second of two classes with one name. -/
theorem namesakes_second_found : ∃ heading, (Node.module namesakes).Known [1] heading ∧
    heading.name ≠ "" ∧ ∃ o method, (Node.module namesakes).DefinitionAt namesakesIndex o method ∧
      (Node.module namesakes).Scopes [1] o ∧ method.item.name = "step" ∧
      namesakesGraph.resolve? ⟨namesake 2, namesakesIndex⟩ (stepCall 10 13) = some method.item := by
  obtain ⟨heading, known, name⟩ := known_namesakes
  have named : heading.name ≠ "" := by rw [name]; decide
  have run : (Node.module namesakes).DefinitionAt namesakesIndex [1, 0] (namesake 2) :=
    definitionAt_namesakes 2 (by rw [functions_namesakes]; rfl)
  have step : ((Node.module namesakes).functionAt? [1, 1]).map (·.name) = some "step" := rfl
  obtain ⟨h, hstep, hname⟩ := Option.map_eq_some_iff.1 step
  have scopes (f : NodePath) := scopes_namesakes (c := [1]) (f := f)
  have self := stepCall_self 10 13
  refine ⟨heading, known, named, ?_⟩
  exact findsOwnMethods_of_known namesakesGraph namesakesSetting known named [1, 0] (namesake 2)
    (stepCall 10 13) "self" [1, 1] h run ((scopes _ ⟨rfl, rfl⟩).2 rfl) (by decide +kernel)
    self.1 self.2.1 self.2.2 hstep hname ((scopes _ ⟨rfl, rfl⟩).2 rfl)

end CallDiagram.Index.ProjectGraph
