import CallDiagram.Proofs.Index.Order
import CallDiagram.Proofs.Index.OwnMethods
import Mathlib.Data.List.Pairwise

/-! # Methods that are found by their name alone

Where no other rule has an answer, a call on something refers to the method of its name if only one
class of the project has one. What counts are the classes that the modules know by their names:
each of them is a class statement outside functions, the last one of its name in its module.

Main statement: `resolve?_eq_onlyMethod`.
-/

namespace CallDiagram.Table

variable {ε κ α : Type} [DecidableEq κ] {key : ε → κ} {value : ε → α} {k : κ}

theorem mem_keys_foldl_set {es : List ε} {t : Table κ α} :
    k ∈ (es.foldl (fun t e => Table.set t (key e) (value e)) t).keys ↔
      k ∈ t.keys ∨ ∃ e ∈ es, key e = k := by
  induction es generalizing t with
  | nil => simp
  | cons e es ih =>
      have entered : k ∈ (Table.set t (key e) (value e)).keys ↔ k ∈ t.keys ∨ key e = k := by
        rw [keys_set]
        grind
      rw [List.foldl_cons, ih, entered, List.exists_mem_cons_iff, or_assoc]

theorem nodup_keys_foldl_set (es : List ε) {t : Table κ α} (distinct : t.keys.Nodup) :
    (es.foldl (fun t e => Table.set t (key e) (value e)) t).keys.Nodup := by
  induction es generalizing t with
  | nil => exact distinct
  | cons e es ih => exact ih (nodup_keys_set _ _ distinct)

end CallDiagram.Table

namespace CallDiagram.Source.Node

open Index

/-- The method of a name in the class that a name stands for. -/
def methodIn? (m : Index.Module) (title name : String) : Option Item :=
  (m.class? title).bind (·.methods.get? name)

/-- A function of the name stands right in the body of the class at `c`. -/
def HasMethod (root : Node) (c : NodePath) (name : String) : Prop :=
  (root.classAt? c).isSome ∧ ∃ f h, root.functionAt? f = some h ∧ h.name = name ∧ root.Scopes c f

/-- The class at `c` is outside functions and has a method of the name. -/
def Offers (root : Node) (c : NodePath) (name : String) : Prop :=
  (∀ f, ¬root.InBodyOf f c) ∧ root.HasMethod c name

variable {root : Node} {s : Setting} {m : Index.Module} {c c' : NodePath} {h heading : Heading}

theorem Known.unique {heading' : Heading} (known : root.Known c heading)
    (known' : root.Known c' heading') (same : heading.name = heading'.name) : c = c' := by
  rcases lt_trichotomy c c' with before | rfl | behind
  · exact (known.last c' heading' before known'.here known'.outer same.symm).elim
  · rfl
  · exact (known'.last c heading behind known.here known.outer same).elim

/-- Of the classes outside functions that have a name, the last is the one that it stands for. -/
theorem exists_known (here : root.classAt? c = some h) (outer : ∀ f, ¬root.InBodyOf f c) :
    ∃ c' heading, root.Known c' heading ∧ heading.name = h.name := by
  classical
  let named (p : NodePath) : Prop :=
    (∀ f, ¬root.InBodyOf f p) ∧ ∃ heading, root.classAt? p = some heading ∧ heading.name = h.name
  -- Paths are listed in the order of a visit, so the last of the list is the last of the name.
  have listed {p : NodePath} : p ∈ (root.pathsFrom []).filter (named ·) ↔ named p := by
    rw [List.mem_filter, decide_eq_true_iff, and_iff_right_iff_imp, mem_pathsFrom_root]
    rintro ⟨-, _, found, -⟩
    obtain ⟨n, there, -⟩ := Option.bind_eq_some_iff.mp found
    simp [there]
  have any : (root.pathsFrom []).filter (named ·) ≠ [] :=
    List.ne_nil_of_mem (listed.mpr ⟨outer, h, here, rfl⟩)
  obtain ⟨outside, heading, found, same⟩ := listed.mp (List.getLast_mem any)
  refine ⟨_, heading, ⟨found, outside, fun p h' later there outer' same' => ?_⟩, same⟩
  have member := listed.mpr ⟨outer', h', there, same'.trans same⟩
  have sorted : ((root.pathsFrom []).filter (named ·)).Pairwise (· ≤ ·) :=
    ((root.sorted_pathsFrom []).filter _).imp le_of_lt
  exact absurd later (not_lt_of_ge (sorted.rel_getLast member))

namespace Indexes

variable (ix : root.Indexes s (root.pathsFrom []) m)

include ix

/-- Every name of a class in the module is that of a class statement that it stands for. -/
theorem exists_known {title : String} (entered : title ∈ m.classPlaces.keys) :
    ∃ c heading, root.Known c heading ∧ heading.name = title := by
  rw [ix.places, placeTable, Table.mem_keys_foldl_set] at entered
  obtain ⟨⟨c, j⟩, member, name⟩ := entered.resolve_left List.not_mem_nil
  obtain ⟨listed, outside⟩ := List.mem_filter.mp member
  obtain ⟨h, here⟩ := Option.isSome_iff_exists.mp
    (mem_classesAmong.mp (List.fst_mem_of_mem_zipIdx listed))
  obtain ⟨n, there, isClass⟩ := Option.bind_eq_some_iff.mp here
  rw [Option.isNone_iff_eq_none, function?_enclosing_eq_none there (ne_expr_of_class? isClass)]
    at outside
  obtain ⟨c', heading, known, same⟩ := Node.exists_known here outside
  rw [here] at name
  exact ⟨c', heading, known, same.trans name⟩

theorem nodup_classPlaces : m.classPlaces.keys.Nodup := by
  rw [ix.places, placeTable]
  exact Table.nodup_keys_foldl_set _ List.nodup_nil

/-- What the class of a name finds is a function of its own statement. -/
theorem exists_method_of_known (known : root.Known c heading) {name : String} {item : Item}
    (found : methodIn? m heading.name name = some item) :
    ∃ o method, root.DefinitionAt m o method ∧ root.Scopes c o ∧ method.item.name = name ∧
      method.item = item := by
  obtain ⟨info, entered, methods⟩ := known.class? ix
  have isClass : (root.classAt? c).isSome := by simp [known.here]
  rw [methodIn?, entered, Option.bind_some, methods, get?_methodTable] at found
  obtain ⟨o, method, ho, around, rfl⟩ := mem_ownMethods.mp (List.mem_of_find?_eq_some found)
  exact ⟨o, method, ho, (scopes_iff_class? ho.functionAt? isClass).mpr around,
    by simpa using List.find?_some found, rfl⟩

theorem hasMethod_of_definitionAt (here : (root.classAt? c).isSome) {o : NodePath} {d : Definition}
    (ho : root.DefinitionAt m o d) (inside : root.Scopes c o) : root.HasMethod c d.item.name := by
  obtain ⟨i, listed, same⟩ := ho
  obtain ⟨d', same', record⟩ := exists_getElem?_of_forall₂ ix.records listed
  cases same.symm.trans same'
  obtain ⟨h, isFunction, name, -⟩ := record.heading
  exact ⟨here, o, h, isFunction, name.symm, inside⟩

/-- A class that its name stands for is asked for a method exactly if it has one. -/
theorem isSome_method_iff (known : root.Known c heading) {name : String} :
    (methodIn? m heading.name name).isSome ↔ root.HasMethod c name := by
  have isClass : (root.classAt? c).isSome := by simp [known.here]
  constructor
  · intro some
    obtain ⟨item, found⟩ := Option.isSome_iff_exists.mp some
    obtain ⟨o, method, ho, inside, rfl, -⟩ := ix.exists_method_of_known known found
    exact ix.hasMethod_of_definitionAt isClass ho inside
  · rintro ⟨-, f, h, isFunction, rfl, inside⟩
    obtain ⟨info, entered, methods⟩ := known.class? ix
    obtain ⟨o, method, -, -, -, found⟩ := ix.exists_method isClass isFunction inside
    rw [methodIn?, entered, Option.bind_some, methods, found]
    rfl

end Indexes

end CallDiagram.Source.Node

namespace CallDiagram.Index

open Source

theorem Module.classes_eq (m : Module) (distinct : m.classPlaces.keys.Nodup) :
    m.classes = m.classPlaces.keys.filterMap m.class? := by
  have each : ∀ e ∈ m.classPlaces, m.classStatements[e.2]? = m.class? e.1 := by
    intro e member
    rw [class?, Table.get?_of_mem distinct member]
    rfl
  rw [classes, Table.values, Table.keys, List.filterMap_map, List.filterMap_map]
  exact List.filterMap_congr each

/-- A source file that has been read. -/
structure ReadFile where
  setting : Setting
  statements : List Stmt

namespace ReadFile

def tree (file : ReadFile) : Node := .module file.statements

def module (file : ReadFile) : Module := moduleIndex file.setting file.statements

theorem indexes (file : ReadFile) :
    file.tree.Indexes file.setting (file.tree.pathsFrom []) file.module :=
  Node.indexes_moduleIndex file.setting file.statements

/-- The names of the classes that the modules of the files know. -/
def titles (files : List ReadFile) : List (ReadFile × String) :=
  files.flatMap fun file => file.module.classPlaces.keys.map (file, ·)

end ReadFile

namespace ProjectGraph

open ReadFile

/-- The modules of the graph are those of the files. -/
def HasFiles (g : ProjectGraph) (files : List ReadFile) : Prop :=
  g.modules = files.map fun file => (file.setting.path, file.module)

/-- The call is one on something, and nothing is found by what its receiver may be. -/
structure Unruled (g : ProjectGraph) (d : Indexed) (r : CallReference) : Prop where
  isAttribute : r.isAttribute
  onSelf : ∀ receiver ∈ r.receiver, g.resolveOnSelf? d receiver r.name = none
  onAttribute : ∀ receiver ∈ r.receiver, g.resolveOnAttribute? d receiver r.name = none
  onLocal : ∀ receiver ∈ r.receiver, g.resolveOnLocal? d receiver r.name = none
  onClass : ∀ receiver ∈ r.receiver, g.resolveOnClass? d receiver r.name = none
  onModule : ∀ receiver ∈ r.receiver, g.resolveOnModule? d receiver r.name = none

variable {g : ProjectGraph} {files : List ReadFile} {d : Indexed} {r : CallReference}

theorem Unruled.resolve? (unruled : g.Unruled d r) :
    g.resolve? d r = g.uniqueMethod? r.name := by
  rw [ProjectGraph.resolve?, if_pos unruled.isAttribute, resolveAttribute?]
  cases receiver : r.receiver with
  | none => rfl
  | some text =>
      simp [unruled.onSelf text receiver, unruled.onAttribute text receiver,
        unruled.onLocal text receiver, unruled.onClass text receiver,
        unruled.onModule text receiver]

theorem exists_hasFiles (grown : g.Grown) : ∃ files, g.HasFiles files := by
  induction grown with
  | empty root selfTokens => exact ⟨[], rfl⟩
  | @insert g s statements _ ih =>
      obtain ⟨files, read⟩ := ih
      have entered : ∀ files : List ReadFile, ∃ files' : List ReadFile,
          Table.set (files.map fun file => (file.setting.path, file.module)) s.path
            (moduleIndex s statements) =
          files'.map fun file => (file.setting.path, file.module) := by
        intro files
        induction files with
        | nil => exact ⟨[⟨s, statements⟩], rfl⟩
        | cons file files ih =>
            obtain ⟨files', same⟩ := ih
            rw [List.map_cons, Table.set]
            split
            · exact ⟨⟨s, statements⟩ :: files, rfl⟩
            · exact ⟨file :: files', congrArg _ same⟩
      obtain ⟨files', same⟩ := entered files
      refine ⟨files', ?_⟩
      rw [HasFiles, ← same, ← read]
      exact congrArg (Table.set g.modules · _) (placed_moduleIndex s statements).path
  | fail name _ ih => exact ih

theorem HasFiles.nodup_titles (read : g.HasFiles files) (grown : g.Grown) :
    (titles files).Nodup := by
  have paths := grown.distinct.1
  rw [read, Table.keys, List.map_map] at paths
  refine List.nodup_flatMap.mpr ⟨fun file _ => ?_, ?_⟩
  · exact (file.indexes.nodup_classPlaces).map fun _ _ same => (Prod.mk.inj same).2
  · refine (List.Nodup.of_map _ paths).imp fun different => List.disjoint_left.mpr ?_
    rintro ⟨_, title⟩ first second
    obtain ⟨_, -, same⟩ := List.mem_map.mp first
    obtain ⟨_, -, same'⟩ := List.mem_map.mp second
    cases same
    cases same'
    exact different rfl

theorem HasFiles.uniqueMethod? (read : g.HasFiles files) (name : String) :
    g.uniqueMethod? name =
      only? ((titles files).filterMap fun t => Node.methodIn? t.1.module t.2 name) := by
  have modules : g.modules.values = files.map (·.module) := by
    rw [Table.values, read, List.map_map]
    rfl
  have each (file : ReadFile) : file.module.classes.filterMap (·.methods.get? name) =
      (file.module.classPlaces.keys.map (file, ·)).filterMap
        fun t => Node.methodIn? t.1.module t.2 name := by
    rw [Module.classes_eq _ file.indexes.nodup_classPlaces, List.filterMap_filterMap,
      List.filterMap_map]
    rfl
  rw [ProjectGraph.uniqueMethod?, modules, titles, List.flatMap_map, List.filterMap_flatMap]
  simp only [each]

theorem only?_filterMap_eq_some_iff {α β : Type} {f : α → Option β} {xs : List α} {b : β}
    (distinct : xs.Nodup) : only? (xs.filterMap f) = some b ↔
      ∃ a ∈ xs, f a = some b ∧ ∀ a' ∈ xs, (f a').isSome → a' = a := by
  constructor
  · intro only
    have single : xs.filterMap f = [b] := by
      unfold only? at only
      split at only
      · next same => rw [same, Option.some.inj only]
      · cases only
    obtain ⟨before, a, behind, rfl, none, found, rest⟩ := List.filterMap_eq_cons_iff.mp single
    have none' := List.filterMap_eq_nil_iff.mp rest
    refine ⟨a, by simp, found, fun a' member isSome => ?_⟩
    rcases List.mem_append.mp member with first | later
    · simp [none a' first] at isSome
    · rcases List.mem_cons.mp later with same | last
      · exact same
      · simp [none' a' last] at isSome
  · rintro ⟨a, member, found, others⟩
    obtain ⟨before, behind, rfl⟩ := List.append_of_mem member
    obtain ⟨apart, apart'⟩ := List.nodup_middle.mp distinct |> List.nodup_cons.mp
    have nothing : ∀ a' ∈ before ++ behind, f a' = none := by
      intro a' listed
      rw [← Option.not_isSome_iff_eq_none]
      intro isSome
      have within : a' ∈ before ++ a :: behind := by
        rcases List.mem_append.mp listed with first | last <;> simp [*]
      exact apart (others a' within isSome ▸ listed)
    have left := List.filterMap_eq_nil_iff.mpr fun a' first =>
      nothing a' (List.mem_append_left behind first)
    have right := List.filterMap_eq_nil_iff.mpr fun a' last =>
      nothing a' (List.mem_append_right before last)
    rw [List.filterMap_append, List.filterMap_cons_some found, left, right]
    rfl

theorem mem_titles_of_known {file : ReadFile} {c : NodePath} {heading : Heading}
    (listed : file ∈ files) (known : file.tree.Known c heading) :
    (file, heading.name) ∈ titles files := by
  obtain ⟨j, -, place⟩ := known.get?_classPlaces file.indexes
  have entered : heading.name ∈ file.module.classPlaces.keys :=
    List.mem_map_of_mem (f := Prod.fst) (Table.mem_of_get? place)
  exact List.mem_flatMap.mpr ⟨file, listed, List.mem_map_of_mem entered⟩

theorem exists_of_mem_titles {t : ReadFile × String} (listed : t ∈ titles files) :
    t.1 ∈ files ∧ ∃ c heading, t.1.tree.Known c heading ∧ heading.name = t.2 := by
  obtain ⟨file, member, named⟩ := List.mem_flatMap.mp listed
  obtain ⟨title, entered, rfl⟩ := List.mem_map.mp named
  exact ⟨member, file.indexes.exists_known entered⟩

/-- The only method of a name is the one of the only class with such a method, among the classes
that their names stand for. -/
theorem HasFiles.uniqueMethod?_eq_some_iff (read : g.HasFiles files) (grown : g.Grown)
    {name : String} {item : Item} : g.uniqueMethod? name = some item ↔
      ∃ file ∈ files, ∃ c heading, file.tree.Known c heading ∧
        Node.methodIn? file.module heading.name name = some item ∧
        ∀ file' ∈ files, ∀ c' heading', file'.tree.Known c' heading' →
          file'.tree.HasMethod c' name → file' = file ∧ c' = c := by
  rw [read.uniqueMethod?, only?_filterMap_eq_some_iff (read.nodup_titles grown)]
  constructor
  · rintro ⟨t, listed, found, others⟩
    obtain ⟨member, c, heading, known, title⟩ := exists_of_mem_titles listed
    refine ⟨t.1, member, c, heading, known, title ▸ found,
      fun file' member' c' heading' known' has => ?_⟩
    have same := others _ (mem_titles_of_known member' known')
      ((file'.indexes.isSome_method_iff known').mpr has)
    subst same
    exact ⟨rfl, known'.unique known title.symm⟩
  · rintro ⟨file, member, c, heading, known, found, only⟩
    refine ⟨_, mem_titles_of_known member known, found, fun t listed isSome => ?_⟩
    obtain ⟨member', c', heading', known', title⟩ := exists_of_mem_titles listed
    rw [← title, t.1.indexes.isSome_method_iff known'] at isSome
    obtain ⟨sameFile, sameClass⟩ := only t.1 member' c' heading' known' isSome
    rw [sameFile, sameClass] at known'
    have same : heading' = heading := Option.some.inj (known'.here.symm.trans known.here)
    exact Prod.ext sameFile (by rw [← title, same])

/-- A call for which no other rule has an answer refers to a method if only one class statement
outside functions has one, and to nothing if none or several have one. Of the classes of a module
with one name this holds for the last. -/
theorem resolve?_eq_onlyMethod (g : ProjectGraph) (grown : g.Grown) :
    (∃ files, g.HasFiles files) ∧
    ∀ files, g.HasFiles files → ∀ d r, g.Unruled d r →
      ((∀ file ∈ files, ∀ c, ¬file.tree.Offers c r.name) → g.resolve? d r = none) ∧
      (∀ file ∈ files, ∀ c heading, file.tree.Known c heading → file.tree.Offers c r.name →
        (∀ file' ∈ files, ∀ c', file'.tree.Offers c' r.name → file' = file ∧ c' = c) →
        ∃ o method, file.tree.DefinitionAt file.module o method ∧ file.tree.Scopes c o ∧
          method.item.name = r.name ∧ g.resolve? d r = some method.item) ∧
      ∀ file ∈ files, ∀ file' ∈ files, ∀ c c' heading heading', file.tree.Known c heading →
        file'.tree.Known c' heading' → file.tree.Offers c r.name → file'.tree.Offers c' r.name →
        (file ≠ file' ∨ c ≠ c') → g.resolve? d r = none := by
  refine ⟨exists_hasFiles grown, fun files read d r unruled => ?_⟩
  have answer (item : Item) : g.uniqueMethod? r.name = some item ↔ _ :=
    read.uniqueMethod?_eq_some_iff grown
  rw [unruled.resolve?]
  refine ⟨fun nowhere => ?_, ?_, ?_⟩
  · by_contra some
    obtain ⟨item, found⟩ := Option.ne_none_iff_exists'.mp some
    obtain ⟨file, member, c, heading, known, found, -⟩ := (answer item).mp found
    have has := (file.indexes.isSome_method_iff known).mp (Option.isSome_of_eq_some found)
    exact nowhere file member c ⟨known.outer, has⟩
  · intro file member c heading known offered only
    have isSome := (file.indexes.isSome_method_iff known).mpr offered.2
    obtain ⟨item, found⟩ := Option.isSome_iff_exists.mp isSome
    obtain ⟨o, method, ho, inside, name, rfl⟩ := file.indexes.exists_method_of_known known found
    have unique := (answer method.item).mpr ⟨file, member, c, heading, known, found,
      fun file' member' c' _ known' has => only file' member' c' ⟨known'.outer, has⟩⟩
    exact ⟨o, method, ho, inside, name, unique⟩
  · intro file member file' member' c c' heading heading' known known' offered offered' different
    by_contra some
    obtain ⟨item, found⟩ := Option.ne_none_iff_exists'.mp some
    obtain ⟨_, _, _, _, _, -, only⟩ := (answer item).mp found
    have first := only file member c heading known offered.2
    have second := only file' member' c' heading' known' offered'.2
    rcases different with apart | apart
    · exact apart (first.1.trans second.1.symm)
    · exact apart (first.2.trans second.2.symm)

/-! ### Classes that do not count -/

/-- A method of two lines whose name has four letters. -/
def shortMethod (name : String) (spelled : IsWord name) (line column : Nat) : Stmt :=
  .function ⟨name, ⟨⟨line, column + 4⟩, ⟨line, column + 8⟩⟩,
    ⟨⟨line, column⟩, ⟨line + 1, column + 8⟩⟩, spelled⟩ [] [] none [.simple []]

/-- A class of three lines with one method. -/
def shortClass (name method : String) (spelled : IsWord name) (spelled' : IsWord method)
    (line column : Nat) : Stmt :=
  .classDef ⟨name, ⟨⟨line, column + 6⟩, ⟨line, column + 7⟩⟩,
    ⟨⟨line, column⟩, ⟨line + 2, column + 12⟩⟩, spelled⟩ [] []
    [shortMethod method spelled' (line + 1) (column + 4)] []

/-- A call of a method of the parameter `x`, on a line of its own. -/
def callOnParameter (method : String) (line : Nat) : Stmt :=
  .simple [.call (.attribute (.name "x" ⟨⟨line, 4⟩, ⟨line, 5⟩⟩) method ⟨line, 10⟩) [] []]

/-- Two classes with one name, one inside a function, two with methods of one name, and a function
that calls methods of its parameter. -/
def shorts : ReadFile where
  setting :=
    { path := "/proj/a.py"
      moduleName := "a"
      isPackage := false
      lines := ["class P:", "    def halt(self):", "        pass", "class P:",
        "    def walk(self):", "        pass", "def pick():", "    class Q:",
        "        def walk(self):", "            pass", "    return Q", "class R:",
        "    def rest(self):", "        pass", "class S:", "    def rest(self):", "        pass",
        "def go(x):", "    x.walk()", "    x.halt()", "    x.rest()", "    x.stop()",
        ""].map String.toList
      selfTokens := ["self", "cls"] }
  statements :=
    [shortClass "P" "halt" (by decide) (by decide) 1 0,
      shortClass "P" "walk" (by decide) (by decide) 4 0,
      .function ⟨"pick", ⟨⟨7, 4⟩, ⟨7, 8⟩⟩, ⟨⟨7, 0⟩, ⟨11, 12⟩⟩, by decide⟩ [] [] none
        [shortClass "Q" "walk" (by decide) (by decide) 8 4,
          .simple [.name "Q" ⟨⟨11, 11⟩, ⟨11, 12⟩⟩]],
      shortClass "R" "rest" (by decide) (by decide) 12 0,
      shortClass "S" "rest" (by decide) (by decide) 15 0,
      .function ⟨"go", ⟨⟨18, 4⟩, ⟨18, 6⟩⟩, ⟨⟨18, 0⟩, ⟨22, 12⟩⟩, by decide⟩ [] [] none
        [callOnParameter "walk" 19, callOnParameter "halt" 20, callOnParameter "rest" 21,
          callOnParameter "stop" 22]]

def shortsGraph : ProjectGraph :=
  ({ root := ⟨.root, ["proj"]⟩, selfTokens := ["self", "cls"] } : ProjectGraph).insert
    shorts.module

theorem pathsFrom_shorts : shorts.tree.pathsFrom [] =
    [[], [0], [0, 0], [0, 0, 0], [1], [1, 0], [1, 0, 0], [2], [2, 0], [2, 0, 0], [2, 0, 0, 0],
      [2, 1], [2, 1, 0], [3], [3, 0], [3, 0, 0], [4], [4, 0], [4, 0, 0], [5], [5, 0], [5, 0, 0],
      [5, 0, 0, 0], [5, 0, 0, 0, 0], [5, 1], [5, 1, 0], [5, 1, 0, 0], [5, 1, 0, 0, 0], [5, 2],
      [5, 2, 0], [5, 2, 0, 0], [5, 2, 0, 0, 0], [5, 3], [5, 3, 0], [5, 3, 0, 0],
      [5, 3, 0, 0, 0]] := by
  simp [Node.pathsFrom_eq, Node.branchesFrom, Node.children, Node.exprs, Node.stmts, Expr.children,
    ReadFile.tree, shorts, shortClass, shortMethod, callOnParameter]

theorem classesAmong_shorts : shorts.tree.classesAmong (shorts.tree.pathsFrom []) =
    [[0], [1], [2, 0], [3], [4]] := by
  rw [pathsFrom_shorts]
  rfl

theorem functions_shorts : shorts.tree.functions =
    [[0, 0], [1, 0], [2], [2, 0, 0], [3, 0], [4, 0], [5]] := by
  rw [Node.functions, pathsFrom_shorts]
  rfl

theorem hasMethod_shorts {c : NodePath} {name : String} : shorts.tree.HasMethod c name ↔
    (c, name) ∈ [([0], "halt"), ([1], "walk"), ([2, 0], "walk"), ([3], "rest"), ([4], "rest")] := by
  have scopes {f : NodePath} (isFunction : (shorts.tree.functionAt? f).isSome)
      (isClass : (shorts.tree.classAt? c).isSome) :=
    Node.scopes_iff_class? isFunction isClass
  constructor
  · rintro ⟨isClass, f, h, isFunction, rfl, inside⟩
    have isSome := Option.isSome_of_eq_some isFunction
    rw [scopes isSome isClass] at inside
    have among : f ∈ shorts.tree.functions := Node.mem_functionsAmong.mpr isSome
    simp only [functions_shorts, List.mem_cons, List.not_mem_nil, or_false] at among
    rcases among with rfl | rfl | rfl | rfl | rfl | rfl | rfl <;> cases isFunction <;>
      cases inside <;> simp
  · intro among
    simp only [List.mem_cons, Prod.mk.injEq, List.not_mem_nil, or_false] at among
    rcases among with ⟨rfl, rfl⟩ | ⟨rfl, rfl⟩ | ⟨rfl, rfl⟩ | ⟨rfl, rfl⟩ | ⟨rfl, rfl⟩
    · exact ⟨rfl, [0, 0], _, rfl, rfl, (scopes rfl rfl).mpr rfl⟩
    · exact ⟨rfl, [1, 0], _, rfl, rfl, (scopes rfl rfl).mpr rfl⟩
    · exact ⟨rfl, [2, 0, 0], _, rfl, rfl, (scopes rfl rfl).mpr rfl⟩
    · exact ⟨rfl, [3, 0], _, rfl, rfl, (scopes rfl rfl).mpr rfl⟩
    · exact ⟨rfl, [4, 0], _, rfl, rfl, (scopes rfl rfl).mpr rfl⟩

/-- All classes outside functions but the first are the ones that their names stand for. -/
theorem known_shorts {c : NodePath} (among : c ∈ [[1], [3], [4]]) :
    ∃ heading, shorts.tree.Known c heading := by
  have isClass : (shorts.tree.classAt? c).isSome := by
    simp only [List.mem_cons, List.not_mem_nil, or_false] at among
    rcases among with rfl | rfl | rfl <;> rfl
  obtain ⟨heading, here⟩ := Option.isSome_iff_exists.mp isClass
  obtain ⟨n, there, isClass⟩ := Option.bind_eq_some_iff.mp here
  refine ⟨heading, here, ?_, fun c' h later hc outer => ?_⟩
  · rw [← Node.function?_enclosing_eq_none there (Node.ne_expr_of_class? isClass)]
    simp only [List.mem_cons, List.not_mem_nil, or_false] at among
    rcases among with rfl | rfl | rfl <;> rfl
  · have listed : c' ∈ shorts.tree.classesAmong (shorts.tree.pathsFrom []) :=
      Node.mem_classesAmong.mpr (by simp [hc])
    simp only [classesAmong_shorts, List.mem_cons, List.not_mem_nil, or_false] at listed among
    rcases among with rfl | rfl | rfl <;> rcases listed with rfl | rfl | rfl | rfl | rfl <;>
      first
      | exact absurd later (by decide)
      | (cases here; cases hc; decide)

theorem inBodyOf_shorts : shorts.tree.InBodyOf [2] [2, 0] :=
  ⟨rfl, 0, [], _, _, rfl, rfl, rfl⟩

theorem length_shorts : shorts.module.definitions.length = 7 := by decide

/-- The function that calls methods of its parameter. -/
def shortsCaller : Indexed :=
  ⟨shorts.module.definitions.get ⟨6, by rw [length_shorts]; decide⟩, shorts.module⟩

def parameterCall (name : String) (line : Int) : CallReference :=
  ⟨name, ⟨⟨line, 6⟩, ⟨line, 10⟩⟩, some "x", true⟩

theorem calls_shorts : shortsCaller.definition.calls =
    [parameterCall "walk" 18, parameterCall "halt" 19, parameterCall "rest" 20,
      parameterCall "stop" 21] := by
  decide

theorem unruled_shorts {r : CallReference} (called : r ∈ shortsCaller.definition.calls) :
    shortsGraph.Unruled shortsCaller r := by
  simp only [calls_shorts, List.mem_cons, List.not_mem_nil, or_false] at called
  rcases called with rfl | rfl | rfl | rfl
  all_goals
    refine ⟨rfl, ?_, ?_, ?_, ?_, ?_⟩ <;>
    · rintro _ ⟨⟩
      decide

/-- A call finds a method although a class inside a function has one of that name too, and another
call does not find the only method of its name, whose class has lost its name. -/
theorem shorts_uncounted : shortsGraph.HasFiles [shorts] ∧
    (∃ r ∈ shortsCaller.definition.calls, shortsGraph.Unruled shortsCaller r ∧
      shorts.tree.HasMethod [1] r.name ∧ shorts.tree.HasMethod [2, 0] r.name ∧
      (shortsGraph.resolve? shortsCaller r).map (·.detail) = some "P.walk") ∧
    ∃ r ∈ shortsCaller.definition.calls, shortsGraph.Unruled shortsCaller r ∧
      (∀ c, shorts.tree.HasMethod c r.name ↔ c = [0]) ∧
      shortsGraph.resolve? shortsCaller r = none := by
  have walk : parameterCall "walk" 18 ∈ shortsCaller.definition.calls := by simp [calls_shorts]
  have halt : parameterCall "halt" 19 ∈ shortsCaller.definition.calls := by simp [calls_shorts]
  refine ⟨rfl, ⟨_, walk, unruled_shorts walk, ?_, ?_, ?_⟩, _, halt, unruled_shorts halt, ?_, ?_⟩
  · exact hasMethod_shorts.mpr (by simp [parameterCall])
  · exact hasMethod_shorts.mpr (by simp [parameterCall])
  · decide
  · intro c
    rw [hasMethod_shorts]
    simp [parameterCall]
  · decide

/-- No method, one that counts, and two that count. -/
theorem shorts_onlyMethod : shortsGraph.Grown ∧ shortsGraph.HasFiles [shorts] ∧
    (∃ r, shortsGraph.Unruled shortsCaller r ∧ (∀ c, ¬shorts.tree.Offers c r.name) ∧
      shortsGraph.resolve? shortsCaller r = none) ∧
    (∃ r c heading, shortsGraph.Unruled shortsCaller r ∧ shorts.tree.Known c heading ∧
      shorts.tree.Offers c r.name ∧ (∀ c', shorts.tree.Offers c' r.name → c' = c) ∧
      ∃ o method, shorts.tree.DefinitionAt shorts.module o method ∧ shorts.tree.Scopes c o ∧
        method.item.name = r.name ∧ shortsGraph.resolve? shortsCaller r = some method.item) ∧
    ∃ r c c' heading heading', shortsGraph.Unruled shortsCaller r ∧
      shorts.tree.Known c heading ∧ shorts.tree.Known c' heading' ∧ shorts.tree.Offers c r.name ∧
      shorts.tree.Offers c' r.name ∧ c ≠ c' ∧ shortsGraph.resolve? shortsCaller r = none := by
  have grown : shortsGraph.Grown := (Grown.empty _ _).insert shorts.setting shorts.statements
  have read : shortsGraph.HasFiles [shorts] := rfl
  have member : shorts ∈ [shorts] := List.mem_singleton_self _
  have only {r : CallReference} (called : r ∈ shortsCaller.definition.calls) :=
    (resolve?_eq_onlyMethod shortsGraph grown).2 [shorts] read shortsCaller r (unruled_shorts called)
  have stop : parameterCall "stop" 21 ∈ shortsCaller.definition.calls := by simp [calls_shorts]
  have walk : parameterCall "walk" 18 ∈ shortsCaller.definition.calls := by simp [calls_shorts]
  have rest : parameterCall "rest" 20 ∈ shortsCaller.definition.calls := by simp [calls_shorts]
  have nowhere (c : NodePath) : ¬shorts.tree.Offers c "stop" := by
    rintro ⟨-, has⟩
    simp [hasMethod_shorts] at has
  obtain ⟨second, known⟩ := known_shorts (c := [1]) (by simp)
  obtain ⟨third, known'⟩ := known_shorts (c := [3]) (by simp)
  obtain ⟨fourth, known''⟩ := known_shorts (c := [4]) (by simp)
  have offered : shorts.tree.Offers [1] "walk" := ⟨known.outer, hasMethod_shorts.mpr (by simp)⟩
  have offered' : shorts.tree.Offers [3] "rest" := ⟨known'.outer, hasMethod_shorts.mpr (by simp)⟩
  have offered'' : shorts.tree.Offers [4] "rest" := ⟨known''.outer, hasMethod_shorts.mpr (by simp)⟩
  have alone (c : NodePath) (offers : shorts.tree.Offers c "walk") : c = [1] := by
    have has := hasMethod_shorts.mp offers.2
    simp only [List.mem_cons, Prod.mk.injEq, String.reduceEq, and_false, and_true, false_or,
      List.not_mem_nil, or_false] at has
    rcases has with rfl | rfl
    · rfl
    · exact (offers.1 [2] inBodyOf_shorts).elim
  refine ⟨grown, read, ⟨_, unruled_shorts stop, nowhere, ?_⟩,
    ⟨_, [1], second, unruled_shorts walk, known, offered, alone, ?_⟩,
    ⟨_, [3], [4], third, fourth, unruled_shorts rest, known', known'', offered', offered'', by decide,
      ?_⟩⟩
  · exact (only stop).1 fun file listed c => List.mem_singleton.mp listed ▸ nowhere c
  · refine (only walk).2.1 shorts member [1] second known offered fun file' listed c' offers => ?_
    obtain rfl := List.mem_singleton.mp listed
    exact ⟨rfl, alone c' offers⟩
  · exact (only rest).2.2 shorts member shorts member [3] [4] third fourth known' known'' offered'
      offered'' (.inr (by decide))

end ProjectGraph

end CallDiagram.Index
