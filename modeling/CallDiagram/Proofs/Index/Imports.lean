import CallDiagram.Proofs.Index.Growth
import CallDiagram.Proofs.Index.Identity
import CallDiagram.Proofs.Text.Splitting
import Mathlib.Data.List.TakeWhile

/-! # Relative imports

An import climbs one package for each leading dot behind the first. One that climbs beyond the root
of the project does not leave it: what it climbs too far is taken from the end of the package
again, and the names behind it are looked up in what is left. Main statement: `importBase_eq`.
-/

namespace CallDiagram

namespace Text

theorem dotted_eq_singleton {part : String} (absent : '.' ∉ part.toList) :
    dotted part = [part] := by
  rw [dotted, splitOnChar_eq_singleton absent, List.map_singleton, String.ofList_toList]

/-- Names without dots are found again in their dotted name. -/
theorem dotted_intercalate {parts : List String} (any : parts ≠ [])
    (plain : ∀ part ∈ parts, '.' ∉ part.toList) : dotted (".".intercalate parts) = parts := by
  induction parts with
  | nil => exact (any rfl).elim
  | cons part others ih =>
      obtain ⟨first, later⟩ := List.forall_mem_cons.mp plain
      cases others with
      | nil => rw [String.intercalate_singleton, dotted_eq_singleton first]
      | cons next others =>
          have rest := ih (List.cons_ne_nil _ _) later
          have cut (text : String) : dotted (part ++ "." ++ text) = dotted part ++ dotted text := by
            have written : (part ++ "." ++ text).toList = part.toList ++ '.' :: text.toList := by
              simp
            rw [dotted, written, splitOnChar_append, List.map_append, dotted, dotted]
          rw [String.intercalate_cons_cons, cut, rest, dotted_eq_singleton first,
            List.singleton_append]

theorem partitionLast_of_notMem {sep : Char} {cs : List Char} (absent : sep ∉ cs) :
    partitionLast sep cs = ([], cs) := by
  have kept := ne_of_mem_reverse absent
  dsimp only [partitionLast]
  rw [List.dropWhile_eq_nil_iff.mpr kept, List.takeWhile_eq_self_iff.mpr kept]
  simp

end Text

namespace Index

open Source Text

/-- A source file of a project: the folders that lead to it from the root, and its name without
the ending. Modules can be imported if no name is empty or holds a dot. -/
structure SourceFile where
  folders : List String
  stem : String
  plain : ∀ name ∈ folders ++ [stem], name ≠ "" ∧ '.' ∉ name.toList

namespace SourceFile

def path (f : SourceFile) (root : Path) : Path :=
  ⟨root.anchor, root.parts ++ (f.folders ++ [f.stem ++ ".py"])⟩

def isPackage (f : SourceFile) : Bool := f.stem = "__init__"

variable (f : SourceFile) (g : ProjectGraph) (root : Path)

theorem name_path : (f.path root).name = f.stem ++ ".py" := by
  simp [path, Path.name]

theorem splitName_name : Path.splitName (f.stem ++ ".py") = (f.stem, ".py") := by
  obtain ⟨nonempty, -⟩ := f.plain f.stem (by simp)
  have written : (f.stem ++ ".py").toList = f.stem.toList ++ '.' :: ['p', 'y'] := by simp
  have cut : partitionLast '.' (f.stem.toList ++ '.' :: ['p', 'y']) = (f.stem.toList, ['p', 'y']) :=
    partitionLast_append _ (by decide)
  rw [Path.splitName, written, cut]
  simp [nonempty]

theorem moduleName_path : g.moduleName (f.path g.root) =
    ".".intercalate (if f.isPackage then f.folders else f.folders ++ [f.stem]) := by
  have below : (f.path g.root).relativeTo? g.root = some (f.folders ++ [f.stem ++ ".py"]) := by
    simp [Path.relativeTo?, path]
  have bare : ((⟨.relative, f.folders ++ [f.stem ++ ".py"]⟩ : Path).withEnding "").parts =
      f.folders ++ [f.stem] := by
    simp [Path.withEnding, Path.stem, Path.name, splitName_name]
  simp only [ProjectGraph.moduleName, below, bare, isPackage]
  simp

end SourceFile

/-- What the collector knows of a file. -/
def ProjectGraph.setting (g : ProjectGraph) (file : Path) (code : String) : Setting where
  path := file.toString
  moduleName := g.moduleName file
  isPackage := file.name = "__init__.py"
  lines := splitOnChar '\n' code.toList
  selfTokens := g.selfTokens

theorem ProjectGraph.readModule_eq (g : ProjectGraph) (file : Path) (code : String) :
    g.readModule file code = (parseModule code).map (moduleIndex (g.setting file code)) := by
  unfold readModule
  cases parseModule code <;> rfl

/-- The names in the written module of an import. -/
def moduleParts (source : Option String) : List String :=
  ((source.map dotted).getD []).filter (· ≠ "")

/-- The package of the module: the module itself or its folder. -/
def Setting.package (s : Setting) : List String :=
  if s.isPackage then dotted s.moduleName else (dotted s.moduleName).dropLast

/-- The folders of a file are its package; the root counts as a package without a name. -/
theorem package_setting (g : ProjectGraph) (f : SourceFile) (code : String) :
    (g.setting (f.path g.root) code).package = f.folders ∨
      f.folders = [] ∧ (g.setting (f.path g.root) code).package = [""] := by
  have known : (g.setting (f.path g.root) code).isPackage = f.isPackage := by
    have ending : "__init__.py" = "__init__" ++ ".py" := rfl
    simp only [ProjectGraph.setting, f.name_path, SourceFile.isPackage, ending,
      String.append_left_inj]
  have title : (g.setting (f.path g.root) code).moduleName = _ := f.moduleName_path g
  have plain : ∀ name ∈ f.folders ++ [f.stem], '.' ∉ name.toList :=
    fun name member => (f.plain name member).2
  rw [Setting.package, known, title]
  cases f.isPackage with
  | false =>
      have parts := dotted_intercalate (by simp) plain
      exact .inl (by simp [parts])
  | true =>
      -- The module of the root's own file has the empty name, which is cut into one empty part.
      by_cases top : f.folders = []
      · refine .inr ⟨top, ?_⟩
        rw [top]
        rfl
      · have parts := dotted_intercalate top fun name member =>
          plain name (List.mem_append_left _ member)
        exact .inl parts

/-- How many names of a package with `k` names are left where an import climbs `above` of them. -/
def keptNames (k above : Nat) : Nat :=
  if above ≤ k then k - above else 2 * k - above

theorem takeTo_sub {α : Type} (above : Nat) (xs : List α) :
    takeTo ((xs.length : Int) - above) xs = xs.take (keptNames xs.length above) := by
  unfold keptNames takeTo
  by_cases inside : above ≤ xs.length
  · have place : ((xs.length : Int) - above).toNat = xs.length - above := by omega
    rw [if_pos inside, if_pos (by omega), place]
  · have place : ((xs.length : Int) + (xs.length - above)).toNat = 2 * xs.length - above := by omega
    rw [if_neg inside, if_neg (by omega), place]

theorem importBase_succ (s : Setting) (above : Nat) (source : Option String) :
    importBase s (above + 1) source =
      ".".intercalate ((s.package.take (keptNames s.package.length above)).filter (· ≠ "") ++
        moduleParts source) := by
  have climbed : (if 1 < above + 1 then
      takeTo ((s.package.length : Int) - ((above + 1 : Nat) - 1)) s.package else s.package) =
      s.package.take (keptNames s.package.length above) := by
    have back : ((above + 1 : Nat) : Int) - 1 = above := by omega
    rw [back, takeTo_sub, ite_eq_left_iff]
    intro still
    obtain rfl : above = 0 := by omega
    exact (List.take_of_length_le (by simp [keptNames])).symm
  rw [moduleParts, ← List.filter_append, ← climbed]
  rfl

theorem importBase_setting (g : ProjectGraph) (f : SourceFile) (code : String) (above : Nat)
    (source : Option String) : importBase (g.setting (f.path g.root) code) (above + 1) source =
      ".".intercalate (f.folders.take (keptNames f.folders.length above) ++
        moduleParts source) := by
  rw [importBase_succ]
  rcases package_setting g f code with same | ⟨top, nameless⟩
  · have named : ∀ name ∈ f.folders.take (keptNames f.folders.length above),
        decide (name ≠ "") = true := by
      intro name member
      have within := List.mem_append_left [f.stem] (List.mem_of_mem_take member)
      exact decide_eq_true (f.plain name within).1
    rw [same, List.filter_eq_self.mpr named]
  · have none_left (count : Nat) : ([""].take count).filter (· ≠ "") = ([] : List String) := by
      cases count <;> simp
    rw [nameless, top, none_left, List.take_nil]

/-- The name of a member behind the dotted name of its module. -/
def qualified (base name : String) : String :=
  if base = "" then name else base ++ "." ++ name

theorem memberByDotted?_eq (g : ProjectGraph) {dotted base name : String} (nonempty : dotted ≠ "")
    (cut : partitionLast '.' dotted.toList = (base.toList, name.toList)) :
    g.memberByDotted? dotted = (g.modulesByName.get? base).bind (·.member? name) := by
  simp only [ProjectGraph.memberByDotted?, if_neg nonempty, cut, String.ofList_toList]
  rfl

/-- What is behind an imported name is looked up in the module of the import. -/
theorem memberByDotted?_qualified (g : ProjectGraph) {base name : String} (nonempty : name ≠ "")
    (plain : '.' ∉ name.toList) : g.memberByDotted? (qualified base name) =
      (g.modulesByName.get? base).bind (·.member? name) := by
  unfold qualified
  split
  · next top =>
    rw [top]
    exact memberByDotted?_eq g nonempty (partitionLast_of_notMem plain)
  · have written : (base ++ "." ++ name).toList = base.toList ++ '.' :: name.toList := by simp
    refine memberByDotted?_eq g (by simp [nonempty]) ?_
    rw [written, partitionLast_append _ plain]

/-- An import binds each name; what is bound again later does not count. -/
theorem get?_bindNames {a : Alias} {after : List Alias} (base : String) (before : List Alias)
    (m : Module) (named : a.name ≠ "*")
    (kept : ∀ b ∈ after, b.name ≠ "*" → b.rename.getD b.name ≠ a.rename.getD a.name) :
    (bindNames base (before ++ a :: after) m).imports.get? (a.rename.getD a.name) =
      some (qualified base a.name) := by
  simp only [bindNames, List.foldl_append, List.foldl_cons, if_neg named]
  generalize List.foldl _ m.imports before = imports
  induction after using List.reverseRecOn with
  | nil => simp [Table.get?_set, qualified]
  | append_singleton after b ih =>
      obtain ⟨others, last⟩ := List.forall_mem_append.mp kept
      rw [List.foldl_append, List.foldl_cons, List.foldl_nil]
      split
      · exact ih others
      · next bound => rw [Table.get?_set, if_neg (last b (List.mem_singleton_self b) bound), ih others]

/-- An import that climbs `above` packages from a file in `k` folders is read below the first
`k - above` of them. One that climbs beyond the root is indexed like one that climbs
`min k (above - k)` packages, which is inside the project. Its names lead to the members of the
module of that name. -/
theorem importBase_eq (g : ProjectGraph) (f : SourceFile) (code : String) (above : Nat)
    (source : Option String) :
    let s := g.setting (f.path g.root) code
    let k := f.folders.length
    (above ≤ k → importBase s (above + 1) source =
      ".".intercalate (f.folders.take (k - above) ++ moduleParts source)) ∧
    (k < above → ∀ scope m names, collect s scope m (.importNames (above + 1) source names) =
      collect s scope m (.importNames (min k (above - k) + 1) source names)) ∧
    ∀ scope m before after (a : Alias), a.name ≠ "*" →
      (∀ b ∈ after, b.name ≠ "*" → b.rename.getD b.name ≠ a.rename.getD a.name) →
      a.name ≠ "" → '.' ∉ a.name.toList →
      ∃ dotted,
        (collect s scope m (.importNames (above + 1) source (before ++ a :: after))).imports.get?
          (a.rename.getD a.name) = some dotted ∧
        ∀ whole : ProjectGraph, whole.memberByDotted? dotted =
          (whole.modulesByName.get? (importBase s (above + 1) source)).bind (·.member? a.name) := by
  intro s k
  refine ⟨fun inside => ?_, fun beyond scope m names => ?_, ?_⟩
  · rw [importBase_setting, keptNames, if_pos inside]
  -- What is cut off beyond the root is taken from the end of the package once more.
  · have kept : keptNames k above = keptNames k (min k (above - k)) := by
      unfold keptNames
      rw [if_neg (by omega), if_pos (by omega)]
      omega
    have same : importBase s (above + 1) source =
        importBase s (min k (above - k) + 1) source := by
      rw [importBase_setting, importBase_setting, kept]
    simp only [collect, same]
  · intro scope m before after a named kept nonempty plain
    refine ⟨qualified (importBase s (above + 1) source) a.name, ?_,
      fun whole => memberByDotted?_qualified whole nonempty plain⟩
    simp only [collect]
    exact get?_bindNames _ before m named kept

def shopGraph : ProjectGraph := { root := ⟨.root, ["p"]⟩, selfTokens := ["self"] }

/-- The file `shop/cart/total.py`. -/
def totalFile : SourceFile := ⟨["shop", "cart"], "total", by decide⟩

def totalSetting : Setting := shopGraph.setting (totalFile.path shopGraph.root) ""

/-- Two packages deep, two dots climb to the outer package. Four dots are one too many, and are read
like two. -/
theorem total_importBase :
    (1 ≤ 2 ∧ importBase totalSetting 2 (some "tax.local") = "shop.tax.local") ∧
    (2 < 3 ∧ ∀ scope m names, collect totalSetting scope m (.importNames 4 (some "tax") names) =
      collect totalSetting scope m (.importNames 2 (some "tax") names)) ∧
    ∀ scope m, ∃ dotted,
      (collect totalSetting scope m (.importNames 4 (some "tax") [⟨"sum", none⟩])).imports.get? "sum"
        = some dotted ∧ ∀ whole : ProjectGraph, whole.memberByDotted? dotted =
          (whole.modulesByName.get? "shop.tax").bind (·.member? "sum") := by
  have within := importBase_eq shopGraph totalFile "" 1 (some "tax.local")
  have beyond := importBase_eq shopGraph totalFile "" 3 (some "tax")
  have base : importBase totalSetting 4 (some "tax") = "shop.tax" := by decide +kernel
  refine ⟨⟨by decide, (within.1 (by decide)).trans (by decide +kernel)⟩,
    ⟨by decide, beyond.2.1 (by decide)⟩, fun scope m => ?_⟩
  rw [← base]
  exact beyond.2.2 scope m [] [] ⟨"sum", none⟩ (by decide) nofun (by decide) (by decide)

/-- A file in no package that climbs one package, and two other files of the root. -/
def stray : List (Path × String) :=
  [(⟨.root, ["p", "x.py"]⟩, "from ..m import f\n\ndef run():\n    f()\n"),
    (⟨.root, ["p", "m.py"]⟩, "def f():\n    pass\n"),
    (⟨.root, ["p", "other.py"]⟩, "def f():\n    pass\n")]

def strayGraph : ProjectGraph :=
  ({ root := ⟨.root, ["p"]⟩, selfTokens := ["self"] } : ProjectGraph).addAll stray

/-- The import leaves the project, and yet its name leads to a function of the project, which no
other rule would find: two functions have that name. -/
theorem stray_import_found :
    (∃ f : SourceFile, f.path strayGraph.root = ⟨.root, ["p", "x.py"]⟩ ∧ f.folders.length < 1) ∧
    strayGraph.uniqueFunction? "f" = none ∧
    ∃ d ∈ strayGraph.definitions.values, d.definition.item.uri = "/p/x.py" ∧
      d.module.imports = [("f", "m.f")] ∧ ∃ call ∈ d.definition.calls, call.name = "f" ∧
        (strayGraph.resolve? d call).map (·.identity) = some "/p/m.py#f@0:0" := by
  have unclear : strayGraph.uniqueFunction? "f" = none := by decide +kernel
  refine ⟨⟨⟨[], "x", by decide⟩, by decide +kernel, by decide⟩, unclear, ?_⟩
  decide +kernel

end Index

end CallDiagram
