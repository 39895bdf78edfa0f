import CallDiagram.Proofs.Path
import CallDiagram.Proofs.Skip.Rules

/-! # Folders that are skipped

Whether a path is in a folder is a matter of whole components: a folder without root is found as a
run of components anywhere along the path, an absolute one at its start. Both are kept when the path
leads on, so the rules that look at folders hold for whatever lies below.
-/

namespace CallDiagram

open CallDiagram.Path

theorem occursIn_iff {run parts : List String} : occursIn run parts = true ↔ run <:+: parts := by
  induction parts with
  | nil => simp [occursIn]
  | cons part parts ih =>
      rw [occursIn, Bool.or_eq_true, List.isPrefixOf_iff_prefix, ih, List.infix_cons_iff]

theorem isUnder_of_relative {folder : String} (relative : (ofString folder).isAbsolute = false)
    (path : Path) :
    isUnder path folder = true ↔
      (ofString folder).parts ≠ [] ∧ (ofString folder).parts <:+: path.parts := by
  simp [isUnder, relative, occursIn_iff]

theorem isUnder_of_absolute {folder : String} (absolute : (ofString folder).isAbsolute = true)
    (path : Path) : isUnder path folder = true ↔ path.LiesIn (environmentOf (ofString folder)) := by
  simp [isUnder, absolute, isSome_relativeTo?_iff]

/-- Whatever lies below a path is in the folders that the path is in. -/
theorem isUnder_of_liesIn {path above : Path} (below : path.LiesIn above) {folder : String}
    (under : isUnder above folder = true) : isUnder path folder = true := by
  cases anchored : (ofString folder).isAbsolute with
  | true =>
      rw [isUnder_of_absolute anchored] at under ⊢
      exact below.trans under
  | false =>
      rw [isUnder_of_relative anchored] at under ⊢
      obtain ⟨names, rfl⟩ := below
      exact ⟨under.1, under.2.trans (List.prefix_append above.parts names).isInfix⟩

/-! ## Interpreters -/

/-- A program named python in a folder of programs, and the environment around that folder. -/
def IsInterpreterOf (program environment : List String) : Prop :=
  ∃ programs ∈ ["bin", "Scripts"], ∃ name : String, "python".toList <+: name.toList ∧
    program = environment ++ [programs, name]

theorem IsInterpreterOf.unique {program environment other : List String}
    (here : IsInterpreterOf program environment) (there : IsInterpreterOf program other) :
    environment = other := by
  obtain ⟨_, -, _, -, rfl⟩ := here
  obtain ⟨_, -, _, -, same⟩ := there
  exact (List.append_inj' same rfl).1

theorem environmentOf_interpreter {folder : Path} {environment : List String}
    (program : IsInterpreterOf folder.parts environment) :
    environmentOf folder = ⟨folder.anchor, environment⟩ := by
  obtain ⟨programs, listed, name, named, parts⟩ := program
  obtain ⟨anchor, _⟩ := folder
  obtain rfl := parts
  have named : name.startsWith "python" = true := String.startsWith_string_iff.mpr named
  have above : (environment ++ [programs, name]).dropLast = environment ++ [programs] := by
    rw [List.append_cons, List.dropLast_concat]
  simp only [environmentOf, Path.name, parent, above, List.dropLast_concat]
  simp [named, listed, List.getLastD_eq_getLast?]

theorem environmentOf_other {folder : Path}
    (plain : ∀ environment, ¬ IsInterpreterOf folder.parts environment) :
    environmentOf folder = folder := by
  refine if_neg fun program => ?_
  obtain ⟨named, listed⟩ := Bool.and_eq_true_iff.mp program
  obtain ⟨anchor, parts⟩ := folder
  rw [Path.name, List.getLastD_eq_getLast?, String.startsWith_string_iff] at named
  rw [Path.name, parent, List.getLastD_eq_getLast?] at listed
  rcases parts.eq_nil_or_concat with rfl | ⟨front, name, rfl⟩
  · exact absurd named (by simp)
  · rcases front.eq_nil_or_concat with rfl | ⟨environment, programs, rfl⟩
    · exact absurd listed (by simp)
    · exact plain environment ⟨programs, by simpa using listed, name, by simpa using named, by simp⟩

/-- The root of a path is no part of what makes an interpreter. -/
theorem isInterpreterOf_components_iff {folder : Path} (absolute : folder.isAbsolute = true)
    {environment : List String} :
    IsInterpreterOf folder.components environment ↔
      ∃ names, IsInterpreterOf folder.parts names ∧
        environment = Anchor.text folder.anchor :: names := by
  rw [components_of_absolute absolute]
  constructor
  · rintro ⟨programs, listed, name, named, whole⟩
    cases environment with
    | nil =>
        obtain ⟨root, -⟩ := List.cons.inj whole
        have component : IsComponent programs := by
          rcases List.mem_pair.mp listed with rfl | rfl <;> decide
        exact absurd (root ▸ component) (not_isComponent_text absolute)
    | cons root names =>
        obtain ⟨rfl, parts⟩ := List.cons.inj whole
        exact ⟨names, ⟨programs, listed, name, named, parts⟩, rfl⟩
  · rintro ⟨names, ⟨programs, listed, name, named, parts⟩, rfl⟩
    exact ⟨programs, listed, name, named, by rw [parts, List.cons_append]⟩

/-- A path is in an absolute folder if it begins with the components of the folder, or with those
of the environment whose interpreter the folder is. -/
theorem isUnder_absolute_iff {folder : String} (absolute : (ofString folder).isAbsolute = true)
    {path : Path} (read : path.IsRead) :
    isUnder path folder = true ↔ (ofString folder).components <+: path.components ∨
      ∃ environment, IsInterpreterOf (ofString folder).components environment ∧
        environment <+: path.components := by
  rw [isUnder_of_absolute absolute]
  generalize ofString folder = folder at absolute
  by_cases program : ∃ names, IsInterpreterOf folder.parts names
  · obtain ⟨names, program⟩ := program
    have environment : (⟨folder.anchor, names⟩ : Path).components =
        Anchor.text folder.anchor :: names := components_of_absolute absolute
    have interpreter := (isInterpreterOf_components_iff absolute).mpr ⟨names, program, rfl⟩
    have inside : path.LiesIn ⟨folder.anchor, names⟩ ↔
        Anchor.text folder.anchor :: names <+: path.components :=
      environment ▸ liesIn_iff_prefix read absolute
    rw [environmentOf_interpreter program, inside]
    constructor
    · exact fun begins => .inr ⟨_, interpreter, begins⟩
    · rintro (begins | ⟨other, same, begins⟩)
      · obtain ⟨_, -, _, -, whole⟩ := interpreter
        exact (whole ▸ List.prefix_append _ _).trans begins
      · exact interpreter.unique same ▸ begins
  · rw [environmentOf_other fun names interpreter => program ⟨names, interpreter⟩,
      liesIn_iff_prefix read absolute]
    constructor
    · exact .inl
    · rintro (begins | ⟨_, interpreter, -⟩)
      · exact begins
      · obtain ⟨names, interpreter, -⟩ := (isInterpreterOf_components_iff absolute).mp interpreter
        exact absurd ⟨names, interpreter⟩ program

/-- A path is in a folder without root if the components of the folder follow one another somewhere
among its own. -/
theorem isUnder_relative_iff {folder : String} (relative : (ofString folder).isAbsolute = false)
    (path : Path) :
    isUnder path folder = true ↔ (ofString folder).components ≠ [] ∧
      (ofString folder).components <:+: path.components := by
  rw [isUnder_of_relative relative, infix_components_iff (isRead_ofString folder) relative,
    components_of_relative relative]

/-! ## The rules for paths -/

namespace SkipConfiguration

variable {c : SkipConfiguration} {kind : SymbolKind} {uri below : String}

/-- Without globs, the rules before those for paths look at the kind only. -/
theorem applies_eq_of_no_globs (free : c.ignoreGlobs = []) {reason : SkipReason}
    (first : reason ∈ [.noFunction, .ignored]) (uri below : String) :
    c.applies kind uri reason = c.applies kind below reason := by
  rcases List.mem_pair.mp first with rfl | rfl
  · rfl
  · simp [applies, free]

/-- What lies below a path in the workspace is in the workspace. -/
theorem applies_outsideWorkspace_above (leads : (ofString below).LiesIn (ofString uri))
    (outside : c.applies kind below .outsideWorkspace = true) :
    c.applies kind uri .outsideWorkspace = true := by
  obtain ⟨restricted, outside⟩ := Bool.and_eq_true_iff.mp outside
  refine Bool.and_eq_true_iff.mpr ⟨restricted, ?_⟩
  rw [Bool.not_eq_true', List.any_eq_false] at outside ⊢
  intro root listed inside
  rw [isSome_relativeTo?_iff] at inside
  exact outside root listed (isSome_relativeTo?_iff.mpr (leads.trans inside))

theorem applies_thirdParty_below (leads : (ofString below).LiesIn (ofString uri))
    (foreign : c.applies kind uri .thirdParty = true) :
    c.applies kind below .thirdParty = true := by
  obtain ⟨ignored, under⟩ := Bool.and_eq_true_iff.mp foreign
  obtain ⟨folder, listed, inside⟩ := List.any_eq_true.mp under
  refine Bool.and_eq_true_iff.mpr ⟨ignored, ?_⟩
  exact List.any_eq_true.mpr ⟨folder, listed, isUnder_of_liesIn leads inside⟩

theorem skipReason?_thirdParty_below (free : c.ignoreGlobs = [])
    (leads : (ofString below).LiesIn (ofString uri))
    (foreign : skipReason? kind uri c = some .thirdParty) :
    skipReason? kind below c = some .thirdParty := by
  obtain ⟨foreign, earlier⟩ := skipReason?_eq_some_iff.mp foreign
  refine skipReason?_eq_some_iff.mpr ⟨applies_thirdParty_below leads foreign, fun reason before => ?_⟩
  have passed := earlier reason before
  have listed : reason ∈ [.noFunction, .ignored] ++ [.outsideWorkspace] := before
  rcases List.mem_append.mp listed with first | last
  · rw [applies_eq_of_no_globs free first below uri, passed]
  · obtain rfl := List.mem_singleton.mp last
    rw [← Bool.not_eq_true] at passed ⊢
    exact mt (applies_outsideWorkspace_above leads) passed

theorem skipReason?_outsideWorkspace_above (free : c.ignoreGlobs = [])
    (leads : (ofString below).LiesIn (ofString uri))
    (outside : skipReason? kind below c = some .outsideWorkspace) :
    skipReason? kind uri c = some .outsideWorkspace := by
  obtain ⟨outside, earlier⟩ := skipReason?_eq_some_iff.mp outside
  refine skipReason?_eq_some_iff.mpr
    ⟨applies_outsideWorkspace_above leads outside, fun reason before => ?_⟩
  rw [applies_eq_of_no_globs free before uri below, earlier reason before]

/-- Without globs, what lies below a path in a foreign package is in it too, and what lies below a
path in the workspace does not leave it. A path is in a folder by whole components only. -/
theorem skipReason?_below :
    (∀ (kind : SymbolKind) (c : SkipConfiguration) (uri below : String), c.ignoreGlobs = [] →
      (ofString below).LiesIn (ofString uri) →
        (skipReason? kind uri c = some .thirdParty →
          skipReason? kind below c = some .thirdParty) ∧
        (skipReason? kind uri c ≠ some .outsideWorkspace →
          skipReason? kind below c ≠ some .outsideWorkspace)) ∧
    ∀ uri folder : String,
      let path := ofString uri
      let wanted := ofString folder
      (wanted.isAbsolute = false → (isUnder path folder = true ↔
        wanted.components ≠ [] ∧ wanted.components <:+: path.components)) ∧
      (wanted.isAbsolute = true → (isUnder path folder = true ↔
        wanted.components <+: path.components ∨
          ∃ environment, IsInterpreterOf wanted.components environment ∧
            environment <+: path.components)) := by
  constructor
  · intro kind c uri below free leads
    exact ⟨skipReason?_thirdParty_below free leads,
      mt (skipReason?_outsideWorkspace_above free leads)⟩
  · intro uri folder path wanted
    exact ⟨fun relative => isUnder_relative_iff relative path,
      fun absolute => isUnder_absolute_iff absolute (isRead_ofString uri)⟩

/-- A module of an environment in the workspace is foreign like the environment, and a folder whose
name only begins alike is not. -/
theorem environment_skipped :
    let c : SkipConfiguration :=
      { restrictToWorkspace := true, workspaceRoots := ["/proj"], ignoreThirdParty := true,
        thirdPartyPaths := ["/proj/env/bin/python3", "site-packages"] }
    c.ignoreGlobs = [] ∧ (ofString "/proj/env/lib/json.py").LiesIn (ofString "/proj/env") ∧
      skipReason? .function "/proj/env" c = some .thirdParty ∧
      skipReason? .function "/proj/env/lib/json.py" c = some .thirdParty ∧
      skipReason? .function "/proj/env/lib/json.py" c ≠ some .outsideWorkspace ∧
      (ofString "site-packages").isAbsolute = false ∧
      isUnder (ofString "/lib/site-packages/six.py") "site-packages" = true ∧
      isUnder (ofString "/lib/my-site-packages/six.py") "site-packages" = false ∧
      (ofString "/proj/env/bin/python3").isAbsolute = true ∧
      isUnder (ofString "/proj/env/lib/json.py") "/proj/env/bin/python3" = true ∧
      isUnder (ofString "/proj/env2/lib/json.py") "/proj/env/bin/python3" = false := by
  intro c
  have leads : (ofString "/proj/env/lib/json.py").LiesIn (ofString "/proj/env") :=
    isSome_relativeTo?_iff.mp (by decide +kernel)
  have foreign : skipReason? .function "/proj/env" c = some .thirdParty := by decide +kernel
  have kept : skipReason? .function "/proj/env" c ≠ some .outsideWorkspace := by decide +kernel
  obtain ⟨rules, folders⟩ := skipReason?_below
  obtain ⟨below, inside⟩ := rules .function c _ _ rfl leads
  have relative := (folders "/lib/site-packages/six.py" "site-packages").1 (by decide +kernel)
  have absolute := (folders "/proj/env/lib/json.py" "/proj/env/bin/python3").2 (by decide +kernel)
  refine ⟨rfl, leads, foreign, below foreign, inside kept, by decide +kernel,
    relative.mpr (by decide +kernel), by decide +kernel, by decide +kernel,
    absolute.mpr (.inr ⟨["/", "proj", "env"], ?_, by decide +kernel⟩), by decide +kernel⟩
  exact ⟨"bin", by simp, "python3", by decide +kernel, by decide +kernel⟩

end SkipConfiguration

end CallDiagram
