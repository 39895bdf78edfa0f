import CallDiagram.Skip

/-! # Rules for skipping

Each rule looks at the kind or the path of a callee by itself, and the first one that applies gives
the reason. A callee is skipped if any rule applies at all, so what matters for a configuration is
to which callees each of its rules applies: more of them under a tighter configuration, the same
ones if its entries are only reordered or repeated.
-/

namespace CallDiagram

/-- The reasons in the order in which their rules are tried. -/
def SkipReason.inOrder : List SkipReason :=
  [.noFunction, .ignored, .outsideWorkspace, .thirdParty]

theorem SkipReason.mem_inOrder (reason : SkipReason) : reason ∈ inOrder := by
  cases reason <;> simp [inOrder]

/-- An entry is the first one to pass if it passes and none before it does. -/
theorem find?_eq_some_iff_takeWhile {α : Type} [DecidableEq α] {passes : α → Bool} {a : α}
    {list : List α} (member : a ∈ list) : list.find? passes = some a ↔
      passes a = true ∧ ∀ b ∈ list.takeWhile (· ≠ a), passes b = false := by
  induction list with
  | nil => cases member
  | cons b list ih =>
      by_cases same : b = a
      · subst same
        rw [List.takeWhile_cons_of_neg (by simp)]
        constructor
        · exact fun first => ⟨List.find?_some first, fun _ none => absurd none List.not_mem_nil⟩
        · exact fun first => List.find?_cons_of_pos first.1
      · have later : a ∈ list := (List.mem_cons.mp member).resolve_left (Ne.symm same)
        rw [List.takeWhile_cons_of_pos (by simpa using same), List.forall_mem_cons]
        cases first : passes b with
        | true => simp [first, same]
        | false =>
            rw [List.find?_cons_of_neg (by simp [first]), ih later]
            simp

namespace SkipConfiguration

variable {c c' : SkipConfiguration} {kind : SymbolKind} {uri : String} {reason : SkipReason}

/-- Whether the rule for a reason applies, whatever the rules before it say. -/
def applies (c : SkipConfiguration) (kind : SymbolKind) (uri : String) : SkipReason → Bool
  | .noFunction => !kind.isCallable
  | .ignored => c.ignoreGlobs.any fun glob => Text.globMatches glob uri
  | .outsideWorkspace => c.restrictToWorkspace && !c.workspaceRoots.any fun root =>
      ((Path.ofString uri).relativeTo? (Path.ofString root)).isSome
  | .thirdParty => c.ignoreThirdParty && c.thirdPartyPaths.any (isUnder (Path.ofString uri))

/-- The first rule that applies gives the reason. -/
theorem skipReason?_eq_find? (kind : SymbolKind) (uri : String) (c : SkipConfiguration) :
    skipReason? kind uri c = SkipReason.inOrder.find? (c.applies kind uri) := by
  have tried : ∀ reason others, (reason :: others).find? (c.applies kind uri) =
      if c.applies kind uri reason then some reason else others.find? (c.applies kind uri) := by
    intro reason others
    cases applies : c.applies kind uri reason <;> simp [applies]
  rw [SkipReason.inOrder, tried, tried, tried, tried, List.find?_nil]
  rfl

theorem skipReason?_eq_some_iff : skipReason? kind uri c = some reason ↔
    c.applies kind uri reason = true ∧
      ∀ earlier ∈ SkipReason.inOrder.takeWhile (· ≠ reason), c.applies kind uri earlier = false := by
  rw [skipReason?_eq_find?, find?_eq_some_iff_takeWhile reason.mem_inOrder]

theorem isSome_skipReason?_iff :
    (skipReason? kind uri c).isSome = true ↔ ∃ reason, c.applies kind uri reason = true := by
  rw [skipReason?_eq_find?, List.find?_isSome]
  exact exists_congr fun reason => and_iff_right reason.mem_inOrder

/-! ## Configurations that skip more -/

/-- A configuration that has all entries of another one by which calls are skipped, and no roots
but its. -/
structure Tightens (c' c : SkipConfiguration) : Prop where
  globs : c.ignoreGlobs ⊆ c'.ignoreGlobs
  restricts : c.restrictToWorkspace = true → c'.restrictToWorkspace = true
  roots : c'.workspaceRoots ⊆ c.workspaceRoots
  ignores : c.ignoreThirdParty = true → c'.ignoreThirdParty = true
  folders : c.thirdPartyPaths ⊆ c'.thirdPartyPaths

/-- Every rule applies wherever it applies under a less tight configuration. Fewer roots leave more
of the paths outside, as the rule for the workspace asks for a path that is below none of them. -/
theorem Tightens.applies (tightens : c'.Tightens c) (holds : c.applies kind uri reason = true) :
    c'.applies kind uri reason = true := by
  cases reason with
  | noFunction => exact holds
  | ignored =>
      obtain ⟨glob, listed, fits⟩ := List.any_eq_true.mp holds
      exact List.any_eq_true.mpr ⟨glob, tightens.globs listed, fits⟩
  | outsideWorkspace =>
      obtain ⟨restricted, outside⟩ := Bool.and_eq_true_iff.mp holds
      rw [Bool.not_eq_true', List.any_eq_false] at outside
      refine Bool.and_eq_true_iff.mpr ⟨tightens.restricts restricted, ?_⟩
      rw [Bool.not_eq_true', List.any_eq_false]
      exact fun root listed => outside root (tightens.roots listed)
  | thirdParty =>
      obtain ⟨ignored, under⟩ := Bool.and_eq_true_iff.mp holds
      obtain ⟨folder, listed, inside⟩ := List.any_eq_true.mp under
      refine Bool.and_eq_true_iff.mpr ⟨tightens.ignores ignored, ?_⟩
      exact List.any_eq_true.mpr ⟨folder, tightens.folders listed, inside⟩

/-- Two configurations with the same entries, in any order and however often. -/
structure Reorders (c' c : SkipConfiguration) : Prop where
  globs : ∀ glob, glob ∈ c'.ignoreGlobs ↔ glob ∈ c.ignoreGlobs
  restricts : c'.restrictToWorkspace = c.restrictToWorkspace
  roots : ∀ root, root ∈ c'.workspaceRoots ↔ root ∈ c.workspaceRoots
  ignores : c'.ignoreThirdParty = c.ignoreThirdParty
  folders : ∀ folder, folder ∈ c'.thirdPartyPaths ↔ folder ∈ c.thirdPartyPaths

theorem Reorders.symm (reorders : c'.Reorders c) : c.Reorders c' where
  globs glob := (reorders.globs glob).symm
  restricts := reorders.restricts.symm
  roots root := (reorders.roots root).symm
  ignores := reorders.ignores.symm
  folders folder := (reorders.folders folder).symm

theorem Reorders.tightens (reorders : c'.Reorders c) : c'.Tightens c where
  globs glob := (reorders.globs glob).mpr
  restricts := reorders.restricts.symm ▸ id
  roots root := (reorders.roots root).mp
  ignores := reorders.ignores.symm ▸ id
  folders folder := (reorders.folders folder).mpr

theorem Reorders.applies_eq (reorders : c'.Reorders c) (kind : SymbolKind) (uri : String) :
    c'.applies kind uri = c.applies kind uri := by
  funext reason
  rw [Bool.eq_iff_iff]
  exact ⟨reorders.symm.tightens.applies, reorders.tightens.applies⟩

/-- What is skipped under a configuration is skipped under every tighter one. Order and repetition
of the entries do not matter, not even for the reason. -/
theorem skipReason?_mono (kind : SymbolKind) (uri : String) (c c' : SkipConfiguration) :
    (c'.Tightens c → (skipReason? kind uri c).isSome = true →
      (skipReason? kind uri c').isSome = true) ∧
    (c'.Reorders c → skipReason? kind uri c' = skipReason? kind uri c) := by
  constructor
  · intro tightens skipped
    obtain ⟨reason, applies⟩ := isSome_skipReason?_iff.mp skipped
    exact isSome_skipReason?_iff.mpr ⟨reason, tightens.applies applies⟩
  · intro reorders
    rw [skipReason?_eq_find?, skipReason?_eq_find?, reorders.applies_eq]

/-- A library outside the workspace is skipped for another reason under a tighter configuration. -/
theorem library_skipped :
    let c : SkipConfiguration :=
      { restrictToWorkspace := true, workspaceRoots := ["/proj", "/shared"] }
    let tight : SkipConfiguration :=
      { c with ignoreGlobs := ["*.pyi", "/usr/*"], workspaceRoots := ["/proj"] }
    let reordered : SkipConfiguration :=
      { c with workspaceRoots := ["/shared", "/proj", "/shared"] }
    tight.Tightens c ∧ reordered.Reorders c ∧
      skipReason? .function "/usr/lib/json.py" c = some .outsideWorkspace ∧
      (skipReason? .function "/usr/lib/json.py" tight).isSome = true ∧
      skipReason? .function "/usr/lib/json.py" tight = some .ignored ∧
      skipReason? .function "/usr/lib/json.py" reordered = some .outsideWorkspace := by
  intro c tight reordered
  have tightens : tight.Tightens c := by constructor <;> simp [tight, c]
  have reorders : reordered.Reorders c := by
    constructor <;> grind
  have skipped : skipReason? .function "/usr/lib/json.py" c = some .outsideWorkspace := by
    decide +kernel
  have fits : Text.globMatches "/usr/*" "/usr/lib/json.py" = true := by
    simp [Text.globMatches, Text.GlobPart.parse, Text.GlobPart.matchAll, Text.GlobPart.fits]
  have ignored : skipReason? .function "/usr/lib/json.py" tight = some .ignored := by
    simp [skipReason?, SymbolKind.isCallable, tight, fits]
  obtain ⟨still, -⟩ := skipReason?_mono .function "/usr/lib/json.py" c tight
  obtain ⟨-, same⟩ := skipReason?_mono .function "/usr/lib/json.py" c reordered
  refine ⟨tightens, reorders, skipped, still tightens (skipped ▸ rfl), ignored, ?_⟩
  rw [same reorders, skipped]

end SkipConfiguration

end CallDiagram
