import CallDiagram.Proofs.Diagram.Registry
import CallDiagram.Proofs.Path
import CallDiagram.Proofs.Text.CommonPrefix
import CallDiagram.Proofs.Traversal.Diagram

/-! # Names of files in a workspace

The root of a workspace is the deepest folder that all of its roots lie in. A file below it is named
by the path that leads on from it, any other one by its own path. Either way the file is found again
by following its name from the root, so different files have different names and never share a
participant.
-/

namespace CallDiagram

open CallDiagram.Path

/-! ## The common root -/

/-- The names that a path and some others begin with. -/
def sharedNames (first : Path) (paths : List Path) : List String :=
  paths.foldl (fun shared q => Text.agreeing shared q.parts) first.parts

theorem prefix_sharedNames_iff {names : List String} {first : Path} {paths : List Path} :
    names <+: sharedNames first paths ↔
      names <+: first.parts ∧ ∀ q ∈ paths, names <+: q.parts := by
  unfold sharedNames
  generalize first.parts = shared
  induction paths generalizing shared with
  | nil => simp
  | cons q paths ih =>
      rw [List.foldl_cons, ih, Text.prefix_agreeing_iff, List.forall_mem_cons, and_assoc]

/-- A folder that some roots lie in, and that lies in every other such folder. -/
def IsDeepest (roots : List String) (folder : Path) : Prop :=
  ∀ above, folder.LiesIn above ↔ ∀ root ∈ roots, (ofString root).LiesIn above

theorem IsDeepest.liesIn {roots : List String} {folder : Path} (deepest : IsDeepest roots folder)
    {root : String} (listed : root ∈ roots) : (ofString root).LiesIn folder :=
  (deepest folder).mp (.refl folder) root listed

theorem IsDeepest.unique {roots : List String} {folder other : Path}
    (deepest : IsDeepest roots folder) (deepest' : IsDeepest roots other) : folder = other :=
  ((deepest other).mpr fun _ => deepest'.liesIn).antisymm
    ((deepest' folder).mpr fun _ => deepest.liesIn)

theorem IsDeepest.congr {roots others : List String} {folder : Path}
    (deepest : IsDeepest roots folder) (same : ∀ root, root ∈ others ↔ root ∈ roots) :
    IsDeepest others folder := fun above =>
  (deepest above).trans (forall_congr' fun root => imp_congr_left (same root).symm)

theorem commonRoot_cons {first : String} {others : List String}
    (absolute : ∀ root ∈ first :: others, (ofString root).anchor = .root) :
    commonRoot (first :: others) =
      (⟨.root, sharedNames (ofString first) (others.map ofString)⟩ : Path).toString := by
  have named : (first :: others).filter (· ≠ "") = first :: others := by
    refine List.filter_eq_self.mpr fun root listed => decide_eq_true ?_
    rintro rfl
    cases absolute "" listed
  have anchored : ∀ root ∈ first :: others, (ofString root).isAbsolute = true :=
    fun root listed => by simp [isAbsolute, absolute root listed]
  obtain ⟨here, there⟩ := List.forall_mem_cons.mp anchored
  have alike : (others.map ofString).all (fun q => decide (q.isAbsolute = true)) = true := by
    simpa using there
  rw [commonRoot, named, List.map_cons]
  simp only [here, alike, if_true]
  rfl

/-- The common root of absolute roots is written as the deepest folder that they lie in. -/
theorem exists_commonRoot {roots : List String} (any : roots ≠ [])
    (absolute : ∀ root ∈ roots, (ofString root).anchor = .root) :
    ∃ folder : Path, commonRoot roots = folder.toString ∧ folder.IsRead ∧
      IsDeepest roots folder := by
  obtain ⟨first, others, rfl⟩ := List.exists_cons_of_ne_nil any
  have begins : ∀ names, names <+: sharedNames (ofString first) (others.map ofString) ↔
      ∀ root ∈ first :: others, names <+: (ofString root).parts := fun names => by
    rw [prefix_sharedNames_iff, List.forall_mem_map, List.forall_mem_cons]
  refine ⟨_, commonRoot_cons absolute, fun name member => ?_, fun above => ?_⟩
  · have start := (begins _).mp (List.prefix_refl _) first List.mem_cons_self
    exact isRead_ofString first name (start.subset member)
  · rw [liesIn_iff, begins]
    constructor
    · rintro ⟨anchor, inside⟩ root listed
      exact liesIn_iff.mpr ⟨(absolute root listed).trans anchor, inside root listed⟩
    · intro all
      have inside := fun root listed => liesIn_iff.mp (all root listed)
      have anchor := (inside first List.mem_cons_self).1
      exact ⟨(absolute first List.mem_cons_self).symm.trans anchor,
        fun root listed => (inside root listed).2⟩

theorem isDeepest_commonRoot {roots : List String} (any : roots ≠ [])
    (absolute : ∀ root ∈ roots, (ofString root).anchor = .root) :
    IsDeepest roots (ofString (commonRoot roots)) := by
  obtain ⟨folder, written, read, deepest⟩ := exists_commonRoot any absolute
  rwa [written, read.ofString_toString]

/-- The common root depends on neither the order of the roots nor on repetitions. -/
theorem commonRoot_eq_of_mem_iff {roots others : List String}
    (absolute : ∀ root ∈ roots, (ofString root).anchor = .root)
    (same : ∀ root, root ∈ others ↔ root ∈ roots) : commonRoot others = commonRoot roots := by
  by_cases any : roots = []
  · subst any
    rw [List.eq_nil_iff_forall_not_mem.mpr fun root listed => List.not_mem_nil ((same root).mp listed)]
  · obtain ⟨first, listed⟩ := List.exists_mem_of_ne_nil roots any
    obtain ⟨folder, written, -, deepest⟩ := exists_commonRoot any absolute
    obtain ⟨folder', written', -, deepest'⟩ :=
      exists_commonRoot (List.ne_nil_of_mem ((same first).mpr listed))
        fun root member => absolute root ((same root).mp member)
    rw [written, written', (deepest.congr same).unique deepest']

/-! ## Names of files -/

theorem relativeNamespace_of_inside {uri root : String} {names : List String}
    (inside : ofString uri = (ofString root).join ⟨.relative, names⟩) :
    relativeNamespace uri root = (⟨.relative, names⟩ : Path).toString := by
  unfold relativeNamespace
  split
  · next unnamed =>
    -- Without a root, the path is read from where its reader stands.
    rw [inside, unnamed]
    rfl
  · simp only [relativeTo?_eq_some_iff.mpr inside]

theorem relativeNamespace_of_outside {uri root : String}
    (outside : ¬ (ofString uri).LiesIn (ofString root)) :
    relativeNamespace uri root = (ofString uri).toString := by
  have apart : (ofString uri).relativeTo? (ofString root) = none :=
    Option.not_isSome_iff_eq_none.mp (isSome_relativeTo?_iff.not.mpr outside)
  simp only [relativeNamespace, apart, ite_self]

/-- The name of a file below the root is read as the path that leads on to it. -/
theorem ofString_relativeNamespace {uri root : String} {names : List String}
    (inside : ofString uri = (ofString root).join ⟨.relative, names⟩) :
    ofString (relativeNamespace uri root) = ⟨.relative, names⟩ := by
  have read : (⟨.relative, names⟩ : Path).IsRead := fun name member =>
    isRead_ofString uri name (by rw [inside]; exact List.mem_append_right _ member)
  rw [relativeNamespace_of_inside inside, read.ofString_toString]

theorem head?_relativeNamespace {uri root : String}
    (inside : (ofString uri).LiesIn (ofString root)) :
    (relativeNamespace uri root).toList.head? ≠ some '/' := by
  obtain ⟨names, leads⟩ := inside
  exact anchorOf_eq_relative_iff.mp (congrArg Path.anchor (ofString_relativeNamespace leads))

/-- An absolute file is found again by following its name from the root. -/
theorem join_relativeNamespace {uri : String} (absolute : (ofString uri).isAbsolute = true)
    (root : String) :
    (ofString root).join (ofString (relativeNamespace uri root)) = ofString uri := by
  by_cases inside : (ofString uri).LiesIn (ofString root)
  · obtain ⟨names, leads⟩ := inside
    rw [ofString_relativeNamespace leads, leads]
  · rw [relativeNamespace_of_outside inside, (isRead_ofString uri).ofString_toString]
    exact if_pos absolute

/-- Absolute files with one name are one file, whatever root they are named below. -/
theorem ofString_eq_of_relativeNamespace_eq {uri other root : String}
    (absolute : (ofString uri).isAbsolute = true) (absolute' : (ofString other).isAbsolute = true)
    (same : relativeNamespace uri root = relativeNamespace other root) :
    ofString uri = ofString other := by
  rw [← join_relativeNamespace absolute root, same, join_relativeNamespace absolute' root]

theorem Traversal.path_of_participant {t : Traversal} {item : Item} {objectName : String}
    {σ τ : TraversalState} {p : Participant}
    (looked : Walk.Returns (t.participant item objectName) σ p τ) :
    p.key.path = relativeNamespace item.uri t.root := by
  obtain ⟨rfl, -⟩ := returns_participant.mp looked
  rw [Registry.register_toParticipant]
  rfl

/-- A file in one of the roots is named by the path that leads to it from their common root, which
does not depend on how the roots are listed. Different files have different names, inside and
outside, and so never take part as one participant. -/
theorem commonRoot_identifies (roots : List String)
    (absolute : ∀ root ∈ roots, (ofString root).anchor = .root) :
    let shared := commonRoot roots
    (∀ uri, (∃ root ∈ roots, (ofString uri).LiesIn (ofString root)) →
      (relativeNamespace uri shared).toList.head? ≠ some '/' ∧
        (ofString shared).join (ofString (relativeNamespace uri shared)) = ofString uri) ∧
    (∀ others, (∀ root, root ∈ others ↔ root ∈ roots) → commonRoot others = shared) ∧
    (∀ uri other, (ofString uri).isAbsolute = true → (ofString other).isAbsolute = true →
      relativeNamespace uri shared = relativeNamespace other shared →
        ofString uri = ofString other) ∧
    ∀ t : Traversal, t.root = shared → ∀ item other name otherName σ τ σ' τ' p q,
      (ofString item.uri).isAbsolute = true → (ofString other.uri).isAbsolute = true →
      Walk.Returns (t.participant item name) σ p τ →
      Walk.Returns (t.participant other otherName) σ' q τ' →
        p.key = q.key → ofString item.uri = ofString other.uri := by
  intro shared
  refine ⟨?_, fun others => commonRoot_eq_of_mem_iff absolute,
    fun uri other => ofString_eq_of_relativeNamespace_eq, ?_⟩
  · rintro uri ⟨root, listed, below⟩
    have inside : (ofString uri).LiesIn (ofString shared) :=
      below.trans ((isDeepest_commonRoot (List.ne_nil_of_mem listed) absolute).liesIn listed)
    obtain ⟨names, leads⟩ := inside
    refine ⟨head?_relativeNamespace ⟨names, leads⟩, ?_⟩
    rw [ofString_relativeNamespace leads, leads]
  · intro t rooted item other name otherName σ τ σ' τ' p q here there looked looked' same
    have named : relativeNamespace item.uri t.root = relativeNamespace other.uri t.root := by
      rw [← Traversal.path_of_participant looked, same, Traversal.path_of_participant looked']
    exact ofString_eq_of_relativeNamespace_eq here there named

/-- Two files of one name, in a library of the workspace and outside, take part side by side. -/
theorem core_named_apart :
    let roots := ["/proj/app", "/proj//lib/."]
    let t := Provider.countdown.traversal { workspaceRoots := roots }
    let inside : Item := { Item.countdown with uri := "/proj/lib/./core.py" }
    let outside : Item := { Item.countdown with uri := "/venv/lib/core.py" }
    (∀ root ∈ roots, (ofString root).anchor = .root) ∧
      relativeNamespace inside.uri "/proj" = "lib/core.py" ∧
      (ofString "/proj").join (ofString "lib/core.py") = ofString inside.uri ∧
      commonRoot ["/proj//lib/.", "/proj/app", "/proj//lib/."] = "/proj" ∧
      relativeNamespace inside.uri "/proj" ≠ relativeNamespace outside.uri "/proj" ∧
      ∃ p q σ τ, Walk.Returns (t.participant inside "core") {} p σ ∧
        Walk.Returns (t.participant outside "core") σ q τ ∧ p.key ≠ q.key := by
  intro roots t inside outside
  have absolute : ∀ root ∈ roots, (ofString root).anchor = .root := by decide +kernel
  have here : (ofString inside.uri).isAbsolute = true := by decide +kernel
  have there : (ofString outside.uri).isAbsolute = true := by decide +kernel
  have shared : commonRoot roots = "/proj" := by decide +kernel
  have named : relativeNamespace inside.uri "/proj" = "lib/core.py" := by decide +kernel
  have apart : ofString inside.uri ≠ ofString outside.uri := by decide +kernel
  obtain ⟨found, listing, identified, alone⟩ := commonRoot_identifies roots absolute
  rw [shared] at found listing identified alone
  refine ⟨absolute, named, ?_, listing _ (by simp [roots, or_comm]), ?_, ?_⟩
  · have joined := (found inside.uri ⟨"/proj//lib/.", by decide, ["core.py"], by decide +kernel⟩).2
    rwa [named] at joined
  · exact fun same => apart (identified _ _ here there same)
  · obtain ⟨p, σ, looked⟩ := Traversal.total_participant t inside "core" {}
    obtain ⟨q, τ, looked'⟩ := Traversal.total_participant t outside "core" σ
    refine ⟨p, q, σ, τ, looked, looked', fun same => apart ?_⟩
    exact alone t shared inside outside _ _ _ _ _ _ p q here there looked looked' same

end CallDiagram
