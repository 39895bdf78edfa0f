import CallDiagram.Proofs.Hierarchy.Innermost

/-! # Functions by their names

An indexed project prefers a qualified name to a bare one and knows functions only. A recorded
hierarchy takes the first symbol of the file that has the name in either way, whatever its kind. So
the two agree exactly where that symbol can be called and no qualified name of a definition is
passed over for its bare name.
-/

namespace CallDiagram

open Index

/-- The first element of a list with a property. -/
def IsFirst {α : Type} (P : α → Prop) (list : List α) (a : α) : Prop :=
  ∃ before after, list = before ++ a :: after ∧ P a ∧ ∀ b ∈ before, ¬ P b

section IsFirst

variable {α β : Type} {P Q : α → Prop} {list : List α} {a : α}

theorem find?_eq_some_iff_isFirst [DecidablePred P] :
    list.find? (fun b => P b) = some a ↔ IsFirst P list a := by
  rw [List.find?_eq_some_iff_append]
  simp only [IsFirst, decide_eq_true_eq, Bool.not_eq_true', decide_eq_false_iff_not]
  constructor
  · rintro ⟨holds, before, after, cut, none_⟩
    exact ⟨before, after, cut, holds, none_⟩
  · rintro ⟨before, after, cut, holds, none_⟩
    exact ⟨holds, before, after, cut, none_⟩

theorem IsFirst.mem (first : IsFirst P list a) : a ∈ list := by
  obtain ⟨before, after, rfl, -⟩ := first
  simp

theorem IsFirst.holds (first : IsFirst P list a) : P a := by
  obtain ⟨_, _, -, holds, -⟩ := first
  exact holds

/-- An element stays the first one where others are left out and less is asked for. -/
theorem IsFirst.filter {kept : α → Bool} (first : IsFirst P list a) (stays : kept a = true)
    (less : ∀ b ∈ list.filter kept, Q b → P b) (holds : Q a) : IsFirst Q (list.filter kept) a := by
  obtain ⟨before, after, rfl, -, none_⟩ := first
  refine ⟨before.filter kept, after.filter kept, by simp [stays], holds, fun b member has => ?_⟩
  have earlier := List.mem_of_mem_filter member
  refine none_ b earlier (less b ?_ has)
  rw [List.filter_append]
  exact List.mem_append_left _ member

end IsFirst

/-- Whether an item has a name, as its qualified or as its bare name. -/
def Item.GoesBy (name : String) (i : Item) : Prop :=
  i.detail = name ∨ i.name = name

instance (name : String) (i : Item) : Decidable (i.GoesBy name) :=
  inferInstanceAs (Decidable (_ ∨ _))

/-- The first definition with that qualified name, or with that bare name if no definition has it as
its qualified name. -/
def Index.Module.Named (m : Module) (name : String) (d : Definition) : Prop :=
  IsFirst (fun e => e.item.detail = name) m.definitions d ∨
    (∀ e ∈ m.definitions, e.item.detail ≠ name) ∧
      IsFirst (fun e => e.item.name = name) m.definitions d

/-- The first symbol in a file that has a name. -/
def RecordedHierarchy.Offers (h : RecordedHierarchy) (path name : String) (i : Item) : Prop :=
  IsFirst (fun j => j.uri = path ∧ j.GoesBy name) h.items i

theorem RecordedHierarchy.find?_eq_some_iff {h : RecordedHierarchy} {path name : String} {i : Item} :
    h.find? path name = some i ↔ h.Offers path name i := by
  have named : (fun j : Item => j.uri = path && (j.detail = name || j.name = name)) =
      fun j => decide (j.uri = path ∧ j.GoesBy name) := by
    funext j
    rw [Bool.eq_iff_iff, decide_eq_true_eq]
    simp [Item.GoesBy]
  rw [Offers, ← find?_eq_some_iff_isFirst, find?, named]

namespace Index.ProjectGraph

variable {g : ProjectGraph} {file : Path} {m : Module} {name : String} {d : Definition}

theorem findFunction?_eq (known : g.module? file = some m) (name : String) :
    g.findFunction? file name = ((m.definitions.find? fun d => d.item.detail = name).or
      (m.definitions.find? fun d => d.item.name = name)) := by
  rw [findFunction?, known]
  exact Option.orElse_eq_or

theorem findFunction?_eq_some_iff (known : g.module? file = some m) :
    g.findFunction? file name = some d ↔ m.Named name d := by
  rw [findFunction?_eq known, Option.or_eq_some_iff, find?_eq_some_iff_isFirst,
    find?_eq_some_iff_isFirst, List.find?_eq_none, Module.Named]
  simp

theorem findFunction?_eq_none_iff (known : g.module? file = some m) :
    g.findFunction? file name = none ↔ ∀ d ∈ m.definitions, ¬ d.item.GoesBy name := by
  rw [findFunction?_eq known, Option.or_eq_none_iff, List.find?_eq_none, List.find?_eq_none]
  simp only [Item.GoesBy, decide_eq_true_eq, not_or, ← forall_and]

theorem map_findFunction? (known : g.module? file = some m) (name : String) :
    (g.findFunction? file name).map (·.item) =
      ((m.definitions.map (·.item)).find? fun i => i.detail = name).or
        ((m.definitions.map (·.item)).find? fun i => i.name = name) := by
  rw [findFunction?_eq known, Option.map_or, List.find?_map, List.find?_map]
  rfl

end Index.ProjectGraph

namespace RecordedHierarchy

variable {h : RecordedHierarchy} {m : Module} {name : String} {i : Item}

theorem Recalls.mem_iff (recalls : h.Recalls m) :
    (∃ d ∈ m.definitions, d.item = i) ↔ i ∈ h.items ∧ i.uri = m.path ∧ i.kind.isCallable := by
  rw [← List.mem_map, ← recalls, List.mem_filter]
  simp

/-- A definition that is offered stays the first one with its name among the definitions. -/
theorem Offers.isFirst (offered : h.Offers m.path name i) (recalls : h.Recalls m)
    (callable : i.kind.isCallable = true) {P : Item → Prop} (holds : P i)
    (named : ∀ j, P j → j.GoesBy name) :
    IsFirst P (m.definitions.map (·.item)) i := by
  rw [← recalls]
  refine IsFirst.filter offered ?_ (fun j member has => ⟨?_, named j has⟩) holds
  · simp [offered.holds.1, callable]
  · have kept := (List.mem_filter.mp member).2
    simpa using (Bool.and_eq_true_iff.mp kept).1

end RecordedHierarchy

namespace Index.ProjectGraph

variable {g : ProjectGraph} {file : Path} {m : Module} {name : String} {h : RecordedHierarchy}

theorem callable_of_find?_eq (known : g.module? file = some m) (recalls : h.Recalls m)
    (same : h.find? m.path name = (g.findFunction? file name).map (·.item)) {i : Item}
    (offered : h.Offers m.path name i) : i.kind.isCallable = true ∧
      (i.detail = name ∨ ∀ d ∈ m.definitions, d.item.detail ≠ name) := by
  rw [RecordedHierarchy.find?_eq_some_iff.mpr offered] at same
  obtain ⟨d, found, rfl⟩ := Option.map_eq_some_iff.mp same.symm
  have callable (listed : d ∈ m.definitions) : d.item.kind.isCallable = true :=
    (recalls.mem_iff.mp ⟨d, listed, rfl⟩).2.2
  rcases (findFunction?_eq_some_iff known).mp found with qualified | ⟨none_, bare⟩
  · exact ⟨callable qualified.mem, .inl qualified.holds⟩
  · exact ⟨callable bare.mem, .inr none_⟩

theorem find?_eq_of_callable (known : g.module? file = some m) (recalls : h.Recalls m)
    (agreed : ∀ i, h.Offers m.path name i → i.kind.isCallable = true ∧
      (i.detail = name ∨ ∀ d ∈ m.definitions, d.item.detail ≠ name)) :
    h.find? m.path name = (g.findFunction? file name).map (·.item) := by
  cases found : h.find? m.path name with
  | none =>
      have nothing : g.findFunction? file name = none := by
        refine (findFunction?_eq_none_iff known).mpr fun d listed goes => ?_
        obtain ⟨held, uri, -⟩ := recalls.mem_iff.mp ⟨d, listed, rfl⟩
        have other := List.find?_eq_none.mp found d.item held
        exact other (by simpa [uri, Item.GoesBy] using goes)
      rw [nothing]
      rfl
  | some i =>
      have offered := RecordedHierarchy.find?_eq_some_iff.mp found
      obtain ⟨callable, preferred⟩ := agreed i offered
      rw [map_findFunction? known]
      rcases preferred with qualified | none_
      · have first := offered.isFirst recalls callable (P := fun j => j.detail = name) qualified
          fun _ => .inl
        rw [find?_eq_some_iff_isFirst.mpr first, Option.some_or]
      · obtain ⟨d, listed, rfl⟩ := recalls.mem_iff.mpr
          ⟨offered.mem, offered.holds.1, callable⟩
        have bare : d.item.name = name := offered.holds.2.resolve_left (none_ d listed)
        have first := offered.isFirst recalls callable (P := fun j => j.name = name) bare
          fun _ => .inr
        rw [find?_eq_some_iff_isFirst.mpr first, List.find?_eq_none.mpr (by simpa using none_),
          Option.none_or]

/-- A graph finds the first definition of a qualified name, else of a bare name. A hierarchy that
recalls the definitions finds the first symbol of either kind of name, so it answers alike exactly if
that symbol can be called and has the name as its qualified name, or no definition has. -/
theorem find?_agrees_iff (g : ProjectGraph) (file : Path) (m : Module)
    (known : g.module? file = some m) (name : String) :
    (∀ d, g.findFunction? file name = some d ↔ m.Named name d) ∧
      (g.findFunction? file name = none ↔ ∀ d ∈ m.definitions, ¬ d.item.GoesBy name) ∧
      ∀ h : RecordedHierarchy, h.Recalls m →
        (∀ i, h.provider.findFunction? m.path name = some i ↔ h.Offers m.path name i) ∧
        (h.provider.findFunction? m.path name = (g.findFunction? file name).map (·.item) ↔
          ∀ i, h.Offers m.path name i → i.kind.isCallable = true ∧
            (i.detail = name ∨ ∀ d ∈ m.definitions, d.item.detail ≠ name)) := by
  refine ⟨fun d => findFunction?_eq_some_iff known, findFunction?_eq_none_iff known,
    fun h recalls => ⟨fun i => RecordedHierarchy.find?_eq_some_iff, ?_⟩⟩
  exact ⟨fun same i offered => callable_of_find?_eq known recalls same offered,
    find?_eq_of_callable known recalls⟩

def homonymsFile : Path := ⟨.root, ["p", "a.py"]⟩

/-- A file with a method and a function of one name, in a class and behind it. -/
def homonymsGraph : ProjectGraph :=
  ({ root := ⟨.root, ["p"]⟩, selfTokens := ["self"] } : ProjectGraph).addAll
    [(homonymsFile, "class A:\n    def run(self):\n        pass\n\ndef run():\n    pass\n")]

def homonymClass : Item :=
  ⟨"A", .classType, "/p/a.py", ⟨⟨0, 0⟩, ⟨2, 12⟩⟩, ⟨⟨0, 6⟩, ⟨0, 7⟩⟩, "A"⟩

def homonymMethod : Item :=
  ⟨"run", .method, "/p/a.py", ⟨⟨1, 4⟩, ⟨2, 12⟩⟩, ⟨⟨1, 8⟩, ⟨1, 11⟩⟩, "A.run"⟩

def homonymFunction : Item :=
  ⟨"run", .function, "/p/a.py", ⟨⟨4, 0⟩, ⟨5, 8⟩⟩, ⟨⟨4, 4⟩, ⟨4, 7⟩⟩, "run"⟩

def homonyms : RecordedHierarchy where
  calls := [(homonymClass, []), (homonymMethod, []), (homonymFunction, [])]

/-- The method stands in for the function, and the class for a function that does not exist. -/
theorem homonyms_disagree : homonymsGraph.Built ∧ ∃ m, homonymsGraph.module? homonymsFile = some m ∧
    homonyms.Recalls m ∧ homonyms.items = [homonymClass, homonymMethod, homonymFunction] ∧
    (homonymsGraph.findFunction? homonymsFile "run").map (·.item) = some homonymFunction ∧
    homonyms.provider.findFunction? m.path "run" = some homonymMethod ∧
    (homonymsGraph.findFunction? homonymsFile "A").map (·.item) = none ∧
    homonyms.provider.findFunction? m.path "A" = some homonymClass := by
  have built : homonymsGraph.Built := (Built.empty _ _).addAll _ (by decide +kernel)
  have answered : ∃ m ∈ homonymsGraph.module? homonymsFile, homonyms.Recalls m ∧
      homonyms.items = [homonymClass, homonymMethod, homonymFunction] ∧
      (homonymsGraph.findFunction? homonymsFile "run").map (·.item) = some homonymFunction ∧
      homonyms.provider.findFunction? m.path "run" = some homonymMethod ∧
      (homonymsGraph.findFunction? homonymsFile "A").map (·.item) = none ∧
      homonyms.provider.findFunction? m.path "A" = some homonymClass := by
    decide +kernel
  exact ⟨built, answered⟩

/-- They agree on the qualified name of the method. -/
theorem homonyms_agree : ∃ m, homonymsGraph.module? homonymsFile = some m ∧ homonyms.Recalls m ∧
    homonyms.Offers m.path "A.run" homonymMethod ∧
    homonyms.provider.findFunction? m.path "A.run" =
      (homonymsGraph.findFunction? homonymsFile "A.run").map (·.item) ∧
    ∃ d, m.Named "A.run" d ∧ d.item = homonymMethod := by
  have indexed : ∃ m ∈ homonymsGraph.module? homonymsFile, homonyms.Recalls m ∧
      homonyms.provider.findFunction? m.path "A.run" = some homonymMethod := by
    decide +kernel
  obtain ⟨m, known, recalls, found⟩ := indexed
  obtain ⟨named, -, recorded⟩ := find?_agrees_iff homonymsGraph homonymsFile m known "A.run"
  obtain ⟨offers, agrees⟩ := recorded homonyms recalls
  have same := agrees.mpr fun i offered => by
    have answer := (offers i).mpr offered
    rw [found] at answer
    cases answer
    exact ⟨rfl, .inl rfl⟩
  obtain ⟨d, indexed, item⟩ := Option.map_eq_some_iff.mp (same.symm.trans found)
  exact ⟨m, known, recalls, (offers _).mp found, same, d, (named d).mp indexed, item⟩

end Index.ProjectGraph

end CallDiagram
