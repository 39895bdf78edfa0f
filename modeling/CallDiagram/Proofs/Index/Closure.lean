import CallDiagram.Hierarchy.Indexed
import CallDiagram.Index.Resolve
import CallDiagram.Proofs.Index.Growth
import CallDiagram.Proofs.Traversal.Classes
import Mathlib.Data.Option.Basic

/-! # The graph is closed under calls

Whatever a call is resolved to comes from a table of a module that the graph holds. So it is a
class of the graph, or a definition of the graph that is found again by its item, and a traversal
of the graph stays among the items that the graph knows.
-/

namespace CallDiagram.Index.ProjectGraph

open Source

/-- No two definitions that the graph holds share an identity. -/
def DistinctIdentities (g : ProjectGraph) : Prop :=
  ∀ m m', g.Holds m → g.Holds m' → ∀ d ∈ m.definitions, ∀ d' ∈ m'.definitions,
    d.item.identity = d'.item.identity → d = d' ∧ m = m'

/-- The item belongs to a class of the graph, or to a definition that is found again by it. -/
def Knows (g : ProjectGraph) (item : Item) : Prop :=
  (item.kind = .classType ∧ ∃ m, g.Holds m ∧ ∃ c ∈ m.classes, c.item = item) ∨
    ∃ m, g.Holds m ∧ ∃ d ∈ m.definitions, d.item = item ∧ g.definitionOf? item = some ⟨d, m⟩

/-- The item is one that a module of the graph lists. -/
def Lists (g : ProjectGraph) (item : Item) : Prop :=
  ∃ m, g.Holds m ∧ (item ∈ Node.items m ∨ ∃ c ∈ m.classes, c.item = item)

variable {g : ProjectGraph} {m : Module} {c : ClassInfo} {d : Indexed} {item : Item}
  {name : String}

theorem Consistent.definitionOf? (consistent : g.Consistent) (distinct : g.DistinctIdentities)
    (held : g.Holds m) {d : Definition} (listed : d ∈ m.definitions) :
    g.definitionOf? d.item = some ⟨d, m⟩ := by
  obtain ⟨⟨d', m'⟩, found⟩ := Option.isSome_iff_exists.mp (consistent.entered m held d listed)
  have entry := Table.mem_of_get? found
  obtain ⟨identity, listed'⟩ := consistent.listed _ entry
  have held' : g.Holds m' := .inr (.inr ⟨⟨d', m'⟩, List.mem_map_of_mem entry, rfl⟩)
  obtain ⟨rfl, rfl⟩ := distinct m m' held held' d listed d' listed' identity
  exact found

/-- What the graph lists it knows. -/
theorem Consistent.knows_of_lists (consistent : g.Consistent) (distinct : g.DistinctIdentities)
    (listed : g.Lists item) : g.Knows item := by
  obtain ⟨m, held, among | ⟨c, known, rfl⟩⟩ := listed
  · obtain ⟨d, listed, rfl⟩ := List.mem_map.mp among
    exact .inr ⟨m, held, d, listed, rfl, consistent.definitionOf? distinct held listed⟩
  · have statement := Module.mem_classStatements_of_mem_classes known
    exact .inl ⟨((consistent.sound m held).classes c statement).1, m, held, c, known, rfl⟩

/-! ## Classes that look-ups meet -/

/-- The class statement stands in a module of the graph. -/
def HoldsClass (g : ProjectGraph) (c : ClassInfo) : Prop :=
  ∃ m, g.Holds m ∧ c ∈ m.classStatements

theorem holds_of_modules {path : String} (h : g.modules.get? path = some m) : g.Holds m :=
  .inl (Table.mem_values_of_get? h)

theorem holds_of_modulesByName (h : g.modulesByName.get? name = some m) : g.Holds m :=
  .inr (.inl (Table.mem_values_of_get? h))

theorem holds_of_definitions (h : d ∈ g.definitions.values) : g.Holds d.module :=
  .inr (.inr ⟨d, h, rfl⟩)

theorem holdsClass_of_class? (held : g.Holds m) (h : m.class? name = some c) : g.HoldsClass c :=
  ⟨m, held, Module.mem_classStatements_of_mem_classes (Module.mem_classes_of_class? h)⟩

theorem mem_of_only? {α : Type} {xs : List α} {a : α} (h : only? xs = some a) : a ∈ xs := by
  unfold only? at h
  split at h
  · rw [Option.some.inj h]
    exact List.mem_singleton_self a
  · cases h

theorem holdsClass_of_classByDotted? {dotted : String} (h : g.classByDotted? dotted = some c) :
    g.HoldsClass c := by
  obtain ⟨m, home, found⟩ := Option.bind_eq_some_iff.mp h
  exact holdsClass_of_class? (holds_of_modulesByName home) found

theorem holdsClass_of_classByName? {allowUnique : Bool} (held : g.Holds m)
    (h : g.classByName? m name allowUnique = some c) : g.HoldsClass c := by
  unfold classByName? at h
  split at h
  · next own =>
    cases h
    exact holdsClass_of_class? held own
  · split at h
    · next imported =>
      cases h
      obtain ⟨dotted, -, found⟩ := Option.bind_eq_some_iff.mp imported
      exact holdsClass_of_classByDotted? found
    · split at h
      · obtain ⟨home, listed, found⟩ := List.mem_filterMap.mp (mem_of_only? h)
        exact holdsClass_of_class? (.inl listed) found
      · cases h

theorem holdsClass_of_basesOf {base : ClassInfo} (h : base ∈ g.basesOf c) : g.HoldsClass base := by
  unfold basesOf at h
  split at h
  · next m home =>
    obtain ⟨written, -, found⟩ := List.mem_filterMap.mp h
    exact holdsClass_of_classByName? (holds_of_modules home) found
  · cases h

/-! ## What look-ups find -/

/-- The item has the name and is one that the graph lists. -/
def Finds (g : ProjectGraph) (name : String) (item : Item) : Prop :=
  item.name = name ∧ g.Lists item

theorem Consistent.finds_method (consistent : g.Consistent) (held : g.HoldsClass c)
    (h : c.methods.get? name = some item) : g.Finds name item := by
  obtain ⟨m, held, listed⟩ := held
  exact ((consistent.sound m held).method listed h).imp_right fun among => ⟨m, held, .inl among⟩

theorem Consistent.finds_member (consistent : g.Consistent) (held : g.Holds m)
    (h : m.member? name = some item) : g.Finds name item :=
  ((consistent.sound m held).member h).imp_right fun among => ⟨m, held, among⟩

/-- The search among classes never leaves the classes of the graph. -/
theorem Consistent.finds_methodAmong? (consistent : g.Consistent) {unseen : List String}
    {pending : List ClassInfo} (held : ∀ c ∈ pending, g.HoldsClass c)
    (h : g.methodAmong? name unseen pending = some item) : g.Finds name item := by
  fun_induction methodAmong? g name unseen pending with
  | case1 => cases h
  | case2 unseen c rest isNew method found =>
      cases h
      exact consistent.finds_method (held c List.mem_cons_self) found
  | case3 unseen c rest isNew none ih =>
      refine ih (fun _ member => ?_) h
      rcases List.mem_append.mp member with base | waiting
      · exact holdsClass_of_basesOf base
      · exact held _ (List.mem_cons_of_mem _ waiting)
  | case4 unseen c rest seen ih => exact ih (fun _ member => held _ (.tail _ member)) h

theorem Consistent.finds_method? (consistent : g.Consistent) (held : g.HoldsClass c)
    (h : g.method? c name = some item) : g.Finds name item :=
  consistent.finds_methodAmong? (fun _ member => List.mem_singleton.mp member ▸ held) h

theorem holdsClass_of_ownClass? (held : g.Holds d.module) (h : ownClass? d = some c) :
    g.HoldsClass c := by
  obtain ⟨title, -, found⟩ := Option.bind_eq_some_iff.mp h
  split at found
  · cases found
  · exact holdsClass_of_class? held found

theorem Consistent.finds_onSelf (consistent : g.Consistent) (held : g.Holds d.module)
    {receiver : String} (h : g.resolveOnSelf? d receiver name = some item) : g.Finds name item := by
  obtain ⟨own, isOwn, found⟩ := Option.bind_eq_some_iff.mp h
  split at found
  · exact consistent.finds_method? (holdsClass_of_ownClass? held isOwn) found
  · cases found

theorem Consistent.finds_onAttribute (consistent : g.Consistent) (held : g.Holds d.module)
    {receiver : String} (h : g.resolveOnAttribute? d receiver name = some item) :
    g.Finds name item := by
  obtain ⟨own, -, h⟩ := Option.bind_eq_some_iff.mp h
  dsimp only at h
  split at h
  · cases h
  · obtain ⟨type, -, h⟩ := Option.bind_eq_some_iff.mp h
    obtain ⟨c, named, found⟩ := Option.bind_eq_some_iff.mp h
    exact consistent.finds_method? (holdsClass_of_classByName? held named) found

theorem Consistent.finds_onLocal (consistent : g.Consistent) (held : g.Holds d.module)
    {receiver : String} (h : g.resolveOnLocal? d receiver name = some item) :
    g.Finds name item := by
  obtain ⟨type, -, h⟩ := Option.bind_eq_some_iff.mp h
  obtain ⟨c, named, found⟩ := Option.bind_eq_some_iff.mp h
  exact consistent.finds_method? (holdsClass_of_classByName? held named) found

theorem Consistent.finds_onClass (consistent : g.Consistent) (held : g.Holds d.module)
    {receiver : String} (h : g.resolveOnClass? d receiver name = some item) :
    g.Finds name item := by
  obtain ⟨c, named, found⟩ := Option.bind_eq_some_iff.mp h
  exact consistent.finds_method? (holdsClass_of_classByName? held named) found

theorem Consistent.finds_onModule (consistent : g.Consistent) {receiver : String}
    (h : g.resolveOnModule? d receiver name = some item) : g.Finds name item := by
  obtain ⟨dotted, -, h⟩ := Option.bind_eq_some_iff.mp h
  obtain ⟨m, home, found⟩ := Option.bind_eq_some_iff.mp h
  exact consistent.finds_member (holds_of_modulesByName home) found

theorem Consistent.finds_uniqueMethod (consistent : g.Consistent)
    (h : g.uniqueMethod? name = some item) : g.Finds name item := by
  obtain ⟨m, listed, below⟩ := List.mem_flatMap.mp (mem_of_only? h)
  obtain ⟨c, known, found⟩ := List.mem_filterMap.mp below
  exact consistent.finds_method
    ⟨m, .inl listed, Module.mem_classStatements_of_mem_classes known⟩ found

/-- A call through an attribute leads to something of the called name. -/
theorem Consistent.finds_attribute (consistent : g.Consistent) (held : g.Holds d.module)
    {receiver : Option String} (h : g.resolveAttribute? d receiver name = some item) :
    g.Finds name item := by
  rcases (Option.orElse_eq_some ..).mp h with onReceiver | ⟨-, unique⟩
  · obtain ⟨receiver, -, h⟩ := Option.bind_eq_some_iff.mp onReceiver
    rcases (Option.orElse_eq_some ..).mp h with onSelf | ⟨-, h⟩
    · exact consistent.finds_onSelf held onSelf
    · rcases (Option.orElse_eq_some ..).mp h with onAttribute | ⟨-, h⟩
      · exact consistent.finds_onAttribute held onAttribute
      · rcases (Option.orElse_eq_some ..).mp h with onLocal | ⟨-, h⟩
        · exact consistent.finds_onLocal held onLocal
        · rcases (Option.orElse_eq_some ..).mp h with onClass | ⟨-, onModule⟩
          · exact consistent.finds_onClass held onClass
          · exact consistent.finds_onModule onModule
  · exact consistent.finds_uniqueMethod unique

theorem lists_of_localFunction? (held : g.Holds d.module)
    (h : localFunction? d name = some item) : g.Lists item := by
  obtain ⟨inner, found, rfl⟩ := Option.map_eq_some_iff.mp h
  exact ⟨d.module, held, .inl (List.mem_map_of_mem (List.mem_of_find?_eq_some found))⟩

theorem Consistent.lists_memberByDotted (consistent : g.Consistent) {dotted : String}
    (h : g.memberByDotted? dotted = some item) : g.Lists item := by
  unfold memberByDotted? at h
  dsimp only at h
  split at h
  · cases h
  · obtain ⟨m, home, found⟩ := Option.bind_eq_some_iff.mp h
    exact (consistent.finds_member (holds_of_modulesByName home) found).2

theorem Consistent.lists_uniqueFunction (consistent : g.Consistent)
    (h : g.uniqueFunction? name = some item) : g.Lists item := by
  obtain ⟨m, listed, found⟩ := List.mem_filterMap.mp (mem_of_only? h)
  exact ⟨m, .inl listed, .inl ((consistent.sound m (.inl listed)).function found).2⟩

theorem Consistent.lists_name (consistent : g.Consistent) (held : g.Holds d.module)
    (h : g.resolveName? d name = some item) : g.Lists item := by
  rcases (Option.orElse_eq_some ..).mp h with inner | ⟨-, h⟩
  · exact lists_of_localFunction? held inner
  · rcases (Option.orElse_eq_some ..).mp h with member | ⟨-, h⟩
    · exact (consistent.finds_member held member).2
    · rcases (Option.orElse_eq_some ..).mp h with imported | ⟨-, unique⟩
      · exact consistent.lists_memberByDotted imported
      · exact consistent.lists_uniqueFunction unique

theorem Consistent.lists_resolve (consistent : g.Consistent) (held : g.Holds d.module)
    {r : CallReference} (h : g.resolve? d r = some item) :
    g.Lists item ∧ (r.isAttribute → item.name = r.name) := by
  unfold resolve? at h
  split at h
  · have found := consistent.finds_attribute held h
    exact ⟨found.2, fun _ => found.1⟩
  · next plain =>
    exact ⟨consistent.lists_name held h, fun isAttribute => absurd isAttribute plain⟩

/-! ## Traversals of the graph -/

theorem target_groupCall {groups : Table String OutgoingCall} {target : Item} {range : Range}
    {call : OutgoingCall} (h : call ∈ (groupCall groups target range).values) :
    call.target = target ∨ ∃ old ∈ groups.values, old.target = call.target := by
  unfold groupCall at h
  split at h
  · next group found =>
    rcases Table.mem_values_set h with rfl | old
    · exact .inr ⟨group, Table.mem_values_of_get? found, rfl⟩
    · exact .inr ⟨call, old, rfl⟩
  · rcases Table.mem_values_set h with rfl | old
    · exact .inl rfl
    · exact .inr ⟨call, old, rfl⟩

/-- The calls of a definition lead to what its references are resolved to. -/
theorem exists_resolve_of_mem_callsOf {call : OutgoingCall} (h : call ∈ g.callsOf d) :
    ∃ r ∈ d.definition.calls, g.resolve? d r = some call.target := by
  have grouped : ∀ enter : Table String OutgoingCall → CallReference → Table String OutgoingCall,
      (∀ groups r, enter groups r = groups ∨
        ∃ target, g.resolve? d r = some target ∧ enter groups r = groupCall groups target r.range) →
      ∀ (calls : List CallReference) (groups : Table String OutgoingCall),
        call ∈ (calls.foldl enter groups).values →
        (∃ r ∈ calls, g.resolve? d r = some call.target) ∨
          ∃ old ∈ groups.values, old.target = call.target := by
    intro enter entered calls
    induction calls with
    | nil => exact fun _ listed => .inr ⟨call, listed, rfl⟩
    | cons r calls ih =>
        intro groups listed
        rcases ih _ listed with ⟨r', among, found⟩ | ⟨old, before, same⟩
        · exact .inl ⟨r', List.mem_cons_of_mem _ among, found⟩
        · rcases entered groups r with unresolved | ⟨target, found, grown⟩
          · exact .inr ⟨old, unresolved ▸ before, same⟩
          · rcases target_groupCall (grown ▸ before) with here | ⟨older, known, target⟩
            · exact .inl ⟨r, List.mem_cons_self, by rw [found, ← here, same]⟩
            · exact .inr ⟨older, known, target.trans same⟩
  refine (grouped _ (fun groups r => ?_) _ _ h).elim id ?_
  · split
    · next target found => exact .inr ⟨target, found, rfl⟩
    · exact .inl rfl
  · rintro ⟨old, none, -⟩
    exact absurd none List.not_mem_nil

theorem Consistent.lists_outgoingCalls (consistent : g.Consistent) {call : OutgoingCall}
    (h : call ∈ g.outgoingCalls item) : g.Lists call.target := by
  unfold outgoingCalls at h
  split at h
  · next d found =>
    obtain ⟨r, -, resolved⟩ := exists_resolve_of_mem_callsOf h
    have held : g.Holds d.module := holds_of_definitions (Table.mem_values_of_get? found)
    exact (consistent.lists_resolve held resolved).1
  · exact absurd h List.not_mem_nil

/-- A call is resolved to an item that the graph knows, through an attribute to one of the called
name; so every item that a traversal meets behind its entry is one that the graph knows. -/
theorem resolve?_known (g : ProjectGraph) (grown : g.Grown) (distinct : g.DistinctIdentities) :
    (∀ d ∈ g.definitions.values, ∀ r item, g.resolve? d r = some item →
      g.Knows item ∧ (r.isAttribute → item.name = r.name)) ∧
    ∀ h : IndexedProject, h.graph = g → ∀ entry item, h.provider.Reaches entry item →
      item = entry ∨ g.Knows item := by
  have consistent := grown.consistent
  constructor
  · intro d listed r item resolved
    have found := consistent.lists_resolve (holds_of_definitions listed) resolved
    exact ⟨consistent.knows_of_lists distinct found.1, found.2⟩
  · rintro h rfl entry item reached
    induction reached with
    | entry => exact .inl rfl
    | call _ answered known _ =>
        cases answered
        exact .inr (consistent.knows_of_lists distinct (consistent.lists_outgoingCalls known))

/-! ### Two files -/

def importingGraph : ProjectGraph :=
  ({ root := ⟨.root, ["p"]⟩, selfTokens := ["self"] } : ProjectGraph).addAll importing

theorem grown_importing : importingGraph.Grown :=
  (Grown.empty _ _).addAll importing

theorem distinct_importing : importingGraph.DistinctIdentities := by
  have apart : ∀ m ∈ importingGraph.modules.values ++ importingGraph.modulesByName.values ++
      importingGraph.definitions.values.map (·.module),
      ∀ m' ∈ importingGraph.modules.values ++ importingGraph.modulesByName.values ++
      importingGraph.definitions.values.map (·.module), ∀ d ∈ m.definitions, ∀ d' ∈ m'.definitions,
      d.item.identity = d'.item.identity → d = d' ∧ m = m' := by
    decide +kernel
  exact fun m m' held held' => apart m (holds_iff.mp held) m' (holds_iff.mp held')

theorem importing_known : importingGraph.Grown ∧ importingGraph.DistinctIdentities ∧
    ∃ d ∈ importingGraph.definitions.values, ∃ r ∈ d.definition.calls, ∃ item,
      importingGraph.resolve? d r = some item ∧ r.isAttribute ∧ r.name = "run" ∧
        item.kind = .function ∧ importingGraph.Knows item ∧ item.name = "run" := by
  have known := (resolve?_known importingGraph grown_importing distinct_importing).1
  have resolved : ∃ d ∈ importingGraph.definitions.values, ∃ r ∈ d.definition.calls,
      r.isAttribute ∧ r.name = "run" ∧
        (importingGraph.resolve? d r).any (·.kind = .function) := by decide +kernel
  obtain ⟨d, listed, r, among, isAttribute, name, found⟩ := resolved
  obtain ⟨item, resolved, kind⟩ := (Option.any_eq_true ..).mp found
  obtain ⟨knows, same⟩ := known d listed r item resolved
  exact ⟨grown_importing, distinct_importing, d, listed, r, among, item, resolved, isAttribute,
    name, of_decide_eq_true kind, knows, (same isAttribute).trans name⟩

end CallDiagram.Index.ProjectGraph
