import CallDiagram.Proofs.Diagram.Registry
import CallDiagram.Proofs.Index.Alike

/-! # The order of the files does not show

Look-ups that go through all modules ask for the only match, and all others go by a key. So two
graphs that find the same under every key resolve every call alike, and a project whose files are
read in another order answers as before.
-/

namespace CallDiagram.Index.ProjectGraph

open Source

variable {g h : ProjectGraph} {files files' : List (Path × String)}

theorem Grown.distinct (grown : g.Grown) : g.modules.keys.Nodup ∧ g.modulesByName.keys.Nodup := by
  induction grown with
  | empty root selfTokens => exact ⟨List.nodup_nil, List.nodup_nil⟩
  | insert s statements _ ih =>
      exact ⟨Table.nodup_keys_set _ _ ih.1, Table.nodup_keys_set _ _ ih.2⟩
  | fail name _ ih => exact ih

theorem only?_perm {α : Type} {xs ys : List α} (perm : xs.Perm ys) : only? xs = only? ys := by
  rcases xs with _ | ⟨a, _ | ⟨b, xs⟩⟩
  · rw [List.nil_perm.mp perm]
  · rw [List.singleton_perm.mp perm]
  · rcases ys with _ | ⟨c, _ | ⟨d, ys⟩⟩
    · cases perm.length_eq
    · cases perm.length_eq
    · rfl

theorem perm_eraseDups {α : Type} [DecidableEq α] {xs ys : List α} (perm : xs.Perm ys) :
    xs.eraseDups.Perm ys.eraseDups := by
  refine (List.perm_ext_iff_of_nodup (Registry.nodup_eraseDups xs)
    (Registry.nodup_eraseDups ys)).mpr fun a => ?_
  rw [List.mem_eraseDups, List.mem_eraseDups, perm.mem_iff]

namespace Alike

theorem perm_modules (alike : g.Alike h) : g.modules.values.Perm h.modules.values :=
  (Table.perm_of_get? alike.grown.1.distinct.1 alike.grown.2.distinct.1 alike.modules).map _

theorem perm_modulesByName (alike : g.Alike h) :
    g.modulesByName.values.Perm h.modulesByName.values :=
  (Table.perm_of_get? alike.grown.1.distinct.2 alike.grown.2.distinct.2 alike.modulesByName).map _

/-! ### Classes and their methods -/

theorem classByDotted? (alike : g.Alike h) (dotted : String) :
    g.classByDotted? dotted = h.classByDotted? dotted := by
  simp only [ProjectGraph.classByDotted?, alike.modulesByName]

theorem classByName? (alike : g.Alike h) (m : Module) (name : String) (allowUnique : Bool) :
    g.classByName? m name allowUnique = h.classByName? m name allowUnique := by
  have byDotted : g.classByDotted? = h.classByDotted? := funext alike.classByDotted?
  have unique := fun short => only?_perm (alike.perm_modules.filterMap (·.class? short))
  simp only [ProjectGraph.classByName?, byDotted, unique]

theorem basesOf (alike : g.Alike h) (c : ClassInfo) : g.basesOf c = h.basesOf c := by
  simp only [ProjectGraph.basesOf, alike.modules, alike.classByName?]

theorem perm_classIdentities (alike : g.Alike h) : g.classIdentities.Perm h.classIdentities :=
  (alike.perm_modules.append alike.perm_modulesByName).flatMap_right _

/-- The search takes classes out of the unseen ones, so their order does not matter. -/
theorem methodAmong? (alike : g.Alike h) (name : String) {unseen unseen' : List String}
    (perm : unseen.Perm unseen') (pending : List ClassInfo) :
    g.methodAmong? name unseen pending = h.methodAmong? name unseen' pending := by
  fun_induction g.methodAmong? name unseen pending generalizing unseen' with
  | case1 => rw [ProjectGraph.methodAmong?]
  | case2 unseen c rest isNew method found =>
      rw [ProjectGraph.methodAmong?, if_pos (perm.mem_iff.mp isNew), found]
  | case3 unseen c rest isNew none ih =>
      rw [ih (perm.erase _), alike.basesOf]
      conv_rhs => rw [ProjectGraph.methodAmong?, if_pos (perm.mem_iff.mp isNew), none]
  | case4 unseen c rest seen ih =>
      rw [ih perm]
      conv_rhs => rw [ProjectGraph.methodAmong?, if_neg (seen ∘ perm.mem_iff.mpr)]

theorem method? (alike : g.Alike h) (c : ClassInfo) (name : String) :
    g.method? c name = h.method? c name :=
  alike.methodAmong? name (perm_eraseDups (alike.perm_classIdentities.cons _)) [c]

/-! ### Calls -/

theorem uniqueFunction? (alike : g.Alike h) (name : String) :
    g.uniqueFunction? name = h.uniqueFunction? name :=
  only?_perm (alike.perm_modules.filterMap _)

theorem uniqueMethod? (alike : g.Alike h) (name : String) :
    g.uniqueMethod? name = h.uniqueMethod? name :=
  only?_perm (alike.perm_modules.flatMap_right _)

theorem memberByDotted? (alike : g.Alike h) (dotted : String) :
    g.memberByDotted? dotted = h.memberByDotted? dotted := by
  simp only [ProjectGraph.memberByDotted?, alike.modulesByName]

theorem resolveName? (alike : g.Alike h) (d : Indexed) (name : String) :
    g.resolveName? d name = h.resolveName? d name := by
  simp only [ProjectGraph.resolveName?, alike.memberByDotted?, alike.uniqueFunction?]

theorem resolveAttribute? (alike : g.Alike h) (d : Indexed) (receiver : Option String)
    (name : String) : g.resolveAttribute? d receiver name = h.resolveAttribute? d receiver name := by
  simp only [ProjectGraph.resolveAttribute?, ProjectGraph.resolveOnSelf?,
    ProjectGraph.resolveOnAttribute?, ProjectGraph.resolveOnLocal?, ProjectGraph.resolveOnClass?,
    ProjectGraph.resolveOnModule?, alike.selfTokens, alike.modulesByName, alike.classByName?,
    alike.method?, alike.uniqueMethod?]

theorem resolve? (alike : g.Alike h) (d : Indexed) (r : CallReference) :
    g.resolve? d r = h.resolve? d r := by
  simp only [ProjectGraph.resolve?, alike.resolveAttribute?, alike.resolveName?]

theorem outgoingCalls (alike : g.Alike h) (item : Item) :
    g.outgoingCalls item = h.outgoingCalls item := by
  simp only [ProjectGraph.outgoingCalls, ProjectGraph.definitionOf?, callsOf, alike.definitions,
    alike.resolve?]

end Alike

end CallDiagram.Index.ProjectGraph
