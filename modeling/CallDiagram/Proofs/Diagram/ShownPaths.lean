import CallDiagram.Proofs.Diagram.Registry
import CallDiagram.Proofs.Text.CommonPrefix

/-! # Shown paths

Finalizing a register takes the folders off every path that all of them begin with, and only whole
folders. A path that goes through these folders twice in a row loses them twice: it is shown like
another one if that has them once.
-/

namespace CallDiagram

open Text

namespace Registry

inductive Operation where
  | register (key : ParticipantKey)
  | finalize
  deriving Repr, DecidableEq

def perform (r : Registry) : Operation → Registry
  | .register key => (r.register key).2
  | .finalize => r.finalize

/-- A new register after some operations. -/
def after (operations : List Operation) : Registry :=
  operations.foldl perform {}

def paths (r : Registry) : List (List Char) :=
  r.lifelines.map (·.key.path.toList)

theorem sharedFolders_eq (r : Registry) :
    r.sharedFolders =
      dropEnd (· ≠ '/') (commonPrefix (r.participants.map (·.key.path))).toList := by
  rw [participants, List.map_map]
  rfl

@[simp] theorem sharedFolders_finalize (r : Registry) :
    r.finalize.sharedFolders = r.sharedFolders := by
  rw [sharedFolders_eq, sharedFolders_eq, participants_finalize]

/-! ## What a final register shows -/

/-- A final register shows every path without the folders that all of them share. -/
def Settled (r : Registry) : Prop :=
  r.isFinal = true → ∀ l ∈ r.lifelines,
    l.shownPath = String.ofList (withoutPrefix r.sharedFolders l.key.path.toList)

theorem settled_finalize {r : Registry} (settled : r.Settled) : r.finalize.Settled := by
  intro _ l member
  rw [sharedFolders_finalize]
  rw [finalize] at member
  split at member
  · next final => exact settled final l member
  · obtain ⟨before, -, rfl⟩ := List.mem_map.mp member
    rfl

theorem settled_perform {r : Registry} (settled : r.Settled) (operation : Operation) :
    (r.perform operation).Settled := by
  cases operation with
  | finalize => exact settled_finalize settled
  | register key =>
      rw [perform, register]
      split
      · exact settled
      · -- A new key leaves the register open.
        intro final
        cases final

theorem settled_after (operations : List Operation) : (after operations).Settled := by
  rw [after]
  have new : Settled {} := fun final => by cases final
  generalize ({} : Registry) = r at new
  induction operations generalizing r with
  | nil => exact new
  | cons operation later ih => exact ih _ (settled_perform new operation)

/-! ## Folders -/

/-- What all of some paths begin with, up to the last slash. -/
structure AreSharedFolders (folders : List Char) (paths : List (List Char)) : Prop where
  whole : folders = [] ∨ folders.getLast? = some '/'
  longest : if paths = [] then folders = []
    else ∃ name, IsCommonPrefix (folders ++ name) paths ∧ '/' ∉ name

theorem AreSharedFolders.start {folders path : List Char} {paths : List (List Char)}
    (shared : AreSharedFolders folders paths) (member : path ∈ paths) : folders <+: path := by
  have longest := shared.longest
  rw [if_neg (List.ne_nil_of_mem member)] at longest
  obtain ⟨name, common, -⟩ := longest
  exact (List.prefix_append folders name).trans (common.start path member)

theorem areSharedFolders (r : Registry) : AreSharedFolders r.sharedFolders r.paths := by
  constructor
  · cases last : r.sharedFolders.getLast? with
    | none => exact .inl (List.getLast?_eq_none_iff.mp last)
    | some c =>
        have slash := getLast?_dropEnd last
        simp only [decide_eq_false_iff_not, not_not] at slash
        exact .inr (slash ▸ rfl)
  · split
    · next none =>
      rw [sharedFolders, List.map_eq_nil_iff.mpr (List.map_eq_nil_iff.mp none)]
      rfl
    · next some =>
      have some : r.lifelines.map (·.key.path) ≠ [] := by simpa [paths] using some
      have common := isCommonPrefix_commonPrefix some
      obtain ⟨name, cut, noSlash⟩ :=
        exists_dropEnd (· ≠ '/') (commonPrefix (r.lifelines.map (·.key.path))).toList
      refine ⟨name, ?_, fun slash => by simpa using noSlash '/' slash⟩
      rw [← cut, List.map_map] at common
      exact common

/-- Taking whole folders off leaves the other components of a path as they are. -/
theorem splitOnChar_suffix {folders : List Char} (whole : folders = [] ∨ folders.getLast? = some '/')
    (path : List Char) : splitOnChar '/' path <:+ splitOnChar '/' (folders ++ path) := by
  rcases whole with rfl | last
  · exact List.suffix_rfl
  · obtain ⟨before, rfl⟩ := List.getLast?_eq_some_iff.mp last
    rw [List.append_assoc, List.singleton_append, splitOnChar_append]
    exact List.suffix_append _ _

theorem splitOnChar_suffix_repeated {folders : List Char}
    (whole : folders = [] ∨ folders.getLast? = some '/') (times : Nat) (path : List Char) :
    splitOnChar '/' path <:+
      splitOnChar '/' ((List.replicate times folders).flatten ++ path) := by
  induction times with
  | zero => exact List.suffix_rfl
  | succ times ih =>
      rw [List.replicate_succ, List.flatten_cons, List.append_assoc]
      exact ih.trans (splitOnChar_suffix whole _)

/-- Whether a path goes through some folders twice in a row. -/
def Reenters (folders path : List Char) : Prop :=
  folders ≠ [] ∧ folders ++ folders <+: path

instance (folders path : List Char) : Decidable (Reenters folders path) :=
  inferInstanceAs (Decidable (folders ≠ [] ∧ folders ++ folders <+: path))

/-- Finalizing takes the shared folders off every path and changes nothing else, and it never
divides a component of a path. They are taken off once exactly where a path does not enter them
twice in a row; paths that do not are told apart by what is shown of them. -/
theorem finalize_strips (operations : List Operation) :
    let r := (after operations).finalize
    let folders := (after operations).sharedFolders
    AreSharedFolders folders r.paths ∧ r.participants = (after operations).participants ∧
      (∀ l ∈ r.lifelines,
        (∃ times, l.key.path.toList =
          (List.replicate times folders).flatten ++ l.shownPath.toList) ∧
        splitOnChar '/' l.shownPath.toList <:+ splitOnChar '/' l.key.path.toList ∧
        (l.key.path.toList = folders ++ l.shownPath.toList ↔
          ¬ Reenters folders l.key.path.toList)) ∧
      ∀ l ∈ r.lifelines, ∀ l' ∈ r.lifelines,
        ¬ Reenters folders l.key.path.toList → ¬ Reenters folders l'.key.path.toList →
          l.key.path ≠ l'.key.path → l.shownPath ≠ l'.shownPath := by
  intro r folders
  have shared : AreSharedFolders folders r.paths := by
    have shared := r.areSharedFolders
    rwa [sharedFolders_finalize] at shared
  have shown : ∀ l ∈ r.lifelines,
      l.shownPath.toList = withoutPrefix folders l.key.path.toList := by
    intro l member
    have final := settled_finalize (settled_after operations) (isFinal_finalize _) l member
    rw [final, String.toList_ofList, sharedFolders_finalize]
  have once : ∀ l ∈ r.lifelines, (l.key.path.toList = folders ++ l.shownPath.toList ↔
      ¬ Reenters folders l.key.path.toList) := by
    intro l member
    have begins := shared.start (List.mem_map_of_mem member)
    rw [shown l member, eq_append_withoutPrefix_iff begins, Reenters, not_and_or, not_not]
  refine ⟨shared, participants_finalize _, fun l member => ?_, ?_⟩
  · obtain ⟨times, whole⟩ := exists_withoutPrefix folders l.key.path.toList
    rw [← shown l member] at whole
    have components := splitOnChar_suffix_repeated shared.whole times l.shownPath.toList
    rw [← whole] at components
    exact ⟨⟨times, whole⟩, components, once l member⟩
  · intro l member l' member' single single' different same
    have path := (once l member).mpr single
    have path' := (once l' member').mpr single'
    rw [same, ← path'] at path
    exact different (String.toList_inj.mp path)

theorem services_stripped :
    let operations : List Operation :=
      [.register ⟨"app/services/order.py", "Order", "o"⟩, .finalize,
        .register ⟨"app/services/repo.py", "Repo", "r"⟩]
    let r := (after operations).finalize
    let folders := "app/services/".toList
    (∀ l ∈ r.lifelines, ¬ Reenters folders l.key.path.toList) ∧
      (∀ l ∈ r.lifelines, l.key.path.toList = folders ++ l.shownPath.toList) ∧
      r.lifelines.map (·.shownPath) = ["order.py", "repo.py"] := by
  intro operations r folders
  have shared : (after operations).sharedFolders = folders := by decide +kernel
  have single : ∀ l ∈ r.lifelines, ¬ Reenters folders l.key.path.toList := by decide +kernel
  obtain ⟨-, -, each, -⟩ := finalize_strips operations
  rw [shared] at each
  exact ⟨single, fun l member => (each l member).2.2.mpr (single l member), by decide +kernel⟩

/-- A folder within a folder of the same name is taken off along with it, so that two files are
shown alike. -/
theorem namesake_folders_not_stripped :
    let r := (after [.register ⟨"mysite/urls.py", "urls", ""⟩,
      .register ⟨"mysite/mysite/urls.py", "urls", ""⟩]).finalize
    r.lifelines.map (·.shownPath) = ["urls.py", "urls.py"] ∧
      ¬ ∃ folders : String, ∀ l ∈ r.lifelines, l.key.path = folders ++ l.shownPath := by
  intro r
  have shown : r.lifelines = [⟨⟨⟨"mysite/urls.py", "urls", ""⟩, 1⟩, "urls.py"⟩,
      ⟨⟨⟨"mysite/mysite/urls.py", "urls", ""⟩, 2⟩, "urls.py"⟩] := by decide +kernel
  rw [shown]
  refine ⟨rfl, ?_⟩
  rintro ⟨folders, stripped⟩
  obtain ⟨outer, stripped⟩ := List.forall_mem_cons.mp stripped
  obtain ⟨inner, -⟩ := List.forall_mem_cons.mp stripped
  exact absurd (outer.trans inner.symm) (by decide)

end Registry

end CallDiagram
