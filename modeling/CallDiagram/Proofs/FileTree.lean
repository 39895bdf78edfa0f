import CallDiagram.Diagram.Saving
import CallDiagram.Proofs.Path
import CallDiagram.Proofs.Table
import Mathlib.Data.List.Induction
import Mathlib.Data.List.Nodup

/-! # Well-formed file trees

In a tree as a file system holds it, everything lies in a folder and under a name that a path can
be written with. So the way from the root to a place leads through folders only, and the written
path of a place is read back as that place.
-/

namespace CallDiagram

open Text

/-- What something in a folder can be called. -/
def IsFileName (name : String) : Prop :=
  name ∉ ["", ".", ".."] ∧ '/' ∉ name.toList

instance (name : String) : Decidable (IsFileName name) :=
  inferInstanceAs (Decidable (_ ∧ _))

theorem IsFileName.isComponent {name : String} (valid : IsFileName name) :
    Path.IsComponent name :=
  ⟨fun dropped => valid.1 (List.mem_append_left [".."] dropped), valid.2⟩

/-! ## Paths of places -/

namespace Path

/-- The written path of a place is read back as that place. -/
theorem ofString_toString {p : Place} (valid : ∀ name ∈ p, IsFileName name) :
    Path.ofString (⟨.root, p⟩ : Path).toString = ⟨.root, p⟩ :=
  IsRead.ofString_toString fun name member => (valid name member).isComponent

end Path

/-! ## The way to a place -/

namespace FileTree

/-- A tree as a file system holds it. -/
structure WellFormed (t : FileTree) : Prop where
  folders : t.folders.Nodup
  files : t.files.keys.Nodup
  /-- The root is a folder without being listed. -/
  root : [] ∉ t.places
  apart : ∀ p, t.isFolder p = true → t.isFile p = false
  above : ∀ p ∈ t.places, t.isFolder p.dropLast = true
  names : ∀ p ∈ t.places, ∀ name ∈ p, IsFileName name

theorem mem_places {t : FileTree} {p : Place} :
    p ∈ t.places ↔ p ∈ t.folders ∨ t.isFile p = true := by
  rw [places, List.mem_append, isFile, Table.holds_iff]

theorem isTaken_iff {t : FileTree} {p : Place} : t.isTaken p = true ↔ p = [] ∨ p ∈ t.places := by
  simp [isTaken, isFolder, mem_places, or_assoc]

theorem isTaken_of_isFolder {t : FileTree} {p : Place} (folder : t.isFolder p = true) :
    t.isTaken p = true := by
  simp [isTaken, folder]

/-- A way along folders leads where its names say. -/
theorem walk_of_folders {t : FileTree} (apart : ∀ p, t.isFolder p = true → t.isFile p = false)
    (names : List String) (folder : Place) (up : ".." ∉ names)
    (through : ∀ q, folder <+: q → q <+: folder ++ names → q ≠ folder ++ names →
      t.isFolder q = true) : t.walk folder names = .ok (folder ++ names) := by
  induction names generalizing folder with
  | nil => rw [walk, List.append_nil]
  | cons name names ih =>
      obtain ⟨plain, later⟩ := List.ne_and_not_mem_of_not_mem_cons up
      have here : t.isFolder folder = true :=
        through folder (List.prefix_refl _) (List.prefix_append _ _) (by simp)
      have step : folder ++ name :: names = (folder ++ [name]) ++ names := by simp
      rw [step] at through ⊢
      have rest := ih (folder ++ [name]) later fun q above below =>
        through q ((List.prefix_append _ _).trans above) below
      simp [walk, apart folder here, here, Ne.symm plain, rest]

/-- Folders that are there need not be made. -/
theorem makeFoldersFrom_of_folders {t : FileTree} (names : List String) (folder : Place)
    (up : ".." ∉ names)
    (there : ∀ q, folder <+: q → q <+: folder ++ names → t.isFolder q = true) :
    t.makeFoldersFrom folder names = (t, .ok (folder ++ names)) := by
  induction names generalizing folder with
  | nil => rw [makeFoldersFrom, List.append_nil]
  | cons name names ih =>
      obtain ⟨plain, later⟩ := List.ne_and_not_mem_of_not_mem_cons up
      have step : folder ++ name :: names = (folder ++ [name]) ++ names := by simp
      rw [step] at there ⊢
      have here : t.isFolder (folder ++ [name]) = true :=
        there _ (List.prefix_append _ _) (List.prefix_append _ _)
      have rest := ih (folder ++ [name]) later fun q above below =>
        there q ((List.prefix_append _ _).trans above) below
      simp [makeFoldersFrom, Ne.symm plain, makeFolder, here, rest]

/-- Only what a tree lists has to be looked at. -/
theorem wellFormed_iff {t : FileTree} : t.WellFormed ↔ t.folders.Nodup ∧ t.files.keys.Nodup ∧
    [] ∉ t.places ∧ (∀ p ∈ t.folders, t.isFile p = false) ∧
    (∀ p ∈ t.places, t.isFolder p.dropLast = true) ∧
    ∀ p ∈ t.places, ∀ name ∈ p, IsFileName name := by
  constructor
  · rintro ⟨folders, files, root, apart, above, names⟩
    exact ⟨folders, files, root, fun p listed => apart p (by simp [isFolder, listed]), above, names⟩
  · rintro ⟨folders, files, root, apart, above, names⟩
    refine ⟨folders, files, root, fun p folder => ?_, above, names⟩
    rcases (by simpa [isFolder] using folder : p = [] ∨ p ∈ t.folders) with rfl | listed
    · exact Bool.eq_false_iff.mpr fun file => root (mem_places.mpr (.inr file))
    · exact apart p listed

instance (t : FileTree) : Decidable t.WellFormed :=
  decidable_of_iff' _ wellFormed_iff

/-- Two trees hold the same at some places. -/
structure AgreesOn (t : FileTree) (among : Place → Prop) (u : FileTree) : Prop where
  folders : ∀ p, among p → t.isFolder p = u.isFolder p
  files : ∀ p, among p → t.files.get? p = u.files.get? p

namespace AgreesOn

variable {t u : FileTree} {among fewer : Place → Prop} {p : Place}

theorem imp (agree : t.AgreesOn among u) (within : ∀ p, fewer p → among p) :
    t.AgreesOn fewer u where
  folders p member := agree.folders p (within p member)
  files p member := agree.files p (within p member)

theorem isFile (agree : t.AgreesOn among u) (member : among p) : t.isFile p = u.isFile p := by
  rw [FileTree.isFile, FileTree.isFile, ← Table.isSome_get?, ← Table.isSome_get?,
    agree.files p member]

theorem isTaken (agree : t.AgreesOn among u) (member : among p) : t.isTaken p = u.isTaken p := by
  rw [FileTree.isTaken, FileTree.isTaken, agree.folders p member, agree.isFile member]

theorem readText (agree : t.AgreesOn among u) (member : among p) : t.readText p = u.readText p := by
  rw [FileTree.readText, FileTree.readText, read, read, agree.files p member,
    agree.folders p member]

/-- Where neither tree lists anything, they agree. -/
theorem eq_of_notMem (absent : p ∉ t.places ++ u.places) :
    t.isFolder p = u.isFolder p ∧ t.files.get? p = u.files.get? p := by
  rw [List.mem_append, not_or] at absent
  have noFolder {v : FileTree} (absent : p ∉ v.places) : p ∉ v.folders :=
    fun folder => absent (mem_places.mpr (.inl folder))
  have noFile {v : FileTree} (absent : p ∉ v.places) : v.files.get? p = none := by
    rw [← Option.not_isSome_iff_eq_none, Table.isSome_get?]
    exact fun file => absent (mem_places.mpr (.inr file))
  constructor
  · simp [isFolder, noFolder absent.1, noFolder absent.2]
  · rw [noFile absent.1, noFile absent.2]

theorem iff_listed : t.AgreesOn among u ↔ ∀ p ∈ t.places ++ u.places, among p →
    t.isFolder p = u.isFolder p ∧ t.files.get? p = u.files.get? p := by
  constructor
  · exact fun agree p _ member => ⟨agree.folders p member, agree.files p member⟩
  · intro same
    have everywhere (p : Place) (member : among p) :
        t.isFolder p = u.isFolder p ∧ t.files.get? p = u.files.get? p := by
      by_cases listed : p ∈ t.places ++ u.places
      · exact same p listed member
      · exact eq_of_notMem listed
    exact ⟨fun p member => (everywhere p member).1, fun p member => (everywhere p member).2⟩

instance [DecidablePred among] : Decidable (t.AgreesOn among u) :=
  letI := ByteArray.instDecidableEq
  decidable_of_iff' _ iff_listed

end AgreesOn

namespace WellFormed

variable {t : FileTree} {p q : Place}

theorem isFileName (formed : t.WellFormed) (taken : t.isTaken p = true) :
    ∀ name ∈ p, IsFileName name := by
  rcases isTaken_iff.mp taken with rfl | listed
  · exact fun _ none => absurd none List.not_mem_nil
  · exact formed.names p listed

theorem isFolder_dropLast (formed : t.WellFormed) (taken : t.isTaken p = true) :
    t.isFolder p.dropLast = true := by
  rcases isTaken_iff.mp taken with rfl | listed
  · rfl
  · exact formed.above p listed

/-- What lies above something is a folder. -/
theorem isFolder_above (formed : t.WellFormed) (taken : t.isTaken p = true) (above : q <+: p)
    (proper : q ≠ p) : t.isFolder q = true := by
  induction p using List.reverseRecOn with
  | nil => exact absurd (List.prefix_nil.mp above) proper
  | append_singleton p name ih =>
      have folder := formed.isFolder_dropLast taken
      rw [List.dropLast_concat] at folder
      rcases List.prefix_concat_iff.mp above with same | above
      · exact absurd same proper
      · by_cases same : q = p
        · rw [same]
          exact folder
        · exact ih (isTaken_of_isFolder folder) above same

theorem up_notMem (formed : t.WellFormed) (taken : t.isTaken p = true) : ".." ∉ p := by
  intro climbing
  exact (formed.isFileName taken _ climbing).1 (by simp)

/-- A file is read under the path that its place is written with. -/
theorem readTextAt (formed : t.WellFormed) (taken : t.isTaken p = true) (here : Path) :
    t.readTextAt here (Path.ofString (⟨.root, p⟩ : Path).toString) = t.readText p := by
  have way := walk_of_folders formed.apart p [] (formed.up_notMem taken)
    fun q _ above proper => formed.isFolder_above taken above proper
  rw [Path.ofString_toString (formed.isFileName taken)]
  simp [FileTree.readTextAt, Path.isAbsolute, way, bind, Except.bind]

theorem makeFoldersFrom (formed : t.WellFormed) (folder : t.isFolder p = true) :
    t.makeFoldersFrom [] p = (t, .ok p) := by
  have taken := isTaken_of_isFolder folder
  refine makeFoldersFrom_of_folders p [] (formed.up_notMem taken) fun q _ above => ?_
  by_cases same : q = p
  · rw [same]
    exact folder
  · exact formed.isFolder_above taken above same

/-! ### Making folders -/

theorem isFolder_iff : t.isFolder p = true ↔ p = [] ∨ p ∈ t.folders := by
  simp [FileTree.isFolder]

/-- Another well-formed tree has the same files and further folders. -/
structure HasFurther (t : FileTree) (new : Place → Prop) (u : FileTree) : Prop where
  formed : u.WellFormed
  files : u.files = t.files
  folders : ∀ p, u.isFolder p = true ↔ t.isFolder p = true ∨ new p

/-- A tree stays well-formed when something is put into a folder. -/
theorem put {u : FileTree} (formed : t.WellFormed) (folder : t.isFolder p = true) {name : String}
    (valid : IsFileName name) (folders : u.folders.Nodup) (files : u.files.keys.Nodup)
    (apart : ∀ q, u.isFolder q = true → u.isFile q = false)
    (kept : ∀ q, t.isFolder q = true → u.isFolder q = true)
    (listed : ∀ q ∈ u.places, q ∈ t.places ∨ q = p ++ [name]) : u.WellFormed where
  folders := folders
  files := files
  root root := by
    rcases listed [] root with old | new
    · exact formed.root old
    · simp at new
  apart := apart
  above q member := by
    rcases listed q member with old | rfl
    · exact kept _ (formed.above q old)
    · rw [List.dropLast_concat]
      exact kept p folder
  names q member := by
    rcases listed q member with old | rfl
    · exact formed.names q old
    · intro other among
      rcases List.mem_append.mp among with before | last
      · exact formed.isFileName (isTaken_of_isFolder folder) other before
      · exact List.mem_singleton.mp last ▸ valid

/-- Where no file is, a folder can be made in a folder. -/
theorem makeFolder (formed : t.WellFormed) (folder : t.isFolder p = true) {name : String}
    (valid : IsFileName name) (free : t.isFile (p ++ [name]) = false) :
    ∃ u, t.makeFolder (p ++ [name]) = .ok u ∧ HasFurther t (· = p ++ [name]) u := by
  by_cases there : t.isFolder (p ++ [name]) = true
  · refine ⟨t, by simp [FileTree.makeFolder, there], formed, rfl, fun q => ?_⟩
    constructor
    · exact .inl
    · rintro (old | rfl)
      · exact old
      · exact there
  · refine ⟨{ t with folders := t.folders ++ [p ++ [name]] }, ?_, ?_⟩
    · simp [FileTree.makeFolder, there, free]
    have folders (q : Place) :
        ({ t with folders := t.folders ++ [p ++ [name]] } : FileTree).isFolder q = true ↔
          t.isFolder q = true ∨ q = p ++ [name] := by
      simp [isFolder_iff, or_assoc]
    refine ⟨?_, rfl, folders⟩
    apply formed.put folder valid
    case folders =>
      have new : p ++ [name] ∉ t.folders := fun old => there (isFolder_iff.mpr (.inr old))
      exact List.nodup_append_comm.mp (List.nodup_cons.mpr ⟨new, formed.folders⟩)
    case files => exact formed.files
    case apart =>
      intro q isFolder
      rcases (folders q).mp isFolder with old | rfl
      · exact formed.apart q old
      · exact free
    case kept =>
      intro q old
      exact (folders q).mpr (.inl old)
    case listed =>
      intro q member
      simp only [places, List.mem_append, List.mem_singleton] at member ⊢
      tauto

/-- A file can be written into a folder, where no folder is. -/
theorem write (formed : t.WellFormed) (folder : t.isFolder p = true) {name : String}
    (valid : IsFileName name) (free : t.isFolder (p ++ [name]) = false) (bytes : ByteArray) :
    ∃ u : FileTree, t.write (p ++ [name]) bytes = .ok u ∧ u.WellFormed ∧
      u.folders = t.folders ∧ u.files = t.files.set (p ++ [name]) bytes := by
  refine ⟨{ t with files := t.files.set (p ++ [name]) bytes }, ?_, ?_, rfl, rfl⟩
  · simp [FileTree.write, free, folder]
  apply formed.put folder valid
  case folders => exact formed.folders
  case files => exact Table.nodup_keys_set _ _ formed.files
  case apart =>
    intro q isFolder
    have isFolder : t.isFolder q = true := isFolder
    have other : p ++ [name] ≠ q := by
      rintro rfl
      cases free.symm.trans isFolder
    have old := formed.apart q isFolder
    rw [FileTree.isFile, ← Table.isSome_get?] at old ⊢
    rw [Table.get?_set, if_neg other, old]
  case kept => exact fun q old => old
  case listed =>
    intro q member
    simp only [places, List.mem_append, Table.keys_set] at member ⊢
    split at member
    · exact .inl member
    · simpa [or_assoc] using member

end WellFormed

end FileTree

end CallDiagram
