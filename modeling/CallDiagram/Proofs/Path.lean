import CallDiagram.Path
import CallDiagram.Proofs.Text.Splitting

/-! # Written paths and folders

Reading a path drops some names and keeps the others, so what is written of a path that was read is
read back as the same path. One path lies in another if it leads on from it: then the components of
the folder, the root being one of them, are the first components of the path.
-/

namespace CallDiagram.Path

open Text

/-! ## Reading and writing -/

/-- A name that is kept when a path is read. -/
def IsComponent (name : String) : Prop :=
  name ∉ ["", "."] ∧ '/' ∉ name.toList

instance (name : String) : Decidable (IsComponent name) :=
  inferInstanceAs (Decidable (_ ∧ _))

/-- A path has only names that reading keeps. -/
def IsRead (p : Path) : Prop :=
  ∀ name ∈ p.parts, IsComponent name

theorem isRead_ofString (s : String) : (ofString s).IsRead := by
  intro name member
  obtain ⟨cut, kept⟩ := List.mem_filter.mp member
  obtain ⟨piece, among, rfl⟩ := List.mem_map.mp cut
  refine ⟨by simpa using kept, ?_⟩
  rw [String.toList_ofList]
  exact not_mem_of_mem_splitOnChar among

theorem partsOf_slash (cs : List Char) : partsOf ('/' :: cs) = partsOf cs := by
  simp [partsOf, splitOnChar]

theorem partsOf_append (before after : List Char) :
    partsOf (before ++ '/' :: after) = partsOf before ++ partsOf after := by
  simp only [partsOf, splitOnChar_append, List.map_append, List.filter_append]

theorem partsOf_component {name : String} (valid : IsComponent name) :
    partsOf name.toList = [name] := by
  have kept : name ≠ "" ∧ name ≠ "." := by simpa using valid.1
  simp [partsOf, splitOnChar_eq_singleton valid.2, kept]

theorem toList_joinParts_cons (name : String) (others : List String) :
    ∃ behind, (joinParts (name :: others)).toList = name.toList ++ behind := by
  cases others with
  | nil => exact ⟨[], by simp [joinParts]⟩
  | cons next others =>
      exact ⟨_, by rw [joinParts, String.intercalate_cons_cons, String.append_assoc,
        String.toList_append]⟩

theorem partsOf_joinParts {parts : List String} (valid : ∀ name ∈ parts, IsComponent name) :
    partsOf (joinParts parts).toList = parts := by
  induction parts with
  | nil => rfl
  | cons name rest ih =>
      obtain ⟨here, below⟩ := List.forall_mem_cons.mp valid
      cases rest with
      | nil => rw [joinParts, String.intercalate_singleton, partsOf_component here]
      | cons next others =>
          have joined : (joinParts (name :: next :: others)).toList =
              name.toList ++ '/' :: (joinParts (next :: others)).toList := by
            simp [joinParts, String.intercalate_cons_cons]
          rw [joined, partsOf_append, partsOf_component here, ih below, List.singleton_append]

theorem head?_joinParts {parts : List String} (valid : ∀ name ∈ parts, IsComponent name) :
    (joinParts parts).toList.head? ≠ some '/' := by
  cases parts with
  | nil => simp [joinParts]
  | cons name rest =>
      obtain ⟨nonempty, noSlash⟩ := valid name List.mem_cons_self
      obtain ⟨behind, joined⟩ := toList_joinParts_cons name rest
      cases written : name.toList with
      | nil => exact absurd (by simp [String.toList_eq_nil_iff.mp written]) nonempty
      | cons c cs =>
          rw [joined, written]
          rintro ⟨⟩
          exact noSlash (written ▸ List.mem_cons_self)

theorem anchorOf_eq_relative_iff {cs : List Char} :
    anchorOf cs = .relative ↔ cs.head? ≠ some '/' := by
  unfold anchorOf
  split
  · simp
  · simp
  · simp
  · next absent => simpa [List.head?_eq_some_iff] using absent

/-- The anchor of a path is read back in front of a text that starts with no slash. -/
theorem anchorOf_text (anchor : Anchor) {cs : List Char} (solid : cs.head? ≠ some '/') :
    anchorOf ((Anchor.text anchor).toList ++ cs) = anchor := by
  cases anchor with
  | relative => exact anchorOf_eq_relative_iff.mpr solid
  | root =>
      cases cs with
      | nil => rfl
      | cons c cs => simp_all [anchorOf, Anchor.text]
  | doubleRoot =>
      cases cs with
      | nil => rfl
      | cons c cs => simp_all [anchorOf, Anchor.text]

theorem partsOf_text (anchor : Anchor) (cs : List Char) :
    partsOf ((Anchor.text anchor).toList ++ cs) = partsOf cs := by
  cases anchor with
  | relative => rfl
  | root => exact partsOf_slash cs
  | doubleRoot => exact (partsOf_slash ('/' :: cs)).trans (partsOf_slash cs)

/-- What is written of a path that was read is read back. -/
theorem IsRead.ofString_toString {p : Path} (read : p.IsRead) : ofString p.toString = p := by
  obtain ⟨anchor, parts⟩ := p
  unfold toString
  split
  · next dot =>
    obtain ⟨rfl, rfl⟩ : anchor = .relative ∧ parts = [] := dot
    rfl
  · rw [ofString, String.toList_append, anchorOf_text anchor (head?_joinParts read), partsOf_text,
      partsOf_joinParts read]

/-! ## Folders -/

/-- A path leads on from a folder. -/
def LiesIn (p folder : Path) : Prop :=
  ∃ names, p = folder.join ⟨.relative, names⟩

theorem join_relative (folder : Path) (names : List String) :
    folder.join ⟨.relative, names⟩ = ⟨folder.anchor, folder.parts ++ names⟩ := rfl

theorem relativeTo?_eq_some_iff {p folder : Path} {names : List String} :
    p.relativeTo? folder = some names ↔ p = folder.join ⟨.relative, names⟩ := by
  obtain ⟨anchor, parts⟩ := p
  simp only [relativeTo?, List.isPrefixOf_iff_prefix, join_relative, Path.mk.injEq]
  constructor
  · intro found
    split at found
    · next inside =>
      obtain ⟨same, rest, rfl⟩ := inside
      rw [List.drop_left] at found
      exact ⟨same, Option.some.inj found ▸ rfl⟩
    · cases found
  · rintro ⟨rfl, rfl⟩
    rw [if_pos ⟨rfl, List.prefix_append _ _⟩, List.drop_left]

theorem isSome_relativeTo?_iff {p folder : Path} :
    (p.relativeTo? folder).isSome = true ↔ p.LiesIn folder := by
  rw [Option.isSome_iff_exists]
  exact exists_congr fun names => relativeTo?_eq_some_iff

theorem liesIn_iff {p folder : Path} :
    p.LiesIn folder ↔ p.anchor = folder.anchor ∧ folder.parts <+: p.parts := by
  obtain ⟨anchor, parts⟩ := p
  simp only [LiesIn, join_relative, Path.mk.injEq, exists_and_left]
  exact and_congr_right fun _ => exists_congr fun names => eq_comm

theorem LiesIn.refl (p : Path) : p.LiesIn p :=
  liesIn_iff.mpr ⟨rfl, List.prefix_refl _⟩

theorem LiesIn.antisymm {p q : Path} (below : p.LiesIn q) (above : q.LiesIn p) : p = q := by
  obtain ⟨names, rfl⟩ := below
  obtain ⟨-, parts⟩ := liesIn_iff.mp above
  rw [join_relative] at parts ⊢
  rw [← (List.prefix_append q.parts names).eq_of_length_le parts.length_le]

theorem LiesIn.trans {p folder above : Path} (below : p.LiesIn folder)
    (inside : folder.LiesIn above) : p.LiesIn above := by
  obtain ⟨names, rfl⟩ := below
  obtain ⟨others, rfl⟩ := inside
  exact ⟨others ++ names, by simp only [join_relative, List.append_assoc]⟩

/-- The names of a path, its root counted as the first. -/
def components (p : Path) : List String :=
  if p.isAbsolute then Anchor.text p.anchor :: p.parts else p.parts

theorem components_of_absolute {p : Path} (absolute : p.isAbsolute = true) :
    p.components = Anchor.text p.anchor :: p.parts :=
  if_pos absolute

theorem components_of_relative {p : Path} (relative : p.isAbsolute = false) :
    p.components = p.parts :=
  if_neg (by simp [relative])

theorem not_isComponent_text {p : Path} (absolute : p.isAbsolute = true) :
    ¬ IsComponent (Anchor.text p.anchor) := by
  obtain ⟨anchor, parts⟩ := p
  cases anchor with
  | relative => cases absolute
  | root => exact fun component => component.2 (by simp [Anchor.text])
  | doubleRoot => exact fun component => component.2 (by simp [Anchor.text])

theorem text_injective {a b : Anchor} (same : Anchor.text a = Anchor.text b) : a = b := by
  cases a <;> cases b <;> first | rfl | exact absurd same (by decide)

/-- The paths in an absolute folder are those that begin with the components of the folder. -/
theorem liesIn_iff_prefix {p folder : Path} (read : p.IsRead)
    (absolute : folder.isAbsolute = true) :
    p.LiesIn folder ↔ folder.components <+: p.components := by
  rw [components_of_absolute absolute]
  constructor
  · rintro ⟨names, rfl⟩
    rw [join_relative, components_of_absolute (p := ⟨folder.anchor, folder.parts ++ names⟩) absolute,
      List.cons_prefix_cons]
    exact ⟨rfl, List.prefix_append _ _⟩
  · intro begins
    cases anchored : p.isAbsolute with
    | true =>
        rw [components_of_absolute anchored, List.cons_prefix_cons] at begins
        obtain ⟨root, names, parts⟩ := begins
        obtain ⟨anchor, _⟩ := p
        obtain rfl := text_injective root
        exact ⟨names, by rw [join_relative, parts]⟩
    | false =>
        -- The root of the folder would be a name in the path.
        rw [components_of_relative anchored] at begins
        exact absurd (read _ (begins.subset List.mem_cons_self)) (not_isComponent_text absolute)

/-- The names of a folder that is not absolute are found among the names of a path, never across
its root. -/
theorem infix_components_iff {p folder : Path} (read : folder.IsRead)
    (relative : folder.isAbsolute = false) :
    folder.components <:+: p.components ↔ folder.parts <:+: p.parts := by
  rw [components_of_relative relative]
  cases anchored : p.isAbsolute with
  | false => rw [components_of_relative anchored]
  | true =>
      rw [components_of_absolute anchored, List.infix_cons_iff, or_iff_right_of_imp]
      intro begins
      rcases List.prefix_cons_iff.mp begins with none | ⟨names, parts, -⟩
      · rw [none]
        exact List.nil_infix
      · have root : Anchor.text p.anchor ∈ folder.parts := parts ▸ List.mem_cons_self
        exact absurd (read _ root) (not_isComponent_text anchored)

end CallDiagram.Path
