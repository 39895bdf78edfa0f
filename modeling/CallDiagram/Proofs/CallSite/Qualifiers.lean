import CallDiagram.CallSite.Reading
import Mathlib.Data.List.TakeWhile

/-! # Qualifiers

What a name is called on is the longest run of name characters before the dot in front of it. Tokens
for the instance hold no dot, so at most one of them can stand before the first dot of the run, and
neither their order nor their number matters. Main statement: `qualifier_spec`.
-/

namespace CallDiagram

open Text

namespace Qualifier

variable {tokens tokens' : List String}

/-- Tokens for the instance itself are names without a dot. -/
def ArePlain (tokens : List String) : Prop :=
  ∀ token ∈ tokens, token ≠ "" ∧ '.' ∉ token.toList

/-- What a dotted name is called on, by the part before its first dot. -/
def ofDotted (tokens : List String) (qualifier : List Char) : Qualifier :=
  if String.ofList qualifier ∈ tokens then .sameObject
  else if '.' ∈ qualifier ∧ String.ofList (partition '.' qualifier).1 ∈ tokens then
    .named (String.ofList (partition '.' qualifier).2)
  else .named (String.ofList qualifier)

theorem ofDotted_congr (same : ∀ token, token ∈ tokens' ↔ token ∈ tokens)
    (qualifier : List Char) : ofDotted tokens' qualifier = ofDotted tokens qualifier := by
  simp only [ofDotted, same]

theorem partition_append {first rest : List Char} (plain : '.' ∉ first) :
    partition '.' (first ++ '.' :: rest) = (first, rest) := by
  have all : ∀ c ∈ first, decide (c ≠ '.') = true := by
    intro c member
    rw [decide_eq_true_eq]
    rintro rfl
    exact plain member
  rw [partition, List.takeWhile_append_of_pos all, List.dropWhile_append_of_pos all]
  simp

theorem append_partition {qualifier : List Char} (dotted : '.' ∈ qualifier) :
    (partition '.' qualifier).1 ++ '.' :: (partition '.' qualifier).2 = qualifier := by
  have cut := List.takeWhile_append_dropWhile (p := fun c => decide (c ≠ '.')) (l := qualifier)
  cases behind : qualifier.dropWhile fun c => decide (c ≠ '.') with
  | nil =>
      have none := List.dropWhile_eq_nil_iff.mp behind '.' dotted
      simp at none
  | cons c rest =>
      have stop : decide (c ≠ '.') = false := by
        have head : (dropStart (fun c => decide (c ≠ '.')) qualifier).head? = some c := by
          rw [dropStart, behind, List.head?_cons]
        exact head?_dropStart head
      have dot : c = '.' := by simpa using stop
      rw [behind, dot] at cut
      rw [partition, behind]
      exact cut

/-- A dotted name that a token stands in front of. -/
theorem ofDotted_behind_token {token : String} {rest : List Char} (plain : ArePlain tokens)
    (member : token ∈ tokens) :
    ofDotted tokens (token.toList ++ '.' :: rest) = .named (String.ofList rest) := by
  have whole : String.ofList (token.toList ++ '.' :: rest) ∉ tokens := by
    intro listed
    exact (plain _ listed).2 (by simp)
  have cut : partition '.' (token.toList ++ '.' :: rest) = (token.toList, rest) :=
    partition_append (plain token member).2
  rw [ofDotted, if_neg whole, cut, if_pos]
  simp [member]

theorem ofDotted_cons {token : String} {qualifier : List Char}
    (itself : qualifier ≠ token.toList)
    (front : ∀ rest, qualifier ≠ token.toList ++ '.' :: rest) :
    ofDotted (token :: tokens) qualifier = ofDotted tokens qualifier := by
  have whole : String.ofList qualifier ≠ token := by
    rintro rfl
    simp at itself
  have first (dotted : '.' ∈ qualifier) :
      String.ofList (partition '.' qualifier).1 ≠ token := by
    rintro rfl
    apply front (partition '.' qualifier).2
    rw [String.toList_ofList, append_partition dotted]
  by_cases dotted : '.' ∈ qualifier
  · simp [ofDotted, whole, dotted, first dotted]
  · simp [ofDotted, whole, dotted]

theorem normalize_eq (plain : ArePlain tokens) (qualifier : List Char) :
    normalize tokens qualifier = ofDotted tokens qualifier := by
  induction tokens with
  | nil => simp [normalize, ofDotted]
  | cons token tokens ih =>
      have later := ih fun other member => plain other (List.mem_cons_of_mem _ member)
      rw [normalize]
      by_cases itself : qualifier = token.toList
      · rw [if_pos itself]
        simp [ofDotted, itself]
      · rw [if_neg itself]
        cases cut : afterPrefix? (token.toList ++ ['.']) qualifier with
        | some rest =>
            rw [afterPrefix?_eq_some_iff, List.append_assoc] at cut
            subst cut
            exact (ofDotted_behind_token plain List.mem_cons_self).symm
        | none =>
            have front (rest : List Char) : qualifier ≠ token.toList ++ '.' :: rest := by
              intro spelled
              have found : afterPrefix? (token.toList ++ ['.']) qualifier = some rest := by
                rw [afterPrefix?_eq_some_iff, List.append_assoc]
                exact spelled
              cases cut.symm.trans found
            rw [ofDotted_cons itself front]
            exact later

end Qualifier

namespace Document

variable {d : Document} {tokens : List String} {name : Range} {offset : Nat}

/-- The run is the longest end of the text that consists of qualifier characters. -/
def IsRunBefore (text run : List Char) : Prop :=
  run <:+ text ∧ (∀ c ∈ run, isQualifierChar c = true) ∧
    ∀ other, other <:+ text → (∀ c ∈ other, isQualifierChar c = true) → other <:+ run

theorem isRunBefore_takeWhile (before : List Char) :
    IsRunBefore before.reverse (before.takeWhile isQualifierChar).reverse := by
  refine ⟨?_, ?_, ?_⟩
  · rw [List.reverse_suffix]
    exact List.takeWhile_prefix isQualifierChar
  · intro c member
    exact List.mem_takeWhile_imp (List.mem_reverse.mp member)
  · intro other ends all
    obtain ⟨front, whole⟩ := ends
    have back : before = other.reverse ++ front.reverse := by
      rw [← List.reverse_append, whole, List.reverse_reverse]
    have allBack : ∀ c ∈ other.reverse, isQualifierChar c = true :=
      fun c member => all c (List.mem_reverse.mp member)
    rw [back, List.takeWhile_append_of_pos allBack, List.reverse_append, List.reverse_reverse]
    exact List.suffix_append _ other

theorem qualifier_eq (valid : d.offsetAt name.start = .ok offset) :
    d.qualifier tokens name = .ok (match (d.text.take offset).reverse with
      | '.' :: before => Qualifier.normalize tokens (before.takeWhile isQualifierChar).reverse
      | _ => .named "") := by
  rw [qualifier, valid]
  simp only [bind, Except.bind, pure, Except.pure]
  split <;> simp_all only

/-- Without a dot in front of it a name is called on nothing. -/
theorem qualifier_of_undotted (valid : d.offsetAt name.start = .ok offset)
    (undotted : (d.text.take offset).getLast? ≠ some '.') :
    d.qualifier tokens name = .ok (.named "") := by
  rw [qualifier_eq valid]
  rw [List.getLast?_eq_head?_reverse] at undotted
  split
  · next dot =>
    rw [dot] at undotted
    exact absurd rfl undotted
  · rfl

theorem qualifier_of_dotted (valid : d.offsetAt name.start = .ok offset)
    (plain : Qualifier.ArePlain tokens) {before : List Char}
    (dotted : d.text.take offset = before ++ ['.']) :
    ∃ run, IsRunBefore before run ∧ d.qualifier tokens name = .ok (.ofDotted tokens run) := by
  have run := isRunBefore_takeWhile before.reverse
  rw [List.reverse_reverse] at run
  refine ⟨_, run, ?_⟩
  have back : (d.text.take offset).reverse = '.' :: before.reverse := by
    rw [dotted, List.reverse_append]
    rfl
  rw [qualifier_eq valid, back]
  exact congrArg Except.ok (Qualifier.normalize_eq plain _)

/-- A name is called on nothing if no dot stands in front of it, else on the longest run of name
characters in front of the dot, without a token that stands before the run's first dot; as often as
a token is listed and wherever. -/
theorem qualifier_spec (valid : d.offsetAt name.start = .ok offset)
    (plain : Qualifier.ArePlain tokens) :
    ((d.text.take offset).getLast? ≠ some '.' → d.qualifier tokens name = .ok (.named "")) ∧
    (∀ before, d.text.take offset = before ++ ['.'] → ∃ run, IsRunBefore before run ∧
      d.qualifier tokens name = .ok (.ofDotted tokens run)) ∧
    ∀ tokens', (∀ token, token ∈ tokens' ↔ token ∈ tokens) →
      d.qualifier tokens' name = d.qualifier tokens name := by
  refine ⟨qualifier_of_undotted valid, fun before => qualifier_of_dotted valid plain, ?_⟩
  intro tokens' same
  have plain' : Qualifier.ArePlain tokens' := fun token member =>
    plain token ((same token).mp member)
  rw [qualifier_eq valid, qualifier_eq valid]
  split
  · rw [Qualifier.normalize_eq plain, Qualifier.normalize_eq plain', Qualifier.ofDotted_congr same]
  · rfl

/-- A name behind a letter beyond ASCII, with tokens of which one starts like the other. -/
def accented : Document :=
  .ofString "éself.repo.save()"

theorem accented_qualifier : Qualifier.ArePlain ["sel", "self", "sel"] ∧
    (∃ run, IsRunBefore "éself.repo".toList run ∧
      accented.qualifier ["sel", "self", "sel"] ⟨⟨0, 11⟩, ⟨0, 15⟩⟩ =
        .ok (.ofDotted ["sel", "self", "sel"] run)) ∧
    accented.qualifier ["sel", "self", "sel"] ⟨⟨0, 11⟩, ⟨0, 15⟩⟩ = .ok (.named "repo") := by
  have plain : Qualifier.ArePlain ["sel", "self", "sel"] := by
    unfold Qualifier.ArePlain
    decide
  have valid : accented.offsetAt (⟨⟨0, 11⟩, ⟨0, 15⟩⟩ : Range).start = .ok 11 := by decide +kernel
  obtain ⟨-, dotted, -⟩ := qualifier_spec valid plain
  exact ⟨plain, dotted "éself.repo".toList (by decide +kernel), by decide +kernel⟩

end Document

end CallDiagram
