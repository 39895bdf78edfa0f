import CallDiagram.Proofs.CallSite.Detection

/-! # Nested calls

A name and the arguments behind it make up a call. For names that stand apart, one call lies in the
arguments of another or they follow each other: what is nested ends with the outer call or before
it, and what follows a call without being nested in it ends behind it.
-/

namespace CallDiagram

open Text

/-- Two ranges that share no character. -/
def Range.Apart (r other : Range) : Prop :=
  r.stop.le other.start = true ∨ other.stop.le r.start = true

theorem Range.Apart.symm {r other : Range} (apart : r.Apart other) : other.Apart r :=
  Or.symm apart

namespace Document

/-- A range that can be a name: it is not empty and covers neither white space nor parentheses. -/
structure IsName (d : Document) (name : Range) : Prop where
  start : d.HasPosition name.start
  stop : d.HasPosition name.stop
  nonempty : name.start.lt name.stop = true
  clean : ∀ cs, d.textOf name = .ok cs → ∀ c ∈ cs, isBlank c = false ∧ c ≠ '(' ∧ c ≠ ')'

/-- Call sites whose names can be names and stand apart from each other. -/
structure Separate (d : Document) (sites : List (Item × Range)) : Prop where
  names : ∀ site ∈ sites, d.IsName site.2
  apart : sites.Pairwise fun a b => a.2.Apart b.2

/-- The range of the arguments of a call, as the text tells it. -/
def argumentRange? (d : Document) (name : Range) : Option Range :=
  (d.readCall [] name).1.argumentRange

def nests (d : Document) (outer inner : Range) : Bool :=
  (d.argumentRange? outer).any (·.contains inner)

/-- A name whose arguments open at an offset, behind nothing but white space. -/
structure OpensAt (d : Document) (name : Range) (stop opened : Nat) : Prop where
  behind : stop ≤ opened
  opens : d.text[opened]? = some '('
  blank : ∀ place, stop ≤ place → place < opened → ∃ c, d.text[place]? = some c ∧ isBlank c = true
  range_eq : d.argumentRange? name =
    some ⟨d.positionAt ↑opened, d.positionAt ↑(d.argumentStop opened)⟩

/-- A call with the offsets at which its name starts and stops and the whole call ends. -/
structure CallAt (d : Document) (name : Range) (start stop finish : Nat) : Prop where
  starts : d.At name.start start
  stops : d.At name.stop stop
  nonempty : start < stop
  clean : ∀ place, start ≤ place → place < stop →
    ∃ c, d.text[place]? = some c ∧ isBlank c = false ∧ c ≠ '(' ∧ c ≠ ')'
  finishes : (d.argumentRange? name = none ∧ finish = stop) ∨
    ∃ opened, d.OpensAt name stop opened ∧ finish = d.argumentStop opened

variable {d : Document} {name inner outer : Range}

theorem callAt_of_isName (isName : d.IsName name) :
    ∃ start stop finish, d.CallAt name start stop finish := by
  obtain ⟨start, starts⟩ := at_of_hasPosition isName.start
  obtain ⟨stop, stops⟩ := at_of_hasPosition isName.stop
  have nonempty : start < stop := (lt_iff_of_at starts stops).mp isName.nonempty
  have covered : d.textOf name = .ok (d.slice start stop) := by
    simp [textOf, offsetAt_of_at starts, offsetAt_of_at stops, bind, Except.bind, pure, Except.pure]
  have clean : ∀ place, start ≤ place → place < stop →
      ∃ c, d.text[place]? = some c ∧ isBlank c = false ∧ c ≠ '(' ∧ c ≠ ')' := by
    intro place behind before
    have bound : place < d.text.length := Nat.lt_of_lt_of_le before (le_length_of_at stops)
    refine ⟨d.text[place], List.getElem?_eq_getElem bound, ?_⟩
    refine isName.clean _ covered _ (List.mem_iff_getElem?.mpr ⟨place - start, ?_⟩)
    rw [slice, List.getElem?_drop, List.getElem?_take, Nat.add_sub_cancel' behind, if_pos before,
      List.getElem?_eq_getElem bound]
  cases known : d.argumentRange? name with
  | none => exact ⟨start, stop, stop, starts, stops, nonempty, clean, .inl ⟨known, rfl⟩⟩
  | some range =>
      have last : d.text[stop - 1]? ≠ some '(' := by
        obtain ⟨c, found, -, other, -⟩ := clean (stop - 1) (by omega) (by omega)
        rw [found]
        exact fun same => other (Option.some.inj same)
      obtain ⟨opened, behind, opens, blank, rfl⟩ :=
        argumentRange_spec stops (by omega) last known
      exact ⟨start, stop, d.argumentStop opened, starts, stops, nonempty, clean,
        .inr ⟨opened, ⟨behind, opens, blank, known⟩, rfl⟩⟩

theorem opened_lt_length {opened : Nat} (opens : d.text[opened]? = some '(') :
    opened < d.text.length :=
  (List.getElem?_eq_some_iff.mp opens).1

/-- Arguments end behind their opening parenthesis and not behind the text. -/
theorem argumentStop_bounds {opened : Nat} (opens : d.text[opened]? = some '(') :
    opened < d.argumentStop opened ∧ d.argumentStop opened ≤ d.text.length := by
  unfold argumentStop
  cases closes : d.closingOffset? opened with
  | none => exact ⟨opened_lt_length opens, Nat.le_refl _⟩
  | some closed =>
      obtain ⟨behind, found⟩ := closingOffset?_spec closes
      have bound := (List.getElem?_eq_some_iff.mp found).1
      exact ⟨by dsimp only; omega, bound⟩

variable {start stop finish start' stop' finish' : Nat}

theorem CallAt.finish_bounds (call : d.CallAt name start stop finish) :
    stop ≤ finish ∧ finish ≤ d.text.length := by
  rcases call.finishes with ⟨-, rfl⟩ | ⟨opened, openAt, rfl⟩
  · exact ⟨Nat.le_refl _, le_length_of_at call.stops⟩
  · obtain ⟨behind, bound⟩ := argumentStop_bounds openAt.opens
    exact ⟨Nat.le_trans openAt.behind (Nat.le_of_lt behind), bound⟩

theorem nests_iff {opened : Nat} (openAt : d.OpensAt outer stop opened)
    (within : d.CallAt inner start' stop' finish') :
    d.nests outer inner = true ↔ opened ≤ start' ∧ stop' ≤ d.argumentStop opened := by
  obtain ⟨-, bound⟩ := argumentStop_bounds openAt.opens
  have first := at_positionAt (Nat.le_of_lt (opened_lt_length openAt.opens))
  have last := at_positionAt bound
  rw [nests, openAt.range_eq, Option.any_some, Range.contains, Bool.and_eq_true,
    le_iff_of_at first within.starts, le_iff_of_at within.stops last]

theorem CallAt.apart {first second : Range} (firstCall : d.CallAt first start stop finish)
    (secondCall : d.CallAt second start' stop' finish') (apart : first.Apart second) :
    stop ≤ start' ∨ stop' ≤ start := by
  rcases apart with before | behind
  · exact .inl ((le_iff_of_at firstCall.stops secondCall.starts).mp before)
  · exact .inr ((le_iff_of_at secondCall.stops firstCall.starts).mp behind)

/-- What is nested in a call ends with it or before it, and starts behind it. -/
theorem finish_le_of_nests (outerCall : d.CallAt outer start stop finish)
    (innerCall : d.CallAt inner start' stop' finish') (nested : d.nests outer inner = true) :
    finish' ≤ finish ∧ start < start' := by
  rcases outerCall.finishes with ⟨none, -⟩ | ⟨opened, openAt, rfl⟩
  · rw [nests, none] at nested
    cases nested
  obtain ⟨from_, upTo⟩ := (nests_iff openAt innerCall).mp nested
  have behind := openAt.behind
  have outerName := outerCall.nonempty
  have innerName := innerCall.nonempty
  refine ⟨?_, by omega⟩
  rcases innerCall.finishes with ⟨-, rfl⟩ | ⟨opened', openAt', rfl⟩
  · exact upTo
  unfold argumentStop at upTo ⊢
  cases closes : d.closingOffset? opened with
  | none =>
      exact innerCall.finish_bounds.2
  | some closed =>
      replace upTo : stop' ≤ closed + 1 := by simpa only [closes] using upTo
      obtain ⟨-, found⟩ := closingOffset?_spec closes
      -- The closing parenthesis is no part of the inner name and stands before no arguments of it.
      have notName : stop' ≠ closed + 1 := by
        rintro rfl
        obtain ⟨c, known, -, -, other⟩ := innerCall.clean closed (by omega) (by omega)
        exact other (Option.some.inj (known.symm.trans found))
      have notOpening : opened' ≠ closed := by
        rintro rfl
        exact absurd (openAt'.opens.symm.trans found) (by decide)
      have notBlank : ¬ closed < opened' := by
        intro before
        obtain ⟨c, known, blank⟩ := openAt'.blank closed (by omega) before
        rw [Option.some.inj (known.symm.trans found)] at blank
        exact absurd blank (by decide)
      have behind' := openAt'.behind
      obtain ⟨closed', before, closes'⟩ :=
        closingOffset?_inside closes openAt'.opens (by omega) (by omega)
      rw [closes']
      exact Nat.succ_le_succ (Nat.le_of_lt before)

/-- A call that starts behind another one, and not in its arguments, ends behind it. -/
theorem finish_lt_of_not_nests (firstCall : d.CallAt outer start stop finish)
    (secondCall : d.CallAt inner start' stop' finish') (apart : stop ≤ start')
    (outside : d.nests outer inner = false) : finish < finish' := by
  have name := secondCall.nonempty
  have ended := secondCall.finish_bounds.1
  rcases firstCall.finishes with ⟨-, rfl⟩ | ⟨opened, openAt, rfl⟩
  · omega
  have behind : opened ≤ start' := by
    by_contra before
    obtain ⟨c, known, blank⟩ := openAt.blank start' apart (by omega)
    obtain ⟨c', known', letter, -⟩ := secondCall.clean start' (Nat.le_refl _) name
    rw [Option.some.inj (known.symm.trans known'), letter] at blank
    cases blank
  have beyond : ¬ stop' ≤ d.argumentStop opened := by
    intro upTo
    rw [(nests_iff openAt secondCall).mpr ⟨behind, upTo⟩] at outside
    cases outside
  omega

end Document

end CallDiagram
