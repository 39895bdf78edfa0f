import CallDiagram.Proofs.Diagram.Keys
import CallDiagram.Proofs.Traversal.Nesting

/-! # The paths of the calls

The calls of a finished diagram are numbered with the paths to them through the tree of calls, and
their order is that of the paths: a call stands before the calls below it, and those before the
next call beside it. No index is greater than the number of calls. So the numbers have keys unless
there are more calls than can be counted in the digits that may be read, and sorting them by key
gives the order in which the calls are made.
-/

namespace CallDiagram

open Text

/-- Paths in the order of a walk through the calls below a number, from an index on. -/
structure Walked (index : Nat) (paths : List (List Int)) : Prop where
  increasing : paths.Pairwise (· < ·)
  starts : ∀ path ∈ paths, ∃ (first : Int) (rest : List Int), path = first :: rest ∧ index ≤ first
  bounds : ∀ path ∈ paths, ∀ i ∈ path, 0 < i ∧ i < index + paths.length

namespace Walked

theorem nil (index : Nat) : Walked index [] :=
  ⟨.nil, by simp, by simp⟩

/-- A call, the calls below it and those behind it. -/
theorem cons {index : Nat} {inner later : List (List Int)} (positive : 0 < index)
    (below : Walked 1 inner) (behind : Walked (index + 1) later) :
    Walked index ([(index : Int)] :: inner.map ((index : Int) :: ·) ++ later) where
  increasing := by
    have before : ∀ path ∈ inner, [(index : Int)] < (index : Int) :: path := by
      intro path member
      obtain ⟨first, rest, rfl, -⟩ := below.starts path member
      exact List.cons_lt_cons_self.mpr (List.nil_lt_cons first rest)
    have next : ∀ path ∈ later, ∀ rest, (index : Int) :: rest < path := by
      intro path member rest
      obtain ⟨first, others, rfl, least⟩ := behind.starts path member
      exact List.cons_lt_cons_iff.mpr (.inl (by omega))
    have ordered : (inner.map ((index : Int) :: ·)).Pairwise (· < ·) := by
      rw [List.pairwise_map]
      exact below.increasing.imp List.cons_lt_cons_self.mpr
    refine List.pairwise_append.mpr ⟨List.pairwise_cons.mpr ⟨?_, ordered⟩, behind.increasing, ?_⟩
    · exact List.forall_mem_map.mpr before
    · refine List.forall_mem_cons.mpr ⟨fun path member => next path member [], ?_⟩
      exact List.forall_mem_map.mpr fun path _ path' member => next path' member path
  starts := by
    intro path member
    rcases List.mem_append.mp member with here | after
    · rcases List.mem_cons.mp here with rfl | nested
      · exact ⟨index, [], rfl, le_rfl⟩
      · obtain ⟨rest, -, rfl⟩ := List.mem_map.mp nested
        exact ⟨index, rest, rfl, le_rfl⟩
    · obtain ⟨first, rest, rfl, least⟩ := behind.starts path after
      exact ⟨first, rest, rfl, by omega⟩
  bounds := by
    intro path member i inside
    have length : ([(index : Int)] :: inner.map ((index : Int) :: ·) ++ later).length =
        inner.length + later.length + 1 := by
      simp
    rw [length]
    rcases List.mem_append.mp member with here | after
    · have atOrBelow : i = index ∨ ∃ rest ∈ inner, i ∈ rest := by
        rcases List.mem_cons.mp here with rfl | nested
        · exact .inl (List.mem_singleton.mp inside)
        · obtain ⟨rest, listed, rfl⟩ := List.mem_map.mp nested
          exact (List.mem_cons.mp inside).imp_right fun deeper => ⟨rest, listed, deeper⟩
      rcases atOrBelow with rfl | ⟨rest, listed, deeper⟩
      · omega
      · have bound := below.bounds rest listed i deeper
        omega
    · have bound := behind.bounds path after i inside
      omega

end Walked

theorem Block.exists_paths {depth : Nat} {sender : Participant} {number : String} {index : Nat}
    {messages : List Message} (block : Block depth sender number index messages)
    (positive : 0 < index) :
    ∃ paths, Walked index paths ∧
      (messages.filter (·.kind = .call)).map (·.number) =
        paths.map (·.foldl numberBelow number) := by
  induction block with
  | done => exact ⟨[], .nil _, rfl⟩
  | nested _ _ ihBody ihRest =>
      obtain ⟨inner, below, numbersBelow⟩ := ihBody Nat.one_pos
      obtain ⟨later, behind, numbersBehind⟩ := ihRest (Nat.succ_pos _)
      refine ⟨_, .cons positive below behind, ?_⟩
      simp [numbersBelow, numbersBehind]
  | noted _ _ ihRest =>
      obtain ⟨later, behind, numbersBehind⟩ := ihRest (Nat.succ_pos _)
      refine ⟨_, .cons positive (.nil 1) behind, ?_⟩
      simp [numbersBehind]

theorem Walked.short {paths : List (List Int)} (walked : Walked 1 paths)
    (few : digitCount paths.length ≤ digitLimit) :
    ∀ path ∈ paths, ∀ index ∈ path, digitCount index ≤ digitLimit := by
  intro path member index inside
  have bound := walked.bounds path member index inside
  have smaller : digitCount index ≤ digitCount paths.length :=
    digitCount_le_of_natAbs_le (by omega)
  exact smaller.trans few

theorem Provider.exists_paths {p : Provider} {s : Settings} {entry : Item}
    {cancelAt : Option Nat} {d : Diagram} (built : (p.diagram s entry cancelAt).1 = .ok d) :
    ∃ paths, Walked 1 paths ∧ d.calls.map (·.number) = paths.map numberText := by
  obtain ⟨τ, finished⟩ := finished_diagram built
  exact finished.block.exists_paths Nat.one_pos

/-- An index that can be written below a number is read back behind that number's key, so a number
gives back the path that leads to it, and two paths never lead to one number. The paths to the calls
of a diagram grow from call to call, so sorting their numbers puts the calls in order. -/
theorem numbers_encode_paths :
    (∀ number key index, numberKey number = .ok key → digitCount index ≤ digitLimit →
      ∃ below, formatNumber number index = .ok below ∧ numberKey below = .ok (key ++ [index])) ∧
    (∀ path : List Int, (∀ index ∈ path, digitCount index ≤ digitLimit) →
      ∃ number, numberOf path = .ok number ∧ numberKey number = .ok path) ∧
    (∀ path path' number, numberOf path = .ok number → numberOf path' = .ok number →
      path = path') ∧
    ∀ (p : Provider) (s : Settings) (entry : Item) (cancelAt : Option Nat) (d : Diagram),
      (p.diagram s entry cancelAt).1 = .ok d →
      let numbers := d.calls.map (·.number)
      digitCount numbers.length ≤ digitLimit →
        ∃ paths : List (List Int), paths.mapM numberOf = .ok numbers ∧ paths.Pairwise (· < ·) ∧
          numbers.mapM numberKey = .ok paths ∧
          ∀ shuffled, shuffled.Perm numbers → sortNumbers shuffled = .ok numbers := by
  refine ⟨fun number key index known short => ?_, fun path short => ?_,
    fun path path' number => numberOf_inj, fun p s entry cancelAt d built => ?_⟩
  · exact ⟨_, formatNumber_of_short number short, numberKey_below_of_short known short⟩
  · exact ⟨_, numberOf_of_short short, numberKey_numberText short⟩
  · intro numbers few
    obtain ⟨paths, walked, encoded⟩ := Provider.exists_paths built
    replace encoded : numbers = paths.map numberText := encoded
    rw [encoded, List.length_map] at few
    have short := walked.short few
    have read : ∀ path ∈ paths, numberKey (numberText path) = .ok path := fun path member =>
      numberKey_numberText (short path member)
    rw [encoded]
    exact ⟨paths, mapM_numberOf short, walked.increasing, mapM_numberKey read,
      fun shuffled => sortNumbers_of_perm read walked.increasing⟩

theorem Provider.countdown_paths :
    let s : Settings := { maxCallDepth := ⟨3, by decide⟩ }
    digitCount 10 ≤ digitLimit ∧ numberKey " 1 ..9" = .ok [1, 9] ∧
      (∃ below, formatNumber " 1 ..9" 10 = .ok below ∧ numberKey below = .ok [1, 9, 10]) ∧
      (∃ number, numberOf [1, 9, 10] = .ok number ∧ numberKey number = .ok [1, 9, 10]) ∧
      numberOf [1, 10] ≠ numberOf [110] ∧
      ∃ d, (countdown.diagram s .countdown).1 = .ok d ∧
        d.calls.map (·.number) = ["1", "1.1", "1.1.1"] ∧
        (∃ paths, paths.Pairwise (· < ·) ∧ ["1", "1.1", "1.1.1"].mapM numberKey = .ok paths) ∧
        sortNumbers ["1.1.1", "1", "1.1"] = .ok ["1", "1.1", "1.1.1"] := by
  intro s
  obtain ⟨below, along, apart, walks⟩ := numbers_encode_paths
  have short : digitCount 10 ≤ digitLimit := by decide +kernel
  have blank : numberKey " 1 ..9" = .ok [1, 9] := by decide +kernel
  have path : ∀ index ∈ [1, 9, 10], digitCount index ≤ digitLimit := by decide +kernel
  have one : numberOf [110] = .ok "110" := by decide +kernel
  have different : numberOf [1, 10] ≠ numberOf [110] := by
    intro same
    exact absurd (apart [1, 10] [110] "110" (same.trans one) one) (by decide)
  obtain ⟨d, built⟩ := countdown.diagram_built s .countdown
  have numbers : (countdown.diagram s .countdown).1.toOption.map (·.calls.map (·.number)) =
      some ["1", "1.1", "1.1.1"] := by decide +kernel
  rw [built] at numbers
  have listed : d.calls.map (·.number) = ["1", "1.1", "1.1.1"] := Option.some.inj numbers
  have keyed := walks countdown s .countdown none d built
  rw [listed] at keyed
  obtain ⟨paths, -, increasing, keys, sorted⟩ := keyed (by decide +kernel)
  exact ⟨short, blank, below _ _ _ blank short, along _ path, different, d, built, listed,
    ⟨paths, increasing, keys⟩, sorted _ (by decide)⟩

/-- An integer of one digit more than may be written is refused below a number that has a key, and
its text, wherever it came from, would have no key and could not be sorted. -/
theorem long_index_without_number :
    numberKey "1" = .ok [1] ∧
      formatNumber "1" (10 ^ digitLimit) = .error ⟨10 ^ digitLimit⟩ ∧
      (¬ ∃ below, formatNumber "1" (10 ^ digitLimit) = .ok below ∧
        numberKey below = .ok ([1] ++ [10 ^ digitLimit])) ∧
      sortNumbers ["2", numberBelow "1" (10 ^ digitLimit)] ≠
        .ok [numberBelow "1" (10 ^ digitLimit), "2"] := by
  have top : numberKey "1" = .ok [1] := by decide +kernel
  have two : numberKey "2" = .ok [2] := by decide +kernel
  have long : digitLimit < digitCount (10 ^ digitLimit) := lt_digitCount_pow (by decide)
  have refused := formatNumber_of_long "1" long
  refine ⟨top, refused, ?_, ?_⟩
  · rintro ⟨below, written, -⟩
    rw [refused] at written
    cases written
  · simp only [sortNumbers, List.mapM_cons, two, numberKey_below_of_long top long]
    rintro ⟨⟩

end CallDiagram
