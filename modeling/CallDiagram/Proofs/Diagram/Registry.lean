import CallDiagram.Diagram.Participant
import Mathlib.Data.List.Basic
import Mathlib.Data.List.Induction

/-! # Registers of participants

Entering a key makes it known under a number and changes nothing about the keys that were known
before. So a register is fixed by the keys that were entered and the order of their first entries,
and its numbers count these. Finalizing changes neither keys nor numbers.
-/

namespace CallDiagram.Registry

def numberOf? (r : Registry) (key : ParticipantKey) : Option Nat :=
  (r.get? key).map (·.number)

theorem key_of_get? {r : Registry} {key : ParticipantKey} {l : Lifeline}
    (known : r.get? key = some l) : l.key = key := by
  simpa using List.find?_some known

theorem register_toParticipant (r : Registry) (key : ParticipantKey) :
    (r.register key).1.toParticipant = ⟨key, (r.register key).1.number⟩ := by
  have same : (r.register key).1.key = key := by
    unfold register
    split
    · next known => exact key_of_get? known
    · rfl
  exact congrArg (Participant.mk · (r.register key).1.number) same

theorem numberOf?_register_self (r : Registry) (key : ParticipantKey) :
    (r.register key).2.numberOf? key = some (r.register key).1.number := by
  unfold register
  split
  · next known => simp [numberOf?, known]
  · next unknown =>
    have absent : r.lifelines.find? (·.key = key) = none := unknown
    simp [numberOf?, get?, absent]

/-- A known key keeps its number. -/
theorem numberOf?_register {r : Registry} {key : ParticipantKey} {n : Nat}
    (known : r.numberOf? key = some n) (other : ParticipantKey) :
    (r.register other).2.numberOf? key = some n := by
  obtain ⟨l, found, rfl⟩ := Option.map_eq_some_iff.mp known
  have found : r.lifelines.find? (·.key = key) = some l := found
  unfold register
  split
  · exact known
  · simp [numberOf?, get?, List.find?_append, found]

/-- A key that is known changes nothing when it is entered again. -/
theorem register_of_known {r : Registry} {key : ParticipantKey} {n : Nat}
    (known : r.numberOf? key = some n) : (r.register key).2 = r := by
  obtain ⟨l, found, -⟩ := Option.map_eq_some_iff.mp known
  simp only [register, found]

/-- A register into which keys were entered one after the other. -/
def enter (r : Registry) (keys : List ParticipantKey) : Registry :=
  keys.foldl (fun r key => (r.register key).2) r

@[simp] theorem enter_cons (r : Registry) (key : ParticipantKey) (keys : List ParticipantKey) :
    r.enter (key :: keys) = (r.register key).2.enter keys := rfl

@[simp] theorem enter_append (r : Registry) (keys others : List ParticipantKey) :
    r.enter (keys ++ others) = (r.enter keys).enter others :=
  List.foldl_append

/-! ## Numbers -/

def participants (r : Registry) : List Participant :=
  r.lifelines.map (·.toParticipant)

/-- Keys as participants that are numbered from 1 on. -/
def numbered (keys : List ParticipantKey) : List Participant :=
  (keys.zipIdx 1).map fun (key, number) => ⟨key, number⟩

@[simp] theorem map_key_numbered (keys : List ParticipantKey) :
    (numbered keys).map (·.key) = keys := by
  simp [numbered, Function.comp_def]

theorem map_number_numbered (keys : List ParticipantKey) :
    (numbered keys).map (·.number) = List.range' 1 keys.length := by
  simp [numbered, Function.comp_def, List.zipIdx_map_snd]

theorem numbered_append (keys : List ParticipantKey) (key : ParticipantKey) :
    numbered (keys ++ [key]) = numbered keys ++ [⟨key, keys.length + 1⟩] := by
  simp [numbered, List.zipIdx_append, Nat.add_comm]

theorem get?_eq_none_iff {r : Registry} {key : ParticipantKey} :
    r.get? key = none ↔ key ∉ r.participants.map (·.key) := by
  simp [get?, participants]

theorem participants_register {r : Registry} {keys : List ParticipantKey}
    (before : r.participants = numbered keys) (key : ParticipantKey) :
    (r.register key).2.participants =
      numbered (if key ∈ keys then keys else keys ++ [key]) := by
  have size : r.size = keys.length := by
    have lengths := congrArg List.length before
    simpa [participants, numbered, size] using lengths
  cases known : r.get? key with
  | some l =>
      have member : key ∈ keys := by
        by_contra absent
        rw [← map_key_numbered keys, ← before, ← get?_eq_none_iff, known] at absent
        cases absent
      simp only [register, known, if_pos member, before]
  | none =>
      have absent : key ∉ keys := by
        rwa [get?_eq_none_iff, before, map_key_numbered] at known
      simp only [register, known, if_neg absent, numbered_append, ← before, ← size]
      exact List.map_append

theorem eraseDups_concat {α : Type} [DecidableEq α] (xs : List α) (x : α) :
    (xs ++ [x]).eraseDups = if x ∈ xs then xs.eraseDups else xs.eraseDups ++ [x] := by
  rw [List.eraseDups_append]
  by_cases member : x ∈ xs <;> simp [List.removeAll, List.eraseDups_cons, member]

theorem nodup_eraseDups {α : Type} [DecidableEq α] (xs : List α) : xs.eraseDups.Nodup := by
  induction xs using List.reverseRecOn with
  | nil => exact .nil
  | append_singleton xs x ih =>
      rw [eraseDups_concat]
      split
      · exact ih
      · next absent =>
        refine List.nodup_append.mpr ⟨ih, List.pairwise_singleton _ x, fun y member z same => ?_⟩
        rw [List.mem_singleton.mp same]
        rintro rfl
        exact absent (List.mem_eraseDups.mp member)

/-- Keys are numbered in the order in which they are first entered. -/
theorem participants_enter (keys : List ParticipantKey) :
    (enter {} keys).participants = numbered keys.eraseDups := by
  induction keys using List.reverseRecOn with
  | nil => rfl
  | append_singleton keys key ih =>
      have entered : enter {} (keys ++ [key]) = ((enter {} keys).register key).2 := by
        rw [enter_append]
        rfl
      rw [entered, participants_register ih, eraseDups_concat]
      simp only [List.mem_eraseDups]

theorem mem_participants_of_numberOf? {r : Registry} {key : ParticipantKey} {n : Nat}
    (known : r.numberOf? key = some n) : ⟨key, n⟩ ∈ r.participants := by
  obtain ⟨l, found, rfl⟩ := Option.map_eq_some_iff.mp known
  rw [← key_of_get? found]
  exact List.mem_map_of_mem (List.mem_of_find?_eq_some found)

theorem numberOf?_of_mem {r : Registry} {key : ParticipantKey}
    (member : key ∈ r.participants.map (·.key)) : ∃ n, r.numberOf? key = some n := by
  cases known : r.get? key with
  | some l => exact ⟨l.number, by rw [numberOf?, known, Option.map_some]⟩
  | none => exact absurd member (get?_eq_none_iff.mp known)

@[simp] theorem participants_finalize (r : Registry) :
    r.finalize.participants = r.participants := by
  unfold finalize
  split
  · rfl
  · simp only [participants, List.map_map]
    rfl

@[simp] theorem isFinal_finalize (r : Registry) : r.finalize.isFinal = true := by
  unfold finalize
  split
  · next final => exact final
  · rfl

@[simp] theorem numberOf?_finalize (r : Registry) (key : ParticipantKey) :
    r.finalize.numberOf? key = r.numberOf? key := by
  unfold finalize
  split
  · rfl
  · simp only [numberOf?, get?, List.find?_map, Option.map_map]
    rfl

end CallDiagram.Registry
