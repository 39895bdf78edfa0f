import CallDiagram.Proofs.Diagram.ShownPaths

/-! # Runs of a register

Whatever is registered and finalized in between, a register is fixed by the keys that were entered
and the order of their first entries. A register that is finalized at the end is the one that comes
from entering each of these keys once and finalizing once.
-/

namespace CallDiagram.Registry

open Text

/-- The keys that operations register, with repetitions. -/
def entered (operations : List Operation) : List ParticipantKey :=
  operations.filterMap fun
    | .register key => some key
    | .finalize => none

@[simp] theorem entered_append (before later : List Operation) :
    entered (before ++ later) = entered before ++ entered later :=
  List.filterMap_append

@[simp] theorem entered_register (key : ParticipantKey) : entered [.register key] = [key] := rfl

@[simp] theorem entered_finalize : entered [.finalize] = [] := rfl

@[simp] theorem entered_map_register (keys : List ParticipantKey) :
    entered (keys.map .register) = keys := by
  simp [entered, List.filterMap_map]

theorem after_append (before later : List Operation) :
    after (before ++ later) = later.foldl perform (after before) :=
  List.foldl_append

theorem after_concat (before : List Operation) (operation : Operation) :
    after (before ++ [operation]) = (after before).perform operation :=
  after_append before [operation]

/-! ## Participants -/

/-- The participants are the keys in the order of their first registration, numbered from 1 on. -/
theorem participants_after (operations : List Operation) :
    (after operations).participants = numbered (entered operations).eraseDups := by
  induction operations using List.reverseRecOn with
  | nil => rfl
  | append_singleton before operation ih =>
      rw [after_concat, entered_append]
      cases operation with
      | register key =>
          rw [perform, participants_register ih, entered_register, eraseDups_concat]
          simp only [List.mem_eraseDups]
      | finalize => rw [perform, participants_finalize, ih, entered_finalize, List.append_nil]

theorem get?_after_eq_none_iff {operations : List Operation} {key : ParticipantKey} :
    (after operations).get? key = none ↔ key ∉ entered operations := by
  rw [get?_eq_none_iff, participants_after, map_key_numbered, List.mem_eraseDups]

/-- No operation changes the number of a known key. -/
theorem numberOf?_perform {r : Registry} {key : ParticipantKey} {n : Nat}
    (known : r.numberOf? key = some n) (operation : Operation) :
    (r.perform operation).numberOf? key = some n := by
  cases operation with
  | register other => exact numberOf?_register known other
  | finalize => rw [perform, numberOf?_finalize, known]

theorem numberOf?_foldl {r : Registry} {key : ParticipantKey} {n : Nat}
    (known : r.numberOf? key = some n) (operations : List Operation) :
    (operations.foldl perform r).numberOf? key = some n := by
  induction operations generalizing r with
  | nil => exact known
  | cons operation later ih => exact ih (numberOf?_perform known operation)

/-- A key that was registered once is answered with the same participant ever after. -/
theorem register_again (before : List Operation) (key : ParticipantKey) (later : List Operation) :
    let r := after (before ++ .register key :: later)
    ∃ l ∈ r.lifelines, l.toParticipant = ((after before).register key).1.toParticipant ∧
      r.register key = (l, r) := by
  intro r
  have known : r.numberOf? key = some ((after before).register key).1.number := by
    rw [show r = later.foldl perform ((after before).register key).2 from after_append _ _]
    exact numberOf?_foldl (numberOf?_register_self _ key) later
  obtain ⟨l, found, number⟩ := Option.map_eq_some_iff.mp known
  refine ⟨l, List.mem_of_find?_eq_some found, ?_, ?_⟩
  · rw [register_toParticipant, ← number, ← key_of_get? found]
  · simp only [register, found]

/-! ## Final registers -/

/-- Since the last time a register was finalized, no key was registered that was new to it. -/
def IsFinalAfter (operations : List Operation) : Prop :=
  ∃ before later, operations = before ++ .finalize :: later ∧
    ∀ key ∈ entered later, key ∈ entered before

theorem isFinalAfter_finalize (operations : List Operation) :
    IsFinalAfter (operations ++ [.finalize]) :=
  ⟨operations, [], rfl, fun _ none => absurd none List.not_mem_nil⟩

/-- Registering leaves a register final if the key is known. -/
theorem isFinalAfter_register {operations : List Operation} {key : ParticipantKey} :
    IsFinalAfter (operations ++ [.register key]) ↔
      IsFinalAfter operations ∧ key ∈ entered operations := by
  constructor
  · rintro ⟨before, later, split, known⟩
    rcases later.eq_nil_or_concat with rfl | ⟨later, last, rfl⟩
    · have last := (List.append_inj' split rfl).2
      cases last
    · rw [List.concat_eq_append, ← List.cons_append, ← List.append_assoc] at split
      obtain ⟨rfl, last⟩ := List.append_inj' split rfl
      cases last
      rw [List.concat_eq_append, entered_append, entered_register] at known
      refine ⟨⟨before, later, rfl, fun other among => known other (List.mem_append_left _ among)⟩, ?_⟩
      rw [entered_append]
      exact List.mem_append_left _ (known key (by simp))
  · rintro ⟨⟨before, later, rfl, known⟩, member⟩
    refine ⟨before, later ++ [.register key], by simp, fun other among => ?_⟩
    rw [entered_append, entered_register, List.mem_append, List.mem_singleton] at among
    rcases among with among | rfl
    · exact known other among
    · have listed : other ∈ entered before ∨ other ∈ entered later := by
        rw [entered_append, List.mem_append] at member
        exact member
      exact listed.elim id (known other)

theorem isFinal_register {r : Registry} {key : ParticipantKey} :
    (r.register key).2.isFinal = true ↔ r.isFinal = true ∧ r.get? key ≠ none := by
  unfold register
  split
  · next known => simp [known]
  · next unknown => simp [unknown]

theorem isFinal_after_iff (operations : List Operation) :
    (after operations).isFinal = true ↔ IsFinalAfter operations := by
  induction operations using List.reverseRecOn with
  | nil =>
      constructor
      · exact fun final => by cases final
      · rintro ⟨before, later, split, -⟩
        exact absurd split (by simp)
  | append_singleton before operation ih =>
      rw [after_concat]
      cases operation with
      | register key =>
          rw [perform, isFinal_register, isFinalAfter_register, ih, ne_eq, get?_after_eq_none_iff,
            not_not]
      | finalize =>
          rw [perform, isFinal_finalize]
          exact iff_of_true rfl (isFinalAfter_finalize before)

/-- The participants of a settled register fix what it shows once it is final. -/
theorem Settled.lifelines_finalize {r : Registry} (settled : r.Settled) :
    r.finalize.lifelines = r.participants.map fun p =>
      ⟨p, String.ofList (withoutPrefix r.sharedFolders p.key.path.toList)⟩ := by
  rw [← participants_finalize, participants, List.map_map]
  refine (List.map_id _).symm.trans (List.map_congr_left fun l member => ?_)
  have shown := settled_finalize settled (isFinal_finalize r) l member
  rw [sharedFolders_finalize] at shown
  rw [id, Function.comp, ← shown]

theorem finalize_eq_of_participants {r other : Registry} (settled : r.Settled)
    (settled' : other.Settled) (same : r.participants = other.participants) :
    r.finalize = other.finalize := by
  have folders : r.sharedFolders = other.sharedFolders := by
    rw [sharedFolders_eq, sharedFolders_eq, same]
  have lifelines : r.finalize.lifelines = other.finalize.lifelines := by
    rw [settled.lifelines_finalize, settled'.lifelines_finalize, same, folders]
  have final : r.finalize.isFinal = other.finalize.isFinal := by
    rw [isFinal_finalize, isFinal_finalize]
  calc
    r.finalize = ⟨r.finalize.lifelines, r.finalize.isFinal⟩ := rfl
    _ = ⟨other.finalize.lifelines, other.finalize.isFinal⟩ := by rw [lifelines, final]

theorem eraseDups_of_nodup {α : Type} [DecidableEq α] {xs : List α} (distinct : xs.Nodup) :
    xs.eraseDups = xs := by
  induction xs using List.reverseRecOn with
  | nil => rfl
  | append_singleton xs x ih =>
      obtain ⟨front, -, apart⟩ := List.nodup_append.mp distinct
      have absent : x ∉ xs := fun member => apart x member x (List.mem_singleton_self x) rfl
      rw [eraseDups_concat, if_neg absent, ih front]

/-- Whatever was registered and finalized, the participants are the distinct keys in the order of
their first registration. A known key is answered with its participant and changes nothing. A
register is final exactly until a new key follows, and one that was finalized last does not depend
on repetitions or on being finalized before. -/
theorem canonical_form (operations : List Operation) :
    let r := after operations
    let keys := (entered operations).eraseDups
    (r.participants = numbered keys ∧
      r.participants.map (·.id) = (List.range' 1 keys.length).map fun n => s!"p{n}") ∧
    (∀ before key later, operations = before ++ .register key :: later →
      ∃ l ∈ r.lifelines, l.toParticipant = ((after before).register key).1.toParticipant ∧
        r.register key = (l, r)) ∧
    (r.isFinal = true ↔ IsFinalAfter operations) ∧
    ∀ before, operations = before ++ [.finalize] →
      r = after (keys.map Operation.register ++ [.finalize]) := by
  intro r keys
  have participants : r.participants = numbered keys := participants_after operations
  refine ⟨⟨participants, ?_⟩, ?_, isFinal_after_iff operations, ?_⟩
  · rw [participants, ← map_number_numbered, List.map_map]
    rfl
  · rintro before key later rfl
    exact register_again before key later
  · rintro before rfl
    have once : (after (keys.map Operation.register)).participants = (after before).participants := by
      rw [participants_after, participants_after, entered_map_register,
        eraseDups_of_nodup (nodup_eraseDups _)]
      simp only [entered_append, entered_finalize, List.append_nil]
    calc
      r = (after before).finalize := after_concat before .finalize
      _ = (after (keys.map Operation.register)).finalize :=
        finalize_eq_of_participants (settled_after _) (settled_after _) once.symm
      _ = after (keys.map Operation.register ++ [Operation.finalize]) :=
        (after_concat (keys.map Operation.register) .finalize).symm

/-- A register that is finalized in between shows a longer path until it is finalized again. -/
theorem services_registered_again :
    let order : ParticipantKey := ⟨"app/services/order.py", "Order", "o"⟩
    let repo : ParticipantKey := ⟨"app/repo.py", "Repo", "r"⟩
    let before : List Operation :=
      [.register order, .finalize, .register repo, .register order]
    let r := after (before ++ [.finalize])
    before ++ [.finalize] =
        [] ++ .register order :: [.finalize, .register repo, .register order, .finalize] ∧
      (∃ l ∈ r.lifelines, l.toParticipant = ⟨order, 1⟩ ∧ r.register order = (l, r)) ∧
      IsFinalAfter (before ++ [.finalize]) ∧ ¬ IsFinalAfter before ∧
      r = after [.register order, .register repo, .finalize] ∧
      r.lifelines.map (·.shownPath) = ["services/order.py", "repo.py"] := by
  intro order repo before r
  obtain ⟨-, known, final, once⟩ := canonical_form (before ++ [.finalize])
  obtain ⟨-, -, unfinished, -⟩ := canonical_form before
  refine ⟨rfl, known [] order _ rfl, final.mp (by decide +kernel), ?_, ?_, ?_⟩
  · exact fun last => absurd (unfinished.mpr last) (by decide +kernel)
  · have keys : (entered (before ++ [.finalize])).eraseDups = [order, repo] := by decide +kernel
    have same := once before rfl
    rw [keys] at same
    exact same
  · decide +kernel

end CallDiagram.Registry
