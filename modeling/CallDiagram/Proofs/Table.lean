import CallDiagram.Table
import Mathlib.Data.List.Nodup
import Mathlib.Data.List.Perm.Basic

/-! # Entries of tables

Every value comes from an entry that was set, and entering a key twice leaves one entry. So two
tables that find the same have the same entries, in one order or another.
-/

namespace CallDiagram.Table

variable {κ α : Type} [DecidableEq κ] {t u : Table κ α} {k k' : κ} {a a' : α}

theorem mem_of_get? (h : t.get? k = some a) : (k, a) ∈ t := by
  obtain ⟨⟨k', a'⟩, found, rfl⟩ := Option.map_eq_some_iff.mp h
  obtain rfl : k' = k := by simpa using List.find?_some found
  exact List.mem_of_find?_eq_some found

theorem mem_values_of_get? (h : t.get? k = some a) : a ∈ t.values :=
  List.mem_map_of_mem (mem_of_get? h)

theorem mem_set {e : κ × α} (h : e ∈ t.set k a) : e = (k, a) ∨ e ∈ t := by
  induction t with
  | nil => exact .inl (List.mem_singleton.mp h)
  | cons head t ih =>
      rw [Table.set] at h
      split at h
      · rcases List.mem_cons.mp h with rfl | tail
        · exact .inl rfl
        · exact .inr (List.mem_cons_of_mem _ tail)
      · rcases List.mem_cons.mp h with rfl | tail
        · exact .inr List.mem_cons_self
        · exact (ih tail).imp_right (List.mem_cons_of_mem _)

theorem mem_values_set (h : a' ∈ (t.set k a).values) : a' = a ∨ a' ∈ t.values := by
  obtain ⟨e, member, rfl⟩ := List.mem_map.mp h
  rcases mem_set member with rfl | old
  · exact .inl rfl
  · exact .inr (List.mem_map_of_mem old)

theorem mem_setDefault {e : κ × α} (h : e ∈ t.setDefault k a) : e = (k, a) ∨ e ∈ t := by
  unfold Table.setDefault at h
  split at h
  · exact .inr h
  · exact mem_set h

theorem nodup_keys_set (k : κ) (a : α) (distinct : t.keys.Nodup) : (t.set k a).keys.Nodup := by
  rw [keys_set]
  split
  · exact distinct
  · next new => exact List.nodup_append.mpr ⟨distinct, List.nodup_singleton k, by grind⟩

theorem get?_of_mem (distinct : t.keys.Nodup) (h : (k, a) ∈ t) : t.get? k = some a := by
  induction t with
  | nil => cases h
  | cons e t ih =>
      obtain ⟨new, distinct⟩ := List.nodup_cons.mp distinct
      rcases List.mem_cons.mp h with rfl | tail
      · simp [get?]
      · have different : e.1 ≠ k := by
          rintro rfl
          exact new (List.mem_map.mpr ⟨_, tail, rfl⟩)
        simpa [get?, different] using ih distinct tail

/-- What is found tells the entries, but not their order. -/
theorem perm_of_get? (distinct : t.keys.Nodup) (distinct' : u.keys.Nodup)
    (same : ∀ k, t.get? k = u.get? k) : t.Perm u := by
  refine (List.perm_ext_iff_of_nodup distinct.of_map distinct'.of_map).mpr fun ⟨k, a⟩ => ?_
  constructor
  · intro member
    exact mem_of_get? ((same k).symm.trans (get?_of_mem distinct member))
  · intro member
    exact mem_of_get? ((same k).trans (get?_of_mem distinct' member))

end CallDiagram.Table
