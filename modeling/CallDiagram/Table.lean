/-! # Tables

A table maps keys to values and keeps the order in which its keys were first entered. Main
statements: what `get?` finds after `set` and `setDefault`, and that neither moves a key.
-/

namespace CallDiagram

/-- Keys with their values, in the order in which the keys were entered. -/
abbrev Table (κ α : Type) := List (κ × α)

namespace Table

variable {κ α : Type} [DecidableEq κ]

def get? (t : Table κ α) (k : κ) : Option α :=
  (t.find? fun e => e.1 = k).map (·.2)

def holds (t : Table κ α) (k : κ) : Bool :=
  t.any fun e => e.1 = k

/-- Gives a key a value: a known key keeps its place, a new one goes to the end. -/
def set : Table κ α → κ → α → Table κ α
  | [], k, a => [(k, a)]
  | (k', a') :: t, k, a => if k' = k then (k, a) :: t else (k', a') :: Table.set t k a

def setDefault (t : Table κ α) (k : κ) (a : α) : Table κ α :=
  if t.holds k then t else Table.set t k a

def keys (t : Table κ α) : List κ :=
  t.map (·.1)

def values (t : Table κ α) : List α :=
  t.map (·.2)

/-- A table of entries; of several entries with one key the last value counts. -/
def ofEntries (entries : List (κ × α)) : Table κ α :=
  entries.foldl (fun t e => Table.set t e.1 e.2) []

@[simp] theorem get?_nil (k : κ) : Table.get? ([] : Table κ α) k = none := rfl

theorem get?_set (t : Table κ α) (k k' : κ) (a : α) :
    (t.set k a).get? k' = if k = k' then some a else t.get? k' := by
  induction t with
  | nil => simp [Table.set, Table.get?]
  | cons e t ih =>
    simp only [Table.get?] at ih
    grind [Table.set, Table.get?]

theorem keys_set (t : Table κ α) (k : κ) (a : α) :
    (t.set k a).keys = if k ∈ t.keys then t.keys else t.keys ++ [k] := by
  induction t with
  | nil => simp [Table.set, Table.keys]
  | cons e t ih =>
    simp only [Table.keys] at ih
    grind [Table.set, Table.keys]

theorem holds_iff {t : Table κ α} {k : κ} : t.holds k = true ↔ k ∈ t.keys := by
  simp [Table.holds, Table.keys]

theorem isSome_get? (t : Table κ α) (k : κ) : (t.get? k).isSome = t.holds k := by
  rw [Bool.eq_iff_iff]
  simp [Table.get?, Table.holds]

theorem get?_setDefault (t : Table κ α) (k k' : κ) (a : α) :
    (t.setDefault k a).get? k' =
      if k = k' ∧ t.holds k = false then some a else t.get? k' := by
  unfold Table.setDefault
  split <;> simp_all [get?_set]

end Table

end CallDiagram
