import DdzServer.Lib.UnorderedMap
import Mathlib.Tactic.Common

/-!
# Tables with an auto-increment key

A row is stored under the next unused positive id. The bounds on the ids are part of the
structure, so an id that was handed out once is never handed out again.
-/

/-- Rows under positive ids, and the id of the next row. -/
structure Table (ν : Type) where
  nextId : ℤ
  rows : UnorderedMap ℤ ν
  nextId_pos : 0 < nextId
  bounded : ∀ k v, rows.lookup k = some v → 0 < k ∧ k < nextId

namespace Table

variable {ν : Type}

/-- The table without rows, whose first id is 1. -/
def empty : Table ν := ⟨1, ∅, by decide, by simp⟩

/-- The row with the given id. -/
def find (t : Table ν) (k : ℤ) : Option ν := t.rows.lookup k

/-- All rows. -/
def bag (t : Table ν) : Multiset ν := UnorderedMap.values t.rows

/-- Store a row under the next id. -/
def insert (t : Table ν) (v : ν) : Table ν where
  nextId := t.nextId + 1
  rows := Finmap.insert t.nextId v t.rows
  nextId_pos := by have := t.nextId_pos; omega
  bounded k w h := by
    have := t.nextId_pos
    rw [UnorderedMap.lookup_insert] at h
    split_ifs at h with hk
    · omega
    · have := t.bounded k w h
      omega

/-- Remove the row with the given id. -/
def delete (t : Table ν) (k : ℤ) : Table ν where
  nextId := t.nextId
  rows := Finmap.erase k t.rows
  nextId_pos := t.nextId_pos
  bounded j w h := by
    rw [UnorderedMap.lookup_erase] at h
    split_ifs at h
    exact t.bounded j w h

/-- Overwrite the row with the given id, if there is one. -/
def set (t : Table ν) (k : ℤ) (v : ν) : Table ν where
  nextId := t.nextId
  rows := if t.rows.lookup k = none then t.rows else Finmap.insert k v t.rows
  nextId_pos := t.nextId_pos
  bounded j w h := by
    split_ifs at h with hk
    · exact t.bounded j w h
    · rw [UnorderedMap.lookup_insert] at h
      split_ifs at h with hj
      · subst hj
        obtain ⟨u, hu⟩ := Option.ne_none_iff_exists'.mp hk
        exact t.bounded j u hu
      · exact t.bounded j w h

@[simp] lemma find_empty (k : ℤ) : (empty : Table ν).find k = none := by
  simp [find, empty]

@[simp] lemma nextId_insert (t : Table ν) (v : ν) : (t.insert v).nextId = t.nextId + 1 := rfl

@[simp] lemma nextId_delete (t : Table ν) (k : ℤ) : (t.delete k).nextId = t.nextId := rfl

@[simp] lemma nextId_set (t : Table ν) (k : ℤ) (v : ν) : (t.set k v).nextId = t.nextId := rfl

lemma find_insert (t : Table ν) (v : ν) (k : ℤ) :
    (t.insert v).find k = if k = t.nextId then some v else t.find k :=
  UnorderedMap.lookup_insert t.rows k t.nextId v

lemma find_delete (t : Table ν) (j k : ℤ) :
    (t.delete j).find k = if k = j then none else t.find k :=
  UnorderedMap.lookup_erase t.rows k j

lemma find_set (t : Table ν) (j k : ℤ) (v : ν) :
    (t.set j v).find k = if k = j ∧ t.find j ≠ none then some v else t.find k := by
  simp only [find, set]
  by_cases hj : t.rows.lookup j = none
  · simp [hj]
  · rw [if_neg hj, UnorderedMap.lookup_insert]
    simp [hj]

/-- Overwriting a row with a function of it. -/
lemma find_set_map {t : Table ν} {k : ℤ} {v : ν} (h : t.find k = some v) (f : ν → ν) (j : ℤ) :
    (t.set k (f v)).find j = if k = j then (t.find j).map f else t.find j := by
  rw [find_set]
  by_cases hj : k = j
  · subst hj
    simp [h]
  · simp [hj, Ne.symm hj]

lemma find_bounds {t : Table ν} {k : ℤ} {v : ν} (h : t.find k = some v) :
    0 < k ∧ k < t.nextId := t.bounded k v h

/-- The next id is not in use. -/
lemma find_nextId (t : Table ν) : t.find t.nextId = none := by
  rw [Option.eq_none_iff_forall_not_mem]
  intro v hv
  exact lt_irrefl _ (find_bounds hv).2

/-- Overwriting a row with itself changes nothing. -/
lemma set_find {t : Table ν} {k : ℤ} {v : ν} (h : t.find k = some v) : t.set k v = t := by
  have hk : t.rows.lookup k ≠ none := by
    rw [show t.rows.lookup k = some v from h]
    simp
  cases t
  simp only [set, if_neg hk, Table.mk.injEq, true_and]
  exact UnorderedMap.insert_lookup h

@[simp] lemma bag_empty : (empty : Table ν).bag = 0 := rfl

/-- A stored row adds itself to the rows. -/
lemma bag_insert (t : Table ν) (v : ν) : (t.insert v).bag = v ::ₘ t.bag :=
  UnorderedMap.values_insert v t.find_nextId

/-- Removing the row stored last restores the rows. -/
lemma rows_delete_insert (t : Table ν) (v : ν) :
    ((t.insert v).delete t.nextId).rows = t.rows :=
  UnorderedMap.erase_insert v t.find_nextId

end Table
