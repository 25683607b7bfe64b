import Mathlib.Data.Finmap
import Mathlib.Algebra.BigOperators.Group.Finset.Basic
import Mathlib.Tactic.Abel

/-!
# Finite maps as a program uses them

`UnorderedMap κ ν` is Mathlib's `Finmap` at a constant value type: extensional equality, and no
order on the entries. This file adds what a map of a program has besides: the value a subscript
reads and leaves behind, the bag of all values, and sums over all entries.
-/

/-- A finite map from keys `κ` to values `ν`. -/
abbrev UnorderedMap (κ ν : Type) := Finmap fun _ : κ => ν

namespace UnorderedMap

variable {κ ν : Type} [DecidableEq κ]

lemma lookup_insert (m : UnorderedMap κ ν) (a b : κ) (v : ν) :
    (Finmap.insert b v m).lookup a = if a = b then some v else m.lookup a := by
  split_ifs with h
  · subst h
    exact Finmap.lookup_insert m
  · exact Finmap.lookup_insert_of_ne m h

lemma lookup_erase (m : UnorderedMap κ ν) (a b : κ) :
    (Finmap.erase b m).lookup a = if a = b then none else m.lookup a := by
  split_ifs with h
  · subst h
    exact Finmap.lookup_erase a m
  · exact Finmap.lookup_erase_ne h

/-- Writing back the value that is there changes nothing. -/
lemma insert_lookup {m : UnorderedMap κ ν} {a : κ} {v : ν} (h : m.lookup a = some v) :
    Finmap.insert a v m = m := by
  refine Finmap.ext_lookup fun b => ?_
  rw [lookup_insert]
  split_ifs with hb
  · rw [hb, h]
  · rfl

lemma erase_insert {m : UnorderedMap κ ν} {a : κ} (v : ν) (h : m.lookup a = none) :
    Finmap.erase a (Finmap.insert a v m) = m := by
  refine Finmap.ext_lookup fun b => ?_
  rw [lookup_erase, lookup_insert]
  split_ifs with hb
  · rw [hb, h]
  · rfl

/-- The value a subscript `m[a]` refers to: a missing key reads as the default `d`. -/
def at' (m : UnorderedMap κ ν) (a : κ) (d : ν) : ν := (m.lookup a).getD d

/-- The map a subscript `m[a]` leaves behind: a missing key is inserted with the default `d`. -/
def touch (m : UnorderedMap κ ν) (a : κ) (d : ν) : UnorderedMap κ ν :=
  Finmap.insert a (at' m a d) m

lemma touch_of_mem {m : UnorderedMap κ ν} {a : κ} (d : ν) (h : m.lookup a ≠ none) :
    touch m a d = m := by
  obtain ⟨v, hv⟩ := Option.ne_none_iff_exists'.mp h
  exact insert_lookup (by simp [at', hv])

lemma at'_insert (m : UnorderedMap κ ν) (a b : κ) (v d : ν) :
    at' (Finmap.insert b v m) a d = if a = b then v else at' m a d := by
  simp only [at', lookup_insert]
  split_ifs <;> rfl

/-- A subscript changes no later one with the same default. -/
@[simp] lemma at'_touch (m : UnorderedMap κ ν) (a b : κ) (d : ν) :
    at' (touch m b d) a d = at' m a d := by
  rw [touch, at'_insert]
  split_ifs with h
  · rw [h]
  · rfl

/-- The entries that are kept. -/
def filter (keep : κ → ν → Bool) (m : UnorderedMap κ ν) : UnorderedMap κ ν where
  entries := m.entries.filter fun e => keep e.1 e.2
  nodupKeys := by
    refine Multiset.nodup_keys.mp (Multiset.nodup_of_le ?_ (Multiset.nodup_keys.mpr m.nodupKeys))
    exact Multiset.map_le_map (Multiset.filter_le _ _)

lemma lookup_filter (keep : κ → ν → Bool) (m : UnorderedMap κ ν) (a : κ) :
    (filter keep m).lookup a = (m.lookup a).filter (keep a) := by
  ext v
  simp [Finmap.lookup_eq_some_iff, filter, Multiset.mem_filter, Option.filter_eq_some_iff]

/-! ### All values -/

/-- The bag of all values of a map. -/
def values (m : UnorderedMap κ ν) : Multiset ν := m.entries.map Sigma.snd

omit [DecidableEq κ] in
@[simp] lemma values_empty : values (∅ : UnorderedMap κ ν) = 0 := rfl

lemma values_insert {m : UnorderedMap κ ν} {a : κ} (v : ν) (h : m.lookup a = none) :
    values (Finmap.insert a v m) = v ::ₘ values m := by
  have ha : a ∉ m := Finmap.lookup_eq_none.mp h
  simp [values, Finmap.entries_insert_of_notMem ha]

lemma mem_values {m : UnorderedMap κ ν} {v : ν} : v ∈ values m ↔ ∃ a, m.lookup a = some v := by
  simp only [values, Multiset.mem_map, Sigma.exists]
  constructor
  · rintro ⟨a, _, hv, rfl⟩
    exact ⟨a, Finmap.lookup_eq_some_iff.mpr hv⟩
  · rintro ⟨a, ha⟩
    exact ⟨a, v, Finmap.lookup_eq_some_iff.mp ha, rfl⟩

lemma mem_keys {m : UnorderedMap κ ν} {a : κ} : a ∈ m.keys ↔ m.lookup a ≠ none := by
  rw [Finmap.mem_keys, ← Finmap.lookup_isSome, Option.isSome_iff_ne_none]

/-- Writing one entry after the other adds the keys that were written. -/
lemma lookup_foldl_insert_ne_none {α : Type} (key : α → κ) (val : UnorderedMap κ ν → α → ν)
    (l : List α) (m : UnorderedMap κ ν) (a : κ) :
    (l.foldl (fun m x => Finmap.insert (key x) (val m x) m) m).lookup a ≠ none ↔
      m.lookup a ≠ none ∨ ∃ x ∈ l, key x = a := by
  induction l generalizing m with
  | nil => simp
  | cons x l ih =>
    rw [List.foldl_cons, ih, lookup_insert]
    split_ifs with h
    · simp [h]
    · simp [Ne.symm h]

/-- Writing a value that depends on the key alone: only the keys that were written change. -/
lemma lookup_foldl_insert (f : κ → ν) (l : List κ) (m : UnorderedMap κ ν) (a : κ) :
    (l.foldl (fun m x => Finmap.insert x (f x) m) m).lookup a =
      if a ∈ l then some (f a) else m.lookup a := by
  induction l generalizing m with
  | nil => simp
  | cons x l ih =>
    rw [List.foldl_cons, ih, lookup_insert]
    by_cases ha : a ∈ l
    · simp [ha]
    · by_cases hx : a = x
      · simp [hx]
      · simp [ha, hx]

/-- Writing pairs one after the other, with distinct keys. -/
lemma lookup_foldl_insert_pairs {pairs : List (κ × ν)} (hnd : (pairs.map Prod.fst).Nodup)
    (m : UnorderedMap κ ν) (a : κ) (v : ν) :
    (pairs.foldl (fun m p => Finmap.insert p.1 p.2 m) m).lookup a = some v ↔
      (a, v) ∈ pairs ∨ a ∉ pairs.map Prod.fst ∧ m.lookup a = some v := by
  induction pairs generalizing m with
  | nil => simp
  | cons p pairs ih =>
    obtain ⟨b, w⟩ := p
    obtain ⟨hb, hnd⟩ := List.nodup_cons.mp hnd
    rw [List.foldl_cons, ih hnd, lookup_insert]
    by_cases ha : a = b
    · subst ha
      have hno : ∀ v, (a, v) ∉ pairs := fun v hv => hb (List.mem_map.mpr ⟨_, hv, rfl⟩)
      simp [hno, hb, eq_comm]
    · simp [ha]

/-- Erasing one key after the other. -/
lemma lookup_foldl_erase (l : List κ) (m : UnorderedMap κ ν) (a : κ) :
    (l.foldl (fun m x => Finmap.erase x m) m).lookup a =
      if a ∈ l then none else m.lookup a := by
  induction l generalizing m with
  | nil => simp
  | cons x l ih =>
    rw [List.foldl_cons, ih, lookup_erase]
    by_cases hx : a = x
    · simp [hx]
    · simp [hx]

/-! ### Sums over chosen keys -/

section Sum

variable {M : Type} [AddCommMonoid M]

/-- The sum of `f` over the values at the listed keys. -/
def sumOver (f : ν → M) (d : ν) (keys : List κ) (m : UnorderedMap κ ν) : M :=
  (keys.map fun a => f (at' m a d)).sum

lemma sumOver_insert_of_notMem (f : ν → M) (d : ν) {keys : List κ} {a : κ} (ha : a ∉ keys)
    (m : UnorderedMap κ ν) (v : ν) :
    sumOver f d keys (Finmap.insert a v m) = sumOver f d keys m := by
  refine congrArg List.sum (List.map_congr_left fun b hb => ?_)
  rw [at'_insert, if_neg]
  rintro rfl
  exact ha hb

/-- An overwritten value leaves the sum, and the new one enters it. -/
lemma sumOver_insert (f : ν → M) (d : ν) {keys : List κ} {a : κ} (hnd : keys.Nodup)
    (ha : a ∈ keys) (m : UnorderedMap κ ν) (v : ν) :
    sumOver f d keys (Finmap.insert a v m) + f (at' m a d) = sumOver f d keys m + f v := by
  induction keys with
  | nil => simp at ha
  | cons b keys ih =>
    obtain ⟨hb, hnd⟩ := List.nodup_cons.mp hnd
    change f (at' (Finmap.insert a v m) b d) + sumOver f d keys (Finmap.insert a v m) + _ =
      f (at' m b d) + sumOver f d keys m + _
    rcases List.mem_cons.mp ha with rfl | ha
    · rw [sumOver_insert_of_notMem f d hb, at'_insert, if_pos rfl]
      abel
    · have hne : b ≠ a := by
        rintro rfl
        exact hb ha
      rw [at'_insert, if_neg hne, add_assoc, ih hnd ha]
      abel

end Sum

end UnorderedMap
