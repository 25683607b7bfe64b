import Mathlib.Logic.Function.Basic

/-!
# Threads over a shared state

A system of threads is the state they share together with the local state of each of them. A step
works on the shared state and on one thread. A proof outline says what holds of the shared state,
what each thread knows, and what any two threads exclude; a step keeps it when it is right for the
thread that moves and does not interfere with what the others know.
-/

namespace Interleaving

variable {ι σ τ : Type} [DecidableEq ι]

/-- The shared state and the threads. -/
structure Threads (ι σ τ : Type) where
  shared : σ
  threads : ι → τ

namespace Threads

/-- The system after a step of the thread `i`. -/
def set (m : Threads ι σ τ) (i : ι) (out : σ × τ) : Threads ι σ τ where
  shared := out.1
  threads := Function.update m.threads i out.2

@[simp] lemma set_shared (m : Threads ι σ τ) (i : ι) (out : σ × τ) :
    (m.set i out).shared = out.1 := rfl

@[simp] lemma set_threads_self (m : Threads ι σ τ) (i : ι) (out : σ × τ) :
    (m.set i out).threads i = out.2 := by simp [set]

lemma set_threads_of_ne (m : Threads ι σ τ) {i j : ι} (h : j ≠ i) (out : σ × τ) :
    (m.set i out).threads j = m.threads j := by simp [set, h]

/-- A thread other than `i` satisfies `P`. -/
def Other (m : Threads ι σ τ) (i : ι) (P : τ → Prop) : Prop := ∃ j, j ≠ i ∧ P (m.threads j)

/-- Some thread satisfies `P`. -/
def Any (m : Threads ι σ τ) (P : τ → Prop) : Prop := ∃ j, P (m.threads j)

lemma any_iff (m : Threads ι σ τ) (i : ι) {P : τ → Prop} :
    m.Any P ↔ P (m.threads i) ∨ m.Other i P := by
  constructor
  · rintro ⟨j, hj⟩
    by_cases h : j = i
    · exact Or.inl (h ▸ hj)
    · exact Or.inr ⟨j, h, hj⟩
  · rintro (h | ⟨j, -, hj⟩)
    · exact ⟨i, h⟩
    · exact ⟨j, hj⟩

lemma other_set (m : Threads ι σ τ) (i : ι) (out : σ × τ) {P : τ → Prop} :
    (m.set i out).Other i P ↔ m.Other i P := by
  refine exists_congr fun j => and_congr_right fun hj => ?_
  rw [set_threads_of_ne m hj]

/-- After a step of the thread `i`. -/
lemma any_set (m : Threads ι σ τ) (i : ι) (out : σ × τ) {P : τ → Prop} :
    (m.set i out).Any P ↔ P out.2 ∨ m.Other i P := by
  rw [any_iff _ i, other_set, set_threads_self]

end Threads

/-- Making the calls of a task one after another leads to the last state. -/
inductive Finishes (step : σ → τ → σ × Option τ) : σ → Option τ → σ → Prop
  | done (s : σ) : Finishes step s none s
  | call {s s' : σ} {t : τ} (h : Finishes step (step s t).1 (step s t).2 s') :
      Finishes step s (some t) s'

/-- What holds of the shared state, what a thread knows, and what two threads exclude. -/
structure Outline (σ τ : Type) where
  shared : σ → Prop
  knows : σ → τ → Prop
  compatible : τ → τ → Prop
  symm : ∀ {x y}, compatible x y → compatible y x

namespace Outline

variable {o : Outline σ τ} {m : Threads ι σ τ}

/-- The outline holds in a state of the system. -/
structure Holds (o : Outline σ τ) (m : Threads ι σ τ) : Prop where
  shared : o.shared m.shared
  knows : ∀ i, o.knows m.shared (m.threads i)
  compatible : ∀ i j, i ≠ j → o.compatible (m.threads i) (m.threads j)

/-- A step of one thread keeps the outline if it does not interfere with the other threads. -/
theorem Holds.set (h : o.Holds m) (i : ι) {out : σ × τ} (hshared : o.shared out.1)
    (hknows : o.knows out.1 out.2)
    (hothers : ∀ y, o.knows m.shared y → o.compatible (m.threads i) y →
      o.knows out.1 y ∧ o.compatible out.2 y) :
    o.Holds (m.set i out) := by
  have hother : ∀ j, j ≠ i → o.knows out.1 (m.threads j) ∧ o.compatible out.2 (m.threads j) :=
    fun j hj => hothers _ (h.knows j) (h.compatible i j hj.symm)
  refine ⟨hshared, fun j => ?_, fun j k hjk => ?_⟩
  · by_cases hj : j = i
    · subst hj
      simpa [Threads.set] using hknows
    · simpa [Threads.set, hj] using (hother j hj).1
  · by_cases hj : j = i
    · subst hj
      simpa [Threads.set, hjk.symm] using (hother k hjk.symm).2
    · by_cases hk : k = i
      · subst hk
        simpa [Threads.set, hj] using o.symm (hother j hj).2
      · simpa [Threads.set, hj, hk] using h.compatible j k hjk

omit [DecidableEq ι] in
/-- A change of the shared state from outside keeps the outline if it does not interfere. -/
theorem Holds.environment (h : o.Holds m) {s : σ} (hshared : o.shared s)
    (hothers : ∀ y, o.knows m.shared y → o.knows s y) : o.Holds { m with shared := s } :=
  ⟨hshared, fun i => hothers _ (h.knows i), h.compatible⟩

end Outline

end Interleaving
