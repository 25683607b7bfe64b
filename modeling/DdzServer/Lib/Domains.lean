import DdzServer.Lib.Interleaving
import Mathlib.Data.List.Induction
import Mathlib.Tactic.Common

/-!
# Separated domains

A system answers requests, each of which belongs to a domain, and `sim k s t` says that two states
look the same to the domain `k`. An operation is local to a domain when what it does there depends
on what the domain sees, and no other domain notices it. When every request is handled by an
operation that is local to its domain, the answers to a domain are those it would get alone.
-/

namespace Separation

variable {σ κ α β γ : Type*} {sim : κ → σ → σ → Prop} {k : κ}

/-- An operation that concerns one domain. -/
structure Local (sim : κ → σ → σ → Prop) (k : κ) (f : σ → σ × β) : Prop where
  own : ∀ s t, sim k s t → (f s).2 = (f t).2 ∧ sim k (f s).1 (f t).1
  other : ∀ j, j ≠ k → ∀ s t, sim j s t → sim j (f s).1 t

lemma Local.pure (b : β) : Local sim k fun s => (s, b) :=
  ⟨fun _ _ h => ⟨rfl, h⟩, fun _ _ _ _ h => h⟩

/-- One operation after another; the second may depend on the answer of the first. -/
lemma Local.bind {f : σ → σ × β} {g : β → σ → σ × γ} (hf : Local sim k f)
    (hg : ∀ b, Local sim k (g b)) : Local sim k fun s => g (f s).2 (f s).1 where
  own s t h := by
    obtain ⟨heq, hsim⟩ := hf.own s t h
    rw [heq]
    exact (hg (f t).2).own _ _ hsim
  other j hj s t h := (hg (f s).2).other j hj _ _ (hf.other j hj s t h)

/-- An operation whose answer is read by its caller. -/
lemma Local.map {f : σ → σ × β} (hf : Local sim k f) (g : β → γ) :
    Local sim k fun s => ((f s).1, g (f s).2) :=
  hf.bind fun b => Local.pure (g b)

/-! ### Runs -/

variable (step : σ → α → σ × β)

/-- The requests with their answers, and the state afterwards. -/
def run : σ → List α → σ × List (α × β)
  | s, []     => (s, [])
  | s, a :: l => ((run (step s a).1 l).1, (a, (step s a).2) :: (run (step s a).1 l).2)

lemma run_concat (s : σ) (l : List α) (a : α) :
    run step s (l ++ [a]) = ((step (run step s l).1 a).1,
      (run step s l).2 ++ [(a, (step (run step s l).1 a).2)]) := by
  induction l generalizing s with
  | nil => rfl
  | cons b l ih =>
    rw [List.cons_append, run, ih]
    rfl

variable {step} [DecidableEq κ] {dom : α → κ}

/-- A domain sees, and is answered, what it would see and be answered alone. -/
theorem run_filter (h : ∀ a, Local sim (dom a) fun s => step s a) {s t : σ} (hsim : sim k s t)
    (l : List α) :
    (run step s l).2.filter (fun x => dom x.1 = k) =
        (run step t (l.filter fun a => dom a = k)).2 ∧
      sim k (run step s l).1 (run step t (l.filter fun a => dom a = k)).1 := by
  induction l generalizing s t with
  | nil => exact ⟨rfl, hsim⟩
  | cons a l ih =>
    by_cases ha : dom a = k
    · subst ha
      obtain ⟨heq, hsim'⟩ := (h a).own s t hsim
      obtain ⟨hrest, hlast⟩ := ih hsim'
      rw [List.filter_cons_of_pos (by simp), run, run, List.filter_cons_of_pos (by simp), hrest,
        heq]
      exact ⟨rfl, hlast⟩
    · obtain ⟨hrest, hlast⟩ := ih ((h a).other k (Ne.symm ha) s t hsim)
      rw [List.filter_cons_of_neg (by simpa using ha), run,
        List.filter_cons_of_neg (by simpa using ha)]
      exact ⟨hrest, hlast⟩

/-! ### Threads -/

section Threads

open Interleaving

variable {ι σ τ ε : Type} {sim : κ → σ → σ → Prop} {k : κ} {dom : ι → κ}

/-- The threads of a domain are alike, and what they see of the shared state is. -/
def Alike (sim : κ → σ → σ → Prop) (dom : ι → κ) (k : κ) (m n : Threads ι σ τ) : Prop :=
  sim k m.shared n.shared ∧ ∀ i, dom i = k → m.threads i = n.threads i

variable [DecidableEq ι]

/-- A step of one thread, with what it answers. -/
def threadStep (act : ι → ε → τ → σ → σ × τ × β) (m : Threads ι σ τ) (a : ι × ε) :
    Threads ι σ τ × β :=
  (m.set a.1 ((act a.1 a.2 (m.threads a.1) m.shared).1,
      (act a.1 a.2 (m.threads a.1) m.shared).2.1),
    (act a.1 a.2 (m.threads a.1) m.shared).2.2)

omit [DecidableEq κ] in
/-- Threads whose operations are local to their domains. -/
lemma Local.thread {act : ι → ε → τ → σ → σ × τ × β}
    (h : ∀ i e t, Local sim (dom i) (act i e t)) (a : ι × ε) :
    Local (Alike sim dom) (dom a.1) fun m => threadStep act m a where
  own m n hmn := by
    obtain ⟨hshared, hthreads⟩ := hmn
    rw [threadStep, threadStep, hthreads a.1 rfl]
    obtain ⟨heq, hsim⟩ := (h a.1 a.2 (n.threads a.1)).own _ _ hshared
    refine ⟨by rw [heq], hsim, fun i hi => ?_⟩
    by_cases hia : i = a.1
    · subst hia
      simp only [Threads.set_threads_self, heq]
    · simp only [Threads.set_threads_of_ne _ hia]
      exact hthreads i hi
  other j hj m n hmn := by
    obtain ⟨hshared, hthreads⟩ := hmn
    refine ⟨(h a.1 a.2 (m.threads a.1)).other j hj _ _ hshared, fun i hi => ?_⟩
    have hia : i ≠ a.1 := by
      rintro rfl
      exact hj hi.symm
    rw [threadStep, Threads.set_threads_of_ne _ hia]
    exact hthreads i hi

end Threads

end Separation
