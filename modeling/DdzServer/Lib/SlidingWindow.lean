import Mathlib.Algebra.Order.Group.Defs
import Mathlib.Algebra.Order.Sub.Basic
import Mathlib.Data.List.Induction
import Mathlib.Data.List.TakeWhile
import Mathlib.Tactic.Common

/-!
# Sliding windows

A limiter keeps the times of the calls it accepted, oldest first. Before it answers, it drops those
at the front that are too old; a call is refused while the rest is as long as the limit. When the
times of the calls do not go backwards, the rest is exactly what was accepted within the window, so
no window has more accepted calls than the limit, and no call is refused without as many.
-/

namespace SlidingWindow

variable {τ : Type}

/-- Dropping a front is filtering when the property has no gaps. -/
lemma dropWhile_eq_filter {p : τ → Bool} {l : List τ}
    (h : l.Pairwise fun x y => p y = true → p x = true) :
    l.dropWhile p = l.filter fun x => !p x := by
  induction l with
  | nil => rfl
  | cons x l ih =>
    obtain ⟨hx, hl⟩ := List.pairwise_cons.mp h
    cases hp : p x with
    | true =>
      rw [List.dropWhile_cons, hp, if_pos rfl, ih hl, List.filter_cons, hp]
      rfl
    | false =>
      have hall : ∀ y ∈ x :: l, (!p y) = true := by
        intro y hy
        rcases List.mem_cons.mp hy with rfl | hy
        · simp [hp]
        · cases hpy : p y with
          | false => rfl
          | true => simp [hx y hy hpy] at hp
      rw [List.dropWhile_cons, hp, List.filter_eq_self.mpr hall]
      rfl

variable [AddCommGroup τ] [LinearOrder τ]

/-- A time of the window that ends at `t`. -/
def Inside (width t x : τ) : Prop := t - width < x ∧ x ≤ t

instance (width t : τ) : DecidablePred (Inside width t) := fun _ => instDecidableAnd

/-- The oldest times are dropped. -/
def prune (width now : τ) (window : List τ) : List τ := window.dropWhile fun x => width ≤ now - x

/-- The window after a call, and the answer. -/
def admitCall (limit : ℕ) (width now : τ) (window : List τ) : List τ × Bool :=
  let window := prune width now window
  if limit ≤ window.length then (window, false) else (window ++ [now], true)

/-- A window, and all calls that were accepted. -/
structure Limiter (τ : Type) where
  window : List τ := []
  accepted : List τ := []

namespace Limiter

/-- One call. -/
def call (limit : ℕ) (width : τ) (l : Limiter τ) (now : τ) : Limiter τ :=
  let (window, ok) := admitCall limit width now l.window
  { window := window, accepted := if ok then l.accepted ++ [now] else l.accepted }

/-- The limiter after calls at the given times. -/
def run (limit : ℕ) (width : τ) (times : List τ) : Limiter τ := times.foldl (call limit width) {}

lemma call_eq (limit : ℕ) (width : τ) (l : Limiter τ) (now : τ) :
    l.call limit width now =
      if limit ≤ (prune width now l.window).length then
        { window := prune width now l.window, accepted := l.accepted }
      else
        { window := prune width now l.window ++ [now], accepted := l.accepted ++ [now] } := by
  by_cases hfull : limit ≤ (prune width now l.window).length <;> simp [call, admitCall, hfull]

lemma run_append (limit : ℕ) (width : τ) (times : List τ) (now : τ) :
    run limit width (times ++ [now]) = (run limit width times).call limit width now := by
  rw [run, List.foldl_append]
  rfl

/-- What holds of a limiter after calls until `last`. -/
structure Exact (limit : ℕ) (width last : τ) (l : Limiter τ) : Prop where
  sorted : l.accepted.Pairwise (· ≤ ·)
  le_last : ∀ x ∈ l.accepted, x ≤ last
  window : ∃ expired, l.accepted = expired ++ l.window ∧ ∀ x ∈ expired, x ≤ last - width
  bound : ∀ t, (l.accepted.filter (Inside width t)).length ≤ limit

lemma exact_empty (limit : ℕ) (width last : τ) : Exact limit width last {} where
  sorted := List.Pairwise.nil
  le_last _ hx := nomatch hx
  window := ⟨[], rfl, fun _ hx => nomatch hx⟩
  bound _ := Nat.zero_le _

variable [IsOrderedAddMonoid τ] {limit : ℕ} {width last now : τ} {l : Limiter τ}

lemma Exact.mono (h : Exact limit width last l) (hle : last ≤ now) : Exact limit width now l where
  sorted := h.sorted
  le_last x hx := (h.le_last x hx).trans hle
  window := by
    obtain ⟨expired, heq, hexpired⟩ := h.window
    exact ⟨expired, heq, fun x hx => (hexpired x hx).trans (sub_le_sub_right hle width)⟩
  bound := h.bound

/-- What is left of the window are the accepted calls within the time. -/
lemma Exact.prune_eq (h : Exact limit width last l) (hle : last ≤ now) :
    prune width now l.window = l.accepted.filter (Inside width now) := by
  obtain ⟨expired, heq, hexpired⟩ := (h.mono hle).window
  have hsorted := h.sorted
  rw [heq, List.pairwise_append] at hsorted
  have hgone : expired.filter (Inside width now) = [] := by
    rw [List.filter_eq_nil_iff]
    intro x hx hinside
    exact absurd (hexpired x hx) (not_le.mpr (of_decide_eq_true hinside).1)
  rw [heq, List.filter_append, hgone, List.nil_append, prune, dropWhile_eq_filter]
  · refine List.filter_congr fun x hx => ?_
    have hx' : x ≤ now := (h.mono hle).le_last x (heq ▸ List.mem_append_right _ hx)
    rw [← decide_not, decide_eq_decide, not_le, Inside, and_iff_left hx', sub_lt_comm]
  · refine hsorted.2.1.imp fun {x y} hxy hy => ?_
    rw [decide_eq_true_iff] at hy ⊢
    exact hy.trans (sub_le_sub_left hxy now)

/-- A call that is refused finds as many accepted calls as the limit allows. -/
lemma Exact.refused (h : Exact limit width last l) (hle : last ≤ now)
    (hrefused : (admitCall limit width now l.window).2 = false) :
    (l.accepted.filter (Inside width now)).length = limit := by
  refine le_antisymm (h.bound now) ?_
  rw [admitCall, h.prune_eq hle] at hrefused
  by_contra hlt
  simp [hlt] at hrefused

/-- What a call drops has expired. -/
lemma Exact.expired_prune (h : Exact limit width last l) (hle : last ≤ now) :
    ∃ expired, l.accepted = expired ++ prune width now l.window ∧
      ∀ x ∈ expired, x ≤ now - width := by
  obtain ⟨expired, heq, hexpired⟩ := (h.mono hle).window
  refine ⟨expired ++ l.window.takeWhile fun x => width ≤ now - x, ?_, fun x hx => ?_⟩
  · rw [prune, List.append_assoc, List.takeWhile_append_dropWhile, heq]
  · rcases List.mem_append.mp hx with hx | hx
    · exact hexpired x hx
    · have hold : decide (width ≤ now - x) = true :=
        List.mem_takeWhile_imp (p := fun x => decide (width ≤ now - x)) hx
      exact le_sub_comm.mp (of_decide_eq_true hold)

lemma Exact.call (h : Exact limit width last l) (hle : last ≤ now) :
    Exact limit width now (l.call limit width now) := by
  obtain ⟨expired, heq, hexpired⟩ := h.expired_prune hle
  have hprune := h.prune_eq hle
  have hnow : ∀ x ∈ l.accepted, x ≤ now := (h.mono hle).le_last
  rw [call_eq]
  split_ifs with hfull
  · exact ⟨h.sorted, hnow, ⟨expired, heq, hexpired⟩, h.bound⟩
  · refine ⟨?_, ?_, ⟨expired, ?_, hexpired⟩, fun t => ?_⟩
    · simp only [List.pairwise_append, List.pairwise_singleton, List.mem_singleton, forall_eq,
        true_and]
      exact ⟨h.sorted, hnow⟩
    · simp only [List.forall_mem_append, List.mem_singleton, forall_eq]
      exact ⟨hnow, le_rfl⟩
    · rw [heq, List.append_assoc]
    · rw [List.filter_append, List.length_append]
      by_cases ht : Inside width t now
      · -- a window with the call has no more accepted calls than the one that ends with it
        have hle : (l.accepted.filter (Inside width t)).length ≤
            (l.accepted.filter (Inside width now)).length := by
          rw [← List.countP_eq_length_filter, ← List.countP_eq_length_filter]
          refine List.countP_mono_left fun x hx hinside => ?_
          rw [decide_eq_true_iff] at hinside ⊢
          exact ⟨(sub_le_sub_right ht.2 width).trans_lt hinside.1, hnow x hx⟩
        rw [List.filter_cons_of_pos (by simpa using ht), List.filter_nil, List.length_singleton]
        rw [hprune] at hfull
        omega
      · rw [List.filter_cons_of_neg (by simpa using ht), List.filter_nil, List.length_nil]
        exact h.bound t

/-- A limiter is exact after calls whose times do not go backwards. -/
theorem exact_run {times : List τ} (hsorted : times.Pairwise (· ≤ ·))
    (hlast : ∀ x ∈ times, x ≤ last) : Exact limit width last (run limit width times) := by
  induction times using List.reverseRecOn generalizing last with
  | nil => exact exact_empty limit width last
  | append_singleton times now ih =>
    rw [List.pairwise_append] at hsorted
    have hbefore : ∀ x ∈ times, x ≤ now := fun x hx =>
      hsorted.2.2 x hx now (List.mem_singleton_self now)
    rw [run_append]
    exact ((ih hsorted.1 hbefore).call le_rfl).mono
      (hlast now (List.mem_append_right _ (List.mem_singleton_self now)))

/-- No window has more accepted calls than the limit. -/
theorem length_inside_le {times : List τ} (hsorted : times.Pairwise (· ≤ ·)) (t : τ) :
    ((run limit width times).accepted.filter (Inside width t)).length ≤ limit := by
  rcases List.eq_nil_or_concat times with rfl | ⟨before, now, rfl⟩
  · exact Nat.zero_le _
  · rw [List.concat_eq_append] at hsorted ⊢
    have hlast : ∀ x ∈ before ++ [now], x ≤ now := by
      rw [List.pairwise_append] at hsorted
      intro x hx
      rcases List.mem_append.mp hx with hx | hx
      · exact hsorted.2.2 x hx now (List.mem_singleton_self now)
      · exact (List.mem_singleton.mp hx).le
    exact (exact_run hsorted hlast).bound t

end Limiter

end SlidingWindow
