import Mathlib.Data.List.Induction
import Mathlib.Tactic.Common

/-!
# Runs of a labelled transition system

A system is given by its step function `step : σ → α → Option σ`; `none` means that the label is
not enabled. `Run.exec` performs a list of labels. The rules below carry a property of one step
to a property of whole runs: plain invariants, invariants of runs whose steps all meet a guard,
and history variables that collect something along a run.
-/

namespace Run

universe u v w
variable {σ : Type u} {α : Type v} {γ : Type w}

/-- The state after the labels `l`, when each of them is enabled in turn. -/
def exec (step : σ → α → Option σ) : σ → List α → Option σ
  | s, []     => some s
  | s, a :: l => (step s a).bind fun s' => exec step s' l

variable {step : σ → α → Option σ}

@[simp] lemma exec_nil (s : σ) : exec step s [] = some s := rfl

@[simp] lemma exec_cons (s : σ) (a : α) (l : List α) :
    exec step s (a :: l) = (step s a).bind fun s' => exec step s' l := rfl

lemma exec_append (s : σ) (l₁ l₂ : List α) :
    exec step s (l₁ ++ l₂) = (exec step s l₁).bind fun s' => exec step s' l₂ := by
  induction l₁ generalizing s with
  | nil => rfl
  | cons a l ih =>
    simp only [List.cons_append, exec_cons, Option.bind_assoc]
    exact congrArg _ (funext ih)

/-- A run over `l₁ ++ l₂` stops in some state after `l₁`. -/
lemma exec_append_eq_some {s t : σ} {l₁ l₂ : List α} (h : exec step s (l₁ ++ l₂) = some t) :
    ∃ m, exec step s l₁ = some m ∧ exec step m l₂ = some t := by
  rw [exec_append] at h
  exact Option.bind_eq_some_iff.mp h

/-- `t` is a state of the run of `l` from `s`. -/
def Visits (step : σ → α → Option σ) (s : σ) (l : List α) (t : σ) : Prop :=
  ∃ l₁ l₂, l = l₁ ++ l₂ ∧ exec step s l₁ = some t

lemma visits_nil {s t : σ} : Visits step s [] t ↔ t = s := by
  constructor
  · rintro ⟨l₁, l₂, hl, ht⟩
    obtain ⟨rfl, rfl⟩ := List.append_eq_nil_iff.mp hl.symm
    simpa using ht.symm
  · rintro rfl
    exact ⟨[], [], rfl, rfl⟩

lemma visits_self (s : σ) (l : List α) : Visits step s l s := ⟨[], l, rfl, rfl⟩

lemma visits_cons {s t : σ} {a : α} {l : List α} :
    Visits step s (a :: l) t ↔ t = s ∨ ∃ s', step s a = some s' ∧ Visits step s' l t := by
  constructor
  · rintro ⟨l₁, l₂, hl, ht⟩
    cases l₁ with
    | nil => exact Or.inl (by simpa using ht.symm)
    | cons b l₁ =>
      obtain ⟨rfl, rfl⟩ := List.cons.inj hl
      obtain ⟨s', hs, ht'⟩ := Option.bind_eq_some_iff.mp ht
      exact Or.inr ⟨s', hs, l₁, l₂, rfl, ht'⟩
  · rintro (rfl | ⟨s', hs, l₁, l₂, rfl, ht⟩)
    · exact visits_self t _
    · exact ⟨a :: l₁, l₂, rfl, by simp [hs, ht]⟩

/-! ### Invariants -/

/-- Every label of the run is performed in a state where the guard `G` allows it. -/
def Along (step : σ → α → Option σ) (G : σ → α → Prop) : σ → List α → Prop
  | _, []     => True
  | s, a :: l => G s a ∧ ∀ s', step s a = some s' → Along step G s' l

@[simp] lemma along_nil {G : σ → α → Prop} (s : σ) : Along step G s [] := trivial

@[simp] lemma along_cons {G : σ → α → Prop} (s : σ) (a : α) (l : List α) :
    Along step G s (a :: l) ↔ G s a ∧ ∀ s', step s a = some s' → Along step G s' l := Iff.rfl

/-- A guard on the labels alone. -/
lemma along_of_forall (step : σ → α → Option σ) {P : α → Prop} {l : List α}
    (h : ∀ a ∈ l, P a) (s : σ) :
    Along step (fun _ a => P a) s l := by
  induction l generalizing s with
  | nil => trivial
  | cons a l ih =>
    obtain ⟨ha, hl⟩ := List.forall_mem_cons.mp h
    exact ⟨ha, fun s' _ => ih hl s'⟩

/-- Along a run that is performed, such a guard is one on all labels. -/
lemma along_iff_forall {P : α → Prop} {s : σ} {l : List α} (h : (exec step s l).isSome) :
    Along step (fun _ a => P a) s l ↔ ∀ a ∈ l, P a := by
  refine ⟨fun halong => ?_, fun hall => along_of_forall step hall s⟩
  induction l generalizing s with
  | nil => exact List.forall_mem_nil _
  | cons a l ih =>
    obtain ⟨t, ht⟩ := Option.isSome_iff_exists.mp h
    obtain ⟨s', hs', ht'⟩ := Option.bind_eq_some_iff.mp ht
    exact List.forall_mem_cons.mpr ⟨halong.1, ih (by simp [ht']) (halong.2 s' hs')⟩

/-- A weaker guard. -/
lemma Along.mono {G H : σ → α → Prop} (hGH : ∀ s a, G s a → H s a) {s : σ} {l : List α}
    (h : Along step G s l) : Along step H s l := by
  induction l generalizing s with
  | nil => trivial
  | cons a l ih => exact ⟨hGH s a h.1, fun s' hs => ih (h.2 s' hs)⟩

/-- Two guards together. -/
lemma Along.and {G H : σ → α → Prop} {s : σ} {l : List α} (hG : Along step G s l)
    (hH : Along step H s l) : Along step (fun s a => G s a ∧ H s a) s l := by
  induction l generalizing s with
  | nil => trivial
  | cons a l ih => exact ⟨⟨hG.1, hH.1⟩, fun s' hs => ih (hG.2 s' hs) (hH.2 s' hs)⟩

/-- A decidable guard can be checked along a run. -/
instance decidableAlong (step : σ → α → Option σ) (G : σ → α → Prop) [∀ s a, Decidable (G s a)] :
    (s : σ) → (l : List α) → Decidable (Along step G s l)
  | _, []     => isTrue trivial
  | s, a :: l =>
    match h : step s a with
    | none    => decidable_of_iff (G s a) ⟨fun hG => ⟨hG, by simp [h]⟩, And.left⟩
    | some s' =>
      have : Decidable (Along step G s' l) := decidableAlong step G s' l
      decidable_of_iff (G s a ∧ Along step G s' l) (by simp [h])

lemma along_append {G : σ → α → Prop} {s m : σ} {l₁ l₂ : List α}
    (h : Along step G s (l₁ ++ l₂)) (hm : exec step s l₁ = some m) :
    Along step G s l₁ ∧ Along step G m l₂ := by
  induction l₁ generalizing s with
  | nil =>
    cases hm
    exact ⟨trivial, h⟩
  | cons a l ih =>
    obtain ⟨s', hs, hm'⟩ := Option.bind_eq_some_iff.mp hm
    refine ⟨⟨h.1, fun t ht => ?_⟩, (ih (h.2 s' hs) hm').2⟩
    obtain rfl : s' = t := Option.some.inj (hs.symm.trans ht)
    exact (ih (h.2 s' hs) hm').1

/-- An invariant of the steps that the guard allows holds at the end of every guarded run. -/
theorem invariant_along {I : σ → Prop} {G : σ → α → Prop}
    (hstep : ∀ s a s', I s → G s a → step s a = some s' → I s')
    {s t : σ} {l : List α} (hs : I s) (hl : Along step G s l) (h : exec step s l = some t) :
    I t := by
  induction l generalizing s with
  | nil =>
    cases h
    exact hs
  | cons a l ih =>
    obtain ⟨s', hs', ht⟩ := Option.bind_eq_some_iff.mp h
    exact ih (hstep s a s' hs hl.1 hs') (hl.2 s' hs') ht

/-- A property that every step preserves holds at the end of every run. -/
theorem invariant {I : σ → Prop} (hstep : ∀ s a s', I s → step s a = some s' → I s')
    {s t : σ} {l : List α} (hs : I s) (h : exec step s l = some t) : I t :=
  invariant_along (fun s a s' hs (_ : True) => hstep s a s' hs) hs
    (along_of_forall step (fun _ _ => trivial) s) h

/-- What the invariant and the guard allow together holds along a guarded run. -/
theorem Along.of_invariant {I : σ → Prop} {G H : σ → α → Prop}
    (hstep : ∀ s a s', I s → G s a → step s a = some s' → I s')
    (hallow : ∀ s a, I s → G s a → H s a) {s : σ} {l : List α} (hs : I s)
    (h : Along step G s l) : Along step H s l := by
  induction l generalizing s with
  | nil => trivial
  | cons a l ih =>
    exact ⟨hallow s a hs h.1, fun s' hs' => ih (hstep s a s' hs h.1 hs') (h.2 s' hs')⟩

/-- When a step keeps `P` exactly if the guard allows it, a run keeps `P` throughout exactly if
the guard allows all of it. The invariant `I` may be used for both directions, and `H` is what the
labels of the run have in common. -/
theorem forall_visits_iff_along_of {I P : σ → Prop} {G : σ → α → Prop} {H : α → Prop}
    (hI : ∀ s a s', H a → I s → P s → step s a = some s' → P s' → I s')
    (hP : ∀ s a s', H a → I s → P s → step s a = some s' → (P s' ↔ G s a))
    {s : σ} {l : List α} (hl : ∀ a ∈ l, H a) (hs : I s) (hPs : P s) (h : (exec step s l).isSome) :
    (∀ t, Visits step s l t → P t) ↔ Along step G s l := by
  induction l generalizing s with
  | nil =>
    simp only [along_nil, iff_true]
    rintro t ht
    exact visits_nil.mp ht ▸ hPs
  | cons a l ih =>
    obtain ⟨ha, hl⟩ := List.forall_mem_cons.mp hl
    obtain ⟨t, ht⟩ := Option.isSome_iff_exists.mp h
    obtain ⟨s', hs', ht'⟩ := Option.bind_eq_some_iff.mp ht
    have hsome : (exec step s' l).isSome := by simp [ht']
    constructor
    · intro hv
      have hP' : P s' := hv s' (visits_cons.mpr (Or.inr ⟨s', hs', visits_self s' l⟩))
      refine ⟨(hP s a s' ha hs hPs hs').mp hP', fun u hu => ?_⟩
      obtain rfl : s' = u := Option.some.inj (hs'.symm.trans hu)
      exact (ih hl (hI s a s' ha hs hPs hs' hP') hP' hsome).mp fun t ht =>
        hv t (visits_cons.mpr (Or.inr ⟨s', hs', ht⟩))
    · rintro ⟨hG, halong⟩ t hv
      have hP' : P s' := (hP s a s' ha hs hPs hs').mpr hG
      rcases visits_cons.mp hv with rfl | ⟨u, hu, hv'⟩
      · exact hPs
      · obtain rfl : s' = u := Option.some.inj (hs'.symm.trans hu)
        exact (ih hl (hI s a s' ha hs hPs hs' hP') hP' hsome).mpr (halong s' hs') t hv'

/-- The same for runs of any labels. -/
theorem forall_visits_iff_along {I P : σ → Prop} {G : σ → α → Prop}
    (hI : ∀ s a s', I s → P s → step s a = some s' → P s' → I s')
    (hP : ∀ s a s', I s → P s → step s a = some s' → (P s' ↔ G s a))
    {s : σ} {l : List α} (hs : I s) (hPs : P s) (h : (exec step s l).isSome) :
    (∀ t, Visits step s l t → P t) ↔ Along step G s l :=
  forall_visits_iff_along_of (H := fun _ => True) (fun s a s' _ => hI s a s')
    (fun s a s' _ => hP s a s') (fun _ _ => trivial) hs hPs h

/-! ### History variables -/

/-- The value of a history variable after a run: `f s a s' g` is what the step from `s` to `s'`
on the label `a` makes of the value `g`. -/
def history (step : σ → α → Option σ) (f : σ → α → σ → γ → γ) : σ → List α → γ → γ
  | _, [],     g => g
  | s, a :: l, g =>
    match step s a with
    | none    => g
    | some s' => history step f s' l (f s a s' g)

@[simp] lemma history_nil (f : σ → α → σ → γ → γ) (s : σ) (g : γ) :
    history step f s [] g = g := rfl

lemma history_cons {f : σ → α → σ → γ → γ} {s s' : σ} {a : α} {l : List α} {g : γ}
    (h : step s a = some s') :
    history step f s (a :: l) g = history step f s' l (f s a s' g) := by
  simp only [history, h]

/-- An invariant of the state together with a history variable, along a guarded run. -/
theorem invariant_history_along {I : σ → γ → Prop} {G : σ → α → Prop} {f : σ → α → σ → γ → γ}
    (hstep : ∀ s a s' g, I s g → G s a → step s a = some s' → I s' (f s a s' g))
    {s t : σ} {l : List α} {g : γ} (hs : I s g) (hl : Along step G s l)
    (h : exec step s l = some t) : I t (history step f s l g) := by
  induction l generalizing s g with
  | nil =>
    cases h
    exact hs
  | cons a l ih =>
    obtain ⟨s', hs', ht⟩ := Option.bind_eq_some_iff.mp h
    rw [history_cons hs']
    exact ih (hstep s a s' g hs hl.1 hs') (hl.2 s' hs') ht

/-- The same along any run. -/
theorem invariant_history {I : σ → γ → Prop} {f : σ → α → σ → γ → γ}
    (hstep : ∀ s a s' g, I s g → step s a = some s' → I s' (f s a s' g))
    {s t : σ} {l : List α} {g : γ} (hs : I s g) (h : exec step s l = some t) :
    I t (history step f s l g) :=
  invariant_history_along (fun s a s' g hs (_ : True) => hstep s a s' g hs) hs
    (along_of_forall step (fun _ _ => trivial) s) h

/-- Some step of the run has shown `x`; `f` says what a step shows. -/
def Shown (step : σ → α → Option σ) (f : σ → α → Option γ) (s : σ) (l : List α) (x : γ) : Prop :=
  ∃ l₁ a l₂ m, l = l₁ ++ a :: l₂ ∧ exec step s l₁ = some m ∧ f m a = some x

lemma shown_nil {f : σ → α → Option γ} {s : σ} {x : γ} : ¬ Shown step f s [] x := by
  rintro ⟨l₁, a, l₂, m, hl, -, -⟩
  simp at hl

lemma shown_append_singleton {f : σ → α → Option γ} {s m : σ} {l : List α} {a : α} {x : γ}
    (hm : exec step s l = some m) :
    Shown step f s (l ++ [a]) x ↔ Shown step f s l x ∨ f m a = some x := by
  constructor
  · rintro ⟨l₁, b, l₂, m', hl, hm', hx⟩
    rcases List.eq_nil_or_concat l₂ with rfl | ⟨l₃, c, rfl⟩
    · obtain ⟨rfl, hab⟩ := List.append_inj' hl rfl
      obtain rfl := List.singleton_inj.mp hab
      obtain rfl := Option.some.inj (hm.symm.trans hm')
      exact Or.inr hx
    · rw [List.concat_eq_append, ← List.cons_append, ← List.append_assoc] at hl
      exact Or.inl ⟨l₁, b, l₃, m', (List.append_inj' hl rfl).1, hm', hx⟩
  · rintro (⟨l₁, b, l₂, m', rfl, hm', hx⟩ | hx)
    · exact ⟨l₁, b, l₂ ++ [a], m', by simp, hm', hx⟩
    · exact ⟨l, a, [], m, rfl, hm, hx⟩

/-- An invariant of the state together with what the run has shown. -/
theorem invariant_shown {I : σ → (γ → Prop) → Prop} {f : σ → α → Option γ}
    (hstep : ∀ s a s' P, I s P → step s a = some s' → I s' fun x => P x ∨ f s a = some x)
    {s t : σ} {l : List α} (hs : I s fun _ => False) (h : exec step s l = some t) :
    I t (Shown step f s l) := by
  induction l using List.reverseRecOn generalizing t with
  | nil =>
    cases h
    rwa [show Shown step f s [] = fun _ => False from funext fun x => eq_false shown_nil]
  | append_singleton l a ih =>
    obtain ⟨m, hm, ht⟩ := exec_append_eq_some h
    obtain ⟨t', ht', htt⟩ := Option.bind_eq_some_iff.mp ht
    obtain rfl : t' = t := by simpa using htt
    rw [show Shown step f s (l ++ [a]) = fun x => Shown step f s l x ∨ f m a = some x from
      funext fun x => propext (shown_append_singleton hm)]
    exact hstep m a t' _ (ih hm) ht'

/-! ### Systems in which every label is enabled -/

/-- The step function of a system that performs every label. -/
def total (f : σ → α → σ) : σ → α → Option σ := fun s a => some (f s a)

@[simp] lemma total_eq_some {f : σ → α → σ} {s s' : σ} {a : α} :
    total f s a = some s' ↔ f s a = s' := by
  simp [total]

lemma exec_total (f : σ → α → σ) (s : σ) (l : List α) :
    exec (total f) s l = some (l.foldl f s) := by
  induction l generalizing s with
  | nil => rfl
  | cons a l ih => simpa [total] using ih (f s a)

end Run
