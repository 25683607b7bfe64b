import Mathlib.Data.List.Basic
import Mathlib.Tactic.Common

/-!
# Framing of a stream

A framer looks at the front of a buffer and says whether a frame is there. What it has once said
of a buffer stays true when more arrives, so a stream has the same frames however it is cut into
pieces.
-/

/-- What the front of a buffer is: not yet a frame, no frame whatever follows, or a frame of the
given length. -/
inductive FrameHead (π : Type*) where
  | incomplete
  | invalid
  | frame (p : π) (len : ℕ)

structure Framer (β : Type*) (π : Type*) where
  head : List β → FrameHead π
  len_bounds : ∀ {s p n}, head s = .frame p n → 0 < n ∧ n ≤ s.length
  frame_take : ∀ {s p n}, head s = .frame p n → head (s.take n) = .frame p n
  frame_append : ∀ {s p n}, head s = .frame p n → ∀ t, head (s ++ t) = .frame p n
  invalid_append : ∀ {s}, head s = .invalid → ∀ t, head (s ++ t) = .invalid

namespace Framer

variable {β : Type*} {π : Type*} (F : Framer β π)

/-- The frames at the front of a stream, and the bytes after them. -/
def scan (s : List β) : List π × List β :=
  match _h : F.head s with
  | .frame p n => (p :: (scan (s.drop n)).1, (scan (s.drop n)).2)
  | .incomplete => ([], s)
  | .invalid => ([], s)
termination_by s.length
decreasing_by
  all_goals
    have := F.len_bounds _h
    simp only [List.length_drop]
    omega

/-- The complete frames of a stream, up to the first place where no frame can be. -/
def frames (s : List β) : List π := (F.scan s).1

/-- The bytes of a stream after its complete frames. -/
def rest (s : List β) : List β := (F.scan s).2

/-- The stream has no place where no frame can be. -/
def Valid (s : List β) : Prop := F.head (F.rest s) ≠ .invalid

instance (s : List β) : Decidable (F.Valid s) :=
  match h : F.head (F.rest s) with
  | .incomplete => isTrue (by simp [Valid, h])
  | .frame _ _ => isTrue (by simp [Valid, h])
  | .invalid => isFalse (by simp [Valid, h])

variable {F} {s t : List β} {p : π} {n : ℕ}

lemma scan_frame (h : F.head s = .frame p n) :
    F.scan s = (p :: F.frames (s.drop n), F.rest (s.drop n)) := by
  rw [scan]
  split
  next q m hq =>
    obtain ⟨rfl, rfl⟩ := FrameHead.frame.inj (h.symm.trans hq)
    rfl
  next hq => simp [h] at hq
  next hq => simp [h] at hq

lemma scan_of_not_frame (h : ∀ p n, F.head s ≠ .frame p n) : F.scan s = ([], s) := by
  rw [scan]
  split
  next q m hq => exact absurd hq (h q m)
  next => rfl
  next => rfl

lemma frames_frame (h : F.head s = .frame p n) : F.frames s = p :: F.frames (s.drop n) := by
  rw [frames, scan_frame h]

lemma rest_frame (h : F.head s = .frame p n) : F.rest s = F.rest (s.drop n) := by
  rw [rest, scan_frame h]

lemma frames_of_not_frame (h : ∀ p n, F.head s ≠ .frame p n) : F.frames s = [] := by
  rw [frames, scan_of_not_frame h]

lemma rest_of_not_frame (h : ∀ p n, F.head s ≠ .frame p n) : F.rest s = s := by
  rw [rest, scan_of_not_frame h]

lemma valid_frame (h : F.head s = .frame p n) : F.Valid s ↔ F.Valid (s.drop n) := by
  rw [Valid, Valid, rest_frame h]

lemma valid_of_not_frame (h : ∀ p n, F.head s ≠ .frame p n) :
    F.Valid s ↔ F.head s ≠ .invalid := by
  rw [Valid, rest_of_not_frame h]

/-- Induction along the frames of a stream. -/
theorem scan_induction {P : List β → Prop}
    (frame : ∀ s p n, F.head s = .frame p n → P (s.drop n) → P s)
    (stop : ∀ s, (∀ p n, F.head s ≠ .frame p n) → P s) (s : List β) : P s := by
  cases h : F.head s with
  | frame p n => exact frame s p n h (scan_induction frame stop (s.drop n))
  | incomplete => exact stop s (by simp [h])
  | invalid => exact stop s (by simp [h])
termination_by s.length
decreasing_by
  have := F.len_bounds h
  simp only [List.length_drop]
  omega

/-- After the frames there is no frame. -/
lemma head_rest_ne_frame (s : List β) (p : π) (n : ℕ) : F.head (F.rest s) ≠ .frame p n := by
  induction s using F.scan_induction with
  | frame s q m hs ih => rwa [rest_frame hs]
  | stop s hs =>
    rw [rest_of_not_frame hs]
    exact hs p n

lemma frames_rest (s : List β) : F.frames (F.rest s) = [] :=
  frames_of_not_frame (head_rest_ne_frame s)

lemma rest_rest (s : List β) : F.rest (F.rest s) = F.rest s :=
  rest_of_not_frame (head_rest_ne_frame s)

/-- The rest is a suffix: the frames take the bytes before it. -/
lemma rest_suffix (s : List β) : F.rest s <:+ s := by
  induction s using F.scan_induction with
  | frame s p n hs ih =>
    rw [rest_frame hs]
    exact ih.trans (List.drop_suffix n s)
  | stop s hs => exact ⟨[], rest_of_not_frame hs⟩

/-- How many bytes of a stream its complete frames take. -/
def taken (F : Framer β π) (s : List β) : ℕ := s.length - (F.rest s).length

lemma scan_append (s t : List β) :
    F.frames (s ++ t) = F.frames s ++ F.frames (F.rest s ++ t) ∧
      F.rest (s ++ t) = F.rest (F.rest s ++ t) := by
  induction s using F.scan_induction with
  | frame s p n hs ih =>
    have hst := F.frame_append hs t
    have hdrop : (s ++ t).drop n = s.drop n ++ t :=
      List.drop_append_of_le_length (F.len_bounds hs).2
    rw [frames_frame hst, rest_frame hst, frames_frame hs, rest_frame hs, hdrop, ih.1, ih.2]
    exact ⟨rfl, rfl⟩
  | stop s hs =>
    rw [frames_of_not_frame hs, rest_of_not_frame hs]
    exact ⟨rfl, rfl⟩

/-- The frames of a stream that arrives in two pieces. -/
theorem frames_append (s t : List β) : F.frames (s ++ t) = F.frames s ++ F.frames (F.rest s ++ t) :=
  (scan_append s t).1

theorem rest_append (s t : List β) : F.rest (s ++ t) = F.rest (F.rest s ++ t) :=
  (scan_append s t).2

lemma valid_append_rest : F.Valid (F.rest s ++ t) ↔ F.Valid (s ++ t) := by
  rw [Valid, Valid, ← rest_append]

lemma valid_rest : F.Valid (F.rest s) ↔ F.Valid s := by
  rw [Valid, Valid, rest_rest]

/-- Once there is a place where no frame can be, what follows does not matter. -/
lemma frames_append_of_not_valid (h : ¬ F.Valid s) (t : List β) :
    F.frames (s ++ t) = F.frames s ∧ ¬ F.Valid (s ++ t) := by
  have hinv : F.head (F.rest s) = .invalid := not_not.mp h
  have happ : F.head (F.rest s ++ t) = .invalid := F.invalid_append hinv t
  have hno : ∀ p n, F.head (F.rest s ++ t) ≠ .frame p n := by simp [happ]
  constructor
  · rw [frames_append, frames_of_not_frame hno, List.append_nil]
  · rw [Valid, rest_append, rest_of_not_frame hno, happ]
    simp

lemma Valid.of_append (h : F.Valid (s ++ t)) : F.Valid s :=
  by_contra fun hs => (frames_append_of_not_valid hs t).2 h

/-- The front of a single frame is not yet a frame. -/
lemma head_of_front (h : F.head s = .frame p s.length) (ht : t <+: s) (hlt : t.length < s.length) :
    F.head t = .incomplete := by
  obtain ⟨u, rfl⟩ := ht
  cases htt : F.head t with
  | incomplete => rfl
  | invalid => simp [F.invalid_append htt u] at h
  | frame q n =>
    have hn := (F.len_bounds htt).2
    have hlen := (FrameHead.frame.inj ((F.frame_append htt u).symm.trans h)).2
    omega

lemma length_rest_le (s : List β) : (F.rest s).length ≤ s.length := (rest_suffix s).length_le

/-- A stream without a complete frame. -/
lemma frames_eq_nil_iff_taken : F.frames s = [] ↔ F.taken s = 0 := by
  cases h : F.head s with
  | frame p n =>
    have hn := F.len_bounds h
    have hle := F.length_rest_le (s.drop n)
    rw [List.length_drop] at hle
    rw [frames_frame h, taken, rest_frame h]
    refine iff_of_false (List.cons_ne_nil _ _) ?_
    omega
  | incomplete =>
    have hs : ∀ p n, F.head s ≠ .frame p n := by simp [h]
    simp [frames_of_not_frame hs, taken, rest_of_not_frame hs]
  | invalid =>
    have hs : ∀ p n, F.head s ≠ .frame p n := by simp [h]
    simp [frames_of_not_frame hs, taken, rest_of_not_frame hs]

lemma taken_append (s t : List β) : F.taken (s ++ t) = F.taken s + F.taken (F.rest s ++ t) := by
  have h1 := F.length_rest_le s
  have h2 := F.length_rest_le (F.rest s ++ t)
  rw [List.length_append] at h2
  rw [taken, taken, taken, rest_append, List.length_append, List.length_append]
  omega

/-- A frame that is not in the rest of `s` alone ends in the bytes after `s`. -/
lemma frames_rest_append_eq_nil (h : F.taken (F.rest s ++ t) ≤ (F.rest s).length) :
    F.frames (F.rest s ++ t) = [] := by
  cases hh : F.head (F.rest s ++ t) with
  | frame p n =>
    have hn := F.len_bounds hh
    have hle := F.length_rest_le ((F.rest s ++ t).drop n)
    rw [List.length_drop] at hle
    rw [taken, rest_frame hh] at h
    have hns : n ≤ (F.rest s).length := by omega
    -- the frame lies in the rest of `s`, where there is none
    have hr : F.head (F.rest s) = .frame p n := by
      have ht := F.frame_take hh
      rw [List.take_append_of_le_length hns] at ht
      have ha := F.frame_append ht ((F.rest s).drop n)
      rwa [List.take_append_drop] at ha
    exact absurd hr (head_rest_ne_frame s p n)
  | incomplete => exact frames_of_not_frame (by simp [hh])
  | invalid => exact frames_of_not_frame (by simp [hh])

/-- What follows `s` completes no frame exactly if all complete frames end within `s`. -/
theorem frames_append_eq_iff : F.frames (s ++ t) = F.frames s ↔ F.taken (s ++ t) ≤ s.length := by
  have hle := F.length_rest_le s
  rw [frames_append, List.append_right_eq_self, taken_append]
  constructor
  · intro h
    rw [frames_eq_nil_iff_taken.mp h, Nat.add_zero]
    exact Nat.sub_le _ _
  · intro h
    refine frames_rest_append_eq_nil ?_
    have htaken : F.taken s = s.length - (F.rest s).length := rfl
    omega

/-! ### A stream in pieces -/

/-- Feed the pieces one after another to a buffer, scanning after each; `none` once a scan meets a
place where no frame can be. -/
def feed (F : Framer β π) :
    List β → List (List β) → Option (List π × List β)
  | buffer, []            => some ([], buffer)
  | buffer, piece :: more =>
    if F.Valid (buffer ++ piece) then
      (feed F (F.rest (buffer ++ piece)) more).map fun r =>
        (F.frames (buffer ++ piece) ++ r.1, r.2)
    else none

/-- Cutting a stream into pieces changes nothing. -/
theorem feed_eq (pieces : List (List β)) {buffer : List β}
    (hb : F.rest buffer = buffer) (hv : F.Valid buffer) :
    F.feed buffer pieces =
      if F.Valid (buffer ++ pieces.flatten) then
        some (F.frames (buffer ++ pieces.flatten), F.rest (buffer ++ pieces.flatten))
      else none := by
  induction pieces generalizing buffer with
  | nil =>
    have hf : F.frames buffer = [] := by
      rw [← hb]
      exact frames_rest buffer
    simp only [feed, List.flatten_nil, List.append_nil, hv, if_true, hf, hb]
  | cons piece more ih =>
    simp only [feed, List.flatten_cons, ← List.append_assoc]
    by_cases hp : F.Valid (buffer ++ piece)
    · rw [if_pos hp, ih (rest_rest _) (valid_rest.mpr hp), frames_append (buffer ++ piece),
        rest_append (buffer ++ piece)]
      simp only [valid_append_rest]
      split_ifs
      · rfl
      · rfl
    · rw [if_neg hp, if_neg (frames_append_of_not_valid hp _).2]

end Framer
