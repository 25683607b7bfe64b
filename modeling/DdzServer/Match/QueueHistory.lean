import DdzServer.Match.MatchManager
import Mathlib.Data.List.Induction
import Mathlib.Data.List.Nodup
import Mathlib.Data.List.Pairwise
import Mathlib.Tactic.Common

/-!
# The match queues over whole histories

Any calls to the manager, one after the other, starting with empty queues. Who entered and who left
is read off the answers of the calls; the queues and the index are then a function of the history.
-/

namespace DdzServer

open UnorderedMap

inductive QueueCall where
  | join (player : MatchPlayer)
  | cancel (playerId : ℤ)
  | tryPopMatchedPlayers (mode : ℤ)
  | popTimeoutPlayers (nowMs timeoutMs : ℤ)

namespace MatchManager

variable {m m' : MatchManager} {gone : List ℤ} {call : QueueCall}

/-- The manager after a call. -/
def after (m : MatchManager) : QueueCall → MatchManager
  | .join player                      => (m.join player).1
  | .cancel playerId                  => (m.cancel playerId).1
  | .tryPopMatchedPlayers mode        => (m.tryPopMatchedPlayers mode).1
  | .popTimeoutPlayers nowMs timeoutMs => (m.popTimeoutPlayers nowMs timeoutMs).1

/-- Who entered a queue, by the answer of the call. -/
def entering (m : MatchManager) : QueueCall → Option MatchPlayer
  | .join player => if (m.join player).2 then some player else none
  | _            => none

/-- Who left a queue, by the answer of the call. -/
def leaving (m : MatchManager) : QueueCall → List ℤ
  | .join _                            => []
  | .cancel playerId                   => if (m.cancel playerId).2 then [playerId] else []
  | .tryPopMatchedPlayers mode         => (m.tryPopMatchedPlayers mode).2.getD []
  | .popTimeoutPlayers nowMs timeoutMs =>
    (m.popTimeoutPlayers nowMs timeoutMs).2.map MatchPlayer.playerId

/-- The queue of a mode; empty for the modes that do not exist. -/
def queueOf (m : MatchManager) (mode : ℤ) : List MatchPlayer := (m.queueByMode mode).getD []

lemma queueOf_of_some {mode : ℤ} {q : List MatchPlayer} (h : m.queueByMode mode = some q) :
    m.queueOf mode = q := by simp [queueOf, h]

lemma queueOf_index (m : MatchManager) (index : UnorderedMap ℤ ℤ) (mode : ℤ) :
    queueOf { m with matchingIndex := index } mode = m.queueOf mode := rfl

lemma queueOf_setQueue {mode : ℤ} {q : List MatchPlayer} (h : m.queueByMode mode = some q)
    (q' : List MatchPlayer) (mode' : ℤ) :
    (m.setQueue mode q').queueOf mode' = if mode' = mode then q' else m.queueOf mode' := by
  by_cases h3 : mode = 3
  · subst h3
    by_cases hm : mode' = 3
    · simp [hm, queueOf, setQueue, queueByMode]
    · simp [hm, queueOf, setQueue, queueByMode]
  · by_cases h4 : mode = 4
    · subst h4
      by_cases hm : mode' = 4
      · simp [hm, queueOf, setQueue, queueByMode]
      · simp [hm, queueOf, setQueue, queueByMode]
    · simp [queueByMode, h3, h4] at h

/-! ### A consistent manager -/

/-- Nobody waits twice, everybody waits for his mode, and the index tells who waits where. -/
structure Consistent (m : MatchManager) : Prop where
  nodup : ((m.queueThree ++ m.queueFour).map MatchPlayer.playerId).Nodup
  mode : ∀ mode, ∀ q ∈ m.queueOf mode, q.mode = mode
  index : ∀ p mode, m.matchingIndex.lookup p = some mode ↔
    p ∈ (m.queueOf mode).map MatchPlayer.playerId

lemma consistent_empty : Consistent {} := by
  have hqueue : ∀ mode, queueOf {} mode = [] := by
    intro mode
    simp only [queueOf, queueByMode]
    split_ifs
    · rfl
    · rfl
    · rfl
  refine ⟨List.nodup_nil, fun mode q hq => ?_, fun p mode => ?_⟩
  · rw [hqueue] at hq
    cases hq
  · simp [hqueue]

lemma Consistent.nodup_queueOf (h : m.Consistent) (mode : ℤ) :
    ((m.queueOf mode).map MatchPlayer.playerId).Nodup := by
  have hnodup := h.nodup
  rw [List.map_append] at hnodup
  simp only [queueOf, queueByMode]
  split_ifs
  · exact hnodup.of_append_left
  · exact hnodup.of_append_right
  · exact List.nodup_nil

/-- A player waits for one mode only. -/
lemma Consistent.mode_unique (h : m.Consistent) {p mode mode' : ℤ}
    (hp : p ∈ (m.queueOf mode).map MatchPlayer.playerId)
    (hp' : p ∈ (m.queueOf mode').map MatchPlayer.playerId) : mode' = mode := by
  rw [← h.index] at hp hp'
  exact Option.some.inj (hp'.symm.trans hp)

/-! ### Calls that take players out -/

/-- The players in `gone` are taken out, the order of the others is kept. -/
structure Removed (m : MatchManager) (gone : List ℤ) (m' : MatchManager) : Prop where
  queue : ∀ mode, m'.queueOf mode = (m.queueOf mode).filter fun q => q.playerId ∉ gone
  index : ∀ p, m'.matchingIndex.lookup p =
    if p ∈ gone then none else m.matchingIndex.lookup p

lemma Removed.refl (m : MatchManager) : Removed m [] m := ⟨fun _ => by simp, fun _ => by simp⟩

/-- Taking players out of one queue. -/
lemma Consistent.removed_setQueue (h : m.Consistent) {mode : ℤ} {q q' : List MatchPlayer}
    {index : UnorderedMap ℤ ℤ} (hq : m.queueByMode mode = some q)
    (hgone : ∀ p ∈ gone, p ∈ q.map MatchPlayer.playerId)
    (hq' : q' = q.filter fun x => x.playerId ∉ gone)
    (hindex : ∀ p, index.lookup p = if p ∈ gone then none else m.matchingIndex.lookup p) :
    Removed m gone { m.setQueue mode q' with matchingIndex := index } := by
  refine ⟨fun mode' => ?_, hindex⟩
  rw [queueOf_index, queueOf_setQueue hq]
  have hqueue := queueOf_of_some hq
  split_ifs with hm
  · rw [hm, hqueue, hq']
  · -- nobody who is taken out waits for another mode
    symm
    rw [List.filter_eq_self]
    intro x hx
    rw [decide_eq_true_eq]
    intro hmem
    refine hm (h.mode_unique (p := x.playerId) ?_ (List.mem_map_of_mem hx))
    rw [hqueue]
    exact hgone _ hmem

lemma Consistent.cancel (h : m.Consistent) (playerId : ℤ) :
    Removed m (m.leaving (.cancel playerId)) (m.after (.cancel playerId)) := by
  cases hidx : m.matchingIndex.lookup playerId with
  | none =>
    have hcancel : m.cancel playerId = (m, false) := by simp [MatchManager.cancel, hidx]
    simp only [leaving, after, hcancel]
    exact .refl m
  | some mode =>
    have hmem := (h.index playerId mode).mp hidx
    cases hq : m.queueByMode mode with
    | none => simp [queueOf, hq] at hmem
    | some q =>
      have hcancel : m.cancel playerId =
          ({ m.setQueue mode (q.filter fun p => p.playerId ≠ playerId) with
            matchingIndex := Finmap.erase playerId m.matchingIndex }, true) := by
        simp [MatchManager.cancel, hidx, hq]
      rw [queueOf_of_some hq] at hmem
      simp only [leaving, after, hcancel, if_true]
      refine h.removed_setQueue hq (by simpa using hmem) (by simp) fun p => ?_
      simp [lookup_erase]

/-- With distinct keys, dropping the first is keeping those with other keys. -/
lemma filter_eq_drop {α β : Type} [DecidableEq β] {f : α → β} {l : List α} (n : ℕ)
    (h : (l.map f).Nodup) : (l.filter fun x => f x ∉ (l.take n).map f) = l.drop n := by
  have hsplit := List.take_append_drop n l
  rw [← hsplit, List.map_append, List.nodup_append'] at h
  conv_lhs => rw [← hsplit]
  rw [List.filter_append, List.filter_eq_nil_iff.mpr, List.nil_append, List.filter_eq_self]
  · intro x hx
    rw [decide_eq_true_eq, hsplit]
    exact fun hmem => h.2.2 hmem (List.mem_map_of_mem hx)
  · intro x hx
    simp only [decide_eq_true_eq, not_not, hsplit]
    exact List.mem_map_of_mem hx

lemma Consistent.tryPopMatchedPlayers (h : m.Consistent) (mode : ℤ) :
    Removed m (m.leaving (.tryPopMatchedPlayers mode)) (m.after (.tryPopMatchedPlayers mode)) := by
  simp only [leaving, after, MatchManager.tryPopMatchedPlayers]
  cases hq : m.queueByMode mode with
  | none => exact .refl m
  | some q =>
    simp only
    split_ifs with hneed
    · exact .refl m
    · have hnodup := h.nodup_queueOf mode
      rw [queueOf_of_some hq] at hnodup
      refine h.removed_setQueue hq (fun p hp => ?_) (filter_eq_drop _ hnodup).symm
        fun p => lookup_foldl_erase _ _ p
      exact List.map_subset _ (List.take_subset _ _) hp

lemma Consistent.popTimeoutPlayers (h : m.Consistent) (nowMs timeoutMs : ℤ) :
    Removed m (m.leaving (.popTimeoutPlayers nowMs timeoutMs))
      (m.after (.popTimeoutPlayers nowMs timeoutMs)) := by
  simp only [leaving, after, MatchManager.popTimeoutPlayers]
  split_ifs with ht
  · exact .refl m
  · -- a player is taken out exactly if his entry is late, as he has one entry only
    have hlate : ∀ q ∈ m.queueThree ++ m.queueFour, ¬ isTimedOut nowMs timeoutMs q ↔
        q.playerId ∉ (m.queueThree.filter (isTimedOut nowMs timeoutMs) ++
          m.queueFour.filter (isTimedOut nowMs timeoutMs)).map MatchPlayer.playerId := by
      intro q hq
      rw [← List.filter_append, not_iff_not]
      constructor
      · intro hq'
        exact List.mem_map_of_mem (List.mem_filter.mpr ⟨hq, hq'⟩)
      · intro hmem
        obtain ⟨q', hq', heq⟩ := List.mem_map.mp hmem
        obtain ⟨hmem', hlate'⟩ := List.mem_filter.mp hq'
        rwa [← List.inj_on_of_nodup_map h.nodup hmem' hq heq]
    refine ⟨fun mode => ?_, fun p => lookup_foldl_erase _ _ p⟩
    simp only [queueOf, queueByMode]
    split_ifs
    · refine List.filter_congr fun q hq => decide_eq_decide.mpr (hlate q ?_)
      exact List.mem_append_left _ hq
    · refine List.filter_congr fun q hq => decide_eq_decide.mpr (hlate q ?_)
      exact List.mem_append_right _ hq
    · rfl

/-- Every call but a join that succeeds only takes out those who leave. -/
lemma Consistent.removed (h : m.Consistent) (hcall : m.entering call = none) :
    Removed m (m.leaving call) (m.after call) := by
  cases call with
  | join player =>
    have hrefused : (m.join player).1 = m := by
      simp only [entering] at hcall
      split_ifs at hcall with hjoined
      revert hjoined
      unfold MatchManager.join
      split_ifs
      · exact fun _ => rfl
      · cases m.queueByMode player.mode with
        | none => exact fun _ => rfl
        | some q => exact fun hnot => absurd rfl hnot
    simp only [after, hrefused]
    exact .refl m
  | cancel playerId => exact h.cancel playerId
  | tryPopMatchedPlayers mode => exact h.tryPopMatchedPlayers mode
  | popTimeoutPlayers nowMs timeoutMs => exact h.popTimeoutPlayers nowMs timeoutMs

lemma Removed.consistent (h : Removed m gone m') (hm : m.Consistent) : m'.Consistent := by
  have hthree : m'.queueThree = _ := h.queue 3
  have hfour : m'.queueFour = _ := h.queue 4
  refine ⟨?_, fun mode q hq => ?_, fun p mode => ?_⟩
  · rw [hthree, hfour]
    refine ((List.Sublist.append ?_ ?_).map _).nodup hm.nodup
    · exact List.filter_sublist
    · exact List.filter_sublist
  · rw [h.queue] at hq
    exact hm.mode mode q (List.mem_of_mem_filter hq)
  · rw [h.index, h.queue]
    by_cases hp : p ∈ gone
    · rw [if_pos hp]
      constructor
      · intro hnone
        cases hnone
      · intro hmem
        obtain ⟨q, hq, rfl⟩ := List.mem_map.mp hmem
        simp [hp] at hq
    · rw [if_neg hp, hm.index]
      simp only [List.mem_map, List.mem_filter, decide_eq_true_eq]
      constructor
      · rintro ⟨q, hq, rfl⟩
        exact ⟨q, ⟨hq, hp⟩, rfl⟩
      · rintro ⟨q, ⟨hq, -⟩, rfl⟩
        exact ⟨q, hq, rfl⟩

/-! ### Calls that let a player in -/

/-- The player is put at the end of the queue of his mode. -/
structure Entered (m : MatchManager) (player : MatchPlayer) (m' : MatchManager) : Prop where
  free : m.matchingIndex.lookup player.playerId = none
  queue : ∀ mode, m'.queueOf mode =
    m.queueOf mode ++ if mode = player.mode then [player] else []
  index : ∀ p, m'.matchingIndex.lookup p =
    if p = player.playerId then some player.mode else m.matchingIndex.lookup p

lemma entered_of_entering {player : MatchPlayer} (hcall : m.entering call = some player) :
    Entered m player (m.after call) ∧ m.leaving call = [] := by
  cases call with
  | join player' =>
    simp only [entering] at hcall
    split_ifs at hcall with hjoined
    obtain rfl := Option.some.inj hcall
    refine ⟨?_, rfl⟩
    revert hjoined
    simp only [after, MatchManager.join]
    split_ifs with hidx
    · exact fun hfalse => absurd hfalse id
    · cases hq : m.queueByMode player'.mode with
      | none => exact fun hfalse => absurd hfalse Bool.false_ne_true
      | some q =>
        refine fun _ => ⟨not_not.mp hidx, fun mode => ?_, fun p => lookup_insert _ _ _ _⟩
        rw [queueOf_index, queueOf_setQueue hq]
        split_ifs with hmode
        · rw [hmode, queueOf_of_some hq]
        · rw [List.append_nil]
  | cancel playerId => cases hcall
  | tryPopMatchedPlayers mode => cases hcall
  | popTimeoutPlayers nowMs timeoutMs => cases hcall

lemma Entered.consistent {player : MatchPlayer} (h : Entered m player m') (hm : m.Consistent) :
    m'.Consistent := by
  have hfree : ∀ mode, player.playerId ∉ (m.queueOf mode).map MatchPlayer.playerId := by
    intro mode hmem
    rw [← hm.index, h.free] at hmem
    cases hmem
  refine ⟨?_, fun mode q hq => ?_, fun p mode => ?_⟩
  · have hthree : m'.queueThree = _ := h.queue 3
    have hfour : m'.queueFour = _ := h.queue 4
    have hperm : ∀ a b : List MatchPlayer, (a ++ [player] ++ b).Perm (player :: (a ++ b)) ∧
        (a ++ (b ++ [player])).Perm (player :: (a ++ b)) := by
      refine fun a b => ⟨?_, ?_⟩
      · rw [List.append_assoc]
        exact List.perm_middle
      · rw [← List.append_assoc]
        exact List.perm_append_singleton _ _
    have hcons : ((player :: (m.queueThree ++ m.queueFour)).map MatchPlayer.playerId).Nodup := by
      refine List.nodup_cons.mpr ⟨fun hmem => ?_, hm.nodup⟩
      rw [List.map_append] at hmem
      rcases List.mem_append.mp hmem with h3 | h4
      · exact hfree 3 h3
      · exact hfree 4 h4
    have hold : m.queueOf 3 = m.queueThree ∧ m.queueOf 4 = m.queueFour := ⟨rfl, rfl⟩
    rw [hthree, hfour, hold.1, hold.2]
    split_ifs with h3 h4
    · rw [← h3] at h4
      cases h4
    · rw [List.append_nil]
      exact ((hperm _ _).1.map _).nodup_iff.mpr hcons
    · rw [List.append_nil]
      exact ((hperm _ _).2.map _).nodup_iff.mpr hcons
    · rw [List.append_nil, List.append_nil]
      exact hm.nodup
  · rw [h.queue, List.mem_append] at hq
    rcases hq with hq | hq
    · exact hm.mode mode q hq
    · split_ifs at hq with hmode
      · rw [List.mem_singleton.mp hq, hmode]
      · cases hq
  · rw [h.index, h.queue, List.map_append, List.mem_append]
    by_cases hp : p = player.playerId
    · rw [if_pos hp, hp]
      split_ifs with hmode
      · simp [hmode]
      · simp only [Option.some.injEq, List.map_nil, List.not_mem_nil, or_false]
        exact ⟨fun heq => absurd heq.symm hmode, fun hmem => absurd hmem (hfree mode)⟩
    · rw [if_neg hp, hm.index]
      split_ifs
      · simp [hp]
      · simp

lemma Consistent.after (h : m.Consistent) (call : QueueCall) : (m.after call).Consistent := by
  cases hcall : m.entering call with
  | none => exact (h.removed hcall).consistent h
  | some player => exact (entered_of_entering hcall).1.consistent h

/-- Whoever leaves was waiting. -/
lemma Consistent.mem_of_leaving (h : m.Consistent) {p : ℤ} (hp : p ∈ m.leaving call) :
    ∃ mode, ∃ q ∈ m.queueOf mode, q.playerId = p := by
  cases call with
  | join player => cases hp
  | cancel playerId =>
    simp only [leaving] at hp
    split_ifs at hp with hcancel
    · obtain rfl := List.mem_singleton.mp hp
      cases hidx : m.matchingIndex.lookup p with
      | none => simp [MatchManager.cancel, hidx] at hcancel
      | some mode => exact ⟨mode, List.mem_map.mp ((h.index p mode).mp hidx)⟩
    · cases hp
  | tryPopMatchedPlayers mode =>
    simp only [leaving, MatchManager.tryPopMatchedPlayers] at hp
    cases hq : m.queueByMode mode with
    | none => simp [hq] at hp
    | some l =>
      simp only [hq] at hp
      split_ifs at hp
      · cases hp
      · obtain ⟨q, hmem, rfl⟩ := List.mem_map.mp hp
        refine ⟨mode, q, ?_, rfl⟩
        rw [queueOf_of_some hq]
        exact List.mem_of_mem_take hmem
  | popTimeoutPlayers nowMs timeoutMs =>
    simp only [leaving, MatchManager.popTimeoutPlayers] at hp
    split_ifs at hp
    · cases hp
    · obtain ⟨q, hmem, rfl⟩ := List.mem_map.mp hp
      rcases List.mem_append.mp hmem with h3 | h4
      · exact ⟨3, q, List.mem_of_mem_filter h3, rfl⟩
      · exact ⟨4, q, List.mem_of_mem_filter h4, rfl⟩

/-! ### Histories -/

/-- The manager after some calls. -/
def run (calls : List QueueCall) : MatchManager := calls.foldl after {}

variable {calls : List QueueCall} {i j : ℕ} {player : MatchPlayer}

@[simp] lemma run_concat (calls : List QueueCall) (call : QueueCall) :
    run (calls ++ [call]) = (run calls).after call := by simp [run]

lemma consistent_run (calls : List QueueCall) : (run calls).Consistent := by
  induction calls using List.reverseRecOn with
  | nil => exact consistent_empty
  | append_singleton calls call ih =>
    rw [run_concat]
    exact ih.after call

/-- The `i`-th call let the player in. -/
def JoinsAt (calls : List QueueCall) (i : ℕ) (player : MatchPlayer) : Prop :=
  ∃ call, calls[i]? = some call ∧ (run (calls.take i)).entering call = some player

/-- Who left in the `j`-th call. -/
def leavingAt (calls : List QueueCall) (j : ℕ) : List ℤ :=
  (calls[j]?.map (run (calls.take j)).leaving).getD []

/-- The player who joined in the `i`-th call has not left since. -/
def StillQueued (calls : List QueueCall) (i : ℕ) (player : MatchPlayer) : Prop :=
  JoinsAt calls i player ∧ ∀ j, i < j → player.playerId ∉ leavingAt calls j

/-- The player who joined in the `i`-th call left in the `j`-th, before he joined once more. -/
def LeavesAt (calls : List QueueCall) (i j : ℕ) (player : MatchPlayer) : Prop :=
  i < j ∧ player.playerId ∈ leavingAt calls j ∧
    ∀ k player', i < k → k < j → JoinsAt calls k player' → player'.playerId ≠ player.playerId

lemma JoinsAt.lt (h : JoinsAt calls i player) : i < calls.length := by
  obtain ⟨call, hcall, -⟩ := h
  exact (List.getElem?_eq_some_iff.mp hcall).1

lemma lt_of_mem_leavingAt {p : ℤ} (h : p ∈ leavingAt calls j) : j < calls.length := by
  by_contra hj
  rw [leavingAt, List.getElem?_eq_none (not_lt.mp hj)] at h
  cases h

lemma joinsAt_append (calls' : List QueueCall) (hi : i < calls.length) :
    JoinsAt (calls ++ calls') i player ↔ JoinsAt calls i player := by
  rw [JoinsAt, JoinsAt, List.getElem?_append_left hi, List.take_append_of_le_length hi.le]

lemma leavingAt_append (calls' : List QueueCall) (hj : j < calls.length) :
    leavingAt (calls ++ calls') j = leavingAt calls j := by
  rw [leavingAt, leavingAt, List.getElem?_append_left hj, List.take_append_of_le_length hj.le]

lemma joinsAt_length (calls : List QueueCall) (call : QueueCall) :
    JoinsAt (calls ++ [call]) calls.length player ↔ (run calls).entering call = some player := by
  simp [JoinsAt]

lemma leavingAt_length (calls : List QueueCall) (call : QueueCall) :
    leavingAt (calls ++ [call]) calls.length = (run calls).leaving call := by
  simp [leavingAt]

/-- Who is still queued after one more call. -/
lemma stillQueued_concat (calls : List QueueCall) (call : QueueCall) :
    StillQueued (calls ++ [call]) i player ↔
      (StillQueued calls i player ∧ player.playerId ∉ (run calls).leaving call) ∨
        (i = calls.length ∧ (run calls).entering call = some player) := by
  constructor
  · rintro ⟨hjoin, hstay⟩
    have hlt : i < calls.length + 1 := by simpa using hjoin.lt
    rcases Nat.lt_succ_iff_lt_or_eq.mp hlt with hi | rfl
    · refine Or.inl ⟨⟨(joinsAt_append [call] hi).mp hjoin, fun j hj hmem => ?_⟩, fun hmem => ?_⟩
      · refine hstay j hj ?_
        rwa [leavingAt_append _ (lt_of_mem_leavingAt hmem)]
      · refine hstay calls.length hi ?_
        rwa [leavingAt_length]
    · exact Or.inr ⟨rfl, (joinsAt_length calls call).mp hjoin⟩
  · rintro (⟨⟨hjoin, hstay⟩, hnot⟩ | ⟨rfl, henter⟩)
    · refine ⟨(joinsAt_append _ hjoin.lt).mpr hjoin, fun j hj hmem => ?_⟩
      have hlt : j < calls.length + 1 := by simpa using lt_of_mem_leavingAt hmem
      rcases Nat.lt_succ_iff_lt_or_eq.mp hlt with hj' | rfl
      · rw [leavingAt_append _ hj'] at hmem
        exact hstay j hj hmem
      · rw [leavingAt_length] at hmem
        exact hnot hmem
    · refine ⟨(joinsAt_length calls call).mpr henter, fun j hj hmem => ?_⟩
      have hlt : j < calls.length + 1 := by simpa using lt_of_mem_leavingAt hmem
      omega

/-- The joins for a mode whose players are still queued, in the order of the joins. -/
structure InJoinOrder (calls : List QueueCall) (mode : ℤ) (joins : List (ℕ × MatchPlayer)) :
    Prop where
  sorted : joins.Pairwise fun a b => a.1 < b.1
  mem : ∀ i player, (i, player) ∈ joins ↔ StillQueued calls i player ∧ player.mode = mode

/-- A queue has the joins whose players are still queued, in their order. -/
theorem queueOf_run (calls : List QueueCall) (mode : ℤ) :
    ∃ joins, InJoinOrder calls mode joins ∧ (run calls).queueOf mode = joins.map Prod.snd := by
  induction calls using List.reverseRecOn with
  | nil =>
    refine ⟨[], ⟨List.Pairwise.nil, fun i player => ?_⟩, ?_⟩
    · simp [StillQueued, JoinsAt]
    · simp only [queueOf, queueByMode]
      split_ifs
      · rfl
      · rfl
      · rfl
  | append_singleton calls call ih =>
    obtain ⟨joins, horder, hqueue⟩ := ih
    rw [run_concat]
    cases hcall : (run calls).entering call with
    | none =>
      have hremoved := (consistent_run calls).removed hcall
      refine ⟨joins.filter fun x => x.2.playerId ∉ (run calls).leaving call,
        ⟨horder.sorted.filter _, fun i player => ?_⟩, ?_⟩
      · simp only [List.mem_filter, horder.mem, decide_eq_true_eq, stillQueued_concat, hcall]
        simp only [reduceCtorEq, and_false, or_false]
        rw [and_right_comm]
      · rw [hremoved.queue, hqueue, List.filter_map]
        rfl
    | some player =>
      obtain ⟨hentered, hnobody⟩ := entered_of_entering hcall
      refine ⟨joins ++ if mode = player.mode then [(calls.length, player)] else [],
        ⟨?_, fun i player' => ?_⟩, ?_⟩
      · rw [List.pairwise_append]
        refine ⟨horder.sorted, ?_, fun a ha b hb => ?_⟩
        · split_ifs
          · exact List.pairwise_singleton _ _
          · exact List.Pairwise.nil
        · split_ifs at hb
          · rw [List.mem_singleton.mp hb]
            exact ((horder.mem a.1 a.2).mp ha).1.1.lt
          · cases hb
      · rw [List.mem_append, horder.mem, stillQueued_concat, hnobody, hcall]
        simp only [List.not_mem_nil, not_false_eq_true, and_true, Option.some.injEq, or_and_right]
        refine or_congr_right ?_
        split_ifs with hmode
        · rw [List.mem_singleton, Prod.mk.injEq]
          constructor
          · rintro ⟨rfl, rfl⟩
            exact ⟨⟨rfl, rfl⟩, hmode.symm⟩
          · rintro ⟨⟨rfl, rfl⟩, -⟩
            exact ⟨rfl, rfl⟩
        · constructor
          · intro hmem
            cases hmem
          · rintro ⟨⟨-, rfl⟩, hmode'⟩
            exact absurd hmode'.symm hmode
      · rw [hentered.queue, hqueue, List.map_append]
        split_ifs
        · rfl
        · rfl

/-! ### Every join is left once -/

lemma joinsAt_take {k : ℕ} (hik : i < k) :
    JoinsAt (calls.take k) i player ↔ JoinsAt calls i player := by
  rw [JoinsAt, JoinsAt, List.getElem?_take_of_lt hik, List.take_take, min_eq_left hik.le]

lemma leavingAt_take {k : ℕ} (hjk : j < k) : leavingAt (calls.take k) j = leavingAt calls j := by
  rw [leavingAt, leavingAt, List.getElem?_take_of_lt hjk, List.take_take, min_eq_left hjk.le]

/-- Who leaves a queue joined it before, and has not left since. -/
lemma stillQueued_of_mem_leavingAt {p : ℤ} (hp : p ∈ leavingAt calls j) :
    ∃ i player, StillQueued (calls.take j) i player ∧ player.playerId = p := by
  have hj := lt_of_mem_leavingAt hp
  rw [leavingAt, List.getElem?_eq_getElem hj] at hp
  obtain ⟨mode, q, hq, hqp⟩ := (consistent_run (calls.take j)).mem_of_leaving hp
  obtain ⟨joins, horder, hqueue⟩ := queueOf_run (calls.take j) mode
  rw [hqueue] at hq
  obtain ⟨⟨i, player⟩, hmem, rfl⟩ := List.mem_map.mp hq
  exact ⟨i, player, ((horder.mem i player).mp hmem).1, hqp⟩

/-- Nobody joins who is still queued. -/
lemma StillQueued.playerId_ne {player' : MatchPlayer} (h : StillQueued (calls.take j) i player)
    (hjoin : JoinsAt calls j player') : player'.playerId ≠ player.playerId := by
  obtain ⟨call, -, hcall⟩ := hjoin
  intro heq
  have hfree := (entered_of_entering hcall).1.free
  obtain ⟨joins, horder, hqueue⟩ := queueOf_run (calls.take j) player.mode
  have hmem : player.playerId ∈
      ((run (calls.take j)).queueOf player.mode).map MatchPlayer.playerId := by
    rw [hqueue, List.map_map]
    exact List.mem_map.mpr ⟨(i, player), (horder.mem i player).mpr ⟨h, rfl⟩, rfl⟩
  rw [← (consistent_run _).index, ← heq, hfree] at hmem
  cases hmem

/-- A call that lets a player in takes nobody out. -/
lemma JoinsAt.leavingAt_eq_nil (h : JoinsAt calls i player) : leavingAt calls i = [] := by
  obtain ⟨call, hcall, henter⟩ := h
  rw [leavingAt, hcall]
  exact (entered_of_entering henter).2

lemma LeavesAt.not_lt {j' : ℕ} (h : LeavesAt calls i j player) (h' : LeavesAt calls i j' player) :
    ¬ j < j' := by
  intro hlt
  obtain ⟨k, player', hqueued, hp⟩ := stillQueued_of_mem_leavingAt h'.2.1
  have hk : k < j' := by
    have := hqueued.1.lt
    rw [List.length_take] at this
    exact lt_of_lt_of_le this (min_le_left _ _)
  have hjoin : JoinsAt calls k player' := (joinsAt_take hk).mp hqueued.1
  -- the join that the second leave belongs to came after the first leave
  rcases lt_trichotomy k j with hkj | rfl | hjk
  · refine hqueued.2 j hkj ?_
    rw [leavingAt_take hlt, hp]
    exact h.2.1
  · rw [LeavesAt, hjoin.leavingAt_eq_nil] at h
    exact absurd h.2.1 List.not_mem_nil
  · exact h'.2.2 k player' (h.1.trans hjk) hk hjoin hp

/-- A player who joined is still queued, or he left in exactly one call. -/
lemma JoinsAt.stillQueued_or_leavesAt (h : JoinsAt calls i player) :
    StillQueued calls i player ∨ ∃! j, LeavesAt calls i j player := by
  by_cases hstay : StillQueued calls i player
  · exact Or.inl hstay
  · have hleft : ∃ j, i < j ∧ player.playerId ∈ leavingAt calls j := by
      by_contra hnone
      exact hstay ⟨h, fun j hj hmem => hnone ⟨j, hj, hmem⟩⟩
    classical
    -- the first time he leaves
    have hfirst := Nat.find_spec hleft
    have hleaves : LeavesAt calls i (Nat.find hleft) player := by
      refine ⟨hfirst.1, hfirst.2, fun k player' hik hk hjoin => ?_⟩
      have hqueued : StillQueued (calls.take k) i player := by
        refine ⟨(joinsAt_take hik).mpr h, fun j hj hmem => ?_⟩
        have hjk : j < k := by
          have := lt_of_mem_leavingAt hmem
          rw [List.length_take] at this
          exact lt_of_lt_of_le this (min_le_left _ _)
        rw [leavingAt_take hjk] at hmem
        exact Nat.find_min hleft (hjk.trans hk) ⟨hj, hmem⟩
      exact hqueued.playerId_ne hjoin
    refine Or.inr ⟨_, hleaves, fun j hj => ?_⟩
    exact le_antisymm (not_lt.mp (hleaves.not_lt hj)) (not_lt.mp (hj.not_lt hleaves))

lemma Consistent.nodup_leaving (h : m.Consistent) (call : QueueCall) : (m.leaving call).Nodup := by
  cases call with
  | join player => exact List.nodup_nil
  | cancel playerId =>
    simp only [leaving]
    split_ifs
    · exact List.nodup_singleton _
    · exact List.nodup_nil
  | tryPopMatchedPlayers mode =>
    simp only [leaving, MatchManager.tryPopMatchedPlayers]
    cases hq : m.queueByMode mode with
    | none => exact List.nodup_nil
    | some q =>
      have hnodup := h.nodup_queueOf mode
      rw [queueOf_of_some hq] at hnodup
      simp only
      split_ifs
      · exact List.nodup_nil
      · exact ((List.take_sublist _ _).map _).nodup hnodup
  | popTimeoutPlayers nowMs timeoutMs =>
    simp only [leaving, MatchManager.popTimeoutPlayers]
    split_ifs
    · exact List.nodup_nil
    · rw [← List.filter_append]
      exact (List.filter_sublist.map _).nodup h.nodup

lemma nodup_leavingAt (calls : List QueueCall) (j : ℕ) : (leavingAt calls j).Nodup := by
  rw [leavingAt]
  cases calls[j]? with
  | none => exact List.nodup_nil
  | some call => exact (consistent_run _).nodup_leaving call

/-! ### The integrity of the queues -/

/-- The player is once in the queue of the mode, and in no other. -/
def OccursOnlyIn (m : MatchManager) (p mode : ℤ) : Prop :=
  ((m.queueOf mode).map MatchPlayer.playerId).count p = 1 ∧
    ∀ mode', mode' ≠ mode → p ∉ (m.queueOf mode').map MatchPlayer.playerId

lemma Consistent.index_iff (h : m.Consistent) (p mode : ℤ) :
    m.matchingIndex.lookup p = some mode ↔ OccursOnlyIn m p mode := by
  rw [h.index]
  constructor
  · intro hmem
    refine ⟨List.count_eq_one_of_mem (h.nodup_queueOf mode) hmem, fun mode' hne hmem' => ?_⟩
    exact hne (h.mode_unique hmem hmem')
  · intro honly
    exact List.count_pos_iff.mp (honly.1 ▸ Nat.one_pos)

/-- An entry that `PopTimeoutPlayers` takes out. -/
def Late (nowMs timeoutMs : ℤ) (q : MatchPlayer) : Prop :=
  0 < timeoutMs ∧ timeoutMs ≤ nowMs - q.joinTimeMs

instance (nowMs timeoutMs : ℤ) (q : MatchPlayer) : Decidable (Late nowMs timeoutMs q) :=
  inferInstanceAs (Decidable (_ ∧ _))

lemma popTimeoutPlayers_spec (m : MatchManager) (nowMs timeoutMs : ℤ) :
    (m.popTimeoutPlayers nowMs timeoutMs).2 =
        (m.queueThree ++ m.queueFour).filter (fun q => Late nowMs timeoutMs q) ∧
      ∀ mode, (m.popTimeoutPlayers nowMs timeoutMs).1.queueOf mode =
        (m.queueOf mode).filter fun q => ¬ Late nowMs timeoutMs q := by
  unfold MatchManager.popTimeoutPlayers
  split_ifs with ht
  · have hnot : ∀ q, ¬ Late nowMs timeoutMs q := fun q hq => absurd hq.1 (not_lt.mpr ht)
    simp [hnot]
  · have hlate : ∀ q, decide (Late nowMs timeoutMs q) = isTimedOut nowMs timeoutMs q := by
      intro q
      simp [Late, isTimedOut, not_le.mp ht]
    refine ⟨?_, fun mode => ?_⟩
    · simp only [hlate, List.filter_append]
    · simp only [queueOf, queueByMode, ← hlate, decide_eq_true_eq]
      split_ifs
      · rfl
      · rfl
      · rfl

/-- What the manager guarantees after any calls. -/
structure QueueIntegrity (calls : List QueueCall) : Prop where
  index : ∀ p mode, (run calls).matchingIndex.lookup p = some mode ↔
    OccursOnlyIn (run calls) p mode
  join : ∀ i player, JoinsAt calls i player →
    StillQueued calls i player ∨ ∃! j, LeavesAt calls i j player
  once : ∀ j, (leavingAt calls j).Nodup
  group : ∀ mode, ∃ joins, InJoinOrder calls mode joins ∧
    (run calls).queueOf mode = joins.map Prod.snd ∧
    ((run calls).tryPopMatchedPlayers mode).2 =
      if requiredCount mode = 0 ∨ joins.length < requiredCount mode then none
      else some ((joins.take (requiredCount mode)).map fun x => x.2.playerId)
  timeout : ∀ nowMs timeoutMs, ((run calls).popTimeoutPlayers nowMs timeoutMs).2 =
      ((run calls).queueOf 3 ++ (run calls).queueOf 4).filter (fun q => Late nowMs timeoutMs q) ∧
    ∀ mode, ((run calls).popTimeoutPlayers nowMs timeoutMs).1.queueOf mode =
      ((run calls).queueOf mode).filter fun q => ¬ Late nowMs timeoutMs q

lemma tryPopMatchedPlayers_snd (m : MatchManager) (mode : ℤ) :
    (m.tryPopMatchedPlayers mode).2 =
      if requiredCount mode = 0 ∨ (m.queueOf mode).length < requiredCount mode then none
      else some (((m.queueOf mode).take (requiredCount mode)).map MatchPlayer.playerId) := by
  simp only [MatchManager.tryPopMatchedPlayers]
  cases hq : m.queueByMode mode with
  | none =>
    have hmode : requiredCount mode = 0 := by
      simp only [queueByMode] at hq
      split_ifs at hq with h3 h4
      simp [requiredCount, h3, h4]
    simp [hmode]
  | some q =>
    rw [queueOf_of_some hq]
    simp only
    split_ifs
    · rfl
    · rfl

/-- The index, the queues and the answers agree after any calls to the manager. -/
theorem queue_integrity (calls : List QueueCall) : QueueIntegrity calls := by
  refine ⟨(consistent_run calls).index_iff, fun i player h => h.stillQueued_or_leavesAt,
    nodup_leavingAt calls, fun mode => ?_, popTimeoutPlayers_spec (run calls)⟩
  obtain ⟨joins, horder, hqueue⟩ := queueOf_run calls mode
  refine ⟨joins, horder, hqueue, ?_⟩
  rw [tryPopMatchedPlayers_snd, hqueue, List.length_map, ← List.map_take, List.map_map]
  rfl

end MatchManager

end DdzServer
