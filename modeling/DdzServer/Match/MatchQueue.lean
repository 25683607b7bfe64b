import DdzServer.Match.MatchManager

/-!
# The queue and its index agree

Only the queue for three players is ever used. In a well-kept manager nobody waits twice, and the
index has exactly those who wait.
-/

namespace DdzServer

open UnorderedMap

namespace MatchManager

variable {m : MatchManager}

/-- The players who wait. -/
def waiting (m : MatchManager) : List ℤ := m.queueThree.map MatchPlayer.playerId

structure WellKept (m : MatchManager) : Prop where
  queueFour : m.queueFour = []
  nodup : m.waiting.Nodup
  index : ∀ p, m.matchingIndex.lookup p = if p ∈ m.waiting then some 3 else none

lemma wellKept_empty : WellKept {} := ⟨rfl, List.nodup_nil, fun p => by simp [waiting]⟩

/-- A player at the end of the queue. -/
def joined (m : MatchManager) (player : MatchPlayer) : MatchManager :=
  { m with
    queueThree := m.queueThree ++ [player]
    matchingIndex := Finmap.insert player.playerId 3 m.matchingIndex }

lemma waiting_joined (m : MatchManager) (player : MatchPlayer) :
    (m.joined player).waiting = m.waiting ++ [player.playerId] := by
  simp [waiting, joined]

/-- The first three players taken from the queue. -/
def popped (m : MatchManager) : MatchManager :=
  { m with
    queueThree := m.queueThree.drop 3
    matchingIndex := eraseIndex m.matchingIndex (m.waiting.take 3) }

lemma waiting_popped (m : MatchManager) : m.popped.waiting = m.waiting.drop 3 := by
  simp [waiting, popped, List.map_drop]

lemma join_spec (m : MatchManager) {player : MatchPlayer} (hmode : player.mode = 3) :
    m.join player =
      if m.matchingIndex.lookup player.playerId = none then (m.joined player, true)
      else (m, false) := by
  unfold join
  by_cases h : m.matchingIndex.lookup player.playerId = none
  · simp [h, hmode, queueByMode, setQueue, joined]
  · simp [h]

lemma tryPopMatchedPlayers_spec (m : MatchManager) :
    m.tryPopMatchedPlayers 3 =
      if m.queueThree.length < 3 then (m, none) else (m.popped, some (m.waiting.take 3)) := by
  have hneed : requiredCount 3 = 3 := rfl
  simp only [tryPopMatchedPlayers, hneed, queueByMode, if_true]
  by_cases h : m.queueThree.length < 3
  · simp [h]
  · simp [h, popped, setQueue, waiting, List.map_take]

/-! ### What keeps a manager well-kept -/

lemma WellKept.joined (h : m.WellKept) {player : MatchPlayer}
    (hfree : m.matchingIndex.lookup player.playerId = none) : (m.joined player).WellKept := by
  have hnot : player.playerId ∉ m.waiting := by
    intro hmem
    rw [h.index, if_pos hmem] at hfree
    cases hfree
  refine ⟨h.queueFour, ?_, fun p => ?_⟩
  · rw [waiting_joined]
    exact List.nodup_append'.mpr ⟨h.nodup, List.nodup_singleton _, by simpa using hnot⟩
  · rw [waiting_joined]
    simp only [MatchManager.joined, lookup_insert, h.index, List.mem_append, List.mem_singleton]
    by_cases hp : p = player.playerId
    · simp [hp]
    · simp [hp]

/-- Removing players from the queue and from the index. -/
lemma WellKept.remove (h : m.WellKept) {queue : List MatchPlayer} {index : UnorderedMap ℤ ℤ}
    (gone : List ℤ) (hsub : (queue.map MatchPlayer.playerId).Sublist m.waiting)
    (hgone : ∀ p ∈ m.waiting, p ∈ gone ↔ p ∉ queue.map MatchPlayer.playerId)
    (hindex : ∀ p, index.lookup p = if p ∈ gone then none else m.matchingIndex.lookup p) :
    WellKept { queueThree := queue, queueFour := [], matchingIndex := index } := by
  refine ⟨rfl, hsub.nodup h.nodup, fun p => ?_⟩
  change index.lookup p = if p ∈ queue.map MatchPlayer.playerId then some 3 else none
  rw [hindex, h.index]
  by_cases hp : p ∈ m.waiting
  · by_cases hq : p ∈ queue.map MatchPlayer.playerId
    · rw [if_neg fun hg => (hgone p hp).mp hg hq, if_pos hp, if_pos hq]
    · rw [if_pos ((hgone p hp).mpr hq), if_neg hq]
  · rw [if_neg fun hq => hp (hsub.subset hq), if_neg hp, ite_self]

lemma WellKept.popped (h : m.WellKept) : m.popped.WellKept := by
  have heq : m.popped =
      { queueThree := m.queueThree.drop 3
        queueFour := []
        matchingIndex := eraseIndex m.matchingIndex (m.waiting.take 3) } := by
    rw [MatchManager.popped, h.queueFour]
  have hmap : (m.queueThree.drop 3).map MatchPlayer.playerId = m.waiting.drop 3 := by
    rw [waiting, List.map_drop]
  rw [heq]
  refine h.remove (m.waiting.take 3) ?_ (fun p hp => ?_) fun p => lookup_foldl_erase _ _ p
  · rw [hmap]
    exact List.drop_sublist 3 m.waiting
  · rw [hmap]
    have hnd : (m.waiting.take 3 ++ m.waiting.drop 3).Nodup := by
      rw [List.take_append_drop]
      exact h.nodup
    have hdisj := (List.nodup_append'.mp hnd).2.2
    refine ⟨fun htake hdrop => hdisj htake hdrop, fun hdrop => ?_⟩
    rw [← List.take_append_drop 3 m.waiting] at hp
    exact (List.mem_append.mp hp).resolve_right hdrop

lemma waiting_filter (q : List MatchPlayer) (keep : MatchPlayer → Bool) :
    ((q.filter keep).map MatchPlayer.playerId).Sublist (q.map MatchPlayer.playerId) :=
  (List.filter_sublist).map _

/-- Taking one player out of the queue. -/
lemma WellKept.cancel (h : m.WellKept) (playerId : ℤ) :
    (m.cancel playerId).1.WellKept ∧ (m.cancel playerId).1.waiting.Sublist m.waiting := by
  unfold MatchManager.cancel
  split
  · exact ⟨h, .refl _⟩
  next mode hmode =>
    have hmode' : mode = 3 := by
      rw [h.index] at hmode
      split_ifs at hmode
      exact (Option.some.inj hmode).symm
    subst hmode'
    simp only [queueByMode, setQueue, if_true, h.queueFour]
    refine ⟨h.remove [playerId] (waiting_filter _ _) (fun p hp => ?_) fun p => ?_,
      waiting_filter _ _⟩
    · obtain ⟨q, hq, rfl⟩ := List.mem_map.mp hp
      simp only [List.mem_singleton, List.mem_map, List.mem_filter, decide_eq_true_eq, not_exists,
        not_and]
      refine ⟨fun heq q' hq' heq' => hq'.2 (heq'.trans heq), fun hall => ?_⟩
      by_contra hne
      exact hall q ⟨hq, hne⟩ rfl
    · simp [lookup_erase]

lemma WellKept.mem_waiting_cancel (h : m.WellKept) (playerId p : ℤ) :
    p ∈ (m.cancel playerId).1.waiting ↔ p ∈ m.waiting ∧ p ≠ playerId := by
  unfold MatchManager.cancel
  rw [h.index]
  split_ifs with hmem
  · simp only [queueByMode, setQueue, if_true, waiting, List.mem_map, List.mem_filter,
      decide_eq_true_eq]
    constructor
    · rintro ⟨q, ⟨hq, hne⟩, rfl⟩
      exact ⟨⟨q, hq, rfl⟩, hne⟩
    · rintro ⟨⟨q, hq, rfl⟩, hne⟩
      exact ⟨q, ⟨hq, hne⟩, rfl⟩
  · exact ⟨fun hp => ⟨hp, fun heq => hmem (heq ▸ hp)⟩, And.left⟩

/-- Whoever waits can cancel. -/
lemma WellKept.cancel_snd (h : m.WellKept) {playerId : ℤ} (hmem : playerId ∈ m.waiting) :
    (m.cancel playerId).2 = true := by
  unfold MatchManager.cancel
  rw [h.index, if_pos hmem]
  rfl

/-- A player who waits has one entry only, so it is taken out or it stays. -/
lemma WellKept.mem_filter_iff (h : m.WellKept) (late : MatchPlayer → Bool) {p : ℤ}
    (hp : p ∈ m.waiting) :
    p ∈ (m.queueThree.filter late).map MatchPlayer.playerId ↔
      p ∉ (m.queueThree.filter fun q => ¬ late q).map MatchPlayer.playerId := by
  obtain ⟨q, hq, rfl⟩ := List.mem_map.mp hp
  constructor
  · intro hlate hkept
    obtain ⟨q₁, hq₁, heq₁⟩ := List.mem_map.mp hlate
    obtain ⟨q₂, hq₂, heq₂⟩ := List.mem_map.mp hkept
    have hsame : q₁ = q₂ := List.inj_on_of_nodup_map h.nodup (List.mem_of_mem_filter hq₁)
      (List.mem_of_mem_filter hq₂) (heq₁.trans heq₂.symm)
    have hlate₁ := (List.mem_filter.mp hq₁).2
    have hkept₂ := (List.mem_filter.mp hq₂).2
    rw [← hsame] at hkept₂
    simp [hlate₁] at hkept₂
  · intro hkept
    refine List.mem_map.mpr ⟨q, List.mem_filter.mpr ⟨hq, ?_⟩, rfl⟩
    by_contra hlate
    exact hkept (List.mem_map.mpr ⟨q, List.mem_filter.mpr ⟨hq, by simpa using hlate⟩, rfl⟩)

/-- Taking the players out who waited too long. -/
lemma WellKept.popTimeoutPlayers (h : m.WellKept) (nowMs timeoutMs : ℤ) :
    (m.popTimeoutPlayers nowMs timeoutMs).1.WellKept ∧
      (m.popTimeoutPlayers nowMs timeoutMs).1.waiting.Sublist m.waiting ∧
      ∀ p ∈ (m.popTimeoutPlayers nowMs timeoutMs).2, p ∈ m.queueThree := by
  unfold MatchManager.popTimeoutPlayers
  split_ifs
  · exact ⟨h, .refl _, by simp⟩
  · simp only [h.queueFour, List.filter_nil, List.append_nil]
    exact ⟨h.remove _ (waiting_filter _ _) (fun p hp => h.mem_filter_iff _ hp)
      fun p => lookup_foldl_erase _ _ p, waiting_filter _ _, fun p hp => List.mem_of_mem_filter hp⟩

lemma WellKept.mem_waiting_popTimeoutPlayers (h : m.WellKept) (nowMs timeoutMs p : ℤ) :
    p ∈ (m.popTimeoutPlayers nowMs timeoutMs).1.waiting ↔
      p ∈ m.waiting ∧
        p ∉ (m.popTimeoutPlayers nowMs timeoutMs).2.map MatchPlayer.playerId := by
  unfold MatchManager.popTimeoutPlayers
  split_ifs
  · simp
  · simp only [h.queueFour, List.filter_nil, List.append_nil]
    constructor
    · intro hkept
      have hp : p ∈ m.waiting := (waiting_filter _ _).subset hkept
      exact ⟨hp, fun hlate => (h.mem_filter_iff _ hp).mp hlate hkept⟩
    · rintro ⟨hp, hlate⟩
      by_contra hkept
      exact hlate ((h.mem_filter_iff _ hp).mpr hkept)

end MatchManager

end DdzServer
