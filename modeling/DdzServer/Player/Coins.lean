import DdzServer.Player.PlayerManager

/-!
# Coins of the players

What the operations that are about states and nicknames do to the coins: nothing, as long as nobody
has exactly 0 coins.
-/

namespace DdzServer

open UnorderedMap

namespace PlayerManager

variable {m m' m'' : PlayerManager}

/-- The coins of a player who is registered. -/
def coinOf (m : PlayerManager) (p : ℤ) : Option ℤ := (m.players.lookup p).map PlayerData.coin

lemma lookup_eq_none_iff {p : ℤ} : m.players.lookup p = none ↔ m.coinOf p = none := by
  simp [coinOf]

lemma getCoin_of_coinOf {p coin : ℤ} (h : m.coinOf p = some coin) : m.getCoin p = coin := by
  obtain ⟨player, hplayer, rfl⟩ := Option.map_eq_some_iff.mp h
  simp [getCoin, at', hplayer]

/-- Nobody has exactly 0 coins. -/
def NonZero (m : PlayerManager) : Prop := ∀ p, m.coinOf p ≠ some 0

/-- Nobody's coins change, and who is new has 1000. -/
def Neutral (m m' : PlayerManager) : Prop :=
  ∀ p, m'.coinOf p = m.coinOf p ∨ m.coinOf p = none ∧ m'.coinOf p = some 1000

lemma Neutral.refl (m : PlayerManager) : Neutral m m := fun _ => Or.inl rfl

lemma Neutral.trans (h : Neutral m m') (h' : Neutral m' m'') : Neutral m m'' := by
  intro p
  rcases h' p with heq | ⟨hnone, hnew⟩
  · rw [heq]
    exact h p
  · rcases h p with heq | ⟨hnone', hnew'⟩
    · exact Or.inr ⟨heq ▸ hnone, hnew⟩
    · rw [hnew'] at hnone
      cases hnone

lemma Neutral.nonZero (h : Neutral m m') (hm : m.NonZero) : m'.NonZero := by
  intro p hp
  rcases h p with heq | ⟨-, hnew⟩
  · exact hm p (heq ▸ hp)
  · rw [hnew] at hp
    simp at hp

/-- Registered players stay registered. -/
lemma Neutral.registered (h : Neutral m m') {p : ℤ} (hp : m.coinOf p ≠ none) :
    m'.coinOf p ≠ none := by
  rcases h p with heq | ⟨hnone, -⟩
  · rwa [heq]
  · exact absurd hnone hp

/-- Writing a player with the coins the player has. -/
lemma neutral_write {playerId : ℤ} {player : PlayerData}
    (h : m.coinOf playerId = some player.coin ∨
      m.coinOf playerId = none ∧ player.coin = 1000) :
    Neutral m (m.write playerId player) := by
  intro p
  have hcoin : (m.write playerId player).coinOf p =
      if p = playerId then some player.coin else m.coinOf p := by
    rw [coinOf, write, lookup_insert]
    split_ifs <;> rfl
  rw [hcoin]
  split_ifs with hp
  · subst hp
    rcases h with heq | ⟨hnone, hnew⟩
    · exact Or.inl heq.symm
    · exact Or.inr ⟨hnone, by rw [hnew]⟩
  · exact Or.inl rfl

/-- A state can be forced on anybody who does not have exactly 0 coins. -/
lemma neutral_forceState (hm : m.NonZero) (playerId : ℤ) (next : PlayerState) :
    Neutral m (m.forceState playerId next) := by
  refine neutral_write ?_
  cases hplayer : m.players.lookup playerId with
  | none => exact Or.inr ⟨by simp [coinOf, hplayer], by simp [at', hplayer, forced]⟩
  | some player =>
    have hne : player.coin ≠ 0 := fun h0 => hm playerId (by simp [coinOf, hplayer, h0])
    exact Or.inl (by simp [coinOf, at', hplayer, forced, hne])

lemma neutral_forceStates (hm : m.NonZero) (players : List ℤ) (next : PlayerState) :
    Neutral m (m.forceStates players next) := by
  induction players generalizing m with
  | nil => exact .refl m
  | cons pid ps ih =>
    have hfirst := neutral_forceState hm pid next
    exact hfirst.trans (ih (hfirst.nonZero hm))

/-- The registration at a login. -/
lemma neutral_upsertPlayer (hm : m.NonZero) (playerId : ℤ) (nickname : CppString) {coin : ℤ}
    (hcoin : coin = if (m.players.lookup playerId).isSome then 0 else 1000) :
    Neutral m (m.upsertPlayer playerId nickname coin) := by
  refine neutral_write ?_
  cases hplayer : m.players.lookup playerId with
  | none =>
    simp only [hplayer, Option.isSome_none, Bool.false_eq_true, if_false] at hcoin
    exact Or.inr ⟨by simp [coinOf, hplayer], by simp [upserted, hcoin]⟩
  | some player =>
    simp only [hplayer, Option.isSome_some, if_true] at hcoin
    have hne : player.coin ≠ 0 := fun h0 => hm playerId (by simp [coinOf, hplayer, h0])
    exact Or.inl (by simp [coinOf, at', hplayer, upserted, hcoin, hne])

end PlayerManager

end DdzServer
