import DdzServer.Player.Coins
import DdzServer.Server.Agreement
import Mathlib.Algebra.BigOperators.Group.Finset.Piecewise

/-!
# The coin ledger

The coins of a player are the 1000 of the registration plus what the coin logs say. A settlement
keeps the books unless it takes a player to exactly 0 coins: `ForceState` takes such a player for a
new one and hands out another 1000.
-/

namespace DdzServer

open UnorderedMap

namespace GameServer

variable {rng : Shuffler} {s s' : GameServer} {d : ServerSettlementDecision} {room : Room}
  {nowMs : ℤ}

/-! ### Operations that move no coins -/

lemma neutral_foldl_leaveQueue {m : PlayerManager} (hm : m.NonZero) (late : List MatchPlayer) :
    m.Neutral (late.foldl leaveQueue m) := by
  induction late generalizing m with
  | nil => exact .refl m
  | cons p late ih =>
    have hfirst : m.Neutral (leaveQueue m p) := by
      unfold leaveQueue
      split_ifs
      · exact PlayerManager.neutral_forceState hm _ _
      · exact .refl m
    exact hfirst.trans (ih (hfirst.nonZero hm))

/-- A settlement that is carried out on a room. -/
structure Settles (s : GameServer) (d : ServerSettlementDecision) (room : Room) : Prop where
  valid : d.IsValid
  free : d.roomId ∉ s.settlingRooms
  live : s.rooms.rooms.find d.roomId = some room
  can : s.CanSettle d room

lemma neutral_loggedIn (hm : s.players.NonZero) (playerId : ℤ) (nickname : CppString)
    (connectionId nowMs : ℤ) :
    s.players.Neutral (s.loggedIn playerId nickname connectionId nowMs).players := by
  have hupsert : s.players.Neutral (s.players.upsertPlayer playerId nickname
      (if (s.players.getPlayer playerId).isSome then 0 else s.loginCoin playerId)) := by
    refine PlayerManager.neutral_upsertPlayer hm playerId nickname ?_
    cases hplayer : s.players.players.lookup playerId <;>
      simp [PlayerManager.getPlayer, loginCoin, hplayer]
  exact hupsert.trans (PlayerManager.neutral_forceState (hupsert.nonZero hm) _ _)

lemma neutral_match (hm : s.players.NonZero) {connectionId : ℤ}
    (hrule : MatchRule s connectionId nowMs s') :
    s.players.Neutral s'.players ∧ s'.storage = s.storage := by
  have hwrite : ∀ {playerId : ℤ} {player : PlayerData},
      s.players.players.lookup playerId = some player →
        s.players.Neutral (s.players.write playerId { player with state := .matching }) :=
    fun hplayer => PlayerManager.neutral_write (Or.inl (by simp [PlayerManager.coinOf, hplayer]))
  cases hrule with
  | refused => exact ⟨.refl _, rfl⟩
  | waiting hconn hplayer => exact ⟨hwrite hplayer, rfl⟩
  | matched hconn hplayer =>
    exact ⟨(hwrite hplayer).trans
      (PlayerManager.neutral_forceStates ((hwrite hplayer).nonZero hm) _ _), rfl⟩

lemma neutral_cancel (hm : s.players.NonZero) {connectionId : ℤ}
    (hrule : CancelRule s connectionId s') :
    s.players.Neutral s'.players ∧ s'.storage = s.storage := by
  cases hrule with
  | refused => exact ⟨.refl _, rfl⟩
  | failed => exact ⟨.refl _, rfl⟩
  | cancelled => exact ⟨PlayerManager.neutral_forceState hm _ _, rfl⟩

/-- Only a settlement that is carried out moves coins or writes rows. -/
theorem settles_or_neutral (rng : Shuffler) (hm : s.players.NonZero) (op : ServerOp) :
    (∃ d nowMs room, op = .settle d nowMs ∧ s.Settles d room ∧
        s.apply rng op = s.settled d room nowMs) ∨
      ((∀ d nowMs room, op = .settle d nowMs → ¬ s.Settles d room) ∧
        s.players.Neutral (s.apply rng op).players ∧
        s.storage.SameRows (s.apply rng op).storage) := by
  cases op with
  | login connectionId body nowMs redis =>
    refine Or.inr ⟨by simp, ?_⟩
    rw [apply]
    cases hp : s.loginPlayer body nowMs with
    | none =>
      rw [(handleLogin_of_none connectionId redis hp).1]
      exact ⟨.refl _, .refl _⟩
    | some playerId =>
      rw [(handleLogin_of_some connectionId redis hp).2.1]
      exact ⟨neutral_loggedIn hm playerId _ connectionId nowMs, .refl _⟩
  | reconnect connectionId body nowMs redis =>
    refine Or.inr ⟨by simp, ?_⟩
    rw [apply]
    cases hp : s.reconnectPlayer body nowMs redis with
    | none =>
      rw [(handleReconnect_of_none connectionId hp).1]
      exact ⟨.refl _, .refl _⟩
    | some playerId =>
      obtain ⟨session, -, heq, -⟩ := handleReconnect_of_some connectionId hp
      rw [heq]
      exact ⟨PlayerManager.neutral_forceState hm _ _, .refl _⟩
  | sessionRefresh body nowMs redis =>
    obtain ⟨auth, heq⟩ := handleSessionRefresh_fst s body nowMs redis
    rw [apply, heq]
    exact Or.inr ⟨by simp, .refl _, .refl _⟩
  | heartbeat connectionId nowMs => exact Or.inr ⟨by simp, .refl _, .refl _⟩
  | requestMatch connectionId body nowMs =>
    obtain ⟨hneutral, hstorage⟩ := neutral_match hm (match_rule s connectionId body nowMs)
    exact Or.inr ⟨by simp, hneutral, by rw [apply, hstorage]; exact .refl _⟩
  | cancelMatch connectionId =>
    obtain ⟨hneutral, hstorage⟩ := neutral_cancel hm (cancel_rule s connectionId)
    exact Or.inr ⟨by simp, hneutral, by rw [apply, hstorage]; exact .refl _⟩
  | matchTimeout nowMs timeoutMs =>
    exact Or.inr ⟨by simp, neutral_foldl_leaveQueue hm _, .refl _⟩
  | connectionClosed connectionId nowMs offlineAtMs =>
    refine Or.inr ⟨by simp, ?_⟩
    rw [apply, onConnectionClosed]
    split
    · exact ⟨.refl _, .refl _⟩
    · exact ⟨PlayerManager.neutral_forceState hm _ _, .refl _⟩
  | inRoom op => exact Or.inr ⟨by simp, .refl _, .refl _⟩
  | settle d nowMs =>
    have hrule := settle_rule s d nowMs
    rw [apply]
    generalize s.settleByServerResult d nowMs = out at hrule
    obtain ⟨s', result⟩ := out
    simp only [ServerOp.settle.injEq]
    cases hrule with
    | invalid hd =>
      exact Or.inr ⟨fun _ _ _ h hs => hd (h.1 ▸ hs.valid), .refl _, .refl _⟩
    | busy hd hbusy =>
      exact Or.inr ⟨fun _ _ _ h hs => hs.free (h.1 ▸ hbusy), .refl _, .refl _⟩
    | notFound hd hfree hroom =>
      refine Or.inr ⟨fun d' _ room h hs => ?_, .refl _, .refl _⟩
      rw [h.1, hs.live] at hroom
      cases hroom
    | failed hd hfree hroom hcannot hsame =>
      refine Or.inr ⟨fun d' _ room' h hs => hcannot ?_, .refl _, hsame⟩
      obtain ⟨rfl, -⟩ := h
      rw [hs.live, Option.some.injEq] at hroom
      exact hroom ▸ hs.can
    | @settled room _ hd hfree hroom hcan =>
      exact Or.inl ⟨d, nowMs, room, ⟨rfl, rfl⟩, ⟨hd, hfree, hroom, hcan⟩, rfl⟩
  | setTxFailpoint failpoint => exact Or.inr ⟨by simp, .refl _, ⟨rfl, rfl, rfl⟩⟩

/-! ### What a settlement does to the books -/

lemma coinOf_settled (hnd : room.players.Nodup) (nowMs p : ℤ) :
    (s.settled d room nowMs).players.coinOf p =
      if p ∈ room.players then
        some (if s.players.getCoin p + d.delta room p = 0 then 1000
          else s.players.getCoin p + d.delta room p)
      else s.players.coinOf p := by
  have hfst : ((room.players.map fun pid => (pid, d.delta room pid)).map Prod.fst).Nodup := by
    rw [List.map_map, show Prod.fst ∘ (fun pid => (pid, d.delta room pid)) = id from rfl,
      List.map_id]
    exact hnd
  obtain ⟨hin, hout⟩ := PlayerManager.lookup_addCoins _ hfst s.players p
  rw [PlayerManager.coinOf, settled, PlayerManager.lookup_forceStates]
  by_cases hp : p ∈ room.players
  · have hadd := hin (d.delta room p) (List.mem_map.mpr ⟨p, hp, rfl⟩)
    rw [if_pos hp, if_pos hp, Option.map_some, at', hadd]
    rfl
  · rw [if_neg hp, if_neg hp, hout]
    · rfl
    · intro delta hmem
      obtain ⟨pid, hpid, heq⟩ := List.mem_map.mp hmem
      exact hp ((Prod.mk.inj heq).1 ▸ hpid)

/-- A sum that picks the terms of one player. -/
lemma sum_map_ite_eq {l : List ℤ} (hnd : l.Nodup) (f : ℤ → ℤ) (p : ℤ) :
    (l.map fun pid => if pid = p then f pid else 0).sum = if p ∈ l then f p else 0 := by
  induction l with
  | nil => rfl
  | cons pid l ih =>
    obtain ⟨hpid, hnd⟩ := List.nodup_cons.mp hnd
    rw [List.map_cons, List.sum_cons, ih hnd]
    by_cases heq : pid = p
    · subst heq
      simp [hpid]
    · simp [heq, Ne.symm heq]

lemma logged_settled (hnd : room.players.Nodup) (nowMs p : ℤ) :
    (s.settled d room nowMs).storage.logged p =
      (if p ∈ room.players then d.delta room p else 0) + s.storage.logged p := by
  have hlogged := s.storage.logged_persisted (d.persistRequest room nowMs (s.changesOf d room)) p
  rw [← sum_map_ite_eq hnd (d.delta room) p]
  refine hlogged.trans ?_
  rw [show (d.persistRequest room nowMs (s.changesOf d room)).coinChanges = s.changesOf d room
    from rfl, changesOf, List.map_map]
  rfl

lemma playerCoins_settled (d : ServerSettlementDecision) (room : Room) (nowMs p : ℤ) :
    (s.settled d room nowMs).storage.playerCoins.lookup p =
      if p ∈ room.players then some (s.players.getCoin p + d.delta room p)
      else s.storage.playerCoins.lookup p := by
  rw [settled, StorageService.persisted, StorageService.playerCoins_foldl_writeChange]
  rw [show (d.persistRequest room nowMs (s.changesOf d room)).coinChanges =
    room.players.map fun pid => d.coinChange room pid (s.players.getCoin pid) from rfl,
    List.foldl_map]
  exact lookup_foldl_insert (fun pid => s.players.getCoin pid + d.delta room pid) room.players
    s.storage.playerCoins p

/-- Who occurs in the logs after a settlement. -/
lemma playerId_mem_settled {p : ℤ}
    (h : ∃ log ∈ (s.settled d room nowMs).storage.coinLogs.bag, log.playerId = p) :
    p ∈ room.players ∨ ∃ log ∈ s.storage.coinLogs.bag, log.playerId = p := by
  rcases (s.storage.playerId_mem_persisted _ p).mp h with ⟨c, hc, rfl⟩ | hold
  · obtain ⟨pid, hpid, rfl⟩ := List.mem_map.mp hc
    exact Or.inl hpid
  · exact Or.inr hold

/-! ### The ledger -/

/-- Memory, logs and storage show the same coins. -/
structure Ledger (s : GameServer) : Prop where
  coin : ∀ p coin, s.players.coinOf p = some coin → coin = 1000 + s.storage.logged p
  stored : ∀ p coin stored, s.players.coinOf p = some coin →
    s.storage.getPlayerCoin p = some stored → stored = coin
  total : ∑ p ∈ s.players.players.keys, s.players.getCoin p =
    1000 * (s.players.players.keys.card : ℤ)

/-- What the books rest on: only registered players occur in the storage, and nobody has exactly
0 coins. -/
structure Booked (s : GameServer) : Prop where
  coherent : s.roster.Coherent
  kept : s.matching.WellKept
  nonZero : s.players.NonZero
  logs : ∀ log ∈ s.storage.coinLogs.bag, s.players.coinOf log.playerId ≠ none
  coins : ∀ p coin, s.storage.getPlayerCoin p = some coin → s.players.coinOf p ≠ none

/-- A settlement of the step takes nobody to exactly 0 coins. -/
def KeepsBooks (s : GameServer) (op : ServerOp) : Prop :=
  ∀ d nowMs room, op = .settle d nowMs → s.Settles d room →
    ∀ p ∈ room.players, s.players.getCoin p + d.delta room p ≠ 0

lemma mem_keys_iff {p : ℤ} : p ∈ s.players.players.keys ↔ s.players.coinOf p ≠ none := by
  rw [mem_keys, ne_eq, ne_eq, PlayerManager.lookup_eq_none_iff]

/-- Who is not registered has no logs. -/
lemma Booked.logged_eq_zero (h : Booked s) {p : ℤ} (hp : s.players.coinOf p = none) :
    s.storage.logged p = 0 := by
  have hnone : (s.storage.coinLogs.bag.filter fun log => log.playerId = p) = 0 := by
    refine Multiset.filter_eq_nil.mpr fun log hlog heq => h.logs log hlog ?_
    rw [heq, hp]
  rw [StorageService.logged, hnone]
  rfl

/-- In a ledger everybody's distance from 1000 is in the logs; the distances add up to nothing. -/
lemma Ledger.sum_sub (h : Ledger s) :
    ∑ p ∈ s.players.players.keys, (s.players.getCoin p - 1000) = 0 := by
  rw [Finset.sum_sub_distrib, h.total]
  simp [mul_comm]

lemma total_of_sum_sub (h : ∑ p ∈ s.players.players.keys, (s.players.getCoin p - 1000) = 0) :
    ∑ p ∈ s.players.players.keys, s.players.getCoin p =
      1000 * (s.players.players.keys.card : ℤ) := by
  rw [Finset.sum_sub_distrib] at h
  simp only [Finset.sum_const, nsmul_eq_mul] at h
  linarith

/-- The ledger stays when no coins move. -/
lemma Ledger.of_neutral (h : Ledger s) (hbooked : Booked s)
    (hneutral : s.players.Neutral s'.players) (hsame : s.storage.SameRows s'.storage) :
    Ledger s' := by
  refine ⟨fun p coin hp => ?_, fun p coin stored hp hst => ?_, total_of_sum_sub ?_⟩
  · rw [hsame.logged]
    rcases hneutral p with heq | ⟨hnone, hnew⟩
    · exact h.coin p coin (heq ▸ hp)
    · rw [hbooked.logged_eq_zero hnone]
      rw [hnew] at hp
      simpa using hp.symm
  · rw [StorageService.getPlayerCoin, hsame.coins] at hst
    rcases hneutral p with heq | ⟨hnone, -⟩
    · exact h.stored p coin stored (heq ▸ hp) hst
    · exact absurd hnone (hbooked.coins p stored hst)
  · have hsub : s.players.players.keys ⊆ s'.players.players.keys := fun p hp =>
      mem_keys_iff.mpr (hneutral.registered (mem_keys_iff.mp hp))
    rw [← h.sum_sub]
    refine (Finset.sum_subset_zero_on_sdiff hsub (fun p hp => ?_) fun p hp => ?_).symm
    · -- a new player starts with 1000
      obtain ⟨hmem, hnot⟩ := Finset.mem_sdiff.mp hp
      rcases hneutral p with heq | ⟨-, hnew⟩
      · exact absurd (mem_keys_iff.mpr (heq ▸ mem_keys_iff.mp hmem)) hnot
      · rw [PlayerManager.getCoin_of_coinOf hnew]
        rfl
    · obtain ⟨coin, hcoin⟩ := Option.ne_none_iff_exists'.mp (mem_keys_iff.mp hp)
      rcases hneutral p with heq | ⟨hnone, -⟩
      · rw [PlayerManager.getCoin_of_coinOf hcoin,
          PlayerManager.getCoin_of_coinOf (heq.trans hcoin)]
      · rw [hcoin] at hnone
        cases hnone

lemma Booked.nodup (h : Booked s) (hsettles : s.Settles d room) : room.players.Nodup :=
  (h.coherent.trio _ _ _ (RoomManager.membersOf_eq_some.mpr
    ⟨room, hsettles.live, rfl, rfl⟩)).2.2.2

lemma CanSettle.coinOf_ne_none (h : s.CanSettle d room) {p : ℤ} (hp : p ∈ room.players) :
    s.players.coinOf p ≠ none :=
  mt PlayerManager.lookup_eq_none_iff.mpr (h.registered p hp)

/-- What the books rest on is kept by every operation. -/
lemma Booked.apply (h : Booked s) (op : ServerOp) : Booked (s.apply rng op) := by
  obtain ⟨hsteps, hkept⟩ := refines_apply rng h.coherent h.kept op
  have hcoherent := h.coherent.steps hsteps
  rcases settles_or_neutral rng h.nonZero op with
    ⟨d, nowMs, room, rfl, hsettles, heq⟩ | ⟨-, hneutral, hsame⟩
  · have hcoin := coinOf_settled (s := s) (d := d) (h.nodup hsettles) nowMs
    have hregistered : ∀ {p}, s.players.coinOf p ≠ none ∨ p ∈ room.players →
        (s.settled d room nowMs).players.coinOf p ≠ none := by
      intro p hp
      rw [hcoin]
      by_cases hmem : p ∈ room.players
      · simp [hmem]
      · rw [if_neg hmem]
        exact hp.resolve_right hmem
    rw [heq] at hcoherent hkept ⊢
    refine ⟨hcoherent, hkept, fun p => ?_, fun log hlog => ?_, fun p coin hst => ?_⟩
    · rw [hcoin]
      split_ifs with hmem hzero
      · simp
      · simpa using hzero
      · exact h.nonZero p
    · rcases playerId_mem_settled ⟨log, hlog, rfl⟩ with hmem | ⟨log', hlog', hid⟩
      · exact hregistered (Or.inr hmem)
      · exact hregistered (Or.inl (hid ▸ h.logs log' hlog'))
    · rw [StorageService.getPlayerCoin, playerCoins_settled] at hst
      split_ifs at hst with hmem
      · exact hregistered (Or.inr hmem)
      · exact hregistered (Or.inl (h.coins p coin hst))
  · refine ⟨hcoherent, hkept, hneutral.nonZero h.nonZero, fun log hlog => ?_,
      fun p coin hst => ?_⟩
    · rw [Table.bag, hsame.logs] at hlog
      exact hneutral.registered (h.logs log hlog)
    · rw [StorageService.getPlayerCoin, hsame.coins] at hst
      exact hneutral.registered (h.coins p coin hst)

/-- A settlement keeps the ledger exactly if it takes nobody to 0 coins. -/
lemma ledger_settled_iff (hbooked : Booked s) (h : Ledger s) (hsettles : s.Settles d room)
    (nowMs : ℤ) :
    Ledger (s.settled d room nowMs) ↔
      ∀ p ∈ room.players, s.players.getCoin p + d.delta room p ≠ 0 := by
  have hnd := hbooked.nodup hsettles
  have hcoin := coinOf_settled (s := s) (d := d) hnd nowMs
  have hregistered : ∀ p ∈ room.players,
      s.players.coinOf p = some (s.players.getCoin p) := by
    intro p hp
    obtain ⟨coin, hc⟩ := Option.ne_none_iff_exists'.mp (hsettles.can.coinOf_ne_none hp)
    rw [hc, PlayerManager.getCoin_of_coinOf hc]
  constructor
  · intro hledger p hp hzero
    -- the player has 1000 coins again, and the logs say 0
    have hnew := hcoin p
    rw [if_pos hp, if_pos hzero] at hnew
    have hbook := hledger.coin p 1000 hnew
    rw [logged_settled hnd, if_pos hp] at hbook
    have hold := h.coin p _ (hregistered p hp)
    omega
  · intro hne
    have hpaid : ∀ p ∈ room.players, (s.settled d room nowMs).players.coinOf p =
        some (s.players.getCoin p + d.delta room p) := by
      intro p hp
      rw [hcoin, if_pos hp, if_neg (hne p hp)]
    refine ⟨fun p coin hp => ?_, fun p coin stored hp hst => ?_, total_of_sum_sub ?_⟩
    · rw [logged_settled hnd]
      split_ifs with hmem
      · rw [hpaid p hmem, Option.some.injEq] at hp
        have hold := h.coin p _ (hregistered p hmem)
        omega
      · rw [hcoin, if_neg hmem] at hp
        rw [zero_add]
        exact h.coin p coin hp
    · rw [StorageService.getPlayerCoin, playerCoins_settled] at hst
      split_ifs at hst with hmem
      · rw [hpaid p hmem, Option.some.injEq] at hp
        rw [← hp]
        exact (Option.some.inj hst).symm
      · rw [hcoin, if_neg hmem] at hp
        exact h.stored p coin stored hp hst
    · have hkeys : (s.settled d room nowMs).players.players.keys = s.players.players.keys := by
        ext p
        rw [mem_keys_iff, mem_keys_iff, hcoin]
        by_cases hmem : p ∈ room.players
        · exact iff_of_true (by simp [hmem]) (hsettles.can.coinOf_ne_none hmem)
        · rw [if_neg hmem]
      have hget : ∀ p ∈ s.players.players.keys,
          (s.settled d room nowMs).players.getCoin p - 1000 =
            (s.players.getCoin p - 1000) + if p ∈ room.players then d.delta room p else 0 := by
        intro p hp
        obtain ⟨coin, hc⟩ := Option.ne_none_iff_exists'.mp (mem_keys_iff.mp hp)
        by_cases hmem : p ∈ room.players
        · rw [PlayerManager.getCoin_of_coinOf (hpaid p hmem), if_pos hmem]
          ring
        · have hc' := hcoin p
          rw [if_neg hmem, hc] at hc'
          rw [PlayerManager.getCoin_of_coinOf hc', PlayerManager.getCoin_of_coinOf hc,
            if_neg hmem, add_zero]
      have hsubset : room.players.toFinset ⊆ s.players.players.keys := fun p hp =>
        mem_keys_iff.mpr (hsettles.can.coinOf_ne_none (List.mem_toFinset.mp hp))
      have hdeltas : ∑ p ∈ s.players.players.keys,
          (if p ∈ room.players then d.delta room p else 0) = 0 := by
        simp only [← List.mem_toFinset]
        rw [Finset.sum_ite_mem, Finset.inter_eq_right.mpr hsubset,
          List.sum_toFinset _ hnd, sum_delta d room hnd hsettles.can.winner]
      rw [hkeys, Finset.sum_congr rfl hget, Finset.sum_add_distrib, h.sum_sub, hdeltas, add_zero]

/-- A run keeps the ledger exactly if no settlement on the way takes a player to 0 coins. -/
theorem ledger_kept_iff (rng : Shuffler) (auth : AuthTokenService) (redisEnabled : Bool)
    (ops : List ServerOp) :
    (∀ t, Run.Visits (step rng) (start auth redisEnabled) ops t → Ledger t) ↔
      Run.Along (step rng) KeepsBooks (start auth redisEnabled) ops := by
  have hstart : Booked (start auth redisEnabled) := by
    obtain ⟨hcoherent, hkept⟩ :=
      coherent_of_run (show Run.exec (step rng) (start auth redisEnabled) [] = some _ from rfl)
    exact ⟨hcoherent, hkept, by simp [PlayerManager.NonZero, PlayerManager.coinOf, start],
      by simp [start], by simp [start, StorageService.getPlayerCoin]⟩
  have hledger : Ledger (start auth redisEnabled) :=
    ⟨by simp [start, PlayerManager.coinOf], by simp [start, PlayerManager.coinOf], by simp [start]⟩
  refine Run.forall_visits_iff_along (I := Booked) ?_ ?_ hstart hledger ?_
  · intro s op s' hbooked _ hop _
    obtain rfl := Run.total_eq_some.mp hop
    exact hbooked.apply op
  · intro s op s' hbooked h hop
    obtain rfl := Run.total_eq_some.mp hop
    rcases settles_or_neutral rng hbooked.nonZero op with
      ⟨d, nowMs, room, rfl, hsettles, heq⟩ | ⟨hnot, hneutral, hsame⟩
    · rw [heq, ledger_settled_iff hbooked h hsettles]
      constructor
      · rintro hne d' nowMs' room' hop hsettles'
        cases hop
        obtain rfl := Option.some.inj (hsettles.live.symm.trans hsettles'.live)
        exact hne
      · exact fun hkeeps => hkeeps d nowMs room rfl hsettles
    · refine iff_of_true (h.of_neutral hbooked hneutral hsame) ?_
      intro d nowMs room hop hsettles
      exact absurd hsettles (hnot d nowMs room hop)
  · simp [step, Run.exec_total]

/-- Three players are matched, and players 2 and 3 lose all they have. -/
def ruinRun : List ServerOp := matchRun ++ [.settle ⟨1, 1, 1000⟩ 9]

/-- Player 2 loses all 1000 coins: the storage and the logs say 0, and the player has 1000. -/
theorem ledger_broken_at_zero :
    ∃ t, Run.exec (step .sorted) (start {} false) ruinRun = some t ∧
      t.players.coinOf 2 = some 1000 ∧ t.storage.logged 2 = -1000 ∧
      t.storage.getPlayerCoin 2 = some 0 ∧ ¬ Ledger t := by
  refine ⟨_, Run.exec_total _ _ _, ?_⟩
  have hfacts : (ruinRun.foldl (apply .sorted) (start {} false)).players.coinOf 2 = some 1000 ∧
      (ruinRun.foldl (apply .sorted) (start {} false)).storage.logged 2 = -1000 ∧
      (ruinRun.foldl (apply .sorted) (start {} false)).storage.getPlayerCoin 2 = some 0 := by
    decide +kernel
  obtain ⟨hcoin, hlogged, hstored⟩ := hfacts
  refine ⟨hcoin, hlogged, hstored, fun h => ?_⟩
  have hbook := h.coin 2 1000 hcoin
  rw [hlogged] at hbook
  omega

end GameServer

end DdzServer
