import DdzServer.Lib.UnorderedMap
import DdzServer.Util.CppString

/-!
# Players

`service/player/player_manager.cpp`: the nickname, the coins and the state of each player.
-/

namespace DdzServer

inductive PlayerState where
  | offline | lobby | matching | inRoom | playing | settlement
  deriving DecidableEq

structure PlayerData where
  playerId : ℤ := 0
  nickname : CppString := []
  coin : ℤ := 0
  state : PlayerState := .offline
  deriving DecidableEq

structure PlayerManager where
  players : UnorderedMap ℤ PlayerData := ∅
  deriving DecidableEq

/-- `IsTransitionAllowed`. -/
def isTransitionAllowed (current next : PlayerState) : Bool :=
  if current = next then true
  else
    match current with
    | .offline    => next = .lobby ∨ next = .playing
    | .lobby      => next = .matching ∨ next = .offline
    | .matching   => next = .lobby ∨ next = .inRoom ∨ next = .offline
    | .inRoom     => next = .playing ∨ next = .offline ∨ next = .lobby
    | .playing    => next = .settlement ∨ next = .offline
    | .settlement => next = .lobby ∨ next = .offline

/-- The nickname of a player who has none. -/
def defaultNickname (playerId : ℤ) : CppString := str "player_" ++ toStr playerId

namespace PlayerManager

open UnorderedMap

def getPlayer (m : PlayerManager) (playerId : ℤ) : Option PlayerData := m.players.lookup playerId

def getState (m : PlayerManager) (playerId : ℤ) : PlayerState := (at' m.players playerId {}).state

def getCoin (m : PlayerManager) (playerId : ℤ) : ℤ := (at' m.players playerId {}).coin

def write (m : PlayerManager) (playerId : ℤ) (player : PlayerData) : PlayerManager :=
  ⟨Finmap.insert playerId player m.players⟩

/-- The data `UpsertPlayer` makes of the data that is there. -/
def upserted (player : PlayerData) (playerId : ℤ) (nickname : CppString) (coin : ℤ) :
    PlayerData :=
  let named := if nickname ≠ [] then nickname else player.nickname
  { playerId := playerId
    nickname := if named = [] then defaultNickname playerId else named
    coin :=
      if 0 < coin then coin
      else if player.playerId = 0 ∧ player.coin = 0 then 1000
      else player.coin
    state := player.state }

def upsertPlayer (m : PlayerManager) (playerId : ℤ) (nickname : CppString) (coin : ℤ) :
    PlayerManager :=
  m.write playerId (upserted (at' m.players playerId {}) playerId nickname coin)

def setState (m : PlayerManager) (playerId : ℤ) (next : PlayerState) : PlayerManager × Bool :=
  match m.players.lookup playerId with
  | none        => (m, false)
  | some player =>
    if isTransitionAllowed player.state next then
      (m.write playerId { player with state := next }, true)
    else
      (m, false)

/-- The data `ForceState` makes of the data that is there. -/
def forced (player : PlayerData) (playerId : ℤ) (next : PlayerState) : PlayerData where
  playerId := playerId
  nickname := if player.nickname = [] then defaultNickname playerId else player.nickname
  coin := if player.coin = 0 then 1000 else player.coin
  state := next

def forceState (m : PlayerManager) (playerId : ℤ) (next : PlayerState) : PlayerManager :=
  m.write playerId (forced (at' m.players playerId {}) playerId next)

/-- `AddCoin`; returns the coins afterwards. -/
def addCoin (m : PlayerManager) (playerId delta : ℤ) : PlayerManager × Option ℤ :=
  match m.players.lookup playerId with
  | none        => (m, none)
  | some player =>
    (m.write playerId { player with coin := player.coin + delta }, some (player.coin + delta))

/-- The loop of `BatchAddCoin` that adds; returns the coins of each player afterwards. -/
def addCoins (m : PlayerManager) : List (ℤ × ℤ) → PlayerManager × List ℤ
  | []                      => (m, [])
  | (playerId, delta) :: cs =>
    let player := at' m.players playerId {}
    let (m', after) := addCoins
      (m.write playerId { player with coin := player.coin + delta }) cs
    (m', (player.coin + delta) :: after)

/-- `BatchAddCoin`: all changes or none. -/
def batchAddCoin (m : PlayerManager) (changes : List (ℤ × ℤ)) : PlayerManager × Option (List ℤ) :=
  if ∀ c ∈ changes, m.players.lookup c.1 ≠ none then
    let (m', after) := m.addCoins changes
    (m', some after)
  else
    (m, none)

/-! ### What the operations write -/

lemma getState_write (m : PlayerManager) (playerId p : ℤ) (player : PlayerData) :
    (m.write playerId player).getState p = if p = playerId then player.state else m.getState p := by
  rw [getState, write, at'_insert]
  split_ifs <;> rfl

lemma getState_upsertPlayer (m : PlayerManager) (playerId : ℤ) (nickname : CppString)
    (coin p : ℤ) : (m.upsertPlayer playerId nickname coin).getState p = m.getState p := by
  rw [upsertPlayer, getState_write]
  split_ifs with hp
  · rw [hp]
    rfl
  · rfl

lemma getState_forceState (m : PlayerManager) (playerId p : ℤ) (next : PlayerState) :
    (m.forceState playerId next).getState p = if p = playerId then next else m.getState p :=
  getState_write _ _ _ _

/-- The players sent to a state. -/
def forceStates (m : PlayerManager) (players : List ℤ) (next : PlayerState) : PlayerManager :=
  players.foldl (fun m pid => m.forceState pid next) m

/-- Forcing a state twice changes nothing more. -/
lemma forced_forced (player : PlayerData) (pid : ℤ) (next : PlayerState) :
    forced (forced player pid next) pid next = forced player pid next := by
  have hnick : defaultNickname pid ≠ [] := by simp [defaultNickname, str]
  have h1000 : (1000 : ℤ) ≠ 0 := by decide
  simp only [forced]
  split_ifs <;> simp_all

lemma lookup_forceState (m : PlayerManager) (pid p : ℤ) (next : PlayerState) :
    (m.forceState pid next).players.lookup p =
      if p = pid then some (forced (at' m.players p {}) p next) else m.players.lookup p := by
  rw [forceState, write, lookup_insert]
  split_ifs with hp
  · rw [hp]
  · rfl

lemma lookup_forceStates (players : List ℤ) (next : PlayerState) (m : PlayerManager) (p : ℤ) :
    (m.forceStates players next).players.lookup p =
      if p ∈ players then some (forced (at' m.players p {}) p next) else m.players.lookup p := by
  induction players generalizing m with
  | nil => simp [forceStates]
  | cons pid players ih =>
    change ((m.forceState pid next).forceStates players next).players.lookup p = _
    rw [ih, at', lookup_forceState]
    by_cases hp : p = pid
    · simp [hp, forced_forced]
    · simp [hp, at']

/-- The players after their coins changed. -/
lemma lookup_addCoins (changes : List (ℤ × ℤ)) (hnd : (changes.map Prod.fst).Nodup)
    (m : PlayerManager) (p : ℤ) :
    (∀ delta, (p, delta) ∈ changes → (m.addCoins changes).1.players.lookup p =
        some { at' m.players p {} with coin := (at' m.players p {}).coin + delta }) ∧
      ((∀ delta, (p, delta) ∉ changes) →
        (m.addCoins changes).1.players.lookup p = m.players.lookup p) := by
  induction changes generalizing m with
  | nil => simp [addCoins]
  | cons c cs ih =>
    obtain ⟨pid, d⟩ := c
    obtain ⟨hpid, hnd⟩ := List.nodup_cons.mp hnd
    obtain ⟨hin, hout⟩ := ih hnd
      (m.write pid { at' m.players pid {} with coin := (at' m.players pid {}).coin + d })
    change (∀ delta, _ → (addCoins (m.write pid _) cs).1.players.lookup p = _) ∧
      (_ → (addCoins (m.write pid _) cs).1.players.lookup p = _)
    have hnot : ∀ delta, (pid, delta) ∉ cs := fun delta hmem =>
      hpid (List.mem_map.mpr ⟨_, hmem, rfl⟩)
    by_cases hp : p = pid
    · subst hp
      refine ⟨fun delta hmem => ?_, fun h => absurd List.mem_cons_self (h d)⟩
      have hd : delta = d := by
        rcases List.mem_cons.mp hmem with heq | hmem
        · exact (Prod.mk.inj heq).2
        · exact absurd hmem (hnot delta)
      rw [hout hnot, write, lookup_insert, if_pos rfl, hd]
    · refine ⟨fun delta hmem => ?_, fun h => ?_⟩
      · have hmem' : (p, delta) ∈ cs := by
          rcases List.mem_cons.mp hmem with heq | hmem
          · exact absurd (Prod.mk.inj heq).1 hp
          · exact hmem
        rw [hin delta hmem', write]
        simp [at'_insert, hp]
      · rw [hout fun delta hmem => h delta (List.mem_cons_of_mem _ hmem), write, lookup_insert,
          if_neg hp]

/-- Nobody is unregistered by a write. -/
lemma lookup_write_ne_none {m : PlayerManager} {p : ℤ} (h : m.players.lookup p ≠ none)
    (pid : ℤ) (player : PlayerData) : (m.write pid player).players.lookup p ≠ none := by
  rw [write, lookup_insert]
  split_ifs
  · exact Option.some_ne_none _
  · exact h

lemma lookup_addCoins_ne_none (changes : List (ℤ × ℤ)) {m : PlayerManager} {p : ℤ}
    (h : m.players.lookup p ≠ none) : (m.addCoins changes).1.players.lookup p ≠ none := by
  induction changes generalizing m with
  | nil => exact h
  | cons c cs ih => exact ih (lookup_write_ne_none h c.1 _)

lemma length_addCoins (changes : List (ℤ × ℤ)) (m : PlayerManager) :
    (m.addCoins changes).2.length = changes.length := by
  induction changes generalizing m with
  | nil => rfl
  | cons c cs ih => simp [addCoins, ih]

lemma getState_forceStates (players : List ℤ) (next : PlayerState) (m : PlayerManager) (p : ℤ) :
    (m.forceStates players next).getState p = if p ∈ players then next else m.getState p := by
  rw [getState, at', lookup_forceStates]
  split_ifs <;> rfl

lemma getState_addCoins (changes : List (ℤ × ℤ)) (m : PlayerManager) (p : ℤ) :
    (m.addCoins changes).1.getState p = m.getState p := by
  induction changes generalizing m with
  | nil => rfl
  | cons c cs ih =>
    obtain ⟨pid, delta⟩ := c
    change (addCoins (m.write pid _) cs).1.getState p = _
    rw [ih, getState_write]
    split_ifs with hp
    · rw [hp]
      rfl
    · rfl

end PlayerManager

end DdzServer
