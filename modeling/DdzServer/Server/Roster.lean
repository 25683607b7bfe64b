import DdzServer.Player.PlayerManager
import Mathlib.Logic.Relation

/-!
# The roster

What the managers of the server together say about who is where, as one abstract state: the players
behind the connections, the room of each session, the states of the players, the queue, and the
members of the rooms. The steps are those a game server may take; each of them keeps the roster
coherent.
-/

namespace DdzServer

@[ext]
structure Roster where
  conn : ℤ → Option ℤ
  /-- the room of a session, and whether it is online -/
  session : ℤ → Option (ℤ × Bool)
  state : ℤ → PlayerState
  waiting : List ℤ
  /-- the id a room stores, and its players -/
  members : ℤ → Option (ℤ × List ℤ)
  roomOf : ℤ → Option ℤ

namespace Roster

variable {R R' : Roster}

/-- The copies of one fact agree. -/
structure Coherent (R : Roster) : Prop where
  bound : ∀ c p, R.conn c = some p → R.session p ≠ none
  nodup : R.waiting.Nodup
  waits : ∀ p ∈ R.waiting, ∃ online, R.session p = some (0, online)
  trio : ∀ r id ps, R.members r = some (id, ps) → 0 < r ∧ id = r ∧ ps.length = 3 ∧ ps.Nodup
  index : ∀ p r, R.roomOf p = some r ↔ ∃ ps, R.members r = some (r, ps) ∧ p ∈ ps
  indexed : ∀ p r online, R.session p = some (r, online) → r ≠ 0 → R.roomOf p = some r
  located : ∀ p r, R.roomOf p = some r → ∃ online, R.session p = some (r, online)
  lobbyState : ∀ p, R.session p = some (0, true) → R.state p = .lobby ∨ R.state p = .matching
  roomState : ∀ p r online, R.session p = some (r, online) → r ≠ 0 →
    R.state p = .inRoom ∨ R.state p = .offline ∧ online = false

/-- The room of a player's session; 0 without a session. -/
def roomId (R : Roster) (p : ℤ) : ℤ := ((R.session p).map Prod.fst).getD 0

/-- What may happen to the roster. -/
inductive Step (R : Roster) : Roster → Prop
  | bind (p : ℤ) (conn : ℤ → Option ℤ)
      (hconn : ∀ c q, conn c = some q → q = p ∨ R.conn c = some q) :
      Step R
        { R with
          conn := conn
          session := fun q => if q = p then some (R.roomId p, true) else R.session q
          state := fun q =>
            if q = p then (if 0 < R.roomId p then .inRoom else .lobby) else R.state q }
  | unbind (p : ℤ) (conn : ℤ → Option ℤ) (waiting : List ℤ)
      (hconn : ∀ c q, conn c = some q → R.conn c = some q) (hsession : R.session p ≠ none)
      (hsub : waiting.Sublist R.waiting) :
      Step R
        { R with
          conn := conn
          session := fun q => if q = p then some (R.roomId p, false) else R.session q
          state := fun q => if q = p then .offline else R.state q
          waiting := waiting }
  | enqueue (c p : ℤ) (hconn : R.conn c = some p) (hlobby : R.state p = .lobby)
      (hfree : p ∉ R.waiting) :
      Step R
        { R with
          state := fun q => if q = p then .matching else R.state q
          waiting := R.waiting ++ [p] }
  | release (waiting : List ℤ) (state : ℤ → PlayerState) (hsub : waiting.Sublist R.waiting)
      (hstate : ∀ q, state q = R.state q ∨ R.state q = .matching ∧ state q = .lobby) :
      Step R { R with waiting := waiting, state := state }
  | form (r : ℤ) (ps rest : List ℤ) (hwaiting : R.waiting = ps ++ rest) (hlen : ps.length = 3)
      (hr : 0 < r) (hnew : R.members r = none) :
      Step R
        { R with
          session := fun q =>
            if q ∈ ps then (R.session q).map fun x => (r, x.2) else R.session q
          state := fun q => if q ∈ ps then .inRoom else R.state q
          waiting := rest
          members := fun q => if q = r then some (r, ps) else R.members q
          roomOf := fun q => if q ∈ ps then some r else R.roomOf q }
  | close (r : ℤ) (ps : List ℤ) (hmembers : R.members r = some (r, ps)) :
      Step R
        { R with
          session := fun q =>
            if q ∈ ps then (R.session q).map fun x => (0, x.2) else R.session q
          state := fun q => if q ∈ ps then .lobby else R.state q
          members := fun q => if q = r then none else R.members q
          roomOf := fun q => if q ∈ ps then none else R.roomOf q }

namespace Coherent

/-- A player who waits is in no room. -/
lemma roomOf_of_waiting (h : R.Coherent) {p : ℤ} (hp : p ∈ R.waiting) : R.roomOf p = none := by
  obtain ⟨online, hsession⟩ := h.waits p hp
  rw [Option.eq_none_iff_forall_ne_some]
  intro r hr
  obtain ⟨online', hsession'⟩ := h.located p r hr
  obtain ⟨ps, hmembers, -⟩ := (h.index p r).mp hr
  obtain rfl : 0 = r := (Prod.mk.inj (Option.some.inj (hsession.symm.trans hsession'))).1
  exact lt_irrefl 0 (h.trio 0 0 ps hmembers).1

lemma session_eq {p : ℤ} (h : R.session p ≠ none) :
    ∃ online, R.session p = some (R.roomId p, online) := by
  obtain ⟨⟨r, online⟩, hs⟩ := Option.ne_none_iff_exists'.mp h
  exact ⟨online, by simp [roomId, hs]⟩

/-- The room of a session that is in a room has a positive id. -/
lemma roomId_pos (h : R.Coherent) {p : ℤ} (hne : R.roomId p ≠ 0) : 0 < R.roomId p := by
  have hsession : R.session p ≠ none := by
    intro hnone
    simp [roomId, hnone] at hne
  obtain ⟨online, hs⟩ := session_eq hsession
  obtain ⟨ps, hmembers, -⟩ := (h.index p _).mp (h.indexed p _ online hs hne)
  exact (h.trio _ _ ps hmembers).1

/-- Two rooms do not share a player. -/
lemma eq_of_mem (h : R.Coherent) {r r' p : ℤ} {ps ps' : List ℤ}
    (hr : R.members r = some (r, ps)) (hp : p ∈ ps) (hr' : R.members r' = some (r', ps'))
    (hp' : p ∈ ps') : r = r' := by
  have hroom := (h.index p r).mpr ⟨ps, hr, hp⟩
  have hroom' := (h.index p r').mpr ⟨ps', hr', hp'⟩
  exact Option.some.inj (hroom.symm.trans hroom')

/-! ### The steps -/

lemma bind (h : R.Coherent) (p : ℤ) (conn : ℤ → Option ℤ)
    (hconn : ∀ c q, conn c = some q → q = p ∨ R.conn c = some q) :
    Coherent
      { R with
        conn := conn
        session := fun q => if q = p then some (R.roomId p, true) else R.session q
        state := fun q =>
          if q = p then (if 0 < R.roomId p then .inRoom else .lobby) else R.state q } where
  bound c q hq := by
    dsimp only
    split_ifs with hqp
    · simp
    · exact h.bound c q ((hconn c q hq).resolve_left hqp)
  nodup := h.nodup
  waits q hq := by
    obtain ⟨online, hs⟩ := h.waits q hq
    dsimp only
    split_ifs with hqp
    · exact ⟨true, by simp [← hqp, roomId, hs]⟩
    · exact ⟨online, hs⟩
  trio := h.trio
  index := h.index
  indexed q r online hs hr := by
    dsimp only at hs
    split_ifs at hs with hqp
    · simp only [Option.some.injEq, Prod.mk.injEq] at hs
      have hne : R.session p ≠ none := by
        intro hnone
        simp [roomId, hnone] at hs
        exact hr hs.1.symm
      obtain ⟨online', hs'⟩ := session_eq hne
      rw [hqp, ← hs.1]
      exact h.indexed p _ online' hs' (hs.1 ▸ hr)
    · exact h.indexed q r online hs hr
  located q r hq := by
    obtain ⟨online, hs⟩ := h.located q r hq
    dsimp only
    split_ifs with hqp
    · exact ⟨true, by simp [← hqp, roomId, hs]⟩
    · exact ⟨online, hs⟩
  lobbyState q hs := by
    dsimp only at hs ⊢
    split_ifs at hs ⊢ with hqp hpos
    · simp only [Option.some.injEq, Prod.mk.injEq] at hs
      omega
    · exact Or.inl rfl
    · exact h.lobbyState q hs
  roomState q r online hs hr := by
    dsimp only at hs ⊢
    split_ifs at hs ⊢ with hqp hpos
    · exact Or.inl rfl
    · simp only [Option.some.injEq, Prod.mk.injEq] at hs
      exact absurd (h.roomId_pos (hs.1 ▸ hr)) hpos
    · exact h.roomState q r online hs hr

lemma unbind (h : R.Coherent) (p : ℤ) (conn : ℤ → Option ℤ) (waiting : List ℤ)
    (hconn : ∀ c q, conn c = some q → R.conn c = some q) (hsession : R.session p ≠ none)
    (hsub : waiting.Sublist R.waiting) :
    Coherent
      { R with
        conn := conn
        session := fun q => if q = p then some (R.roomId p, false) else R.session q
        state := fun q => if q = p then .offline else R.state q
        waiting := waiting } where
  bound c q hq := by
    dsimp only
    split_ifs
    · simp
    · exact h.bound c q (hconn c q hq)
  nodup := hsub.nodup h.nodup
  waits q hq := by
    obtain ⟨online, hs⟩ := h.waits q (hsub.subset hq)
    dsimp only
    split_ifs with hqp
    · exact ⟨false, by simp [← hqp, roomId, hs]⟩
    · exact ⟨online, hs⟩
  trio := h.trio
  index := h.index
  indexed q r online hs hr := by
    dsimp only at hs
    split_ifs at hs with hqp
    · simp only [Option.some.injEq, Prod.mk.injEq] at hs
      obtain ⟨online', hs'⟩ := session_eq hsession
      rw [hqp, ← hs.1]
      exact h.indexed p _ online' hs' (hs.1 ▸ hr)
    · exact h.indexed q r online hs hr
  located q r hq := by
    obtain ⟨online, hs⟩ := h.located q r hq
    dsimp only
    split_ifs with hqp
    · exact ⟨false, by simp [← hqp, roomId, hs]⟩
    · exact ⟨online, hs⟩
  lobbyState q hs := by
    dsimp only at hs ⊢
    split_ifs at hs ⊢ with hqp
    · simp at hs
    · exact h.lobbyState q hs
  roomState q r online hs hr := by
    dsimp only at hs ⊢
    split_ifs at hs ⊢ with hqp
    · simp only [Option.some.injEq, Prod.mk.injEq] at hs
      exact Or.inr ⟨rfl, hs.2.symm⟩
    · exact h.roomState q r online hs hr

lemma enqueue (h : R.Coherent) {c p : ℤ} (hconn : R.conn c = some p) (hlobby : R.state p = .lobby)
    (hfree : p ∉ R.waiting) :
    Coherent
      { R with
        state := fun q => if q = p then .matching else R.state q
        waiting := R.waiting ++ [p] } := by
  -- a player in the lobby is in no room
  have hroom : ∀ r online, R.session p = some (r, online) → r = 0 := by
    intro r online hs
    by_contra hr
    rcases h.roomState p r online hs hr with hstate | ⟨hstate, -⟩ <;> simp [hlobby] at hstate
  exact {
    bound := h.bound
    nodup := List.nodup_append'.mpr ⟨h.nodup, List.nodup_singleton _, by simpa using hfree⟩
    waits := fun q hq => by
      rcases List.mem_append.mp hq with hq | hq
      · exact h.waits q hq
      · obtain rfl := List.mem_singleton.mp hq
        obtain ⟨online, hs⟩ := session_eq (h.bound c q hconn)
        exact ⟨online, hroom _ _ hs ▸ hs⟩
    trio := h.trio
    index := h.index
    indexed := h.indexed
    located := h.located
    lobbyState := fun q hs => by
      dsimp only
      split_ifs
      · exact Or.inr rfl
      · exact h.lobbyState q hs
    roomState := fun q r online hs hr => by
      dsimp only
      split_ifs with hqp
      · exact absurd (hroom r online (hqp ▸ hs)) hr
      · exact h.roomState q r online hs hr }

lemma release (h : R.Coherent) {waiting : List ℤ} {state : ℤ → PlayerState}
    (hsub : waiting.Sublist R.waiting)
    (hstate : ∀ q, state q = R.state q ∨ R.state q = .matching ∧ state q = .lobby) :
    Coherent { R with waiting := waiting, state := state } where
  bound := h.bound
  nodup := hsub.nodup h.nodup
  waits q hq := h.waits q (hsub.subset hq)
  trio := h.trio
  index := h.index
  indexed := h.indexed
  located := h.located
  lobbyState q hs := by
    dsimp only
    rcases hstate q with heq | ⟨-, heq⟩
    · exact heq.symm ▸ h.lobbyState q hs
    · exact Or.inl heq
  roomState q r online hs hr := by
    dsimp only
    rcases hstate q with heq | ⟨hmatching, -⟩
    · exact heq.symm ▸ h.roomState q r online hs hr
    · rcases h.roomState q r online hs hr with hroom | ⟨hroom, -⟩ <;> simp [hmatching] at hroom

lemma form (h : R.Coherent) {r : ℤ} {ps rest : List ℤ} (hwaiting : R.waiting = ps ++ rest)
    (hlen : ps.length = 3) (hr : 0 < r) (hnew : R.members r = none) :
    Coherent
      { R with
        session := fun q => if q ∈ ps then (R.session q).map fun x => (r, x.2) else R.session q
        state := fun q => if q ∈ ps then .inRoom else R.state q
        waiting := rest
        members := fun q => if q = r then some (r, ps) else R.members q
        roomOf := fun q => if q ∈ ps then some r else R.roomOf q } := by
  have hnd := h.nodup
  rw [hwaiting] at hnd
  obtain ⟨hps, hrest, hdisj⟩ := List.nodup_append'.mp hnd
  have hwaits : ∀ q ∈ ps, q ∈ R.waiting := fun q hq => by
    rw [hwaiting]
    exact List.mem_append_left rest hq
  exact {
    bound := fun c q hq => by
      dsimp only
      split_ifs
      · simpa using h.bound c q hq
      · exact h.bound c q hq
    nodup := hrest
    waits := fun q hq => by
      dsimp only
      rw [if_neg fun hq' => hdisj hq' hq]
      exact h.waits q (hwaiting ▸ List.mem_append_right ps hq)
    trio := fun r' id ps' hm => by
      dsimp only at hm
      split_ifs at hm with hrr
      · cases hm
        exact ⟨hrr ▸ hr, hrr.symm, hlen, hps⟩
      · exact h.trio r' id ps' hm
    index := fun p r' => by
      dsimp only
      by_cases hp : p ∈ ps
      · rw [if_pos hp]
        constructor
        · intro heq
          cases heq
          exact ⟨ps, if_pos rfl, hp⟩
        · rintro ⟨ps', hm, hp'⟩
          split_ifs at hm with hrr
          · rw [hrr]
          · have hnone := h.roomOf_of_waiting (hwaits p hp)
            rw [(h.index p r').mpr ⟨ps', hm, hp'⟩] at hnone
            cases hnone
      · rw [if_neg hp, h.index]
        refine exists_congr fun ps' => and_congr_left fun hp' => ?_
        split_ifs with hrr
        · rw [hrr, hnew]
          refine iff_of_false (by simp) fun heq => hp ?_
          cases heq
          exact hp'
        · rfl
    indexed := fun q r' online hs hr' => by
      dsimp only at hs ⊢
      split_ifs at hs ⊢ with hq
      · obtain ⟨x, -, hx⟩ := Option.map_eq_some_iff.mp hs
        rw [(Prod.mk.inj hx).1]
      · exact h.indexed q r' online hs hr'
    located := fun q r' hq => by
      dsimp only at hq ⊢
      split_ifs at hq ⊢ with hmem
      · cases hq
        obtain ⟨online, hs⟩ := h.waits q (hwaits q hmem)
        exact ⟨online, by simp [hs]⟩
      · exact h.located q r' hq
    lobbyState := fun q hs => by
      dsimp only at hs ⊢
      split_ifs at hs ⊢ with hq
      · obtain ⟨x, -, hx⟩ := Option.map_eq_some_iff.mp hs
        exact absurd (Prod.mk.inj hx).1 hr.ne'
      · exact h.lobbyState q hs
    roomState := fun q r' online hs hr' => by
      dsimp only at hs ⊢
      split_ifs at hs ⊢ with hq
      · exact Or.inl rfl
      · exact h.roomState q r' online hs hr' }

lemma close (h : R.Coherent) {r : ℤ} {ps : List ℤ} (hmembers : R.members r = some (r, ps)) :
    Coherent
      { R with
        session := fun q => if q ∈ ps then (R.session q).map fun x => (0, x.2) else R.session q
        state := fun q => if q ∈ ps then .lobby else R.state q
        members := fun q => if q = r then none else R.members q
        roomOf := fun q => if q ∈ ps then none else R.roomOf q } where
  bound c q hq := by
    dsimp only
    split_ifs
    · simpa using h.bound c q hq
    · exact h.bound c q hq
  nodup := h.nodup
  waits q hq := by
    obtain ⟨online, hs⟩ := h.waits q hq
    dsimp only
    split_ifs
    · exact ⟨online, by simp [hs]⟩
    · exact ⟨online, hs⟩
  trio r' id ps' hm := by
    dsimp only at hm
    split_ifs at hm with hrr
    exact h.trio r' id ps' hm
  index p r' := by
    dsimp only
    by_cases hp : p ∈ ps
    · rw [if_pos hp]
      refine iff_of_false (by simp) ?_
      rintro ⟨ps', hm, hp'⟩
      split_ifs at hm with hrr
      exact hrr (h.eq_of_mem hmembers hp hm hp').symm
    · rw [if_neg hp, h.index]
      refine exists_congr fun ps' => and_congr_left fun hp' => ?_
      split_ifs with hrr
      · rw [hrr, hmembers]
        refine iff_of_false (fun heq => hp ?_) (by simp)
        cases heq
        exact hp'
      · rfl
  indexed q r' online hs hr' := by
    dsimp only at hs ⊢
    split_ifs at hs ⊢ with hq
    · obtain ⟨x, -, hx⟩ := Option.map_eq_some_iff.mp hs
      exact absurd (Prod.mk.inj hx).1.symm hr'
    · exact h.indexed q r' online hs hr'
  located q r' hq := by
    dsimp only at hq ⊢
    split_ifs at hq ⊢ with hmem
    exact h.located q r' hq
  lobbyState q hs := by
    dsimp only at hs ⊢
    split_ifs at hs ⊢ with hq
    · exact Or.inl rfl
    · exact h.lobbyState q hs
  roomState q r' online hs hr' := by
    dsimp only at hs ⊢
    split_ifs at hs ⊢ with hq
    · obtain ⟨x, -, hx⟩ := Option.map_eq_some_iff.mp hs
      exact absurd (Prod.mk.inj hx).1.symm hr'
    · exact h.roomState q r' online hs hr'

/-- Every step keeps the roster coherent. -/
theorem step (h : R.Coherent) (hstep : R.Step R') : R'.Coherent := by
  cases hstep with
  | bind p conn hconn => exact h.bind p conn hconn
  | unbind p conn waiting hconn hsession hsub => exact h.unbind p conn waiting hconn hsession hsub
  | enqueue c p hconn hlobby hfree => exact h.enqueue hconn hlobby hfree
  | release waiting state hsub hstate => exact h.release hsub hstate
  | form r ps rest hwaiting hlen hr hnew => exact h.form hwaiting hlen hr hnew
  | close r ps hmembers => exact h.close hmembers

/-- So does every sequence of steps. -/
theorem steps (h : R.Coherent) (hsteps : Relation.ReflTransGen Step R R') : R'.Coherent := by
  induction hsteps with
  | refl => exact h
  | tail _ hstep ih => exact ih.step hstep

end Coherent

end Roster

end DdzServer
