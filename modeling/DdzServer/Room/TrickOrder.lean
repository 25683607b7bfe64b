import DdzServer.Room.Trick
import DdzServer.Rule.ComboOrder

/-!
# The plays of a trick

A play has to beat the last one only. As `CanBeat` is transitive on valid combos, it beats all
plays of its trick.
-/

namespace DdzServer

open Room

namespace RoomManager

variable {log : List AcceptedAction} {a : AcceptedAction}

/-- All plays of a log are valid combos. -/
def PlaysValid (log : List AcceptedAction) : Prop :=
  ∀ a ∈ log, a.isPlay = true → (analyze a.request.cards).IsResult

lemma PlaysValid.concat (h : PlaysValid log)
    (ha : a.isPlay = true → (analyze a.request.cards).IsResult) : PlaysValid (log ++ [a]) := by
  intro b hb
  rcases List.mem_append.mp hb with hb | hb
  · exact h b hb
  · rw [List.mem_singleton.mp hb]
    exact ha

end RoomManager

open RoomManager

/-- An accepted play is a valid combo. -/
lemma RoomStep.playsValid {rng : Shuffler} {room room' : Room} {log : List AcceptedAction}
    {accepted : Option (PlayerActionRequest × PlayerActionResult)} (roomId : ℤ)
    (h : RoomStep rng room accepted room') (hlog : PlaysValid log) :
    PlaysValid (log ++ logged roomId room accepted) := by
  cases h with
  | @accepted playerId request _ result hact hrule =>
    obtain ⟨written, ended, hrule, -, -⟩ := hrule
    refine hlog.concat fun hplay => ?_
    have htype : request.actionType = .playCards := of_decide_eq_true hplay
    have hno : ∀ t, request.actionType = t → t = .playCards := fun t ht => ht.symm.trans htype
    cases hrule with
    | play _ _ _ _ _ hvalid => exact ⟨hvalid, _, rfl⟩
    | playLast _ _ _ _ _ hvalid => exact ⟨hvalid, _, rfl⟩
    | callNext _ hcall => cases hno _ hcall.1
    | callLast _ hcall => cases hno _ hcall.1
    | robNext _ hrob => cases hno _ hrob.1
    | robLast _ hrob => cases hno _ hrob.1
    | passNext _ hpass => cases hno _ hpass
    | passLast _ hpass => cases hno _ hpass
  | _ => simpa using hlog

namespace RoomManager

variable {log : List AcceptedAction} {first later : AcceptedAction}

/-- Both are plays, and no two passes close the trick of the first before the later one. -/
def SameTrick (log : List AcceptedAction) (first later : AcceptedAction) : Prop :=
  ∃ before between after, log = before ++ first :: between ++ later :: after ∧
    first.isPlay = true ∧ later.isPlay = true ∧
    ∀ pre post, between = pre ++ post → passCount (before ++ first :: pre) < 2

/-- In an open trick the last play is the first one, or it beats it. -/
lemma lastPlay_of_open {before between : List AcceptedAction}
    (hvalid : PlaysValid (before ++ first :: between)) (hbeats : Beats (before ++ first :: between))
    (hfirst : first.isPlay = true)
    (hopen : ∀ pre post, between = pre ++ post → passCount (before ++ first :: pre) < 2) :
    ∃ prev, lastPlay (before ++ first :: between) = some prev ∧
      (analyze prev.request.cards).IsResult ∧
      (prev = first ∨
        canBeat (analyze prev.request.cards) (analyze first.request.cards) = true) := by
  have hresult : ∀ {log : List AcceptedAction}, first ∈ log → PlaysValid log →
      (analyze first.request.cards).IsResult := fun hmem h => h first hmem hfirst
  induction between using List.reverseRecOn with
  | nil =>
    refine ⟨first, ?_, hresult (by simp) hvalid, Or.inl rfl⟩
    rw [lastPlay_concat, if_pos hfirst]
  | append_singleton between a ih =>
    have hsplit : before ++ first :: (between ++ [a]) = (before ++ first :: between) ++ [a] := by
      simp
    rw [hsplit] at hvalid hbeats ⊢
    have hvalid' : PlaysValid (before ++ first :: between) := fun b hb =>
      hvalid b (List.mem_append_left _ hb)
    have hbeats' : Beats (before ++ first :: between) := fun pre play post heq =>
      hbeats pre play (post ++ [a]) (by rw [heq]; simp)
    obtain ⟨prev, hlast, hprev, hbeaten⟩ := ih hvalid' hbeats' fun pre post heq =>
      hopen pre (post ++ [a]) (by rw [heq, List.append_assoc])
    rw [lastPlay_concat]
    split_ifs with hplay
    · -- a play beats the last one, which beats the first
      have hresulta : (analyze a.request.cards).IsResult := hvalid a (by simp) hplay
      have htop : toBeat (before ++ first :: between) = some prev := by
        rw [toBeat, if_pos (hopen between [a] rfl), hlast]
      have hnext := hbeats (before ++ first :: between) a [] rfl hplay prev htop
      refine ⟨a, rfl, hresulta, Or.inr ?_⟩
      rcases hbeaten with rfl | hbeaten
      · exact hnext
      · exact canBeat_trans hresulta hprev (hresult (by simp) hvalid) hnext hbeaten
    · exact ⟨prev, hlast, hprev, hbeaten⟩

/-- A play beats all plays of its trick before it. -/
lemma SameTrick.canBeat (h : SameTrick log first later) (hvalid : PlaysValid log)
    (hbeats : Beats log) :
    canBeat (analyze later.request.cards) (analyze first.request.cards) = true := by
  obtain ⟨before, between, after, rfl, hfirst, hlater, hopen⟩ := h
  have hvalid' : PlaysValid (before ++ first :: between) := fun b hb =>
    hvalid b (List.mem_append_left _ hb)
  have hbeats' : Beats (before ++ first :: between) := fun pre play post heq =>
    hbeats pre play (post ++ later :: after) (by rw [heq]; simp)
  obtain ⟨prev, hlast, hprev, hbeaten⟩ := lastPlay_of_open hvalid' hbeats' hfirst hopen
  have htop : toBeat (before ++ first :: between) = some prev := by
    rw [toBeat, if_pos (hopen between [] (by simp)), hlast]
  have hnext := hbeats (before ++ first :: between) later after rfl hlater prev htop
  rcases hbeaten with rfl | hbeaten
  · exact hnext
  · exact canBeat_trans (hvalid later (by simp) hlater) hprev (hvalid first (by simp) hfirst)
      hnext hbeaten

/-- What `CanBeat` guarantees of the valid results of `Analyze`. -/
structure ComboOrder : Prop where
  irrefl : ∀ a : CardCombo, a.IsResult → canBeat a a = false
  asymm : ∀ a b : CardCombo, a.IsResult → b.IsResult → canBeat a b = true → canBeat b a = false
  trans : ∀ a b c : CardCombo, a.IsResult → b.IsResult → c.IsResult →
    canBeat a b = true → canBeat b c = true → canBeat a c = true
  rocket : ∀ a b : CardCombo, a.IsResult → b.IsResult → a.type = .rocket →
    (b ≠ a → canBeat a b = true) ∧ canBeat b a = false
  bomb : ∀ a b : CardCombo, a.IsResult → b.IsResult → a.type = .bomb →
    b.type ≠ .bomb → b.type ≠ .rocket → canBeat a b = true
  comparable : ∀ a b : CardCombo, a.IsResult → b.IsResult → a.type ≠ .bomb → a.type ≠ .rocket →
    b.type ≠ .bomb → b.type ≠ .rocket → canBeat a b = true →
    a.type = b.type ∧ a.cardCount = b.cardCount
  higher : ∀ a b : CardCombo, a.IsResult → b.IsResult → a.type ≠ .bomb → a.type ≠ .rocket →
    a.type = b.type → a.cardCount = b.cardCount →
    (b.mainRank < a.mainRank ∧ canBeat a b = true ∧ canBeat b a = false) ∨
    (a.mainRank < b.mainRank ∧ canBeat b a = true ∧ canBeat a b = false) ∨
    (a.mainRank = b.mainRank ∧ canBeat a b = false ∧ canBeat b a = false)
  trick : ∀ (rng : Shuffler) (m₀ m : RoomManager) (mode : ℤ) (players : List ℤ)
    (ops : List RoomOp), players.length = 3 → players.Nodup → (∀ p ∈ players, 0 < p) →
    Run.exec (step rng) (m₀.createRoom mode players).1 ops = some m →
    ∀ first later, SameTrick (actionsOn (m₀.createRoom mode players).2
        (Run.history (step rng) (recordAccepted rng) (m₀.createRoom mode players).1 ops []))
      first later →
    canBeat (analyze later.request.cards) (analyze first.request.cards) = true

/-- Combos of one type and length are compared by their main ranks. -/
lemma canBeat_trichotomy {a b : CardCombo} (ha : a.IsResult) (hb : b.IsResult)
    (hbomb : a.type ≠ .bomb) (hrocket : a.type ≠ .rocket) (htype : a.type = b.type)
    (hcount : a.cardCount = b.cardCount) :
    (b.mainRank < a.mainRank ∧ canBeat a b = true ∧ canBeat b a = false) ∨
    (a.mainRank < b.mainRank ∧ canBeat b a = true ∧ canBeat a b = false) ∨
    (a.mainRank = b.mainRank ∧ canBeat a b = false ∧ canBeat b a = false) := by
  have hab := canBeat_iff_higher ha hb hbomb hrocket
  have hba := canBeat_iff_higher hb ha (htype ▸ hbomb) (htype ▸ hrocket)
  rcases lt_trichotomy a.mainRank b.mainRank with hlt | heq | hgt
  · have hwins := hba.mpr ⟨htype.symm, hcount.symm, hlt⟩
    exact Or.inr (Or.inl ⟨hlt, hwins, canBeat_asymm hb ha hwins⟩)
  · refine Or.inr (Or.inr ⟨heq, ?_, ?_⟩)
    · rw [Bool.eq_false_iff]
      exact fun h => absurd (hab.mp h).2.2 (by omega)
    · rw [Bool.eq_false_iff]
      exact fun h => absurd (hba.mp h).2.2 (by omega)
  · have hwins := hab.mpr ⟨htype, hcount, hgt⟩
    exact Or.inl ⟨hgt, hwins, canBeat_asymm ha hb hwins⟩

/-- `CanBeat` orders the combos, and along a trick a play beats all plays before it. -/
theorem canBeat_order : ComboOrder where
  irrefl a ha := canBeat_irrefl ha
  asymm a b ha hb := canBeat_asymm ha hb
  trans a b c ha hb hc := canBeat_trans ha hb hc
  rocket a b ha hb := canBeat_rocket ha hb
  bomb a b ha hb htype hbomb hrocket := (canBeat_iff ha hb).mpr (.bomb htype hbomb hrocket)
  comparable a b ha hb hbomb hrocket _ _ h := by
    have hhigher := (canBeat_iff_higher ha hb hbomb hrocket).mp h
    exact ⟨hhigher.1, hhigher.2.1⟩
  higher a b ha hb hbomb hrocket := canBeat_trichotomy ha hb hbomb hrocket
  trick rng m₀ m mode players ops hlen hnd hpos hrun first later h := by
    obtain ⟨room, ⟨-, -, hI, hvalid⟩, -⟩ := created_history
      (I := fun room log => room.HasTrio ∧ (∀ p ∈ room.players, 0 < p) ∧ room.InTrick log ∧
        PlaysValid log)
      ⟨⟨hlen, hnd⟩, hpos, inTrick_newRoom _ _ _, fun a ha => by cases ha⟩
      (fun room accepted room' log hI h =>
        ⟨h.hasTrio.mpr hI.1, h.players.symm ▸ hI.2.1, h.inTrick _ hI.1 hI.2.2.1,
          h.playsValid _ hI.2.2.2⟩) hrun
    exact h.canBeat hvalid hI.beats

end RoomManager

end DdzServer
