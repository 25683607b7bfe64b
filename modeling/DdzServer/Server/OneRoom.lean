import DdzServer.Server.HandlerEffects

/-!
# One room for each player

When no call of a run is made untimely, the roster is accounted for by the duties of the handlers in
progress. With no handler in progress there are no duties left, and the managers agree.
-/

namespace DdzServer

open Interleaving

/-- A timely call keeps the roster accounted for. -/
lemma HandlerEffect.accounted {s : GameServer} {call : HandlerCall} {others : Duties}
    {out : GameServer × Option HandlerCall} (h : HandlerEffect s call others out)
    (hacc : s.roster.Accounted ((dutiesOf (some call)).join others)) :
    (∀ p, s.roster.session p ≠ none → out.1.roster.session p ≠ none) ∧
      out.1.roster.Accounted ((dutiesOf out.2).join others) := by
  -- the duties before and after the call together
  have hown := Duties.within_join_left (dutiesOf (some call)) others
  have hothers := Duties.within_join_right (dutiesOf (some call)) others
  have hall := Duties.within_join_left ((dutiesOf (some call)).join others) (dutiesOf out.2)
  have hwrite := h.write _ (hown.trans hall)
    (Duties.within_join_right ((dutiesOf (some call)).join others) (dutiesOf out.2))
    (hothers.trans hall)
  refine ⟨fun p => hwrite.session_ne_none, ((hacc.mono hall).write hwrite).fulfilled ?_ ?_ ?_⟩
  · rintro p ((hp | hp) | hp)
    · exact h.forces p hp
    · exact Or.inr (Or.inr hp)
    · exact Or.inr (Or.inl hp)
  · rintro p r ((hr | hr) | hr)
    · exact (h.moves p r hr).imp id Or.inl
    · exact Or.inr (Or.inr hr)
    · exact Or.inr (Or.inl hr)
  · rintro r ((hr | hr) | hr)
    · exact (h.closes r hr).imp id Or.inl
    · exact Or.inr (Or.inr hr)
    · exact Or.inr (Or.inl hr)

namespace HandlerThreads

variable {ι : Type} [DecidableEq ι] {m m' : HandlerThreads ι} {i : ι}

/-- What all handlers in progress will still write. -/
def duties (m : HandlerThreads ι) : Duties where
  forces p := m.Any fun t => (dutiesOf t).forces p
  moves p r := m.Any fun t => (dutiesOf t).moves p r
  closes r := m.Any fun t => (dutiesOf t).closes r

/-- The queue is well-kept, the handlers know what they know, and two settlements that hold a guard
are of different rooms. -/
def outline : Outline GameServer (Option HandlerCall) where
  shared s := s.matching.WellKept
  knows s t := ∀ call, t = some call → call.Knows s
  compatible t t' := ∀ call call' r, t = some call → t' = some call' → call.holds = some r →
    call'.holds ≠ some r
  symm h call call' r ht ht' hr hr' := h call' call r ht' ht hr' hr

/-- The invariant of the timely runs. -/
structure Sound (m : HandlerThreads ι) : Prop where
  outline : outline.Holds m
  accounted : m.shared.roster.Accounted m.duties

/-- The first call of a handler needs no knowledge. -/
lemma knows_firstCall {s : GameServer} {op : ServerOp} {call : HandlerCall}
    (h : s.firstCall op = some call) : call.Knows s ∧ call.holds = none := by
  cases op with
  | login connectionId body nowMs redis =>
    obtain ⟨pid, -, rfl⟩ := Option.map_eq_some_iff.mp h
    exact ⟨HandlerCall.knows_of_nil rfl rfl rfl rfl, rfl⟩
  | reconnect connectionId body nowMs redis =>
    obtain ⟨req, -, rfl⟩ := Option.map_eq_some_iff.mp h
    exact ⟨HandlerCall.knows_of_nil rfl rfl rfl rfl, rfl⟩
  | requestMatch => cases h; exact ⟨HandlerCall.knows_of_nil rfl rfl rfl rfl, rfl⟩
  | cancelMatch => cases h; exact ⟨HandlerCall.knows_of_nil rfl rfl rfl rfl, rfl⟩
  | connectionClosed => cases h; exact ⟨HandlerCall.knows_of_nil rfl rfl rfl rfl, rfl⟩
  | settle => cases h; exact ⟨HandlerCall.knows_of_nil rfl rfl rfl rfl, rfl⟩
  | _ => cases h

lemma duties_set (m : HandlerThreads ι) (i : ι) (out : GameServer × Option HandlerCall) :
    HandlerThreads.duties (m.set i out) = (dutiesOf out.2).join (m.others i) := by
  simp only [duties, Duties.join, others, Threads.any_set]

lemma duties_eq (m : HandlerThreads ι) (i : ι) :
    m.duties = (dutiesOf (m.threads i)).join (m.others i) := by
  simp only [duties, Duties.join, others, m.any_iff i]

lemma Sound.enter (h : m.Sound) (hidle : m.threads i = none) (op : ServerOp) :
    Sound (m.set i (m.shared, m.shared.firstCall op)) := by
  refine ⟨h.outline.set i h.outline.shared (fun call hcall => (knows_firstCall hcall).1)
    fun y hy _ => ⟨hy, fun call call' r hcall _ hr => ?_⟩, ?_⟩
  · rw [(knows_firstCall hcall).2] at hr
    cases hr
  · refine Roster.Accounted.mono (D := m.duties) h.accounted ?_
    rw [duties_set, m.duties_eq i, hidle]
    exact ⟨fun p => Or.imp False.elim id, fun p r => Or.imp False.elim id,
      fun r => Or.imp False.elim id⟩

lemma Sound.call (h : m.Sound) {call : HandlerCall} (hcall : m.threads i = some call)
    (htimely : call.Timely m.shared (m.others i)) :
    Sound (m.set i (m.shared.handlerStep call)) := by
  have heffect := GameServer.effect_handlerStep h.accounted h.outline.shared htimely
    (h.outline.knows i call hcall)
  have hacc := h.accounted
  rw [m.duties_eq i, hcall] at hacc
  obtain ⟨hsession, hacc'⟩ := heffect.accounted hacc
  refine ⟨h.outline.set i (heffect.leaves.wellKept h.outline.shared) heffect.knows
    fun y hy hcompatible =>
      ⟨fun other hother => ?_, fun next other r hnext hother hr hr' => ?_⟩, ?_⟩
  · exact (hy other hother).of_leaves heffect.leaves hsession
      fun r hr => hcompatible call other r hcall hother hr
  · rcases heffect.holds next r hnext hr with hheld | hfree
    · exact hcompatible call other r hcall hother hheld hr'
    · exact hfree ((hy other hother).guarded r hr')
  · rw [duties_set]
    exact hacc'

/-- Every timely step keeps the invariant. -/
theorem Sound.step (h : m.Sound) {label : HandlerLabel ι} (htimely : m.Timely label)
    (hstep : m.step label = some m') : m'.Sound := by
  cases label with
  | enter i op =>
    simp only [HandlerThreads.step] at hstep
    split_ifs at hstep with hop
    cases hstep
    exact h.enter (Option.isNone_iff_eq_none.mp hop.2) op
  | step i =>
    obtain ⟨call, hcall, rfl⟩ := Option.map_eq_some_iff.mp hstep
    exact h.call hcall (htimely call hcall)

omit [DecidableEq ι] in
lemma sound_start (auth : AuthTokenService) (redisEnabled : Bool) :
    Sound (start auth redisEnabled : HandlerThreads ι) := by
  refine ⟨⟨MatchManager.wellKept_empty, fun i call hcall => (by cases hcall),
    fun i j _ call call' r hcall => (by cases hcall)⟩, ?_⟩
  refine ⟨fun c p hc => ?_, fun p hp => ?_, fun r id ps hr => ?_, fun p r => ?_, fun p r hr => ?_,
    fun p r hr => ?_, fun p => Or.inl fun r hr => ?_⟩
  all_goals simp_all [start, GameServer.start, GameServer.roster, RoomManager.membersOf,
    MatchManager.waiting]

omit [DecidableEq ι] in
/-- With no handler in progress there are no duties, and the managers agree. -/
lemma Sound.oneRoom (h : m.Sound) (hidle : ∀ i, m.threads i = none) : m.shared.OneRoom := by
  have hduty : ∀ P : Option HandlerCall → Prop, m.Any P → P none := by
    rintro P ⟨i, hi⟩
    exact hidle i ▸ hi
  have hmember : ∀ p r, m.shared.IsMember p r → m.shared.roster.roomOf p = some r := by
    rintro p r ⟨room, hroom, hp⟩
    have hmembers : m.shared.roster.members r = some (room.roomId, room.players) :=
      RoomManager.membersOf_eq_some.mpr ⟨room, hroom, rfl, rfl⟩
    have hid := h.accounted.live _ _ _ hmembers
    exact (h.accounted.index p r).mpr ⟨room.players, hid ▸ hmembers, hp⟩
  refine ⟨fun p r r' hr hr' => ?_, fun p r hr => ?_, hmember, fun p session hsession honline => ?_⟩
  · exact Option.some.inj ((hmember p r hr).symm.trans (hmember p r' hr'))
  · have hroom := hmember p r hr
    obtain ⟨x, hx⟩ := Option.ne_none_iff_exists'.mp (h.accounted.present p r hroom)
    obtain ⟨session, hlookup, -⟩ := Option.map_eq_some_iff.mp hx
    rcases h.accounted.located p r hroom with heq | hmoves | hcloses
    · rw [GameServer.roomId_of_lookup hlookup] at heq
      rw [SessionManager.getSessionByPlayer, hlookup, Option.map_some, heq]
    · exact (hduty (fun t => (dutiesOf t).moves p r) hmoves).elim
    · exact (hduty (fun t => (dutiesOf t).closes r) hcloses).elim
  · rcases h.accounted.fits p with hfits | hforces
    · refine hfits session.roomId ?_
      have hlookup : m.shared.sessions.playerToSession.lookup p = some session := hsession
      rw [GameServer.roster_session, hlookup, Option.map_some, honline]
    · exact (hduty (fun t => (dutiesOf t).forces p) hforces).elim

/-- In every run whose calls are all timely, whenever no handler is in progress, every player is in
at most one live room, on which the session and the index agree, and the state of an online player
says whether there is a room. -/
theorem one_room_when_idle {auth : AuthTokenService} {redisEnabled : Bool}
    {labels : List (HandlerLabel ι)}
    (htimely : Run.Along step Timely (start auth redisEnabled) labels)
    (hrun : (Run.exec step (start auth redisEnabled) labels).isSome) :
    ∀ m, Run.Visits step (start auth redisEnabled) labels m → (∀ i, m.threads i = none) →
      m.shared.OneRoom := by
  rintro m ⟨l₁, l₂, rfl, hm⟩ hidle
  have halong := (Run.along_append htimely hm).1
  exact (Run.invariant_along (fun s label s' hs hG hstep => Sound.step hs hG hstep)
    (sound_start auth redisEnabled) halong hm).oneRoom hidle

/-! ### Two runs -/

/-- A thread enters an operation and makes `n` calls. -/
def runs (i : ι) (op : ServerOp) (n : ℕ) : List (HandlerLabel ι) :=
  .enter i op :: List.replicate n (.step i)

/-- The step is an entry, or a call that is timely whatever the others do. -/
def timelyAlone (m : HandlerThreads ι) : HandlerLabel ι → Bool
  | .enter _ _ => true
  | .step i    => (m.threads i).all (HandlerCall.timelyAlone m.shared)

omit [DecidableEq ι] in
lemma timely_of_alone {label : HandlerLabel ι} (h : m.timelyAlone label = true) :
    m.Timely label := by
  cases label with
  | enter => trivial
  | step i =>
    intro call hcall
    rw [timelyAlone, hcall] at h
    exact HandlerCall.timely_of_alone h _

/-- Two threads log players in at the same time; then three players ask for a match. -/
def matchedTogether : List (HandlerLabel Bool) :=
  [.enter false (.login 11 (GameServer.ticketBody 1) 0 {}),
    .enter true (.login 12 (GameServer.ticketBody 2) 0 {})] ++
  (List.replicate 6 [.step false, .step true]).flatten ++
  runs false (.login 13 (GameServer.ticketBody 3) 0 {}) 6 ++
  runs false (.requestMatch 11 (str "mode=3") 0) 6 ++
  runs true (.requestMatch 12 (str "mode=3") 0) 6 ++
  runs false (.requestMatch 13 (str "mode=3") 0) 13

theorem one_room_when_matched_together :
    Run.Along step Timely (start {} false) matchedTogether ∧
      ∀ m, Run.Visits step (start {} false) matchedTogether m → (∀ i, m.threads i = none) →
        m.shared.OneRoom := by
  have halong : Run.Along step (fun m label => timelyAlone m label = true) (start {} false)
      matchedTogether := by decide +kernel
  have htimely := halong.mono fun _ _ => timely_of_alone
  exact ⟨htimely, one_room_when_idle htimely (by decide +kernel)⟩

/-- Players 1 and 2 wait, and player 2 logs in again: the login reads that there is no room. Then
the request of player 3 completes the room, and the login goes on. -/
def staleLogin : List (HandlerLabel Bool) :=
  runs false (.login 11 (GameServer.ticketBody 1) 0 {}) 6 ++
  runs false (.login 12 (GameServer.ticketBody 2) 0 {}) 6 ++
  runs false (.login 13 (GameServer.ticketBody 3) 0 {}) 6 ++
  runs false (.requestMatch 11 (str "mode=3") 0) 6 ++
  runs false (.requestMatch 12 (str "mode=3") 0) 6 ++
  runs false (.login 14 (GameServer.ticketBody 2) 0 {}) 1 ++
  runs true (.requestMatch 13 (str "mode=3") 0) 13 ++ List.replicate 5 (.step false)

/-- Afterwards no handler is in progress, and player 2 is online in a room but in the lobby. -/
theorem stale_login_forces_lobby :
    ∃ m, Run.exec step (start {} false) staleLogin = some m ∧ (∀ i, m.threads i = none) ∧
      m.shared.IsMember 2 1 ∧ m.shared.players.getState 2 = .lobby ∧ ¬ m.shared.OneRoom := by
  have hfacts : (Run.exec step (start {} false) staleLogin).map (fun m =>
      ([false, true].all fun i => (m.threads i).isNone,
        (m.shared.rooms.getRoomById 1).map Room.players, m.shared.players.getState 2,
        (m.shared.sessions.getSessionByPlayer 2).map fun sess => (sess.online, sess.roomId))) =
      some (true, some [1, 2, 3], .lobby, some (true, 1)) := by decide +kernel
  obtain ⟨m, hm, heq⟩ := Option.map_eq_some_iff.mp hfacts
  simp only [Prod.mk.injEq, Option.map_eq_some_iff] at heq
  obtain ⟨hidle, ⟨room, hroom, hplayers⟩, hstate, session, hsession, honline, hroomId⟩ := heq
  refine ⟨m, hm, fun i => ?_, ⟨room, hroom, by simp [hplayers]⟩, hstate, fun h => ?_⟩
  · exact Option.isNone_iff_eq_none.mp (List.all_eq_true.mp hidle i (by cases i <;> simp))
  · have hin := (h.state 2 session hsession honline).mpr (by omega)
    rw [hstate] at hin
    cases hin

end HandlerThreads

end DdzServer
