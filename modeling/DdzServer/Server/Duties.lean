import DdzServer.Server.Roster

/-!
# The roster between two calls

While handlers are in progress the copies of a fact may disagree, but then some handler is still
going to write the copy that is behind. Its duties are the writes that it will certainly make. A
roster is accounted for by the duties of all handlers when nothing else disagrees; every single
write keeps it so, and a duty ends when it is fulfilled.
-/

namespace DdzServer

/-- The writes that handlers in progress are still going to make. -/
structure Duties where
  /-- the state of the player will be forced -/
  forces : ℤ → Prop
  /-- the session of the player will be given the room -/
  moves : ℤ → ℤ → Prop
  /-- the room will be destroyed -/
  closes : ℤ → Prop

namespace Duties

/-- The duties are among others. -/
structure Within (D D' : Duties) : Prop where
  forces : ∀ p, D.forces p → D'.forces p
  moves : ∀ p r, D.moves p r → D'.moves p r
  closes : ∀ r, D.closes r → D'.closes r

/-- The duties of both. -/
def join (D D' : Duties) : Duties where
  forces p := D.forces p ∨ D'.forces p
  moves p r := D.moves p r ∨ D'.moves p r
  closes r := D.closes r ∨ D'.closes r

lemma within_join_left (D D' : Duties) : D.Within (D.join D') :=
  ⟨fun _ => Or.inl, fun _ _ => Or.inl, fun _ => Or.inl⟩

lemma within_join_right (D D' : Duties) : D'.Within (D.join D') :=
  ⟨fun _ => Or.inr, fun _ _ => Or.inr, fun _ => Or.inr⟩

lemma Within.trans {D₁ D₂ D₃ : Duties} (h : D₁.Within D₂) (h' : D₂.Within D₃) : D₁.Within D₃ :=
  ⟨fun p hp => h'.forces p (h.forces p hp), fun p r hr => h'.moves p r (h.moves p r hr),
    fun r hr => h'.closes r (h.closes r hr)⟩

end Duties

namespace Roster

variable {R R' : Roster} {D D' : Duties}

/-- The state is one that the player's session allows: online players are in the state `InRoom`
exactly if their session is in a room. -/
def Fits (R : Roster) (p : ℤ) (state : PlayerState) : Prop :=
  ∀ r, R.session p = some (r, true) → (state = .inRoom ↔ 0 < r)

/-- Whatever disagrees will be written by someone. -/
structure Accounted (R : Roster) (D : Duties) : Prop where
  bound : ∀ c p, R.conn c = some p → R.session p ≠ none
  waits : ∀ p ∈ R.waiting, R.session p ≠ none
  live : ∀ r id ps, R.members r = some (id, ps) → id = r
  index : ∀ p r, R.roomOf p = some r ↔ ∃ ps, R.members r = some (r, ps) ∧ p ∈ ps
  present : ∀ p r, R.roomOf p = some r → R.session p ≠ none
  located : ∀ p r, R.roomOf p = some r → R.roomId p = r ∨ D.moves p r ∨ D.closes r
  fits : ∀ p, R.Fits p (R.state p) ∨ D.forces p

/-- One call of a handler that writes, when the handlers have the duties `D`. -/
inductive Write (R : Roster) (D : Duties) : Roster → Prop
  | quiet : Write R D R
  | queue (waiting : List ℤ) (hwaiting : ∀ p ∈ waiting, R.session p ≠ none) :
      Write R D { R with waiting := waiting }
  | relabel (p : ℤ) (state : PlayerState) (hold : R.state p ≠ .inRoom) (hnew : state ≠ .inRoom) :
      Write R D { R with state := fun q => if q = p then state else R.state q }
  | force (p : ℤ) (state : PlayerState) (hduty : D.forces p) :
      Write R D { R with state := fun q => if q = p then state else R.state q }
  | assign (p r : ℤ) (hforces : D.forces p)
      (hroom : ∀ r', R.roomOf p = some r' → r = r' ∨ D.moves p r' ∨ D.closes r') :
      Write R D
        { R with
          session := fun q =>
            if q = p then (R.session q).map fun x => (r, x.2) else R.session q }
  | online (p : ℤ) (conn : ℤ → Option ℤ)
      (hconn : ∀ c q, conn c = some q → q = p ∨ R.conn c = some q)
      (hfits : (R.state p = .inRoom ↔ 0 < R.roomId p) ∨ D.forces p) :
      Write R D
        { R with
          conn := conn
          session := fun q => if q = p then some (R.roomId p, true) else R.session q }
  | offline (p : ℤ) (conn : ℤ → Option ℤ) (hconn : ∀ c q, conn c = some q → R.conn c = some q)
      (hsession : R.session p ≠ none) :
      Write R D
        { R with
          conn := conn
          session := fun q => if q = p then some (R.roomId p, false) else R.session q }
  | create (r : ℤ) (ps : List ℤ) (hnew : R.members r = none) (hfree : ∀ p ∈ ps, R.roomOf p = none)
      (hsession : ∀ p ∈ ps, R.session p ≠ none) (hduty : ∀ p ∈ ps, D.moves p r) :
      Write R D
        { R with
          members := fun q => if q = r then some (r, ps) else R.members q
          roomOf := fun q => if q ∈ ps then some r else R.roomOf q }
  | destroy (r : ℤ) (ps : List ℤ) (hmembers : R.members r = some (r, ps)) :
      Write R D
        { R with
          members := fun q => if q = r then none else R.members q
          roomOf := fun q => if q ∈ ps then none else R.roomOf q }

/-- Sessions are not removed. -/
lemma Write.session_ne_none (h : R.Write D R') {p : ℤ} (hp : R.session p ≠ none) :
    R'.session p ≠ none := by
  cases h with
  | assign q =>
    dsimp only
    split_ifs
    · simpa using hp
    · exact hp
  | online q =>
    dsimp only
    split_ifs
    · exact Option.some_ne_none _
    · exact hp
  | offline q =>
    dsimp only
    split_ifs
    · exact Option.some_ne_none _
    · exact hp
  | _ => exact hp

namespace Accounted

/-- Only the state of one player is written. -/
lemma setState (h : R.Accounted D) {p : ℤ} {state : PlayerState}
    (hp : R.Fits p state ∨ D.forces p) :
    Accounted { R with state := fun q => if q = p then state else R.state q } D := by
  refine ⟨h.bound, h.waits, h.live, h.index, h.present, h.located, fun q => ?_⟩
  by_cases hq : q = p
  · subst hq
    simpa [Fits] using hp
  · simpa [Fits, hq] using h.fits q

/-- Only the session of one player is written, and it keeps its room. -/
lemma setOnline (h : R.Accounted D) {p : ℤ} {conn : ℤ → Option ℤ} {online : Bool}
    (hconn : ∀ c q, conn c = some q → q = p ∨ R.conn c = some q)
    (hfits : online = true → (R.state p = .inRoom ↔ 0 < R.roomId p) ∨ D.forces p) :
    Accounted
      { R with
        conn := conn
        session := fun q => if q = p then some (R.roomId p, online) else R.session q } D := by
  have hsession : ∀ q, R.session q ≠ none →
      (if q = p then some (R.roomId p, online) else R.session q) ≠ none := by
    intro q hq
    split_ifs
    · exact Option.some_ne_none _
    · exact hq
  refine ⟨fun c q hc => ?_, fun q hq => hsession q (h.waits q hq), h.live, h.index,
    fun q r hr => hsession q (h.present q r hr), fun q r hr => ?_, fun q => ?_⟩
  · rcases hconn c q hc with rfl | hc
    · simp
    · exact hsession q (h.bound c q hc)
  · rcases h.located q r hr with hroom | hduty
    · refine Or.inl ?_
      rw [← hroom]
      by_cases hq : q = p
      · simp [roomId, hq]
      · simp [roomId, hq]
    · exact Or.inr hduty
  · by_cases hq : q = p
    · subst hq
      cases online with
      | false => exact Or.inl fun r hr => by simp at hr
      | true =>
        refine (hfits rfl).imp (fun hstate r hr => ?_) id
        simp only [if_true, Option.some.injEq, Prod.mk.injEq, and_true] at hr
        exact hr ▸ hstate
    · simpa [Fits, hq] using h.fits q

lemma assign (h : R.Accounted D) {p r : ℤ} (hforces : D.forces p)
    (hroom : ∀ r', R.roomOf p = some r' → r = r' ∨ D.moves p r' ∨ D.closes r') :
    Accounted
      { R with
        session := fun q =>
          if q = p then (R.session q).map fun x => (r, x.2) else R.session q } D := by
  have hsession : ∀ q, R.session q ≠ none →
      (if q = p then (R.session q).map fun x => (r, x.2) else R.session q) ≠ none := by
    intro q hq
    split_ifs
    · simpa using hq
    · exact hq
  refine ⟨fun c q hc => hsession q (h.bound c q hc), fun q hq => hsession q (h.waits q hq), h.live,
    h.index, fun q r' hr => hsession q (h.present q r' hr), fun q r' hr => ?_, fun q => ?_⟩
  · by_cases hq : q = p
    · subst hq
      refine (hroom r' hr).imp (fun heq => ?_) id
      obtain ⟨x, hx⟩ := Option.ne_none_iff_exists'.mp (h.present q r' hr)
      simp [roomId, hx, heq]
    · simpa [roomId, hq] using h.located q r' hr
  · by_cases hq : q = p
    · exact Or.inr (hq ▸ hforces)
    · simpa [Fits, hq] using h.fits q

lemma create (h : R.Accounted D) {r : ℤ} {ps : List ℤ} (hnew : R.members r = none)
    (hfree : ∀ p ∈ ps, R.roomOf p = none) (hsession : ∀ p ∈ ps, R.session p ≠ none)
    (hduty : ∀ p ∈ ps, D.moves p r) :
    Accounted
      { R with
        members := fun q => if q = r then some (r, ps) else R.members q
        roomOf := fun q => if q ∈ ps then some r else R.roomOf q } D := by
  refine ⟨h.bound, h.waits, fun r' id qs hr => ?_, fun p r' => ?_, fun p r' hr => ?_,
    fun p r' hr => ?_, h.fits⟩
  · by_cases hr' : r' = r
    · simp only [hr', if_true, Option.some.injEq, Prod.mk.injEq] at hr
      rw [hr', hr.1]
    · simp only [hr', if_false] at hr
      exact h.live r' id qs hr
  · by_cases hp : p ∈ ps
    · have hnot : ¬ ∃ qs, R.members r' = some (r', qs) ∧ p ∈ qs := by
        rw [← h.index, hfree p hp]
        exact Option.some_ne_none r' ∘ Eq.symm
      by_cases hr' : r' = r
      · simp [hp, hr']
      · simp [hp, hr', Ne.symm hr', hnot]
    · by_cases hr' : r' = r
      · have hout : R.roomOf p ≠ some r := by
          rw [ne_eq, h.index, hnew]
          simp
        simp [hp, hr', hout]
      · simp [hp, hr', h.index]
  · by_cases hp : p ∈ ps
    · exact hsession p hp
    · simp only [hp, if_false] at hr
      exact h.present p r' hr
  · by_cases hp : p ∈ ps
    · simp only [hp, if_true, Option.some.injEq] at hr
      exact Or.inr (Or.inl (hr ▸ hduty p hp))
    · simp only [hp, if_false] at hr
      exact h.located p r' hr

lemma destroy (h : R.Accounted D) {r : ℤ} {ps : List ℤ} (hmembers : R.members r = some (r, ps)) :
    Accounted
      { R with
        members := fun q => if q = r then none else R.members q
        roomOf := fun q => if q ∈ ps then none else R.roomOf q } D := by
  have hkept : ∀ p r', (if p ∈ ps then none else R.roomOf p) = some r' → R.roomOf p = some r' := by
    intro p r' hr
    split_ifs at hr
    exact hr
  refine ⟨h.bound, h.waits, fun r' id qs hr => ?_, fun p r' => ?_,
    fun p r' hr => h.present p r' (hkept p r' hr), fun p r' hr => h.located p r' (hkept p r' hr),
    h.fits⟩
  · by_cases hr' : r' = r
    · simp [hr'] at hr
    · simp only [hr', if_false] at hr
      exact h.live r' id qs hr
  · by_cases hp : p ∈ ps
    · -- a player of the room is in no other room
      have hroom : R.roomOf p = some r := (h.index p r).mpr ⟨ps, hmembers, hp⟩
      by_cases hr' : r' = r
      · simp [hp, hr']
      · have hnot : ¬ ∃ qs, R.members r' = some (r', qs) ∧ p ∈ qs := by
          rw [← h.index, hroom]
          exact fun heq => hr' (Option.some.inj heq).symm
        simp [hp, hr', hnot]
    · by_cases hr' : r' = r
      · have hout : R.roomOf p ≠ some r := by
          rw [ne_eq, h.index, hmembers]
          rintro ⟨qs, heq, hqs⟩
          simp only [Option.some.injEq, Prod.mk.injEq, true_and] at heq
          exact hp (heq ▸ hqs)
        simp [hp, hr', hout]
      · simp [hp, hr', h.index]

/-- Every write keeps the roster accounted for. -/
theorem write (h : R.Accounted D) (hwrite : R.Write D R') : R'.Accounted D := by
  cases hwrite with
  | quiet => exact h
  | queue waiting hwaiting =>
    exact ⟨h.bound, hwaiting, h.live, h.index, h.present, h.located, h.fits⟩
  | relabel p state hold hnew =>
    refine h.setState ((h.fits p).imp (fun hfits r hr => ?_) id)
    rw [← hfits r hr]
    exact iff_of_false hnew hold
  | force p state hduty => exact h.setState (Or.inr hduty)
  | assign p r hforces hroom => exact h.assign hforces hroom
  | online p conn hconn hfits => exact h.setOnline hconn fun _ => hfits
  | offline p conn hconn _ =>
    exact h.setOnline (fun c q hc => Or.inr (hconn c q hc)) fun hfalse => by cases hfalse
  | create r ps hnew hfree hsession hduty => exact h.create hnew hfree hsession hduty
  | destroy r ps hmembers => exact h.destroy hmembers

/-- A duty may end when its write was made. -/
theorem fulfilled (h : R.Accounted D)
    (hforces : ∀ p, D.forces p → R.Fits p (R.state p) ∨ D'.forces p)
    (hmoves : ∀ p r, D.moves p r → (R.roomOf p = some r → R.roomId p = r) ∨ D'.moves p r)
    (hcloses : ∀ r, D.closes r → (∀ p, R.roomOf p ≠ some r) ∨ D'.closes r) : R.Accounted D' := by
  refine { h with located := fun p r hr => ?_, fits := fun p => ?_ }
  · rcases h.located p r hr with hroom | hduty | hduty
    · exact Or.inl hroom
    · exact (hmoves p r hduty).imp (fun hroom => hroom hr) Or.inl
    · rcases hcloses r hduty with hgone | hduty
      · exact absurd hr (hgone p)
      · exact Or.inr (Or.inr hduty)
  · rcases h.fits p with hfits | hduty
    · exact Or.inl hfits
    · exact hforces p hduty

/-- More duties do no harm. -/
lemma mono (h : R.Accounted D) (hwithin : D.Within D') : R.Accounted D' :=
  h.fulfilled (fun p hp => Or.inr (hwithin.forces p hp))
    (fun p r hr => Or.inr (hwithin.moves p r hr)) fun r hr => Or.inr (hwithin.closes r hr)

end Accounted

end Roster

end DdzServer
