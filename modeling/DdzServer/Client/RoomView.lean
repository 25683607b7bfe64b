import DdzServer.Server.RoomPush

/-!
# The seats of the room view

`RoomView.vue` reads `players_online_bitmap` as a list of numbers separated by commas. The server
writes a digit for each player and no commas, so the browser has one number.
-/

namespace DdzServer

open JsString

namespace Client

/-- `onlineFlags`. -/
def onlineFlags (base : RoomSnapshotBase) : List ℤ :=
  parseCsvNumberList (some base.playersOnlineBitmap)

/-- The `online` of the seat at `index` in `players`. -/
def seatOnline (base : RoomSnapshotBase) (index : ℕ) : Bool :=
  (onlineFlags base).getD index 0 == 1

end Client

/-! ### The bitmap as a number -/

/-- The bitmap of the flags. -/
def onlineBitmap (flags : List Bool) : CppString :=
  flags.map fun online => if online then 49 else 48

variable {flags : List Bool}

lemma isDigit_of_mem_onlineBitmap : ∀ b ∈ onlineBitmap flags, isDigit b = true := by
  intro b hb
  obtain ⟨online, -, rfl⟩ := List.mem_map.mp hb
  cases online <;> decide

/-- Each digit of the bitmap moves the ones before it up. -/
lemma mul_pow_le_foldl (n : ℕ) (flags : List Bool) :
    n * 10 ^ flags.length ≤
      (onlineBitmap flags).foldl (fun n d => 10 * n + (d.toNat - 48)) n := by
  induction flags generalizing n with
  | nil => simp [onlineBitmap]
  | cons online flags ih =>
    have hnext := ih (10 * n + ((if online then 49 else 48 : UInt8).toNat - 48))
    refine le_trans ?_ hnext
    rw [List.length_cons, pow_succ', ← mul_assoc]
    exact Nat.mul_le_mul_right _ (by omega)

/-- One who is online in front of others makes the number at least 10. -/
lemma ten_le_ofDecimal (h : flags ≠ []) : 10 ≤ ofDecimal (onlineBitmap (true :: flags)) := by
  have hlength : 1 ≤ flags.length := List.length_pos_iff.mpr h
  calc 10 = 1 * 10 ^ 1 := rfl
    _ ≤ 1 * 10 ^ flags.length := Nat.mul_le_mul_left 1 (Nat.pow_le_pow_right (by decide) hlength)
    _ ≤ ofDecimal (onlineBitmap (true :: flags)) := mul_pow_le_foldl 1 flags

/-- With nobody online it is 0. -/
lemma ofDecimal_eq_zero (h : ∀ online ∈ flags, online = false) :
    ofDecimal (onlineBitmap flags) = 0 := by
  induction flags with
  | nil => rfl
  | cons online flags ih =>
    obtain ⟨rfl, hflags⟩ := List.forall_mem_cons.mp h
    exact ih hflags

/-! ### What the seats show -/

namespace Client

variable {base : RoomSnapshotBase}

/-- There is one number at most, and the first seat goes by it. -/
lemma onlineFlags_eq (hne : flags ≠ [])
    (hbase : base.playersOnlineBitmap = ofAscii (onlineBitmap flags)) :
    onlineFlags base = if Double.IsFinite (ofDecimal (onlineBitmap flags)) then
      [trunc (Double.round (ofDecimal (onlineBitmap flags)))] else [] := by
  have hclean : (44 : UInt16) ∉ ofAscii (onlineBitmap flags) := by
    rw [show (44 : UInt16) = (44 : UInt8).toUInt16 from rfl, toUInt16_mem_ofAscii]
    intro hmem
    exact absurd (isDigit_of_mem_onlineBitmap 44 hmem) (by decide)
  have htext : onlineBitmap flags ≠ [] := by simpa [onlineBitmap] using hne
  have hascii : ofAscii (onlineBitmap flags) ≠ [] := by simpa [ofAscii] using htext
  rw [onlineFlags, hbase, parseCsvNumberList, List.splitOn_eq_singleton hclean]
  simp only [List.filterMap_cons, List.filterMap_nil, if_neg hascii,
    toNumber_digits htext isDigit_of_mem_onlineBitmap]
  split_ifs <;> rfl

/-- No seat but the first is ever shown online. -/
lemma seatOnline_succ (hbase : base.playersOnlineBitmap = ofAscii (onlineBitmap flags))
    (index : ℕ) : seatOnline base (index + 1) = false := by
  by_cases hne : flags = []
  · rw [seatOnline, onlineFlags, hbase, hne]
    rfl
  · rw [seatOnline, onlineFlags_eq hne hbase]
    split_ifs <;> rfl

/-- The first seat is not shown online when the number is at least 2. -/
lemma seatOnline_zero_of_two_le (hne : flags ≠ [])
    (hbase : base.playersOnlineBitmap = ofAscii (onlineBitmap flags))
    (htwo : 2 ≤ ofDecimal (onlineBitmap flags)) : seatOnline base 0 = false := by
  rw [seatOnline, onlineFlags_eq hne hbase]
  split_ifs
  · have hround : (2 : ℚ) ≤ Double.round (ofDecimal (onlineBitmap flags)) :=
      Double.two_le_round (by exact_mod_cast htwo)
    have hpos : ¬ Double.round (ofDecimal (onlineBitmap flags)) < 0 :=
      not_lt.mpr (zero_le_two.trans hround)
    have htrunc : 2 ≤ trunc (Double.round (ofDecimal (onlineBitmap flags))) := by
      rw [trunc, if_neg hpos, Rat.le_floor_iff]
      exact_mod_cast hround
    simp only [List.getD_cons_zero, beq_eq_false_iff_ne, ne_eq]
    omega
  · rfl

/-- A small number is read as it is. -/
lemma seatOnline_zero_of_le (hne : flags ≠ [])
    (hbase : base.playersOnlineBitmap = ofAscii (onlineBitmap flags))
    (hone : ofDecimal (onlineBitmap flags) ≤ 1) :
    seatOnline base 0 = (ofDecimal (onlineBitmap flags) == 1) := by
  have hsmall : |((ofDecimal (onlineBitmap flags) : ℕ) : ℤ)| ≤ 2 ^ 53 := by
    rw [abs_of_nonneg (Int.natCast_nonneg _)]
    omega
  have hfinite := Double.isFinite_intCast hsmall
  have hround := Double.round_intCast hsmall
  rw [Int.cast_natCast] at hfinite hround
  rw [seatOnline, onlineFlags_eq hne hbase, if_pos hfinite, hround, ← Int.cast_natCast,
    trunc_intCast]
  simp only [List.getD_cons_zero]
  exact Bool.eq_iff_iff.mpr (by simp)

/-- The seats show the flags exactly when there is one player at most, or nobody is online. -/
lemma seatOnline_iff (hbase : base.playersOnlineBitmap = ofAscii (onlineBitmap flags)) :
    (∀ index (h : index < flags.length), seatOnline base index = flags[index]) ↔
      flags.length ≤ 1 ∨ ∀ online ∈ flags, online = false := by
  constructor
  · intro hshown
    refine or_iff_not_imp_left.mpr fun hmany online honline => ?_
    obtain ⟨index, hindex, rfl⟩ := List.getElem_of_mem honline
    rw [← hshown index hindex]
    cases index with
    | succ index => exact seatOnline_succ hbase index
    | zero =>
      obtain ⟨first, rest, rfl⟩ := List.exists_cons_of_length_pos hindex
      have hrest : rest ≠ [] := by
        rintro rfl
        exact hmany le_rfl
      cases first with
      | false => exact hshown 0 hindex
      | true =>
        have hten := ten_le_ofDecimal hrest
        exact seatOnline_zero_of_two_le (List.cons_ne_nil _ _) hbase (by omega)
  · rintro (hone | hoffline) index hindex
    · obtain ⟨online, rfl⟩ := List.length_eq_one_iff.mp (show flags.length = 1 by omega)
      obtain rfl : index = 0 := by simpa using hindex
      cases online
      · exact seatOnline_zero_of_le (List.cons_ne_nil _ _) hbase (by decide)
      · exact seatOnline_zero_of_le (List.cons_ne_nil _ _) hbase (by decide)
    · have hne : flags ≠ [] := List.ne_nil_of_length_pos (by omega)
      have hzero := ofDecimal_eq_zero hoffline
      rw [hoffline _ (List.getElem_mem hindex)]
      cases index with
      | succ index => exact seatOnline_succ hbase index
      | zero =>
        rw [seatOnline_zero_of_le hne hbase (by omega), hzero]
        rfl

end Client

/-! ### The seats after a push -/

namespace RoomMessage

variable {msg : RoomMessage} {room : Room}

/-- The bitmap arrives as it was built. -/
lemma playersOnlineBitmap_handlePush (hmsg : msg.snapshot = room.makeSnapshot)
    (stores : Client.Stores) :
    (stores.handlePush msg.push (ofAscii msg.body)).room.base.playersOnlineBitmap =
      ofAscii (onlineBitmap (room.players.map room.online)) := by
  have hplain : msg.snapshot.PlainTexts := hmsg ▸ room.makeSnapshot_plainTexts
  have hmem : (str "players_online_bitmap", msg.snapshot.playersOnlineBitmap) ∈ msg.fields :=
    msg.subset_fields (by simp [roomStatePushFields])
  rw [base_handlePush, Client.parseRoomSnapshotBody]
  dsimp only
  rw [get_of_mem hplain (by decide) hmem, Option.getD_some, hmsg, onlineBitmap, List.map_map]
  rfl

end RoomMessage

/-- After a push of the room's snapshot every seat is shown online exactly if its player is: if and
only if the room has one player at most, or nobody in it is online. -/
theorem presence_shown_iff (msg : RoomMessage) (room : Room)
    (hmsg : msg.snapshot = room.makeSnapshot) (stores : Client.Stores) :
    ∃ body, receivedBody msg.body = some body ∧
      ((∀ index (h : index < room.players.length),
          Client.seatOnline (stores.handlePush msg.push body).room.base index =
            room.online room.players[index]) ↔
        room.players.length ≤ 1 ∨ ∀ playerId ∈ room.players, room.online playerId = false) := by
  have hplain : msg.snapshot.PlainTexts := hmsg ▸ room.makeSnapshot_plainTexts
  refine ⟨_, RoomMessage.receivedBody_body hplain, ?_⟩
  have hiff := Client.seatOnline_iff (RoomMessage.playersOnlineBitmap_handlePush hmsg stores)
  simpa only [List.length_map, List.getElem_map, List.forall_mem_map] using hiff

/-- A room whose three players have all gone offline. -/
def deserted : Room :=
  [1, 2, 3].foldl (fun room p => (room.markPlayerOffline p 9000).1) (newRoom 1 3 [1, 2, 3])

theorem presence_shown_deserted :
    ∃ body, receivedBody (RoomMessage.statePush deserted.makeSnapshot).body = some body ∧
      ∀ index (h : index < deserted.players.length),
        Client.seatOnline (({} : Client.Stores).handlePush .roomStatePush body).room.base index =
          deserted.online deserted.players[index] := by
  obtain ⟨body, hbody, hiff⟩ :=
    presence_shown_iff (.statePush deserted.makeSnapshot) deserted rfl {}
  exact ⟨body, hbody, hiff.mpr (Or.inr (by decide +kernel))⟩

/-- In a new room all three players are online, and no seat shows it. -/
theorem online_players_shown_offline :
    ¬ ∀ (msg : RoomMessage) (room : Room) (stores : Client.Stores) (body : JsString),
      msg.snapshot = room.makeSnapshot → receivedBody msg.body = some body →
        ∀ index (h : index < room.players.length),
          Client.seatOnline (stores.handlePush msg.push body).room.base index =
            room.online room.players[index] := by
  intro h
  have hplain : (newRoom 1 3 [1, 2, 3]).makeSnapshot.PlainTexts := Room.makeSnapshot_plainTexts _
  have hshown := h (.statePush (newRoom 1 3 [1, 2, 3]).makeSnapshot) (newRoom 1 3 [1, 2, 3]) {} _
    rfl (RoomMessage.receivedBody_body hplain) 1 (by decide)
  have hbitmap := RoomMessage.playersOnlineBitmap_handlePush
    (show (RoomMessage.statePush (newRoom 1 3 [1, 2, 3]).makeSnapshot).snapshot =
      (newRoom 1 3 [1, 2, 3]).makeSnapshot from rfl) {}
  rw [Client.seatOnline_succ hbitmap 0] at hshown
  exact absurd hshown (by decide +kernel)

end DdzServer
