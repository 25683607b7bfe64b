import DdzServer.Client.Stores
import DdzServer.Room.RoomManager

/-!
# Room snapshots on the way to the browser

The three bodies that `GameServer` builds from a snapshot, and what the room store makes of them.
`NotifyRoomSnapshot` sends every field; the two pushes leave out the mode and the remaining seconds,
which the browser then takes for 0.
-/

namespace DdzServer

open JsString

/-! ### Bodies -/

/-- `BuildCardCountList`. -/
def buildCardCountList (cardCounts : List (ℤ × ℤ)) : CppString :=
  List.intercalate (str ",") (cardCounts.map fun count => toStr count.1 ++ str ":" ++ toStr count.2)

/-- The fields of `NotifyRoomSnapshot`. -/
def roomSnapshotFields (snapshot : RoomSnapshot) : List (CppString × CppString) :=
  [(str "room_id", toStr snapshot.roomId),
   (str "mode", toStr snapshot.mode),
   (str "room_state", toStr snapshot.roomState),
   (str "players", joinNumberList snapshot.players),
   (str "current_operator_player_id", toStr snapshot.currentOperatorPlayerId),
   (str "remain_seconds", toStr snapshot.remainSeconds),
   (str "landlord_player_id", toStr snapshot.landlordPlayerId),
   (str "base_coin", toStr snapshot.baseCoin),
   (str "snapshot_version", toStr snapshot.snapshotVersion),
   (str "last_action_seq", toStr snapshot.lastActionSeq),
   (str "players_online_bitmap", snapshot.playersOnlineBitmap),
   (str "trustee_players", snapshot.trusteePlayers),
   (str "nearest_offline_deadline_ms", toStr snapshot.nearestOfflineDeadlineMs)]

/-- The fields of `NotifyRoomStatePush`. -/
def roomStatePushFields (snapshot : RoomSnapshot) : List (CppString × CppString) :=
  [(str "room_id", toStr snapshot.roomId),
   (str "room_state", toStr snapshot.roomState),
   (str "players", joinNumberList snapshot.players),
   (str "current_operator_player_id", toStr snapshot.currentOperatorPlayerId),
   (str "landlord_player_id", toStr snapshot.landlordPlayerId),
   (str "base_coin", toStr snapshot.baseCoin),
   (str "snapshot_version", toStr snapshot.snapshotVersion),
   (str "last_action_seq", toStr snapshot.lastActionSeq),
   (str "players_online_bitmap", snapshot.playersOnlineBitmap),
   (str "trustee_players", snapshot.trusteePlayers),
   (str "nearest_offline_deadline_ms", toStr snapshot.nearestOfflineDeadlineMs)]

/-- The fields of `NotifyRoomStatePushV2`. -/
def roomStatePushV2Fields (snapshot : RoomPushSnapshotV2) : List (CppString × CppString) :=
  [(str "room_id", toStr snapshot.base.roomId),
   (str "room_state", toStr snapshot.base.roomState),
   (str "players", joinNumberList snapshot.base.players),
   (str "current_operator_player_id", toStr snapshot.base.currentOperatorPlayerId),
   (str "landlord_player_id", toStr snapshot.base.landlordPlayerId),
   (str "base_coin", toStr snapshot.base.baseCoin),
   (str "snapshot_version", toStr snapshot.base.snapshotVersion),
   (str "last_action_seq", toStr snapshot.base.lastActionSeq),
   (str "players_online_bitmap", snapshot.base.playersOnlineBitmap),
   (str "trustee_players", snapshot.base.trusteePlayers),
   (str "nearest_offline_deadline_ms", toStr snapshot.base.nearestOfflineDeadlineMs),
   (str "last_play_player_id", toStr snapshot.lastPlayPlayerId),
   (str "last_play_cards", joinNumberList snapshot.lastPlayCards),
   (str "player_card_counts", buildCardCountList snapshot.playerCardCounts),
   (str "landlord_bottom_cards", joinNumberList snapshot.landlordBottomCards),
   (str "action_deadline_ms", toStr snapshot.actionDeadlineMs)]

/-- A message that carries a snapshot of a room. -/
inductive RoomMessage where
  | snapshotNotify (snapshot : RoomSnapshot)
  | statePush (snapshot : RoomSnapshot)
  | statePushV2 (snapshot : RoomPushSnapshotV2)

namespace RoomMessage

/-- The snapshot that the message is built from. -/
def snapshot : RoomMessage → RoomSnapshot
  | snapshotNotify snapshot => snapshot
  | statePush snapshot      => snapshot
  | statePushV2 snapshot    => snapshot.base

def push : RoomMessage → Client.Push
  | snapshotNotify _ => .roomSnapshotNotify
  | statePush _      => .roomStatePush
  | statePushV2 _    => .roomStatePushV2

def fields : RoomMessage → List (CppString × CppString)
  | snapshotNotify snapshot => roomSnapshotFields snapshot
  | statePush snapshot      => roomStatePushFields snapshot
  | statePushV2 snapshot    => roomStatePushV2Fields snapshot

def body (msg : RoomMessage) : CppString := buildKvBody msg.fields

/-- Whether the message has all fields of its snapshot. -/
def IsFull : RoomMessage → Prop
  | snapshotNotify _ => True
  | _                => False

end RoomMessage

/-! ### What the server writes -/

lemma isPlain_buildCardCountList (counts : List (ℤ × ℤ)) : IsPlain (buildCardCountList counts) := by
  have hsep : IsPlain (str ",") := by decide +kernel
  refine forall_mem_intercalate hsep fun text htext => ?_
  obtain ⟨count, -, rfl⟩ := List.mem_map.mp htext
  exact isPlain_append (isPlain_append (isPlain_toStr _) (by decide +kernel)) (isPlain_toStr _)

namespace RoomSnapshot

/-- The texts of a snapshot are plain. -/
def PlainTexts (snapshot : RoomSnapshot) : Prop :=
  IsPlain snapshot.playersOnlineBitmap ∧ IsPlain snapshot.trusteePlayers

/-- The numbers of a snapshot. -/
def numbers (snapshot : RoomSnapshot) : List ℤ :=
  [snapshot.roomId, snapshot.mode, snapshot.roomState, snapshot.currentOperatorPlayerId,
    snapshot.remainSeconds, snapshot.landlordPlayerId, snapshot.baseCoin,
    snapshot.snapshotVersion, snapshot.lastActionSeq, snapshot.nearestOfflineDeadlineMs] ++
  snapshot.players

/-- The browser has all numbers of the snapshot exactly. -/
def Exact (snapshot : RoomSnapshot) : Prop := ∀ n ∈ snapshot.numbers, |n| ≤ 2 ^ 53

instance (snapshot : RoomSnapshot) : Decidable snapshot.Exact :=
  inferInstanceAs (Decidable (∀ n ∈ snapshot.numbers, _))

/-- The snapshot, field by field, as the room store keeps it. -/
def asBase (snapshot : RoomSnapshot) : Client.RoomSnapshotBase where
  roomId := snapshot.roomId
  mode := snapshot.mode
  roomState := snapshot.roomState
  players := snapshot.players
  currentOperatorPlayerId := snapshot.currentOperatorPlayerId
  remainSeconds := snapshot.remainSeconds
  landlordPlayerId := snapshot.landlordPlayerId
  baseCoin := snapshot.baseCoin
  snapshotVersion := snapshot.snapshotVersion
  lastActionSeq := snapshot.lastActionSeq
  playersOnlineBitmap := ofAscii snapshot.playersOnlineBitmap
  trusteePlayers := ofAscii snapshot.trusteePlayers
  nearestOfflineDeadlineMs := snapshot.nearestOfflineDeadlineMs

end RoomSnapshot

/-- The texts that the server makes are plain. -/
lemma Room.makeSnapshot_plainTexts (room : Room) : room.makeSnapshot.PlainTexts := by
  constructor
  · intro b hb
    obtain ⟨pid, -, rfl⟩ := List.mem_map.mp hb
    split_ifs <;> decide
  · exact isPlain_joinNumberList _

/-! ### What the browser reads -/

namespace RoomMessage

variable {msg : RoomMessage}

lemma nodup_keys (msg : RoomMessage) : (msg.fields.map Prod.fst).Nodup := by
  cases msg with
  | snapshotNotify snapshot =>
    simp only [fields, roomSnapshotFields, List.map_cons, List.map_nil]
    decide +kernel
  | statePush snapshot =>
    simp only [fields, roomStatePushFields, List.map_cons, List.map_nil]
    decide +kernel
  | statePushV2 snapshot =>
    simp only [fields, roomStatePushV2Fields, List.map_cons, List.map_nil]
    decide +kernel

lemma keys_plain (msg : RoomMessage) :
    ∀ f ∈ msg.fields, f.1 ≠ [] ∧ IsPlain f.1 ∧ 61 ∉ f.1 := by
  have hkeys : ∀ key ∈ msg.fields.map Prod.fst, key ≠ [] ∧ IsPlain key ∧ 61 ∉ key := by
    cases msg with
    | snapshotNotify snapshot =>
      simp only [fields, roomSnapshotFields, List.map_cons, List.map_nil]
      decide +kernel
    | statePush snapshot =>
      simp only [fields, roomStatePushFields, List.map_cons, List.map_nil]
      decide +kernel
    | statePushV2 snapshot =>
      simp only [fields, roomStatePushV2Fields, List.map_cons, List.map_nil]
      decide +kernel
  exact fun f hf => hkeys f.1 (List.mem_map_of_mem hf)

lemma values_plain (h : msg.snapshot.PlainTexts) : ∀ f ∈ msg.fields, IsPlain f.2 := by
  obtain ⟨hbitmap, htrustee⟩ := h
  cases msg with
  | snapshotNotify snapshot =>
    simpa [fields, roomSnapshotFields, isPlain_toStr, isPlain_joinNumberList] using
      ⟨hbitmap, htrustee⟩
  | statePush snapshot =>
    simpa [fields, roomStatePushFields, isPlain_toStr, isPlain_joinNumberList] using
      ⟨hbitmap, htrustee⟩
  | statePushV2 snapshot =>
    simpa [fields, roomStatePushV2Fields, isPlain_toStr, isPlain_joinNumberList,
      isPlain_buildCardCountList] using ⟨hbitmap, htrustee⟩

/-- The body carries its fields to the browser. -/
lemma isCarried (h : msg.snapshot.PlainTexts) : IsCarried msg.fields :=
  ⟨msg.nodup_keys, msg.keys_plain, values_plain h⟩

lemma receivedBody_body (h : msg.snapshot.PlainTexts) :
    receivedBody msg.body = some (ofAscii msg.body) := (isCarried h).receivedBody_body

/-- A field that was sent. -/
lemma get_of_mem (h : msg.snapshot.PlainTexts) {name : String} {value : CppString}
    (hname : Json.jsStr name = ofAscii (str name)) (hmem : (str name, value) ∈ msg.fields) :
    (parseKv (ofAscii msg.body)).get name = some (ofAscii value) :=
  (isCarried h).get_of_mem hname hmem

/-- A field that was not sent. -/
lemma get_of_not_mem (h : msg.snapshot.PlainTexts) {name : String}
    (hname : Json.jsStr name = ofAscii (str name)) (hmem : str name ∉ msg.fields.map Prod.fst) :
    (parseKv (ofAscii msg.body)).get name = none :=
  (isCarried h).get_of_not_mem hname hmem

/-- Every message has the fields of `NotifyRoomStatePush`. -/
lemma subset_fields (msg : RoomMessage) : roomStatePushFields msg.snapshot ⊆ msg.fields := by
  cases msg with
  | snapshotNotify snapshot =>
    simp only [RoomMessage.snapshot, roomStatePushFields, fields, roomSnapshotFields,
      List.cons_subset, List.mem_cons, true_or, or_true, List.nil_subset, and_self]
  | statePush snapshot => exact List.Subset.refl _
  | statePushV2 snapshot => exact List.subset_append_left (roomStatePushFields snapshot.base) _

/-- The browser reads the snapshot, with whatever the message says of mode and seconds. -/
lemma parseRoomSnapshotBody_body (h : msg.snapshot.PlainTexts) (hexact : msg.snapshot.Exact) :
    Client.parseRoomSnapshotBody (ofAscii msg.body) =
      { msg.snapshot.asBase with
        mode := parseI64 ((parseKv (ofAscii msg.body)).get "mode") 0
        remainSeconds := parseI64 ((parseKv (ofAscii msg.body)).get "remain_seconds") 0 } := by
  have hsub := msg.subset_fields
  simp only [roomStatePushFields, List.cons_subset, List.nil_subset, and_true] at hsub
  obtain ⟨hroomId, hroomState, hplayers, hturn, hlandlord, hbase, hversion, hseq, hbitmap,
    htrustee, hdeadline⟩ := hsub
  simp only [RoomSnapshot.Exact, RoomSnapshot.numbers, List.cons_append, List.nil_append,
    List.forall_mem_cons] at hexact
  obtain ⟨eroomId, -, eroomState, eturn, -, elandlord, ebase, eversion, eseq, edeadline,
    eplayers⟩ := hexact
  rw [Client.parseRoomSnapshotBody]
  dsimp only
  rw [get_of_mem h (by decide) hroomId, get_of_mem h (by decide) hroomState,
    get_of_mem h (by decide) hplayers, get_of_mem h (by decide) hturn,
    get_of_mem h (by decide) hlandlord, get_of_mem h (by decide) hbase,
    get_of_mem h (by decide) hversion, get_of_mem h (by decide) hseq,
    get_of_mem h (by decide) hbitmap, get_of_mem h (by decide) htrustee,
    get_of_mem h (by decide) hdeadline, parseI64_toStr eroomId, parseI64_toStr eroomState,
    parseCsvNumberList_join eplayers, parseI64_toStr eturn, parseI64_toStr elandlord,
    parseI64_toStr ebase, parseI64_toStr eversion, parseI64_toStr eseq, parseI64_toStr edeadline]
  rfl

/-- What the room store makes of a message. -/
lemma base_handlePush (msg : RoomMessage) (stores : Client.Stores) :
    (stores.handlePush msg.push (ofAscii msg.body)).room.base =
      Client.parseRoomSnapshotBody (ofAscii msg.body) := by
  cases msg with
  | snapshotNotify snapshot => rfl
  | statePush snapshot => rfl
  | statePushV2 snapshot => rfl

/-- `NotifyRoomSnapshot` sends mode and seconds. -/
lemma get_of_isFull (h : msg.snapshot.PlainTexts) (hfull : msg.IsFull) :
    (parseKv (ofAscii msg.body)).get "mode" = some (ofAscii (toStr msg.snapshot.mode)) ∧
      (parseKv (ofAscii msg.body)).get "remain_seconds" =
        some (ofAscii (toStr msg.snapshot.remainSeconds)) := by
  cases msg with
  | snapshotNotify snapshot =>
    exact ⟨get_of_mem h (by decide) (List.mem_cons_of_mem _ List.mem_cons_self),
      get_of_mem h (by decide) (by simp [fields, roomSnapshotFields, RoomMessage.snapshot])⟩
  | statePush snapshot => exact hfull.elim
  | statePushV2 snapshot => exact hfull.elim

/-- The pushes do not. -/
lemma get_of_not_isFull (h : msg.snapshot.PlainTexts) (hfull : ¬ msg.IsFull) :
    (parseKv (ofAscii msg.body)).get "mode" = none ∧
      (parseKv (ofAscii msg.body)).get "remain_seconds" = none := by
  have hmissing : str "mode" ∉ msg.fields.map Prod.fst ∧
      str "remain_seconds" ∉ msg.fields.map Prod.fst := by
    cases msg with
    | snapshotNotify snapshot => exact absurd trivial hfull
    | statePush snapshot =>
      simp only [fields, roomStatePushFields, List.map_cons, List.map_nil]
      decide +kernel
    | statePushV2 snapshot =>
      simp only [fields, roomStatePushV2Fields, List.map_cons, List.map_nil]
      decide +kernel
  exact ⟨get_of_not_mem h (by decide) hmissing.1, get_of_not_mem h (by decide) hmissing.2⟩

/-- The store has the snapshot exactly when the message is a full one, or the fields that the pushes
leave out are 0. -/
lemma base_eq_iff (msg : RoomMessage) (h : msg.snapshot.PlainTexts) (hexact : msg.snapshot.Exact)
    (stores : Client.Stores) :
    (stores.handlePush msg.push (ofAscii msg.body)).room.base = msg.snapshot.asBase ↔
      msg.IsFull ∨ msg.snapshot.mode = 0 ∧ msg.snapshot.remainSeconds = 0 := by
  rw [base_handlePush, parseRoomSnapshotBody_body h hexact]
  by_cases hfull : msg.IsFull
  · obtain ⟨hmode, hseconds⟩ := get_of_isFull h hfull
    have hmodeExact : |msg.snapshot.mode| ≤ 2 ^ 53 := hexact _ (by simp [RoomSnapshot.numbers])
    have hsecondsExact : |msg.snapshot.remainSeconds| ≤ 2 ^ 53 :=
      hexact _ (by simp [RoomSnapshot.numbers])
    rw [hmode, hseconds, parseI64_toStr hmodeExact, parseI64_toStr hsecondsExact]
    exact iff_of_true rfl (Or.inl hfull)
  · obtain ⟨hmode, hseconds⟩ := get_of_not_isFull h hfull
    rw [hmode, hseconds]
    constructor
    · intro heq
      have hmodes := congrArg Client.RoomSnapshotBase.mode heq
      have hremains := congrArg Client.RoomSnapshotBase.remainSeconds heq
      exact Or.inr ⟨hmodes.symm, hremains.symm⟩
    · intro hzero
      obtain ⟨hmodes, hremains⟩ := hzero.resolve_left hfull
      have hbase : msg.snapshot.asBase =
          { msg.snapshot.asBase with mode := msg.snapshot.mode, remainSeconds := 0 } := by
        rw [← hremains]
        rfl
      rw [hbase, hmodes]
      rfl

end RoomMessage

/-- A message that carries a snapshot arrives, and then the room store has the snapshot in every
field exactly when the message is a `ROOM_SNAPSHOT_NOTIFY`, or mode and seconds are 0. -/
theorem pushed_snapshot_iff (msg : RoomMessage) (stores : Client.Stores)
    (hplain : msg.snapshot.PlainTexts) (hexact : msg.snapshot.Exact) :
    ∃ body, receivedBody msg.body = some body ∧
      ((stores.handlePush msg.push body).room.base = msg.snapshot.asBase ↔
        msg.IsFull ∨ msg.snapshot.mode = 0 ∧ msg.snapshot.remainSeconds = 0) :=
  ⟨_, msg.receivedBody_body hplain, msg.base_eq_iff hplain hexact stores⟩

/-- The full snapshot of a new room arrives as it is. -/
theorem pushed_snapshot_iff_newRoom :
    ∃ body, receivedBody
        (RoomMessage.snapshotNotify (newRoom 1 3 [1, 2, 3]).makeSnapshot).body = some body ∧
      ((({} : Client.Stores).handlePush .roomSnapshotNotify body).room.base =
        (newRoom 1 3 [1, 2, 3]).makeSnapshot.asBase) := by
  obtain ⟨body, hbody, hiff⟩ := pushed_snapshot_iff
    (.snapshotNotify (newRoom 1 3 [1, 2, 3]).makeSnapshot) {} (Room.makeSnapshot_plainTexts _)
    (by decide +kernel)
  exact ⟨body, hbody, hiff.mpr (Or.inl trivial)⟩

/-- The push of a new room's snapshot tells the browser that its mode is 0. -/
theorem mode_lost_by_statePush :
    ¬ ∀ (msg : RoomMessage) (stores : Client.Stores), msg.snapshot.PlainTexts →
      msg.snapshot.Exact → ∃ body, receivedBody msg.body = some body ∧
        (stores.handlePush msg.push body).room.base = msg.snapshot.asBase := by
  intro h
  let msg : RoomMessage := .statePush (newRoom 1 3 [1, 2, 3]).makeSnapshot
  have hplain : msg.snapshot.PlainTexts := Room.makeSnapshot_plainTexts _
  have hexact : msg.snapshot.Exact := by decide +kernel
  obtain ⟨body, hbody, hbase⟩ := h msg {} hplain hexact
  rw [RoomMessage.receivedBody_body hplain, Option.some.injEq] at hbody
  subst hbody
  rcases (msg.base_eq_iff hplain hexact {}).mp hbase with hfull | ⟨hmode, -⟩
  · exact hfull
  · exact absurd hmode (by decide)

end DdzServer
