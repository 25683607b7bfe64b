import DdzServer.Server.PlayerAction
import DdzServer.Util.DecimalText

/-!
# The texts of an action

The dispatch of `MSG_PLAYER_ACTION_REQ` reads its numbers with `std::stoll`, which is content with a
number that a text starts with, and casts most of them to 32 bits. Only for the cards of a play it
asks whether the whole text was read. An action means what its texts say exactly if none of them
goes on behind its number, or is too large for its field.
-/

namespace DdzServer

/-! ### Numbers and lists of numbers -/

/-- A text that is an integer of so many bits, and nothing else. -/
def IsNumber (bits : ℕ) (text : CppString) : Prop :=
  ∃ n, Denotes text n ∧ -(2 ^ (bits - 1)) ≤ n ∧ n < 2 ^ (bits - 1)

/-- Integers of so many bits, separated by commas. -/
def IsNumberList (bits : ℕ) (text : CppString) : Prop :=
  text = [] ∨ ∀ item ∈ text.splitOn 44, IsNumber bits item

/-- The integers that the items of a whole text denote. -/
def DenotesList (text : CppString) (ns : List ℤ) : Prop :=
  if text = [] then ns = [] else List.Forall₂ Denotes (text.splitOn 44) ns

section

variable {text : CppString} {n v : ℤ}

lemma Denotes.ne_nil (h : Denotes text n) : text ≠ [] := by
  cases h with
  | digits hne _ => exact hne
  | plus _ _ => exact List.cons_ne_nil _ _
  | minus _ _ => exact List.cons_ne_nil _ _

/-- What is read from a text that denotes a number is this number. -/
lemma Denotes.stollPrefix (h : Denotes text n) (hread : stollPrefix text = some v) : v = n := by
  obtain ⟨⟨v', len⟩, hstoll, rfl⟩ := Option.map_eq_some_iff.mp hread
  rw [stoll, parseInteger_of_denotes h] at hstoll
  split_ifs at hstoll
  exact (Prod.mk.inj (Option.some.inj hstoll)).1.symm

lemma stollPrefix_bounds (hread : stollPrefix text = some v) : -(2 ^ 63) ≤ v ∧ v < 2 ^ 63 := by
  obtain ⟨⟨v', len⟩, hstoll, rfl⟩ := Option.map_eq_some_iff.mp hread
  have hbounds := parseInteger_bounds hstoll
  dsimp only
  omega

/-- A number of 64 bits is read right exactly if it is the whole text. -/
lemma denotes_iff_isNumber (hread : stollPrefix text = some v) :
    Denotes text v ↔ IsNumber 64 text := by
  constructor
  · intro h
    exact ⟨v, h, stollPrefix_bounds hread⟩
  · rintro ⟨n, h, -⟩
    rw [h.stollPrefix hread]
    exact h

/-- A number that is cast to 32 bits must fit there, too. -/
lemma denotes_toInt32_iff (hread : stollPrefix text = some v) :
    Denotes text (toInt32 v) ↔ IsNumber 32 text := by
  constructor
  · intro h
    exact ⟨toInt32 v, h, toInt32_bounds v⟩
  · rintro ⟨n, h, hlo, hhi⟩
    rw [h.stollPrefix hread, toInt32_of_bounds hlo hhi]
    exact h

end

/-! ### Cards -/

section

variable {α β : Type} {f : α → Option β} {text : CppString} {ns : List ℤ}

lemma mapM_eq_some_iff_forall₂ {l : List α} {l' : List β} :
    l.mapM f = some l' ↔ List.Forall₂ (fun a b => f a = some b) l l' := by
  induction l generalizing l' with
  | nil => simp [eq_comm]
  | cons a l ih =>
    rw [List.mapM_cons, List.forall₂_cons_left_iff]
    simp only [Option.bind_eq_bind, Option.bind_eq_some_iff, Option.pure_def, Option.some.injEq, ih]
    constructor
    · rintro ⟨b, hb, l'', hl, rfl⟩
      exact ⟨b, l'', hb, hl, rfl⟩
    · rintro ⟨b, l'', hb, hl, rfl⟩
      exact ⟨b, hb, l'', hl, rfl⟩

/-- A property of all pairs that comes down to one of the first members. -/
lemma forall₂_iff_of {R P : α → β → Prop} {Q : α → Prop} {l : List α} {l' : List β}
    (h : List.Forall₂ R l l') (hR : ∀ {a b}, R a b → (P a b ↔ Q a)) :
    List.Forall₂ P l l' ↔ ∀ a ∈ l, Q a := by
  induction h with
  | nil => simp
  | cons hab _ ih => rw [List.forall₂_cons, hR hab, ih, List.forall_mem_cons]

/-- A list without an empty item is read to its end. -/
lemma cardItems_eq (h : ∀ item ∈ text.splitOn 44, item ≠ []) :
    cardItems text = text.splitOn 44 := by
  refine if_neg fun hlast => ?_
  exact h [] (List.mem_of_getLast? hlast) rfl

/-- A card is right exactly if its item is the number of the card and nothing else. -/
lemma denotes_card_iff {item : CppString} {n : ℤ}
    (h : (parseI64Strict item).map toInt32 = some n) : Denotes item n ↔ IsNumber 32 item := by
  obtain ⟨v, hread, rfl⟩ := Option.map_eq_some_iff.mp h
  refine denotes_toInt32_iff ?_
  rw [parseI64Strict] at hread
  split at hread
  next v' len hstoll =>
    split_ifs at hread
    cases hread
    rw [stollPrefix, hstoll]
    rfl
  · cases hread

lemma denotesList_iff (h : parseCardList text = some ns) :
    DenotesList text ns ↔ IsNumberList 32 text := by
  have hitems := mapM_eq_some_iff_forall₂.mp h
  by_cases hnil : text = []
  · subst hnil
    exact iff_of_true (List.forall₂_nil_left_iff.mp hitems) (Or.inl rfl)
  · rw [DenotesList, if_neg hnil, IsNumberList, or_iff_right hnil]
    constructor
    · intro hdenotes
      have hne : ∀ item ∈ text.splitOn 44, item ≠ [] :=
        (forall₂_iff_of hdenotes fun h => ⟨fun _ => h.ne_nil, fun _ => h⟩).mp hdenotes
      rw [cardItems_eq hne] at hitems
      exact (forall₂_iff_of hitems denotes_card_iff).mp hdenotes
    · intro hnumbers
      have hne : ∀ item ∈ text.splitOn 44, item ≠ [] := fun item hitem =>
        (hnumbers item hitem).elim fun _ h => h.1.ne_nil
      rw [cardItems_eq hne] at hitems
      exact (forall₂_iff_of hitems denotes_card_iff).mpr hnumbers

/-- A list of cards is read back from its text. -/
lemma parseCardList_joinNumberList (h : ∀ n ∈ ns, -(2 ^ 31) ≤ n ∧ n < 2 ^ 31) :
    parseCardList (joinNumberList ns) = some ns := by
  have hitems : cardItems (joinNumberList ns) = ns.map toStr := by
    by_cases hnil : ns = []
    · rw [hnil]
      rfl
    · have hsplit : (joinNumberList ns).splitOn 44 = ns.map toStr := by
        refine List.splitOn_intercalate 44 (fun item hitem => ?_) (by simpa using hnil)
        obtain ⟨n, -, rfl⟩ := List.mem_map.mp hitem
        exact not_mem_toStr (by decide) (by decide) n
      rw [cardItems_eq, hsplit]
      rw [hsplit]
      intro item hitem
      obtain ⟨n, -, rfl⟩ := List.mem_map.mp hitem
      exact toStr_ne_nil n
  rw [parseCardList, hitems, mapM_eq_some_iff_forall₂, List.forall₂_map_left_iff,
    List.forall₂_same]
  intro n hn
  obtain ⟨hlo, hhi⟩ := h n hn
  rw [parseI64Strict_toStr (by omega) (by omega), Option.map_some, toInt32_of_bounds hlo hhi]

end

/-! ### Requests -/

/-- The number of an action type. -/
def PlayerActionType.toInt : PlayerActionType → ℤ
  | .callScore   => 1
  | .robLandlord => 2
  | .playCards   => 3
  | .pass        => 4

/-- The fields of a body say what a request is made of. -/
structure PlayerActionRequest.DenotedBy (req : PlayerActionRequest) (kv : KvMap) : Prop where
  actionType : ∃ text, kv.lookup (str "action_type") = some text ∧
    Denotes text req.actionType.toInt
  callScore : req.actionType = .callScore →
    ∃ text, kv.lookup (str "score") = some text ∧ Denotes text req.callScore
  rob : req.actionType = .robLandlord →
    ∃ text, kv.lookup (str "rob") = some text ∧ Denotes text req.rob
  cards : req.actionType = .playCards →
    ∃ text, kv.lookup (str "cards") = some text ∧ DenotesList text req.cards

namespace PlayerActionType

/-- The field of an action is there, and reading it does not throw. -/
def FieldRead (kv : KvMap) : PlayerActionType → Prop
  | .callScore   => ∃ text, kv.lookup (str "score") = some text ∧ (stollPrefix text).isSome
  | .robLandlord => ∃ text, kv.lookup (str "rob") = some text ∧ (stollPrefix text).isSome
  | .playCards   =>
    ∃ text, kv.lookup (str "cards") = some text ∧
      ∀ item ∈ cardItems text, (parseI64Strict item).isSome
  | .pass        => True

/-- The field of an action has numbers of 32 bits, and nothing else. -/
def FieldWhole (kv : KvMap) : PlayerActionType → Prop
  | .callScore   => ∀ text, kv.lookup (str "score") = some text → IsNumber 32 text
  | .robLandlord => ∀ text, kv.lookup (str "rob") = some text → IsNumber 32 text
  | .playCards   => ∀ text, kv.lookup (str "cards") = some text → IsNumberList 32 text
  | .pass        => True

end PlayerActionType

/-- When all that the dispatch reads starts with numbers that it accepts, there is nothing else in
these texts, and the numbers fit their fields. -/
def WholeNumbers (kv : KvMap) : Prop :=
  ∀ roomText typeText roomId typeId actionType,
    kv.lookup (str "room_id") = some roomText → stollPrefix roomText = some roomId → 0 < roomId →
    kv.lookup (str "action_type") = some typeText → stollPrefix typeText = some typeId →
    PlayerActionType.ofInt (toInt32 typeId) = some actionType → actionType.FieldRead kv →
    IsNumber 64 roomText ∧ IsNumber 32 typeText ∧ actionType.FieldWhole kv

section

variable {kv : KvMap} {key body typeText : CppString} {actionType : PlayerActionType}
  {req : PlayerActionRequest} {roomId typeId v : ℤ}

lemma PlayerActionType.ofInt_eq_some {n : ℤ} :
    ofInt n = some actionType ↔ n = actionType.toInt := by
  constructor
  · intro h
    unfold ofInt at h
    split at h <;> cases h <;> rfl
  · rintro rfl
    cases actionType <;> rfl

/-- What the dispatch passes on. -/
lemma parsePlayerAction_eq_some : parsePlayerAction body = some (roomId, req) ↔
    ∃ roomText typeText typeId actionType,
      (parseKvBody body).lookup (str "room_id") = some roomText ∧
        stollPrefix roomText = some roomId ∧ 0 < roomId ∧
      (parseKvBody body).lookup (str "action_type") = some typeText ∧
        stollPrefix typeText = some typeId ∧
        PlayerActionType.ofInt (toInt32 typeId) = some actionType ∧
      parseActionRequest (parseKvBody body) actionType = some req := by
  rw [parsePlayerAction]
  constructor
  · intro h
    split at h
    next roomId' typeId hroom htype =>
      obtain ⟨roomText, hroomText, hroomId⟩ := Option.bind_eq_some_iff.mp hroom
      obtain ⟨typeText, htypeText, htypeId⟩ := Option.bind_eq_some_iff.mp htype
      split_ifs at h with hpos
      obtain ⟨req', hreq, heq⟩ := Option.map_eq_some_iff.mp h
      obtain ⟨actionType, hof, hparse⟩ := Option.bind_eq_some_iff.mp hreq
      obtain ⟨rfl, rfl⟩ := Prod.mk.inj heq
      exact ⟨roomText, typeText, typeId, actionType, hroomText, hroomId, not_le.mp hpos, htypeText,
        htypeId, hof, hparse⟩
    · cases h
  · rintro ⟨roomText, typeText, typeId, actionType, hroomText, hroomId, hpos, htypeText, htypeId,
      hof, hparse⟩
    simp only [hroomText, htypeText, Option.bind_some, hroomId, htypeId, hof, hparse,
      if_neg (not_le.mpr hpos), Option.map_some]

lemma actionType_of_parse (h : parseActionRequest kv actionType = some req) :
    req.actionType = actionType := by
  cases actionType with
  | pass =>
    cases h
    rfl
  | _ =>
    obtain ⟨_, -, rfl⟩ := Option.map_eq_some_iff.mp h
    rfl

/-- A field of 32 bits. -/
lemma denotes_field_iff (h : (kv.lookup key).bind stollPrefix = some v) :
    (∃ text, kv.lookup key = some text ∧ Denotes text (toInt32 v)) ↔
      ∀ text, kv.lookup key = some text → IsNumber 32 text := by
  obtain ⟨text, hlookup, hread⟩ := Option.bind_eq_some_iff.mp h
  simp only [hlookup, Option.some.injEq, exists_eq_left', forall_eq', denotes_toInt32_iff hread]

/-- The cards of a play. -/
lemma denotesList_field_iff {cards : List ℤ}
    (h : (kv.lookup (str "cards")).bind parseCardList = some cards) :
    (∃ text, kv.lookup (str "cards") = some text ∧ DenotesList text cards) ↔
      ∀ text, kv.lookup (str "cards") = some text → IsNumberList 32 text := by
  obtain ⟨text, hlookup, hread⟩ := Option.bind_eq_some_iff.mp h
  simp only [hlookup, Option.some.injEq, exists_eq_left', forall_eq', denotesList_iff hread]

lemma parseCardList_isSome {text : CppString} :
    (parseCardList text).isSome ↔ ∀ item ∈ cardItems text, (parseI64Strict item).isSome := by
  rw [parseCardList]
  induction cardItems text with
  | nil => simp
  | cons item items ih =>
    rw [List.mapM_cons, List.forall_mem_cons, ← ih]
    cases parseI64Strict item with
    | none => simp
    | some v => cases items.mapM fun item => (parseI64Strict item).map toInt32 <;> simp

/-- The field of an action can be read exactly if there is a request. -/
lemma fieldRead_iff : actionType.FieldRead kv ↔ (parseActionRequest kv actionType).isSome := by
  cases actionType with
  | pass => simp [PlayerActionType.FieldRead, parseActionRequest]
  | playCards =>
    simp only [PlayerActionType.FieldRead, parseActionRequest, Option.isSome_map,
      ← parseCardList_isSome]
    cases kv.lookup (str "cards") <;> simp
  | callScore =>
    simp only [PlayerActionType.FieldRead, parseActionRequest, Option.isSome_map]
    cases kv.lookup (str "score") <;> simp
  | robLandlord =>
    simp only [PlayerActionType.FieldRead, parseActionRequest, Option.isSome_map]
    cases kv.lookup (str "rob") <;> simp

/-- A request is what the fields say exactly if the numbers are the whole texts. -/
lemma denotedBy_iff (htype : kv.lookup (str "action_type") = some typeText)
    (hread : stollPrefix typeText = some typeId)
    (hof : PlayerActionType.ofInt (toInt32 typeId) = some actionType)
    (h : parseActionRequest kv actionType = some req) :
    req.DenotedBy kv ↔ IsNumber 32 typeText ∧ actionType.FieldWhole kv := by
  have hreq := actionType_of_parse h
  have hnumber : (∃ text, kv.lookup (str "action_type") = some text ∧
      Denotes text req.actionType.toInt) ↔ IsNumber 32 typeText := by
    rw [← denotes_toInt32_iff hread, hreq, ← PlayerActionType.ofInt_eq_some.mp hof, htype]
    simp
  have hfield : ((req.actionType = .callScore →
        ∃ text, kv.lookup (str "score") = some text ∧ Denotes text req.callScore) ∧
      (req.actionType = .robLandlord →
        ∃ text, kv.lookup (str "rob") = some text ∧ Denotes text req.rob) ∧
      (req.actionType = .playCards →
        ∃ text, kv.lookup (str "cards") = some text ∧ DenotesList text req.cards)) ↔
      actionType.FieldWhole kv := by
    subst hreq
    cases hactual : req.actionType with
    | pass => simp [PlayerActionType.FieldWhole]
    | callScore =>
      rw [hactual] at h
      obtain ⟨score, hscore, heq⟩ := Option.map_eq_some_iff.mp h
      rw [PlayerActionType.FieldWhole, ← denotes_field_iff hscore, ← heq]
      simp
    | robLandlord =>
      rw [hactual] at h
      obtain ⟨rob, hrob, heq⟩ := Option.map_eq_some_iff.mp h
      rw [PlayerActionType.FieldWhole, ← denotes_field_iff hrob, ← heq]
      simp
    | playCards =>
      rw [hactual] at h
      obtain ⟨cards, hcards, heq⟩ := Option.map_eq_some_iff.mp h
      rw [PlayerActionType.FieldWhole, ← denotesList_field_iff hcards, ← heq]
      simp
  rw [← hnumber, ← hfield]
  exact ⟨fun hd => ⟨hd.actionType, hd.callScore, hd.rob, hd.cards⟩,
    fun ⟨ha, hc, hr, hp⟩ => ⟨ha, hc, hr, hp⟩⟩

end

/-! ### The dispatch -/

namespace GameServer

variable {s : GameServer} {rng : Shuffler} {connectionId senderId nowMs : ℤ} {body : CppString}

/-- What a player asks for is passed on as the texts of his request say, or the request is refused
and nothing happens. -/
structure DecodesExactly (rng : Shuffler) (s : GameServer) (connectionId senderId : ℤ)
    (body : CppString) (nowMs : ℤ) : Prop where
  passedOn : ∀ roomId playerId req,
    s.requestedAction connectionId body = some (roomId, playerId, req) →
      (∃ text, (parseKvBody body).lookup (str "room_id") = some text ∧ Denotes text roomId) ∧
        req.DenotedBy (parseKvBody body)
  refused : s.requestedAction connectionId body = none →
    s.handlePlayerAction rng connectionId body nowMs =
      (s, { code := .invalidPacket, reason := "invalid_packet", playerId := senderId })

/-- A request is decoded exactly if and only if the numbers that are read from it are whole texts
that fit their fields; and what the server writes as a list of cards is read back. -/
theorem decodesExactly_iff (h : s.sessions.getPlayerIdByConnection connectionId = some senderId) :
    (DecodesExactly rng s connectionId senderId body nowMs ↔ WholeNumbers (parseKvBody body)) ∧
      ∀ cards : List ℤ, (∀ card ∈ cards, -(2 ^ 31) ≤ card ∧ card < 2 ^ 31) →
        parseCardList (joinNumberList cards) = some cards := by
  refine ⟨⟨fun hexact => ?_, fun hwhole => ⟨?_, ?_⟩⟩, fun cards => parseCardList_joinNumberList⟩
  · intro roomText typeText roomId typeId actionType hroom hroomId hpos htype htypeId hof hfield
    obtain ⟨req, hreq⟩ := Option.isSome_iff_exists.mp (fieldRead_iff.mp hfield)
    have hparse := parsePlayerAction_eq_some.mpr ⟨roomText, typeText, typeId, actionType, hroom,
      hroomId, hpos, htype, htypeId, hof, hreq⟩
    have hasked : s.requestedAction connectionId body = some (roomId, senderId, req) := by
      rw [requestedAction, h]
      simp only [hparse, Option.map_some]
    obtain ⟨⟨text, htext, hdenotes⟩, hreq'⟩ := hexact.passedOn _ _ _ hasked
    rw [hroom, Option.some.injEq] at htext
    subst htext
    exact ⟨(denotes_iff_isNumber hroomId).mp hdenotes,
      (denotedBy_iff htype htypeId hof hreq).mp hreq'⟩
  · intro roomId playerId req hasked
    simp only [requestedAction, h] at hasked
    obtain ⟨⟨roomId', req'⟩, hparse, heq⟩ := Option.map_eq_some_iff.mp hasked
    cases heq
    obtain ⟨roomText, typeText, typeId, actionType, hroom, hroomId, hpos, htype, htypeId, hof,
      hreq⟩ := parsePlayerAction_eq_some.mp hparse
    have hfield := fieldRead_iff.mpr (Option.isSome_iff_exists.mpr ⟨_, hreq⟩)
    obtain ⟨hroomNumber, hrest⟩ := hwhole roomText typeText _ typeId actionType hroom hroomId hpos
      htype htypeId hof hfield
    exact ⟨⟨roomText, hroom, (denotes_iff_isNumber hroomId).mpr hroomNumber⟩,
      (denotedBy_iff htype htypeId hof hreq).mpr hrest⟩
  · intro hasked
    simp only [requestedAction, h] at hasked
    simp only [handlePlayerAction, h, Option.map_eq_none_iff.mp hasked]

/-- A server on which player 1 is connected. -/
def oneConnected : GameServer := (start {} false).loggedIn 1 [] 11 0

theorem decodesExactly_play :
    oneConnected.sessions.getPlayerIdByConnection 11 = some 1 ∧
      ((DecodesExactly .sorted oneConnected 11 1 (str "room_id=7;action_type=3;cards=4,17") 5 ↔
          WholeNumbers (parseKvBody (str "room_id=7;action_type=3;cards=4,17"))) ∧
        ∀ cards : List ℤ, (∀ card ∈ cards, -(2 ^ 31) ≤ card ∧ card < 2 ^ 31) →
          parseCardList (joinNumberList cards) = some cards) :=
  ⟨by decide +kernel, decodesExactly_iff (by decide +kernel)⟩

/-- A room number that goes on as text, and a card beyond 32 bits: both are taken for others. -/
theorem decodes_other_numbers :
    oneConnected.requestedAction 11 (str "room_id=7x;action_type=4") =
        some (7, 1, { actionType := .pass }) ∧
      ¬ DecodesExactly .sorted oneConnected 11 1 (str "room_id=7x;action_type=4") 5 ∧
    oneConnected.requestedAction 11 (str "room_id=7;action_type=3;cards=4294967299") =
        some (7, 1, { actionType := .playCards, cards := [3] }) ∧
      ¬ DecodesExactly .sorted oneConnected 11 1 (str "room_id=7;action_type=3;cards=4294967299")
        5 := by
  have hroom : oneConnected.requestedAction 11 (str "room_id=7x;action_type=4") =
      some (7, 1, { actionType := .pass }) := by decide +kernel
  have hcard : oneConnected.requestedAction 11 (str "room_id=7;action_type=3;cards=4294967299") =
      some (7, 1, { actionType := .playCards, cards := [3] }) := by decide +kernel
  refine ⟨hroom, fun h => ?_, hcard, fun h => ?_⟩
  · obtain ⟨⟨text, htext, hdenotes⟩, -⟩ := h.passedOn _ _ _ hroom
    have hlookup : (parseKvBody (str "room_id=7x;action_type=4")).lookup (str "room_id") =
        some (str "7x") := by decide +kernel
    rw [hlookup, Option.some.injEq] at htext
    subst htext
    have hread : parseInteger 0 9 (str "7x") = some (7, 1) := by decide +kernel
    rw [parseInteger_of_denotes hdenotes] at hread
    revert hread
    decide
  · obtain ⟨text, htext, hdenotes⟩ := (h.passedOn _ _ _ hcard).2.cards rfl
    have hlookup : (parseKvBody (str "room_id=7;action_type=3;cards=4294967299")).lookup
        (str "cards") = some (str "4294967299") := by decide +kernel
    rw [hlookup, Option.some.injEq] at htext
    subst htext
    have hsplit : (str "4294967299").splitOn 44 = [str "4294967299"] := by decide +kernel
    rw [DenotesList, if_neg (by decide), hsplit, List.forall₂_cons] at hdenotes
    have hunique := hdenotes.1.unique (denotes_toStr 4294967299)
    revert hunique
    decide

end GameServer

end DdzServer
