import SurvivalArena.Protocol.LobbyMessageCodec

/-!
# Exactness of the lobby's codecs

What is written of a message, its canonical form, and which messages are read.
-/

namespace SurvivalArena

open KeyedList Wire

variable {ε : Type} [ReadErrors ε]

/-! ## Requests -/

/-- What is written of a request. -/
def ClientMessage.wire : ClientMessage → EncodedMessage
  | .hello requestId => { type := .clientHello, payload := writeU32 requestId }
  | .listRooms requestId => { type := .listRoomsRequest, payload := writeU32 requestId }
  | .createRoom requestId => { type := .createRoomRequest, payload := writeU32 requestId }
  | .joinRoom requestId room => {
      type := .joinRoomRequest
      payload := writeU32 requestId ++ writeU32 room.value }
  | .leaveRoom requestId => { type := .leaveRoomRequest, payload := writeU32 requestId }
  | .setReady requestId ready => {
      type := .setReadyRequest
      payload := writeU32 requestId ++ writeBool ready }
  | .startMatch requestId => { type := .startMatchRequest, payload := writeU32 requestId }

theorem encodeClientMessage_eq_ok {message : ClientMessage} {encoded : EncodedMessage} :
    encodeClientMessage message = .ok encoded ↔
      message.requestId ≠ 0 ∧ encoded = message.wire := by
  unfold encodeClientMessage
  rw [throwIf_bind_eq_ok, beq_eq_false_iff_ne]
  have hpure : ∀ written : EncodedMessage, (pure written : Except Exception EncodedMessage) =
      .ok encoded ↔ encoded = written := fun written =>
    ⟨fun h => (Except.ok.inj h).symm, fun h => congrArg Except.ok h.symm⟩
  cases message <;> exact and_congr_right fun _ => hpure _

theorem readRequestOnly_eq_ok {message : UInt32 → ClientMessage} {value : ClientMessage}
    {input rest : Bytes} :
    readRequestOnly (ε := ε) message input = .ok (value, rest) ↔
      ∃ requestId, requestId ≠ 0 ∧ value = message requestId ∧
        input = writeU32 requestId ++ rest := by
  simp only [readRequestOnly, readU32_exact.bind_eq_ok, require_bind_eq_ok, pure_eq_ok,
    bne_iff_ne, ne_eq]
  constructor
  · rintro ⟨requestId, _, rfl, hid, rfl, rfl⟩
    exact ⟨requestId, hid, rfl, rfl⟩
  · rintro ⟨requestId, hid, rfl, rfl⟩
    exact ⟨requestId, _, rfl, hid, rfl, rfl⟩

theorem readJoinRoom_eq_ok {value : ClientMessage} {input rest : Bytes} :
    readJoinRoom (ε := ε) input = .ok (value, rest) ↔
      ∃ requestId room, requestId ≠ 0 ∧ value = .joinRoom requestId room ∧
        input = writeU32 requestId ++ writeU32 room.value ++ rest := by
  simp only [readJoinRoom, readU32_exact.bind_eq_ok, require_bind_eq_ok, pure_eq_ok,
    bne_iff_ne, ne_eq, List.append_assoc]
  constructor
  · rintro ⟨requestId, _, rfl, room, _, rfl, hid, rfl, rfl⟩
    exact ⟨requestId, ⟨room⟩, hid, rfl, rfl⟩
  · rintro ⟨requestId, room, hid, rfl, rfl⟩
    exact ⟨requestId, _, rfl, room.value, _, rfl, hid, rfl, rfl⟩

theorem readSetReady_eq_ok {value : ClientMessage} {input rest : Bytes} :
    readSetReady (ε := ε) input = .ok (value, rest) ↔
      ∃ requestId ready, requestId ≠ 0 ∧ value = .setReady requestId ready ∧
        input = writeU32 requestId ++ writeBool ready ++ rest := by
  simp only [readSetReady, readU32_exact.bind_eq_ok, readU8_exact.bind_eq_ok,
    require_bind_eq_ok, bind_eq_ok (r := boolOfU8 _), boolOfU8_eq_ok, pure_eq_ok,
    bne_iff_ne, ne_eq, List.append_assoc]
  constructor
  · rintro ⟨requestId, _, rfl, _, _, rfl, hid, ready, _, ⟨rfl, rfl⟩, rfl, rfl⟩
    exact ⟨requestId, ready, hid, rfl, rfl⟩
  · rintro ⟨requestId, ready, hid, rfl, rfl⟩
    exact ⟨requestId, _, rfl, _, _, rfl, hid, ready, _, ⟨rfl, rfl⟩, rfl, rfl⟩

theorem readClientMessage_readsAs (type : MessageType) :
    ReadsAs (fun raw : ClientMessage => raw.requestId ≠ 0 ∧ raw.wire.type = type) id
      (readClientMessage (ε := ε) type) (fun raw => raw.wire.payload) := by
  intro input rest message
  constructor
  · intro h
    cases type with
    | clientHello =>
      obtain ⟨requestId, hid, rfl, rfl⟩ := readRequestOnly_eq_ok.mp h
      exact ⟨.hello requestId, ⟨hid, rfl⟩, rfl, rfl⟩
    | listRoomsRequest =>
      obtain ⟨requestId, hid, rfl, rfl⟩ := readRequestOnly_eq_ok.mp h
      exact ⟨.listRooms requestId, ⟨hid, rfl⟩, rfl, rfl⟩
    | createRoomRequest =>
      obtain ⟨requestId, hid, rfl, rfl⟩ := readRequestOnly_eq_ok.mp h
      exact ⟨.createRoom requestId, ⟨hid, rfl⟩, rfl, rfl⟩
    | joinRoomRequest =>
      obtain ⟨requestId, room, hid, rfl, rfl⟩ := readJoinRoom_eq_ok.mp h
      exact ⟨.joinRoom requestId room, ⟨hid, rfl⟩, rfl, rfl⟩
    | leaveRoomRequest =>
      obtain ⟨requestId, hid, rfl, rfl⟩ := readRequestOnly_eq_ok.mp h
      exact ⟨.leaveRoom requestId, ⟨hid, rfl⟩, rfl, rfl⟩
    | setReadyRequest =>
      obtain ⟨requestId, ready, hid, rfl, rfl⟩ := readSetReady_eq_ok.mp h
      exact ⟨.setReady requestId ready, ⟨hid, rfl⟩, rfl, rfl⟩
    | startMatchRequest =>
      obtain ⟨requestId, hid, rfl, rfl⟩ := readRequestOnly_eq_ok.mp h
      exact ⟨.startMatch requestId, ⟨hid, rfl⟩, rfl, rfl⟩
    | _ => cases h
  · rintro ⟨raw, ⟨hid, rfl⟩, hmessage, rfl⟩
    rw [hmessage]
    cases raw with
    | hello requestId => exact readRequestOnly_eq_ok.mpr ⟨requestId, hid, rfl, rfl⟩
    | listRooms requestId => exact readRequestOnly_eq_ok.mpr ⟨requestId, hid, rfl, rfl⟩
    | createRoom requestId => exact readRequestOnly_eq_ok.mpr ⟨requestId, hid, rfl, rfl⟩
    | joinRoom requestId room => exact readJoinRoom_eq_ok.mpr ⟨requestId, room, hid, rfl, rfl⟩
    | leaveRoom requestId => exact readRequestOnly_eq_ok.mpr ⟨requestId, hid, rfl, rfl⟩
    | setReady requestId ready =>
      exact readSetReady_eq_ok.mpr ⟨requestId, ready, hid, rfl, rfl⟩
    | startMatch requestId => exact readRequestOnly_eq_ok.mpr ⟨requestId, hid, rfl, rfl⟩

/-! ## Answers -/

/-- What is written of a message, its lists in the order that they have. -/
def ServerMessage.wire : ServerMessage → EncodedMessage
  | .welcome requestId player => {
      type := .serverWelcome
      payload := writeU32 requestId ++ writeU32 player.value }
  | .roomList requestId rooms => {
      type := .roomListResponse
      payload := writeU32 requestId ++ writeVector writeSummary rooms }
  | .roomSnapshot snapshot => {
      type := .roomSnapshot
      payload := writeU32 snapshot.requestId ++ writeU32 snapshot.room.value ++
        writeU8 snapshot.state.value ++ writeU32 snapshot.host.value ++
        writeU8 (UInt8.ofNat snapshot.members.length) ++
        snapshot.members.flatMap writeMember }
  | .matchTicket ticket => {
      type := .matchTicket
      payload := writeU32 ticket.requestId ++ writeU64 ticket.matchId.value ++
        ticket.ticket.bytes ++ writeShortString ticket.host ++ writeU16 ticket.tcpPort ++
        writeU16 ticket.udpPort ++ writeU16 ticket.expiresInSeconds }
  | .error requestId code => {
      type := .errorResponse
      payload := writeU32 requestId ++ writeU16 code.value }

/-- Rooms and members in the order of their ids. -/
def ServerMessage.canonical : ServerMessage → ServerMessage
  | .roomList requestId rooms => .roomList requestId (sortByKey RoomSummary.room rooms)
  | .roomSnapshot snapshot => .roomSnapshot
      { snapshot with members := sortByKey RoomMemberView.player snapshot.members }
  | message => message

def ServerMessage.Valid : ServerMessage → Prop
  | .roomList _ rooms =>
    rooms.length ≤ maximumRooms ∧ ∀ room ∈ rooms, isValidSummary room = true
  | .roomSnapshot snapshot => snapshot.members.length ≤ roomCapacity
  | .matchTicket ticket => isValidTicket ticket = true
  | _ => True

theorem sortByKey_sortByKey {α κ : Type} [LinearOrder κ] (key : α → κ) (values : List α) :
    sortByKey key (sortByKey key values) = sortByKey key values :=
  sortByKey_eq_self (sortByKey_pairwise values)

theorem ServerMessage.canonical_canonical (message : ServerMessage) :
    message.canonical.canonical = message.canonical := by
  cases message with
  | roomList requestId rooms =>
    exact congrArg (roomList requestId) (sortByKey_sortByKey _ rooms)
  | roomSnapshot snapshot =>
    exact congrArg (fun members => roomSnapshot { snapshot with members })
      (sortByKey_sortByKey _ snapshot.members)
  | _ => rfl

theorem ServerMessage.canonical_valid {message : ServerMessage} (h : message.Valid) :
    message.canonical.Valid := by
  cases message with
  | roomList requestId rooms =>
    refine ⟨(sortByKey_perm rooms).length_eq.trans_le h.1, fun room hroom => h.2 room ?_⟩
    exact (sortByKey_perm rooms).mem_iff.mp hroom
  | roomSnapshot snapshot => exact (sortByKey_perm snapshot.members).length_eq.trans_le h
  | _ => exact h

theorem pure_eq_ok_iff {α ε' : Type} {value other : α} :
    (pure value : Except ε' α) = .ok other ↔ other = value :=
  ⟨fun h => (Except.ok.inj h).symm, fun h => congrArg Except.ok h.symm⟩

theorem writeString8_of_le {value : Bytes} (h : value.length ≤ 255) :
    writeString8 value = .ok (writeShortString value) :=
  throwIf_bind_eq_ok.mpr ⟨decide_eq_false (not_lt.mpr h), rfl⟩

theorem encodeServerMessage_eq_ok {message : ServerMessage} {encoded : EncodedMessage} :
    encodeServerMessage message = .ok encoded ↔
      message.Valid ∧ encoded = message.canonical.wire := by
  cases message with
  | welcome requestId player => exact pure_eq_ok_iff.trans (and_iff_right trivial).symm
  | roomList requestId rooms =>
    simp only [encodeServerMessage, throwIf_bind_eq_ok, pure_eq_ok_iff, ServerMessage.Valid,
      decide_eq_false_iff_not, not_lt, List.any_eq_false, Bool.not_eq_true', Bool.not_eq_false,
      and_assoc]
    exact Iff.rfl
  | roomSnapshot snapshot =>
    simp only [encodeServerMessage, throwIf_bind_eq_ok, pure_eq_ok_iff, ServerMessage.Valid,
      isValidRoomState_eq, Bool.not_true, Bool.false_or, decide_eq_false_iff_not, not_lt]
    exact Iff.rfl
  | matchTicket ticket =>
    simp only [encodeServerMessage, throwIf_bind_eq_ok, ServerMessage.Valid,
      Bool.not_eq_false']
    refine and_congr_right fun hvalid => ?_
    rw [writeString8_of_le (isValidTicket_host hvalid)]
    exact pure_eq_ok_iff
  | error requestId error =>
    simp only [encodeServerMessage, throwIf_bind_eq_ok, pure_eq_ok_iff, ServerMessage.Valid,
      isValidLobbyError_eq, Bool.not_true]
    exact Iff.rfl

theorem readSummary_reads :
    Reads (fun room => isValidSummary room = true) (readSummary (ε := ε)) writeSummary := by
  apply Reads.of_eq_ok
  intro room input rest
  simp only [readSummary, readU32_exact.bind_eq_ok, readU8_exact.bind_eq_ok,
    require_bind_eq_ok, pure_eq_ok, writeSummary, List.append_assoc]
  constructor
  · rintro ⟨id, _, rfl, players, _, rfl, capacity, _, rfl, hvalid, rfl, rfl⟩
    exact ⟨hvalid, rfl⟩
  · rintro ⟨hvalid, rfl⟩
    exact ⟨room.room.value, _, rfl, room.players, _, rfl, room.capacity, _, rfl, hvalid, rfl,
      rfl⟩

theorem readMember_exact : Exact (readMember (ε := ε)) writeMember := by
  intro member input rest
  simp only [readMember, readU32_exact.bind_eq_ok, readBool_exact.bind_eq_ok, pure_eq_ok,
    writeMember, List.append_assoc]
  constructor
  · rintro ⟨player, _, rfl, ready, _, rfl, rfl, rfl⟩
    rfl
  · rintro rfl
    exact ⟨_, _, rfl, _, _, rfl, rfl, rfl⟩

theorem RoomState.fromValue_eq {number : UInt8} {state : RoomState} :
    fromValue RoomState.all RoomState.value number = some state ↔ state.value = number :=
  fromValue_eq_some (fun state => by cases state <;> decide) (by decide)

theorem LobbyError.fromValue_eq {number : UInt16} {error : LobbyError} :
    fromValue LobbyError.all LobbyError.value number = some error ↔ error.value = number :=
  fromValue_eq_some (fun error => by cases error <;> decide) (by decide)

theorem readWelcome_eq_ok {message : ServerMessage} {input rest : Bytes} :
    readWelcome (ε := ε) input = .ok (message, rest) ↔
      ∃ requestId player, message = .welcome requestId player ∧
        input = writeU32 requestId ++ writeU32 player.value ++ rest := by
  simp only [readWelcome, readU32_exact.bind_eq_ok, pure_eq_ok, List.append_assoc]
  constructor
  · rintro ⟨requestId, _, rfl, player, _, rfl, rfl, rfl⟩
    exact ⟨requestId, ⟨player⟩, rfl, rfl⟩
  · rintro ⟨requestId, player, rfl, rfl⟩
    exact ⟨requestId, _, rfl, player.value, _, rfl, rfl, rfl⟩

theorem readRoomList_eq_ok {message : ServerMessage} {input rest : Bytes} :
    readRoomList (ε := ε) input = .ok (message, rest) ↔
      ∃ requestId rooms, (ServerMessage.roomList requestId rooms).Valid ∧
        message = (ServerMessage.roomList requestId rooms).canonical ∧
        input = writeU32 requestId ++ writeVector writeSummary rooms ++ rest := by
  have hrooms := @Reads.eq_ok _ _ _ _ _ (readBoundedVector_reads (ε := ε) readSummary_reads
    (by decide : maximumRooms < 65536))
  simp only [readRoomList, readU32_exact.bind_eq_ok, bind_eq_ok (r := readBoundedVector _ _),
    hrooms, pure_eq_ok, List.append_assoc]
  constructor
  · rintro ⟨requestId, _, rfl, rooms, _, ⟨hvalid, rfl⟩, rfl, rfl⟩
    exact ⟨requestId, rooms, hvalid, rfl, rfl⟩
  · rintro ⟨requestId, rooms, hvalid, rfl, rfl⟩
    exact ⟨requestId, _, rfl, rooms, _, ⟨hvalid, rfl⟩, rfl, rfl⟩

theorem readRoomSnapshot_eq_ok {message : ServerMessage} {input rest : Bytes} :
    readRoomSnapshot (ε := ε) input = .ok (message, rest) ↔
      ∃ snapshot, (ServerMessage.roomSnapshot snapshot).Valid ∧
        message = (ServerMessage.roomSnapshot snapshot).canonical ∧
        input = (ServerMessage.roomSnapshot snapshot).wire.payload ++ rest := by
  have hmembers := @readCounted_reads ε _ _ _ _ readMember_exact.reads
  simp only [readRoomSnapshot, readU32_exact.bind_eq_ok, readU8_exact.bind_eq_ok,
    known_bind_eq_ok, RoomState.fromValue_eq, require_bind_eq_ok, decide_eq_true_eq,
    bind_eq_ok (r := readMany _ _), hmembers, pure_eq_ok, ServerMessage.wire,
    ServerMessage.Valid, ServerMessage.canonical, List.append_assoc]
  constructor
  · rintro ⟨requestId, _, rfl, room, _, rfl, _, _, rfl, host, _, rfl, count, _, rfl, state, rfl,
      hcount, members, _, ⟨hlength, -, rfl⟩, rfl, rfl⟩
    refine ⟨⟨requestId, ⟨room⟩, state, ⟨host⟩, members⟩, hlength ▸ hcount, rfl, ?_⟩
    rw [hlength, UInt8.ofNat_toNat]
  · rintro ⟨snapshot, hvalid, rfl, rfl⟩
    have hlength : (UInt8.ofNat snapshot.members.length).toNat = snapshot.members.length :=
      UInt8.toNat_ofNat_of_lt' (hvalid.trans_lt (by decide))
    exact ⟨snapshot.requestId, _, rfl, snapshot.room.value, _, rfl, _, _, rfl,
      snapshot.host.value, _, rfl, _, _, rfl, snapshot.state, rfl, hlength.trans_le hvalid,
      snapshot.members, _, ⟨hlength.symm, fun _ _ => trivial, rfl⟩, rfl, rfl⟩

theorem readMatchTicket_eq_ok {message : ServerMessage} {input rest : Bytes} :
    readMatchTicket (ε := ε) input = .ok (message, rest) ↔
      ∃ ticket, isValidTicket ticket = true ∧ message = .matchTicket ticket ∧
        input = (ServerMessage.matchTicket ticket).wire.payload ++ rest := by
  have hhost := @Reads.eq_ok _ _ _ _ _ (readString8_reads (ε := ε) le_rfl)
  simp only [readMatchTicket, readU32_exact.bind_eq_ok, readU64_exact.bind_eq_ok,
    readU16_exact.bind_eq_ok, readOpaque_exact.bind_eq_ok, bind_eq_ok (r := readString8 _),
    hhost, require_bind_eq_ok, pure_eq_ok, ServerMessage.wire, List.append_assoc]
  constructor
  · rintro ⟨requestId, _, rfl, matchId, _, rfl, token, _, rfl, host, _, ⟨-, rfl⟩, tcpPort, _,
      rfl, udpPort, _, rfl, expires, _, rfl, hvalid, rfl, rfl⟩
    exact ⟨_, hvalid, rfl, rfl⟩
  · rintro ⟨ticket, hvalid, rfl, rfl⟩
    exact ⟨ticket.requestId, _, rfl, ticket.matchId.value, _, rfl, ticket.ticket, _, rfl,
      ticket.host, _, ⟨isValidTicket_host hvalid, rfl⟩, ticket.tcpPort, _, rfl, ticket.udpPort,
      _, rfl, ticket.expiresInSeconds, _, rfl, hvalid, rfl, rfl⟩

theorem readErrorResponse_eq_ok {message : ServerMessage} {input rest : Bytes} :
    readErrorResponse (ε := ε) input = .ok (message, rest) ↔
      ∃ requestId error, message = .error requestId error ∧
        input = writeU32 requestId ++ writeU16 error.value ++ rest := by
  simp only [readErrorResponse, readU32_exact.bind_eq_ok, readU16_exact.bind_eq_ok,
    known_bind_eq_ok, LobbyError.fromValue_eq, pure_eq_ok, List.append_assoc]
  constructor
  · rintro ⟨requestId, _, rfl, _, _, rfl, error, rfl, rfl, rfl⟩
    exact ⟨requestId, error, rfl, rfl⟩
  · rintro ⟨requestId, error, rfl, rfl⟩
    exact ⟨requestId, _, rfl, _, _, rfl, error, rfl, rfl, rfl⟩

theorem readServerMessage_readsAs (type : MessageType) :
    ReadsAs (fun raw : ServerMessage => raw.Valid ∧ raw.wire.type = type)
      ServerMessage.canonical (readServerMessage (ε := ε) type)
      (fun raw => raw.wire.payload) := by
  intro input rest message
  constructor
  · intro h
    cases type with
    | serverWelcome =>
      obtain ⟨requestId, player, rfl, rfl⟩ := readWelcome_eq_ok.mp h
      exact ⟨.welcome requestId player, ⟨trivial, rfl⟩, rfl, rfl⟩
    | roomListResponse =>
      obtain ⟨requestId, rooms, hvalid, rfl, rfl⟩ := readRoomList_eq_ok.mp h
      exact ⟨.roomList requestId rooms, ⟨hvalid, rfl⟩, rfl, rfl⟩
    | roomSnapshot =>
      obtain ⟨snapshot, hvalid, rfl, rfl⟩ := readRoomSnapshot_eq_ok.mp h
      exact ⟨.roomSnapshot snapshot, ⟨hvalid, rfl⟩, rfl, rfl⟩
    | matchTicket =>
      obtain ⟨ticket, hvalid, rfl, rfl⟩ := readMatchTicket_eq_ok.mp h
      exact ⟨.matchTicket ticket, ⟨hvalid, rfl⟩, rfl, rfl⟩
    | errorResponse =>
      obtain ⟨requestId, error, rfl, rfl⟩ := readErrorResponse_eq_ok.mp h
      exact ⟨.error requestId error, ⟨trivial, rfl⟩, rfl, rfl⟩
    | _ => cases h
  · rintro ⟨raw, ⟨hvalid, rfl⟩, hmessage, rfl⟩
    rw [hmessage]
    cases raw with
    | welcome requestId player =>
      exact readWelcome_eq_ok.mpr ⟨requestId, player, rfl, rfl⟩
    | roomList requestId rooms =>
      exact readRoomList_eq_ok.mpr ⟨requestId, rooms, hvalid, rfl, rfl⟩
    | roomSnapshot snapshot =>
      exact readRoomSnapshot_eq_ok.mpr ⟨snapshot, hvalid, rfl, rfl⟩
    | matchTicket ticket => exact readMatchTicket_eq_ok.mpr ⟨ticket, hvalid, rfl, rfl⟩
    | error requestId error =>
      exact readErrorResponse_eq_ok.mpr ⟨requestId, error, rfl, rfl⟩

end SurvivalArena
