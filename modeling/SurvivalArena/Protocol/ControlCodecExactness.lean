import SurvivalArena.Protocol.ControlCodec
import SurvivalArena.Protocol.LobbyCodecExactness

/-!
# Exactness of the workers' and the game's codecs
-/

namespace SurvivalArena

open KeyedList Wire

variable {ε : Type} [ReadErrors ε]

/-! ## Completions -/

/-- The winner is dropped where there is none. -/
def MatchFinished.canonical (value : MatchFinished) : MatchFinished :=
  { value with winner := if value.hasWinner then value.winner else ⟨0⟩ }

theorem MatchFinished.canonical_canonical (value : MatchFinished) :
    value.canonical.canonical = value.canonical := by
  unfold canonical
  dsimp only
  cases value.hasWinner <;> rfl

theorem writeCompletion_canonical (value : MatchFinished) :
    writeCompletion value.canonical = writeCompletion value := by
  unfold writeCompletion MatchFinished.canonical
  dsimp only
  cases value.hasWinner <;> rfl

theorem MatchCompletionReason.fromValue_eq {number : UInt8} {reason : MatchCompletionReason} :
    fromValue MatchCompletionReason.all MatchCompletionReason.value number = some reason ↔
      reason.value = number :=
  fromValue_eq_some (fun reason => by cases reason <;> decide) (by decide)

theorem WorkerReservationReject.fromValue_eq {number : UInt8}
    {reason : WorkerReservationReject} :
    fromValue WorkerReservationReject.all WorkerReservationReject.value number = some reason ↔
      reason.value = number :=
  fromValue_eq_some (fun reason => by cases reason <;> decide) (by decide)

theorem readWinner_eq_ok {hasWinner : Bool} {winner : UInt32} {input rest : Bytes} :
    readWinner (ε := ε) hasWinner input = .ok (winner, rest) ↔
      (hasWinner = false → winner = 0) ∧
        input = (if hasWinner then writeU32 winner else []) ++ rest := by
  cases hasWinner with
  | true =>
    rw [readWinner, if_pos rfl, readU32_exact.eq_ok]
    exact ⟨fun h => ⟨nofun, h⟩, fun h => h.2⟩
  | false =>
    rw [readWinner, if_neg Bool.false_ne_true, pure_eq_ok]
    exact ⟨fun ⟨hdefault, hinput⟩ => ⟨fun _ => hdefault.symm, hinput⟩,
      fun ⟨hdefault, hinput⟩ => ⟨(hdefault rfl).symm, hinput⟩⟩

theorem readCompletion_eq_ok {α : Type} {message : MatchFinished → α} {value : α}
    {input rest : Bytes} :
    readCompletion (ε := ε) message input = .ok (value, rest) ↔
      ∃ finished, isValidCompletion finished = true ∧ value = message finished.canonical ∧
        input = writeCompletion finished ++ rest := by
  simp only [readCompletion, readU64_exact.bind_eq_ok, readBool_exact.bind_eq_ok,
    bind_eq_ok (r := readWinner _), readWinner_eq_ok, readU8_exact.bind_eq_ok,
    readU32_exact.bind_eq_ok, known_bind_eq_ok, MatchCompletionReason.fromValue_eq,
    require_bind_eq_ok, pure_eq_ok, writeCompletion, List.append_assoc]
  constructor
  · rintro ⟨matchId, _, rfl, hasWinner, _, rfl, winner, _, ⟨hwinner, rfl⟩, _, _, rfl, tick, _,
      rfl, reason, rfl, hvalid, rfl, rfl⟩
    refine ⟨_, hvalid, congrArg message ?_, rfl⟩
    cases hasWinner with
    | true => rfl
    | false => rw [hwinner rfl]; rfl
  · rintro ⟨finished, hvalid, rfl, rfl⟩
    refine ⟨finished.matchId.value, _, rfl, finished.hasWinner, _, rfl,
      finished.canonical.winner.value, _, ⟨fun habsent => ?_, ?_⟩, _, _, rfl,
      finished.finishedTick, _, rfl, finished.reason, rfl, hvalid, rfl, rfl⟩
    · rw [MatchFinished.canonical, habsent]
      rfl
    · rw [MatchFinished.canonical]
      cases finished.hasWinner <;> rfl

/-! ## From a worker to the lobby -/

def WorkerToLobbyMessage.wire : WorkerToLobbyMessage → EncodedMessage
  | .register value => {
      type := .workerRegister
      payload := writeU32 value.worker.value ++ writeShortString value.advertisedHost ++
        writeU16 value.gameTcpPort ++ writeU16 value.gameUdpPort ++ writeU8 value.capacity }
  | .ready reservation matchId => {
      type := .reserveMatchReady
      payload := writeReservationIdentity reservation matchId }
  | .rejected reservation matchId reason => {
      type := .reserveMatchRejected
      payload := writeReservationIdentity reservation matchId ++ writeU8 reason.value }
  | .cancelled reservation matchId => {
      type := .matchReservationCancelled
      payload := writeReservationIdentity reservation matchId }
  | .finished value => { type := .matchFinished, payload := writeCompletion value }

def WorkerToLobbyMessage.canonical : WorkerToLobbyMessage → WorkerToLobbyMessage
  | .finished value => .finished value.canonical
  | message => message

def WorkerToLobbyMessage.Valid : WorkerToLobbyMessage → Prop
  | .register value => isValidRegister value = true
  | .ready reservation _ => reservation.value ≠ 0
  | .rejected reservation _ _ => reservation.value ≠ 0
  | .cancelled reservation _ => reservation.value ≠ 0
  | .finished value => isValidCompletion value = true

theorem WorkerToLobbyMessage.canonical_spec (message : WorkerToLobbyMessage) :
    message.canonical.canonical = message.canonical ∧
      message.canonical.wire = message.wire ∧ (message.Valid → message.canonical.Valid) := by
  cases message with
  | finished value =>
    refine ⟨congrArg finished value.canonical_canonical, ?_, fun h => h⟩
    exact congrArg (EncodedMessage.mk .matchFinished) (writeCompletion_canonical value)
  | _ => exact ⟨rfl, rfl, fun h => h⟩

theorem isValidRegister_host {value : WorkerRegister} (h : isValidRegister value = true) :
    value.advertisedHost.length ≤ 255 := by
  simp only [isValidRegister, isValidHost, Bool.and_eq_true, Bool.not_eq_true',
    Bool.or_eq_false_iff, decide_eq_false_iff_not, not_lt] at h
  exact h.1.1.1.2.1.2

theorem encodeWorkerToLobbyMessage_eq_ok {message : WorkerToLobbyMessage}
    {encoded : EncodedMessage} :
    encodeWorkerToLobbyMessage message = .ok encoded ↔
      message.Valid ∧ encoded = message.canonical.wire := by
  rw [message.canonical_spec.2.1]
  cases message with
  | register value =>
    simp only [encodeWorkerToLobbyMessage, throwIf_bind_eq_ok, Bool.not_eq_false',
      WorkerToLobbyMessage.Valid]
    refine and_congr_right fun hvalid => ?_
    rw [writeString8_of_le (isValidRegister_host hvalid)]
    exact pure_eq_ok_iff
  | finished value =>
    simp only [encodeWorkerToLobbyMessage, throwIf_bind_eq_ok, Bool.not_eq_false',
      pure_eq_ok_iff]
    exact Iff.rfl
  | _ =>
    simp only [encodeWorkerToLobbyMessage, throwIf_bind_eq_ok, beq_eq_false_iff_ne,
      pure_eq_ok_iff]
    exact Iff.rfl

theorem readRegistration_eq_ok {message : WorkerToLobbyMessage} {input rest : Bytes} :
    readRegistration (ε := ε) input = .ok (message, rest) ↔
      ∃ value, isValidRegister value = true ∧ message = .register value ∧
        input = (WorkerToLobbyMessage.register value).wire.payload ++ rest := by
  have hhost := @Reads.eq_ok _ _ _ _ _ (readString8_reads (ε := ε) le_rfl)
  simp only [readRegistration, readU32_exact.bind_eq_ok, readU16_exact.bind_eq_ok,
    readU8_exact.bind_eq_ok, bind_eq_ok (r := readString8 _), hhost, require_bind_eq_ok,
    pure_eq_ok, WorkerToLobbyMessage.wire, List.append_assoc]
  constructor
  · rintro ⟨worker, _, rfl, host, _, ⟨-, rfl⟩, tcpPort, _, rfl, udpPort, _, rfl, capacity, _,
      rfl, hvalid, rfl, rfl⟩
    exact ⟨_, hvalid, rfl, rfl⟩
  · rintro ⟨value, hvalid, rfl, rfl⟩
    exact ⟨value.worker.value, _, rfl, value.advertisedHost, _,
      ⟨isValidRegister_host hvalid, rfl⟩, value.gameTcpPort, _, rfl, value.gameUdpPort, _, rfl,
      value.capacity, _, rfl, hvalid, rfl, rfl⟩

theorem readReservationIdentity_eq_ok {α : Type} {message : ReservationId → MatchId → α}
    {value : α} {input rest : Bytes} :
    readReservationIdentity (ε := ε) message input = .ok (value, rest) ↔
      ∃ reservation matchId, reservation.value ≠ 0 ∧ value = message reservation matchId ∧
        input = writeReservationIdentity reservation matchId ++ rest := by
  simp only [readReservationIdentity, readU64_exact.bind_eq_ok, require_bind_eq_ok, pure_eq_ok,
    bne_iff_ne, ne_eq, writeReservationIdentity, List.append_assoc]
  constructor
  · rintro ⟨reservation, _, rfl, matchId, _, rfl, hid, rfl, rfl⟩
    exact ⟨⟨reservation⟩, ⟨matchId⟩, hid, rfl, rfl⟩
  · rintro ⟨reservation, matchId, hid, rfl, rfl⟩
    exact ⟨reservation.value, _, rfl, matchId.value, _, rfl, hid, rfl, rfl⟩

theorem readReservationReject_eq_ok {message : WorkerToLobbyMessage} {input rest : Bytes} :
    readReservationReject (ε := ε) input = .ok (message, rest) ↔
      ∃ reservation matchId reason, reservation.value ≠ 0 ∧
        message = .rejected reservation matchId reason ∧
        input = writeReservationIdentity reservation matchId ++ writeU8 reason.value ++ rest := by
  simp only [readReservationReject, readU64_exact.bind_eq_ok, readU8_exact.bind_eq_ok,
    require_bind_eq_ok, known_bind_eq_ok, WorkerReservationReject.fromValue_eq, pure_eq_ok,
    bne_iff_ne, ne_eq, writeReservationIdentity, List.append_assoc]
  constructor
  · rintro ⟨reservation, _, rfl, matchId, _, rfl, _, _, rfl, hid, reason, rfl, rfl, rfl⟩
    exact ⟨⟨reservation⟩, ⟨matchId⟩, reason, hid, rfl, rfl⟩
  · rintro ⟨reservation, matchId, reason, hid, rfl, rfl⟩
    exact ⟨reservation.value, _, rfl, matchId.value, _, rfl, _, _, rfl, hid, reason, rfl, rfl,
      rfl⟩

theorem readWorkerToLobbyMessage_readsAs (type : MessageType) :
    ReadsAs (fun raw : WorkerToLobbyMessage => raw.Valid ∧ raw.wire.type = type)
      WorkerToLobbyMessage.canonical (readWorkerToLobbyMessage (ε := ε) type)
      (fun raw => raw.wire.payload) := by
  intro input rest message
  constructor
  · intro h
    cases type with
    | workerRegister =>
      obtain ⟨value, hvalid, rfl, rfl⟩ := readRegistration_eq_ok.mp h
      exact ⟨.register value, ⟨hvalid, rfl⟩, rfl, rfl⟩
    | reserveMatchReady =>
      obtain ⟨reservation, matchId, hid, rfl, rfl⟩ := readReservationIdentity_eq_ok.mp h
      exact ⟨.ready reservation matchId, ⟨hid, rfl⟩, rfl, rfl⟩
    | reserveMatchRejected =>
      obtain ⟨reservation, matchId, reason, hid, rfl, rfl⟩ := readReservationReject_eq_ok.mp h
      exact ⟨.rejected reservation matchId reason, ⟨hid, rfl⟩, rfl, rfl⟩
    | matchReservationCancelled =>
      obtain ⟨reservation, matchId, hid, rfl, rfl⟩ := readReservationIdentity_eq_ok.mp h
      exact ⟨.cancelled reservation matchId, ⟨hid, rfl⟩, rfl, rfl⟩
    | matchFinished =>
      obtain ⟨value, hvalid, rfl, rfl⟩ := readCompletion_eq_ok.mp h
      exact ⟨.finished value, ⟨hvalid, rfl⟩, rfl, rfl⟩
    | _ => cases h
  · rintro ⟨raw, ⟨hvalid, rfl⟩, hmessage, rfl⟩
    rw [hmessage]
    cases raw with
    | register value => exact readRegistration_eq_ok.mpr ⟨value, hvalid, rfl, rfl⟩
    | ready reservation matchId =>
      exact readReservationIdentity_eq_ok.mpr ⟨reservation, matchId, hvalid, rfl, rfl⟩
    | rejected reservation matchId reason =>
      exact readReservationReject_eq_ok.mpr ⟨reservation, matchId, reason, hvalid, rfl, rfl⟩
    | cancelled reservation matchId =>
      exact readReservationIdentity_eq_ok.mpr ⟨reservation, matchId, hvalid, rfl, rfl⟩
    | finished value => exact readCompletion_eq_ok.mpr ⟨value, hvalid, rfl, rfl⟩

/-! ## From the lobby to a worker -/

def LobbyToWorkerMessage.wire : LobbyToWorkerMessage → EncodedMessage
  | .registered worker => { type := .workerRegistered, payload := writeU32 worker.value }
  | .reserve value => {
      type := .reserveMatch
      payload := writeReservationIdentity value.reservation value.matchId ++
        writeU32 value.seed ++ writeU32 value.ticketLifetimeMilliseconds ++
        writeU8 (UInt8.ofNat value.participants.length) ++
        value.participants.flatMap writeParticipant }
  | .cancel reservation matchId => {
      type := .cancelMatchReservation
      payload := writeReservationIdentity reservation matchId }

def ReserveMatch.canonical (value : ReserveMatch) : ReserveMatch :=
  { value with participants := sortByKey ReservedParticipant.player value.participants }

/-- Participants in the order of their ids. -/
def LobbyToWorkerMessage.canonical : LobbyToWorkerMessage → LobbyToWorkerMessage
  | .reserve value => .reserve value.canonical
  | message => message

structure ReserveMatch.Valid (value : ReserveMatch) : Prop where
  reservation : value.reservation.value ≠ 0
  lifetimePos : 0 < value.ticketLifetimeMilliseconds
  lifetimeMax : value.ticketLifetimeMilliseconds.toNat ≤ maximumTicketLifetimeMilliseconds
  enough : 2 ≤ value.participants.length
  room : value.participants.length ≤ roomCapacity
  players : (value.participants.map ReservedParticipant.player).Nodup

def LobbyToWorkerMessage.Valid : LobbyToWorkerMessage → Prop
  | .registered worker => worker.value ≠ 0
  | .reserve value => value.Valid
  | .cancel reservation _ => reservation.value ≠ 0

theorem canonicalizeParticipants_eq_some {participants sorted : List ReservedParticipant} :
    canonicalizeParticipants participants = some sorted ↔
      (2 ≤ participants.length ∧ participants.length ≤ roomCapacity ∧
        (participants.map ReservedParticipant.player).Nodup) ∧
      sorted = sortByKey ReservedParticipant.player participants := by
  unfold canonicalizeParticipants
  dsimp only
  rw [← hasAdjacentDuplicate_sortByKey]
  split
  · rename_i hlength
    simp only [Bool.or_eq_true, decide_eq_true_eq] at hlength
    constructor
    · exact fun h => by cases h
    · rintro ⟨⟨henough, hroom, -⟩, -⟩
      omega
  · rename_i hlength
    simp only [Bool.or_eq_true, decide_eq_true_eq, not_or, not_lt] at hlength
    split
    · rename_i hduplicate
      constructor
      · exact fun h => by cases h
      · rintro ⟨⟨-, -, hunique⟩, -⟩
        rw [hunique] at hduplicate
        cases hduplicate
    · rename_i hduplicate
      rw [Option.some.injEq, eq_comm]
      exact ⟨fun h => ⟨⟨hlength.1, hlength.2, Bool.eq_false_iff.mpr hduplicate⟩, h⟩,
        fun h => h.2⟩

theorem validReservation_eq_some {value checked : ReserveMatch} :
    validReservation value = some checked ↔ value.Valid ∧ checked = value.canonical := by
  unfold validReservation
  split
  · rename_i hfields
    constructor
    · exact fun h => by cases h
    · rintro ⟨hvalid, -⟩
      obtain hreservation | hpos | hmax := hfields
      · exact absurd hreservation hvalid.reservation
      · exact absurd hvalid.lifetimePos hpos
      · exact absurd hvalid.lifetimeMax (not_le.mpr hmax)
  · rename_i hfields
    simp only [not_or, not_not] at hfields
    rw [Option.map_eq_some_iff]
    constructor
    · rintro ⟨participants, hparticipants, rfl⟩
      obtain ⟨⟨henough, hroom, hplayers⟩, rfl⟩ :=
        canonicalizeParticipants_eq_some.mp hparticipants
      exact ⟨⟨hfields.1, hfields.2.1, not_lt.mp hfields.2.2, henough, hroom, hplayers⟩, rfl⟩
    · rintro ⟨hvalid, rfl⟩
      exact ⟨_, canonicalizeParticipants_eq_some.mpr
        ⟨⟨hvalid.enough, hvalid.room, hvalid.players⟩, rfl⟩, rfl⟩

theorem ReserveMatch.canonical_valid {value : ReserveMatch} (h : value.Valid) :
    value.canonical.Valid := by
  have hperm : value.canonical.participants.Perm value.participants :=
    sortByKey_perm value.participants
  exact {
    reservation := h.reservation
    lifetimePos := h.lifetimePos
    lifetimeMax := h.lifetimeMax
    enough := h.enough.trans_eq hperm.length_eq.symm
    room := hperm.length_eq.trans_le h.room
    players := (hperm.map ReservedParticipant.player).nodup_iff.mpr h.players }

theorem LobbyToWorkerMessage.canonical_canonical (message : LobbyToWorkerMessage) :
    message.canonical.canonical = message.canonical := by
  cases message with
  | reserve value =>
    exact congrArg (fun participants => reserve { value with participants })
      (sortByKey_sortByKey _ value.participants)
  | _ => rfl

theorem LobbyToWorkerMessage.canonical_valid {message : LobbyToWorkerMessage}
    (h : message.Valid) : message.canonical.Valid := by
  cases message with
  | reserve value => exact ReserveMatch.canonical_valid h
  | _ => exact h

theorem encodeLobbyToWorkerMessage_eq_ok {message : LobbyToWorkerMessage}
    {encoded : EncodedMessage} :
    encodeLobbyToWorkerMessage message = .ok encoded ↔
      message.Valid ∧ encoded = message.canonical.wire := by
  cases message with
  | reserve value =>
    cases hcheck : validReservation value with
    | none =>
      have hinvalid : ¬value.Valid := fun hvalid => by
        rw [validReservation_eq_some.mpr ⟨hvalid, rfl⟩] at hcheck
        cases hcheck
      simp only [encodeLobbyToWorkerMessage, hcheck]
      refine iff_of_false (fun hencoded => ?_) fun h => hinvalid h.1
      cases hencoded
    | some checked =>
      obtain ⟨hvalid, rfl⟩ := validReservation_eq_some.mp hcheck
      simp only [encodeLobbyToWorkerMessage, hcheck]
      exact pure_eq_ok_iff.trans (and_iff_right hvalid).symm
  | _ =>
    simp only [encodeLobbyToWorkerMessage, throwIf_bind_eq_ok, beq_eq_false_iff_ne,
      pure_eq_ok_iff]
    exact Iff.rfl

theorem readWorkerRegistered_eq_ok {message : LobbyToWorkerMessage} {input rest : Bytes} :
    readWorkerRegistered (ε := ε) input = .ok (message, rest) ↔
      ∃ worker, worker.value ≠ 0 ∧ message = .registered worker ∧
        input = writeU32 worker.value ++ rest := by
  simp only [readWorkerRegistered, readU32_exact.bind_eq_ok, require_bind_eq_ok, pure_eq_ok,
    bne_iff_ne, ne_eq]
  constructor
  · rintro ⟨worker, _, rfl, hid, rfl, rfl⟩
    exact ⟨⟨worker⟩, hid, rfl, rfl⟩
  · rintro ⟨worker, hid, rfl, rfl⟩
    exact ⟨worker.value, _, rfl, hid, rfl, rfl⟩

theorem readParticipant_exact : Exact (readParticipant (ε := ε)) writeParticipant := by
  intro participant input rest
  simp only [readParticipant, readU32_exact.bind_eq_ok, readOpaque_exact.bind_eq_ok,
    pure_eq_ok, writeParticipant, List.append_assoc]
  constructor
  · rintro ⟨player, _, rfl, ticket, _, rfl, rfl, rfl⟩
    rfl
  · rintro rfl
    exact ⟨_, _, rfl, _, _, rfl, rfl, rfl⟩

theorem readReservation_eq_ok {message : LobbyToWorkerMessage} {input rest : Bytes} :
    readReservation (ε := ε) input = .ok (message, rest) ↔
      ∃ value : ReserveMatch, value.Valid ∧ message = .reserve value.canonical ∧
        input = (LobbyToWorkerMessage.reserve value).wire.payload ++ rest := by
  have hparticipants := @readCounted_reads ε _ _ _ _ readParticipant_exact.reads
  simp only [readReservation, readU64_exact.bind_eq_ok, readU32_exact.bind_eq_ok,
    readU8_exact.bind_eq_ok, require_bind_eq_ok, decide_eq_true_eq,
    bind_eq_ok (r := readMany _ _), hparticipants, known_bind_eq_ok, validReservation_eq_some,
    pure_eq_ok, LobbyToWorkerMessage.wire, writeReservationIdentity, List.append_assoc]
  constructor
  · rintro ⟨reservation, _, rfl, matchId, _, rfl, seed, _, rfl, lifetime, _, rfl, count, _, rfl,
      -, -, participants, _, ⟨hlength, -, rfl⟩, _, ⟨hvalid, rfl⟩, rfl, rfl⟩
    refine ⟨_, hvalid, rfl, ?_⟩
    dsimp only
    rw [hlength, UInt8.ofNat_toNat]
  · rintro ⟨value, hvalid, rfl, rfl⟩
    have hlength : (UInt8.ofNat value.participants.length).toNat = value.participants.length :=
      UInt8.toNat_ofNat_of_lt' (hvalid.room.trans_lt (by decide))
    refine ⟨value.reservation.value, _, rfl, value.matchId.value, _, rfl, value.seed, _, rfl,
      value.ticketLifetimeMilliseconds, _, rfl, _, _, rfl, hlength.trans_le hvalid.room, ?_,
      value.participants, _, ⟨hlength.symm, fun _ _ => trivial, rfl⟩, _, ⟨hvalid, rfl⟩, rfl,
      rfl⟩
    rw [UInt8.le_iff_toNat_le, hlength]
    exact hvalid.enough

theorem readLobbyToWorkerMessage_readsAs (type : MessageType) :
    ReadsAs (fun raw : LobbyToWorkerMessage => raw.Valid ∧ raw.wire.type = type)
      LobbyToWorkerMessage.canonical (readLobbyToWorkerMessage (ε := ε) type)
      (fun raw => raw.wire.payload) := by
  intro input rest message
  constructor
  · intro h
    cases type with
    | workerRegistered =>
      obtain ⟨worker, hid, rfl, rfl⟩ := readWorkerRegistered_eq_ok.mp h
      exact ⟨.registered worker, ⟨hid, rfl⟩, rfl, rfl⟩
    | reserveMatch =>
      obtain ⟨value, hvalid, rfl, rfl⟩ := readReservation_eq_ok.mp h
      exact ⟨.reserve value, ⟨hvalid, rfl⟩, rfl, rfl⟩
    | cancelMatchReservation =>
      obtain ⟨reservation, matchId, hid, rfl, rfl⟩ := readReservationIdentity_eq_ok.mp h
      exact ⟨.cancel reservation matchId, ⟨hid, rfl⟩, rfl, rfl⟩
    | _ => cases h
  · rintro ⟨raw, ⟨hvalid, rfl⟩, hmessage, rfl⟩
    rw [hmessage]
    cases raw with
    | registered worker => exact readWorkerRegistered_eq_ok.mpr ⟨worker, hvalid, rfl, rfl⟩
    | reserve value => exact readReservation_eq_ok.mpr ⟨value, hvalid, rfl, rfl⟩
    | cancel reservation matchId =>
      exact readReservationIdentity_eq_ok.mpr ⟨reservation, matchId, hvalid, rfl, rfl⟩

/-! ## Between a client and the game server -/

theorem readHello_exact :
    Exact (readHello (ε := ε)) fun value => (encodeGameClientMessage value).payload := by
  intro value input rest
  simp only [readHello, readU64_exact.bind_eq_ok, readU32_exact.bind_eq_ok,
    readOpaque_exact.bind_eq_ok, pure_eq_ok, encodeGameClientMessage, List.append_assoc]
  constructor
  · rintro ⟨matchId, _, rfl, player, _, rfl, ticket, _, rfl, rfl, rfl⟩
    rfl
  · rintro rfl
    exact ⟨_, _, rfl, _, _, rfl, _, _, rfl, rfl, rfl⟩

theorem readGameClientMessage_readsAs (type : MessageType) :
    ReadsAs (fun raw => True ∧ (encodeGameClientMessage raw).type = type) id
      (readGameClientMessage (ε := ε) type)
      (fun raw => (encodeGameClientMessage raw).payload) := by
  intro input rest message
  unfold readGameClientMessage
  split
  · rename_i htype
    rw [readHello_exact.eq_ok]
    exact ⟨fun h => ⟨message, ⟨trivial, htype.symm⟩, rfl, h⟩,
      fun ⟨raw, _, hmessage, h⟩ => hmessage ▸ h⟩
  · rename_i htype
    exact ⟨nofun, fun ⟨_, ⟨_, h⟩, _⟩ => absurd h.symm htype⟩

def GameServerMessage.wire : GameServerMessage → EncodedMessage
  | .welcome value => {
      type := .gameServerWelcome
      payload := writeU64 value.matchId.value ++ writeU32 value.player.value ++
        writeU32 value.actor.value ++ writeU16 value.tickRate ++ writeU16 value.snapshotRate ++
        writeU32 value.mapId ++ writeU32 value.navMeshCrc32 ++
        writeU8 value.replicationMode.value ++ value.udpToken.bytes }
  | .error code => { type := .gameServerError, payload := writeU8 code.value }
  | .result value => { type := .gameMatchResult, payload := writeCompletion value.completion }

def GameServerMessage.canonical : GameServerMessage → GameServerMessage
  | .result value => resultOf value.completion.canonical
  | message => message

def GameServerMessage.Valid : GameServerMessage → Prop
  | .welcome value => isValidWelcome value = true
  | .error _ => True
  | .result value => isValidResult value = true

theorem GameServerMessage.canonical_spec (message : GameServerMessage) :
    message.canonical.canonical = message.canonical ∧
      message.canonical.wire = message.wire ∧ (message.Valid → message.canonical.Valid) := by
  cases message with
  | result value =>
    refine ⟨congrArg resultOf value.completion.canonical_canonical, ?_, fun h => h⟩
    exact congrArg (EncodedMessage.mk .gameMatchResult)
      (writeCompletion_canonical value.completion)
  | _ => exact ⟨rfl, rfl, fun h => h⟩

theorem encodeGameServerMessage_eq_ok {message : GameServerMessage} {encoded : EncodedMessage} :
    encodeGameServerMessage message = .ok encoded ↔
      message.Valid ∧ encoded = message.canonical.wire := by
  rw [message.canonical_spec.2.1]
  cases message with
  | error code => exact pure_eq_ok_iff.trans (and_iff_right trivial).symm
  | _ =>
    simp only [encodeGameServerMessage, throwIf_bind_eq_ok, Bool.not_eq_false', pure_eq_ok_iff]
    exact Iff.rfl

theorem ReplicationMode.fromValue_eq {number : UInt8} {mode : ReplicationMode} :
    fromValue ReplicationMode.all ReplicationMode.value number = some mode ↔
      mode.value = number :=
  fromValue_eq_some (fun mode => by cases mode <;> decide) (by decide)

theorem GameServerErrorCode.fromValue_eq {number : UInt8} {error : GameServerErrorCode} :
    fromValue GameServerErrorCode.all GameServerErrorCode.value number = some error ↔
      error.value = number :=
  fromValue_eq_some (fun error => by cases error <;> decide) (by decide)

theorem readGameWelcome_eq_ok {message : GameServerMessage} {input rest : Bytes} :
    readGameWelcome (ε := ε) input = .ok (message, rest) ↔
      ∃ value, isValidWelcome value = true ∧ message = .welcome value ∧
        input = (GameServerMessage.welcome value).wire.payload ++ rest := by
  simp only [readGameWelcome, readU64_exact.bind_eq_ok, readU32_exact.bind_eq_ok,
    readU16_exact.bind_eq_ok, readU8_exact.bind_eq_ok, readOpaque_exact.bind_eq_ok,
    known_bind_eq_ok, ReplicationMode.fromValue_eq, require_bind_eq_ok, pure_eq_ok,
    GameServerMessage.wire, List.append_assoc]
  constructor
  · rintro ⟨matchId, _, rfl, player, _, rfl, actor, _, rfl, tickRate, _, rfl, rate, _, rfl, mapId,
      _, rfl, crc, _, rfl, _, _, rfl, token, _, rfl, mode, rfl, hvalid, rfl, rfl⟩
    exact ⟨_, hvalid, rfl, rfl⟩
  · rintro ⟨value, hvalid, rfl, rfl⟩
    exact ⟨value.matchId.value, _, rfl, value.player.value, _, rfl, value.actor.value, _, rfl,
      value.tickRate, _, rfl, value.snapshotRate, _, rfl, value.mapId, _, rfl,
      value.navMeshCrc32, _, rfl, _, _, rfl, value.udpToken, _, rfl, value.replicationMode, rfl,
      hvalid, rfl, rfl⟩

theorem readErrorMessage_eq_ok {message : GameServerMessage} {input rest : Bytes} :
    readErrorMessage (ε := ε) input = .ok (message, rest) ↔
      ∃ error, message = .error error ∧ input = writeU8 error.value ++ rest := by
  simp only [readErrorMessage, readU8_exact.bind_eq_ok, known_bind_eq_ok,
    GameServerErrorCode.fromValue_eq, pure_eq_ok]
  constructor
  · rintro ⟨_, _, rfl, error, rfl, rfl, rfl⟩
    exact ⟨error, rfl, rfl⟩
  · rintro ⟨error, rfl, rfl⟩
    exact ⟨_, _, rfl, error, rfl, rfl, rfl⟩

theorem readGameServerMessage_readsAs (type : MessageType) :
    ReadsAs (fun raw : GameServerMessage => raw.Valid ∧ raw.wire.type = type)
      GameServerMessage.canonical (readGameServerMessage (ε := ε) type)
      (fun raw => raw.wire.payload) := by
  intro input rest message
  constructor
  · intro h
    cases type with
    | gameServerWelcome =>
      obtain ⟨value, hvalid, rfl, rfl⟩ := readGameWelcome_eq_ok.mp h
      exact ⟨.welcome value, ⟨hvalid, rfl⟩, rfl, rfl⟩
    | gameServerError =>
      obtain ⟨error, rfl, rfl⟩ := readErrorMessage_eq_ok.mp h
      exact ⟨.error error, ⟨trivial, rfl⟩, rfl, rfl⟩
    | gameMatchResult =>
      obtain ⟨value, hvalid, rfl, rfl⟩ := readCompletion_eq_ok.mp h
      exact ⟨resultOf value, ⟨hvalid, rfl⟩, rfl, rfl⟩
    | _ => cases h
  · rintro ⟨raw, ⟨hvalid, rfl⟩, hmessage, rfl⟩
    rw [hmessage]
    cases raw with
    | welcome value => exact readGameWelcome_eq_ok.mpr ⟨value, hvalid, rfl, rfl⟩
    | error error => exact readErrorMessage_eq_ok.mpr ⟨error, rfl, rfl⟩
    | result value => exact readCompletion_eq_ok.mpr ⟨value.completion, hvalid, rfl, rfl⟩

end SurvivalArena
