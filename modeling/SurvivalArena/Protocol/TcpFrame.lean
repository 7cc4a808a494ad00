import SurvivalArena.Protocol.FieldCodec
import SurvivalArena.Protocol.TcpMessageCodec

/-!
# TCP frames

A frame is a header of twelve bytes and a payload, whose size the header has.
-/

namespace SurvivalArena

open Wire

structure TcpFrameHeader where
  version : UInt16 := protocolVersion
  type : MessageType := .clientHello
  payloadBytes : UInt32 := 0
deriving DecidableEq

inductive FrameHeaderError where
  | invalidHeaderSize
  | badMagic
  | unsupportedVersion
  | unknownMessageType
  | frameTooLarge
deriving DecidableEq

def MessageType.all : List MessageType :=
  [.clientHello, .serverWelcome, .listRoomsRequest, .roomListResponse, .createRoomRequest,
    .joinRoomRequest, .leaveRoomRequest, .setReadyRequest, .startMatchRequest, .roomSnapshot,
    .matchTicket, .errorResponse, .workerRegister, .workerRegistered, .reserveMatch,
    .reserveMatchReady, .reserveMatchRejected, .cancelMatchReservation,
    .matchReservationCancelled, .matchFinished, .gameClientHello, .gameServerWelcome,
    .gameServerError, .gameMatchResult]

/-- The header's fields after the magic. -/
def readFrameFields : Reader DecodeError (UInt16 × UInt16 × UInt32) := do
  let version ← readU16
  let type ← readU16
  let payloadBytes ← readU32
  pure (version, type, payloadBytes)

def decodeTcpFrameHeader (bytes : Bytes) : Except FrameHeaderError TcpFrameHeader :=
  if bytes.length ≠ tcpFrameHeaderBytes then .error .invalidHeaderSize
  else if bytes.take tcpMagic.length ≠ tcpMagic then .error .badMagic
  else
    match readFrameFields (bytes.drop tcpMagic.length) with
    | .error _ => .error .invalidHeaderSize
    | .ok ((version, type, payloadBytes), _) =>
      if version ≠ protocolVersion then .error .unsupportedVersion
      else
        match fromValue MessageType.all MessageType.value type with
        | none => .error .unknownMessageType
        | some type =>
          if maxTcpPayloadBytes < payloadBytes.toNat then .error .frameTooLarge
          else .ok { version, type, payloadBytes }

/-! ## Frames and their headers -/

/-- What the header of a frame is written as. -/
def writeFrameHeader (type : MessageType) (payloadBytes : UInt32) : Bytes :=
  tcpMagic ++ writeU16 protocolVersion ++ writeU16 type.value ++ writeU32 payloadBytes

@[simp]
theorem writeFrameHeader_length (type : MessageType) (payloadBytes : UInt32) :
    (writeFrameHeader type payloadBytes).length = tcpFrameHeaderBytes := by
  simp [writeFrameHeader, tcpMagic, tcpFrameHeaderBytes]

theorem MessageType.fromValue_eq {number : UInt16} {type : MessageType} :
    fromValue MessageType.all MessageType.value number = some type ↔ type.value = number :=
  fromValue_eq_some (fun type => by cases type <;> decide) (by decide)

theorem readFrameFields_eq_ok {version type : UInt16} {payloadBytes : UInt32}
    {input rest : Bytes} :
    readFrameFields input = .ok ((version, type, payloadBytes), rest) ↔
      input = writeU16 version ++ writeU16 type ++ writeU32 payloadBytes ++ rest := by
  simp only [readFrameFields, readU16_exact.bind_eq_ok, readU32_exact.bind_eq_ok, pure_eq_ok,
    List.append_assoc]
  constructor
  · rintro ⟨_, _, rfl, _, _, rfl, _, _, rfl, h, rfl⟩
    cases h
    rfl
  · rintro rfl
    exact ⟨_, _, rfl, _, _, rfl, _, _, rfl, rfl, rfl⟩

/-- A header is decoded from what is written of it. -/
theorem decodeTcpFrameHeader_eq_ok {bytes : Bytes} {header : TcpFrameHeader} :
    decodeTcpFrameHeader bytes = .ok header ↔
      header.version = protocolVersion ∧ header.payloadBytes.toNat ≤ maxTcpPayloadBytes ∧
        bytes = writeFrameHeader header.type header.payloadBytes := by
  unfold decodeTcpFrameHeader
  constructor
  · intro h
    split at h
    · cases h
    · rename_i hlength
      split at h
      · cases h
      · rename_i hmagic
        split at h
        · cases h
        · rename_i version type payloadBytes rest hread
          split at h
          · cases h
          · rename_i hversion
            split at h
            · cases h
            · rename_i known htype
              split at h
              · cases h
              · rename_i hlimit
                cases h
                rw [not_not] at hlength hmagic hversion
                have hfields := readFrameFields_eq_ok.mp hread
                have hrest : rest = [] := by
                  have hsize := congrArg List.length hfields
                  simp only [List.length_append, List.length_drop, writeU16_length,
                    writeU32_length, hlength] at hsize
                  have hmagicSize : tcpMagic.length = 4 := rfl
                  have hheaderSize : tcpFrameHeaderBytes = 12 := rfl
                  exact List.length_eq_zero_iff.mp (by omega)
                refine ⟨hversion, not_lt.mp hlimit, ?_⟩
                rw [← List.take_append_drop tcpMagic.length bytes, hmagic, hfields, hrest,
                  hversion, ← MessageType.fromValue_eq.mp htype, List.append_nil]
                simp only [writeFrameHeader, List.append_assoc]
  · rintro ⟨hversion, hlimit, rfl⟩
    have htake : (writeFrameHeader header.type header.payloadBytes).take tcpMagic.length =
        tcpMagic := by
      simp only [writeFrameHeader, List.append_assoc]
      exact List.take_left' rfl
    have hdrop : (writeFrameHeader header.type header.payloadBytes).drop tcpMagic.length =
        writeU16 protocolVersion ++ writeU16 header.type.value ++
          writeU32 header.payloadBytes ++ [] := by
      simp only [writeFrameHeader, List.append_assoc, List.append_nil]
      exact List.drop_left' rfl
    have hknown := MessageType.fromValue_eq.mpr (rfl : header.type.value = header.type.value)
    rw [if_neg (not_not.mpr (writeFrameHeader_length _ _)), if_neg (not_not.mpr htake), hdrop,
      readFrameFields_eq_ok.mpr rfl]
    dsimp only
    rw [if_neg (not_not.mpr rfl), hknown]
    dsimp only
    rw [if_neg (not_lt.mpr hlimit), ← hversion]

theorem encodeTcpFrame_eq_ok {message : EncodedMessage} {frame : Bytes} :
    encodeTcpFrame message = .ok frame ↔
      message.payload.length ≤ maxTcpPayloadBytes ∧
        frame = writeFrameHeader message.type (UInt32.ofNat message.payload.length) ++
          message.payload := by
  unfold encodeTcpFrame
  rw [throwIf_bind_eq_ok]
  have hsmall : maxTcpPayloadBytes ≤ 4294967295 := by decide
  simp only [Bool.or_eq_false_iff, decide_eq_false_iff_not, not_lt, pure, Except.pure,
    Except.ok.injEq, writeFrameHeader]
  constructor
  · rintro ⟨⟨hlength, -⟩, rfl⟩
    exact ⟨hlength, rfl⟩
  · rintro ⟨hlength, rfl⟩
    exact ⟨⟨hlength, hlength.trans hsmall⟩, rfl⟩

end SurvivalArena
