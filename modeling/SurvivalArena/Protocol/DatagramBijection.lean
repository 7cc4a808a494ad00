import SurvivalArena.Protocol.ClientDatagramCodec

/-!
# Datagrams are encoded in one way

Both sides decode exactly what they encode, and no bytes are a datagram of both.
-/

namespace SurvivalArena

open Wire

/-! ## Frames -/

theorem readHeaderFields_eq_ok {version payloadBytes : UInt16} {type : UdpDatagramType}
    {reserved : UInt8} {input rest : Bytes} :
    readHeaderFields input = .ok ((version, type, reserved, payloadBytes), rest) ↔
      input = writeU16 version ++ writeU8 type.value ++ writeU8 reserved ++
        writeU16 payloadBytes ++ rest := by
  simp only [readHeaderFields, readU16_exact.bind_eq_ok, readU8_exact.bind_eq_ok, pure_eq_ok,
    List.append_assoc]
  constructor
  · rintro ⟨_, _, rfl, value, _, rfl, _, _, rfl, _, _, rfl, hvalue, rfl⟩
    cases hvalue
    rfl
  · rintro rfl
    exact ⟨_, _, rfl, _, _, rfl, _, _, rfl, _, _, rfl, rfl, rfl⟩

/-- The first ten bytes hold the magic and the fields of the header. -/
theorem frame_split {bytes rest : Bytes} {version payloadBytes : UInt16}
    {type : UdpDatagramType} {reserved : UInt8} (hmagic : bytes.take udpMagic.length = udpMagic)
    (hlength : udpHeaderBytes ≤ bytes.length)
    (hheader : (bytes.take udpHeaderBytes).drop udpMagic.length =
      writeU16 version ++ writeU8 type.value ++ writeU8 reserved ++ writeU16 payloadBytes ++
        rest) :
    bytes = udpMagic ++ (writeU16 version ++ writeU8 type.value ++ writeU8 reserved ++
      writeU16 payloadBytes) ++ bytes.drop udpHeaderBytes := by
  have hsize : ((bytes.take udpHeaderBytes).drop udpMagic.length).length = 6 := by
    rw [List.length_drop, List.length_take_of_le hlength]
    rfl
  have hrest : rest = [] := by
    rw [hheader] at hsize
    simp only [List.length_append, writeU16_length, writeU8_length] at hsize
    exact List.length_eq_zero_iff.mp (by omega)
  have htake : (bytes.take udpHeaderBytes).take udpMagic.length = udpMagic := by
    rw [List.take_take]
    exact hmagic
  rw [hrest, List.append_nil] at hheader
  calc bytes = bytes.take udpHeaderBytes ++ bytes.drop udpHeaderBytes :=
        (List.take_append_drop _ _).symm
    _ = (bytes.take udpHeaderBytes).take udpMagic.length ++
          (bytes.take udpHeaderBytes).drop udpMagic.length ++ bytes.drop udpHeaderBytes := by
        rw [List.take_append_drop udpMagic.length]
    _ = _ := by rw [htake, hheader]

/-- A header is parsed from the frame that is made of its type and its payload. -/
theorem parseHeader_eq_ok {bytes payload : Bytes} {type : UdpDatagramType} :
    parseHeader bytes = .ok (type, payload) ↔
      encodeFrame type payload = .ok { type, bytes } := by
  rw [encodeFrame_eq_ok]
  constructor
  · intro h
    unfold parseHeader at h
    split at h
    · cases h
    · rename_i hmaximum
      split at h
      · cases h
      · rename_i hlength
        split at h
        · cases h
        · rename_i hmagic
          obtain ⟨⟨⟨version, type', reserved, payloadBytes⟩, rest⟩, hread, h⟩ :=
            except_bind_eq_ok.mp h
          have hheader := readHeaderFields_eq_ok.mp hread
          dsimp only at h
          split at h
          · cases h
          · rename_i hfields
            split at h
            · cases h
            · rename_i hlimit
              split at h
              · cases h
              · rename_i hmissing
                split at h
                · cases h
                · rename_i htrailing
                  cases h
                  simp only [Bool.or_eq_true, decide_eq_true_eq, Bool.not_eq_true', not_or,
                    ne_eq, not_not, Bool.not_eq_false] at hfields
                  obtain ⟨⟨rfl, rfl⟩, htype⟩ := hfields
                  rw [not_lt] at hmaximum hlength hlimit hmissing htrailing
                  have hsplit := frame_split (not_not.mp hmagic) hlength hheader
                  have hpayload : (bytes.drop udpHeaderBytes).length = payloadBytes.toNat := by
                    rw [List.length_drop]
                    omega
                  rw [List.take_of_length_le hpayload.le, hpayload]
                  refine ⟨htype, hlimit, ?_⟩
                  rw [writeHeaderFields, UInt16.ofNat_toNat]
                  exact congrArg (EncodedDatagram.mk type) hsplit
  · rintro ⟨htype, hlength, hbytes⟩
    have hframe : bytes = udpMagic ++ writeHeaderFields type payload.length ++ payload :=
      congrArg EncodedDatagram.bytes hbytes
    rw [hframe]
    exact parseHeader_frame htype hlength

/-! ## Payloads -/

theorem readBindAccepted_exact : Exact readBindAccepted writeBindAccepted := by
  intro value input rest
  simp only [readBindAccepted, readU64_exact.bind_eq_ok, readU32_exact.bind_eq_ok, pure_eq_ok,
    writeBindAccepted]
  constructor
  · rintro ⟨matchId, _, rfl, player, _, rfl, serverTick, _, rfl, rfl, rfl⟩
    simp
  · rintro rfl
    exact ⟨_, _, by simp only [List.append_assoc], _, _, rfl, _, _, rfl, rfl, rfl⟩

theorem decodeBindAccepted_eq_ok {payload : Bytes} {value : ServerDatagram} :
    decodeBindAccepted payload = .ok value ↔
      ∃ accepted, value = .bindAccepted accepted ∧ payload = writeBindAccepted accepted := by
  unfold decodeBindAccepted
  rw [except_bind_eq_ok]
  constructor
  · rintro ⟨⟨accepted, rest⟩, hread, h⟩
    cases rest with
    | nil =>
      cases h
      exact ⟨accepted, rfl, by simpa using readBindAccepted_exact.eq_ok.mp hread⟩
    | cons first rest => cases h
  · rintro ⟨accepted, rfl, rfl⟩
    refine ⟨(accepted, []), readBindAccepted_exact.eq_ok.mpr (List.append_nil _).symm, rfl⟩

theorem readFragmentHeader_eq_ok {header : SnapshotFragment} {input rest : Bytes} :
    readFragmentHeader input = .ok (header, rest) ↔
      header.bytes = [] ∧ input = writeFragmentHeader header ++ rest := by
  constructor
  · intro h
    simp only [readFragmentHeader, readU64_exact.bind_eq_ok, readU32_exact.bind_eq_ok,
      readU16_exact.bind_eq_ok, pure_eq_ok] at h
    obtain ⟨matchId, _, rfl, snapshotId, _, rfl, serverTick, _, rfl, acknowledged, _, rfl, index,
      _, rfl, count, _, rfl, fullBytes, _, rfl, crc, _, rfl, rfl, rfl⟩ := h
    exact ⟨rfl, by simp only [writeFragmentHeader, List.append_assoc]⟩
  · rintro ⟨hbytes, rfl⟩
    rw [readFragmentHeader_write, ← hbytes]

theorem decodeFragment_eq_ok {payload : Bytes} {value : ServerDatagram} :
    decodeFragment payload = .ok value ↔
      ∃ fragment, value = .snapshotFragment fragment ∧ isValidFragment fragment = true ∧
        payload = writeFragment fragment := by
  constructor
  · intro h
    obtain ⟨⟨header, bytes⟩, hread, h⟩ := except_bind_eq_ok.mp h
    obtain ⟨-, hinput⟩ := readFragmentHeader_eq_ok.mp hread
    dsimp only at h
    split at h
    · cases h
    · split at h
      · rename_i hvalid
        cases h
        exact ⟨_, rfl, hvalid, hinput⟩
      · cases h
  · rintro ⟨fragment, rfl, hvalid, rfl⟩
    exact decodeFragment_write (isValidFragment_iff.mp hvalid)

theorem decodeBind_eq_ok {payload : Bytes} {value : ClientDatagram} :
    decodeBind payload = .ok value ↔
      ∃ bound, value = .bind bound ∧ True ∧ payload = writeBind bound :=
  readBind_exact.reads.map_complete_eq_ok

theorem decodeInput_eq_ok {payload : Bytes} {value : ClientDatagram} :
    decodeInput payload = .ok value ↔
      ∃ input : ClientInput, value = .input input ∧
        (isValidInput input = true ∧ input.normalized = input) ∧ payload = writeInput input :=
  readInput_reads.map_complete_eq_ok

/-! ## Datagrams -/

theorem encodeFrame_type {type : UdpDatagramType} {payload : Bytes} {datagram : EncodedDatagram}
    (h : encodeFrame type payload = .ok datagram) : datagram.type = type := by
  obtain ⟨-, -, rfl⟩ := encodeFrame_eq_ok.mp h
  rfl

/-- What a decoder finds in the bytes of a frame. -/
theorem parseHeader_encodeFrame {type : UdpDatagramType} {payload : Bytes}
    {datagram : EncodedDatagram} :
    encodeFrame type payload = .ok datagram ↔
      datagram.type = type ∧ parseHeader datagram.bytes = .ok (type, payload) := by
  rw [parseHeader_eq_ok]
  constructor
  · intro h
    have htype := encodeFrame_type h
    exact ⟨htype, by rw [← htype] at h ⊢; exact h⟩
  · rintro ⟨rfl, h⟩
    exact h

theorem encodeFrame_bytes_le {type : UdpDatagramType} {payload : Bytes}
    {datagram : EncodedDatagram} (h : encodeFrame type payload = .ok datagram) :
    datagram.bytes.length ≤ maxUdpDatagramBytes := by
  obtain ⟨-, hlength, rfl⟩ := encodeFrame_eq_ok.mp h
  rw [List.length_append, List.length_append, writeHeaderFields_length]
  exact (Nat.add_le_add_left hlength udpHeaderBytes).trans (by decide)

def ClientDatagram.normalized : ClientDatagram → ClientDatagram
  | .bind value => .bind value
  | .input value => .input value.normalized

def ClientDatagram.frame : ClientDatagram → UdpDatagramType × Bytes
  | .bind value => (.bind, writeBind value)
  | .input value => (.clientInput, writeInput value)

def ClientDatagram.Valid : ClientDatagram → Prop
  | .bind _ => True
  | .input value => isValidInput value = true

def ServerDatagram.frame : ServerDatagram → UdpDatagramType × Bytes
  | .bindAccepted value => (.bindAccepted, writeBindAccepted value)
  | .snapshotFragment value => (.snapshotFragment, writeFragment value)

def ServerDatagram.Valid : ServerDatagram → Prop
  | .bindAccepted _ => True
  | .snapshotFragment value => isValidFragment value = true

theorem encodeClientDatagram_eq_ok {value : ClientDatagram} {datagram : EncodedDatagram} :
    encodeClientDatagram value = .ok datagram ↔
      value.Valid ∧ encodeFrame value.frame.1 value.frame.2 = .ok datagram := by
  cases value with
  | bind value => exact (and_iff_right trivial).symm
  | input value =>
    rw [encodeClientDatagram, throwIf_bind_eq_ok, Bool.not_eq_false']
    exact Iff.rfl

theorem encodeServerDatagram_eq_ok {value : ServerDatagram} {datagram : EncodedDatagram} :
    encodeServerDatagram value = .ok datagram ↔
      value.Valid ∧ encodeFrame value.frame.1 value.frame.2 = .ok datagram := by
  cases value with
  | bindAccepted value => exact (and_iff_right trivial).symm
  | snapshotFragment value =>
    rw [encodeServerDatagram, throwIf_bind_eq_ok, Bool.not_eq_false']
    exact Iff.rfl

theorem decodeClientDatagram_eq_ok {bytes : Bytes} {value : ClientDatagram} :
    decodeClientDatagram bytes = .ok value ↔
      value.Valid ∧ value.normalized = value ∧ parseHeader bytes = .ok value.frame := by
  rw [decodeClientDatagram, except_bind_eq_ok]
  constructor
  · rintro ⟨⟨type, payload⟩, hparse, h⟩
    dsimp only at h
    split at h
    · rename_i htype
      obtain ⟨bound, rfl, -, rfl⟩ := decodeBind_eq_ok.mp h
      exact ⟨trivial, rfl, by rw [hparse, htype]; rfl⟩
    · split at h
      · rename_i htype
        obtain ⟨input, rfl, ⟨hvalid, hnormal⟩, rfl⟩ := decodeInput_eq_ok.mp h
        exact ⟨hvalid, congrArg ClientDatagram.input hnormal, by rw [hparse, htype]; rfl⟩
      · cases h
  · rintro ⟨hvalid, hnormal, hparse⟩
    refine ⟨value.frame, hparse, ?_⟩
    cases value with
    | bind bound => exact decodeBind_eq_ok.mpr ⟨bound, rfl, trivial, rfl⟩
    | input input =>
      have hinput := ClientDatagram.input.inj hnormal
      exact decodeInput_eq_ok.mpr ⟨input, rfl, ⟨hvalid, hinput⟩, rfl⟩

theorem decodeServerDatagram_eq_ok {bytes : Bytes} {value : ServerDatagram} :
    decodeServerDatagram bytes = .ok value ↔
      value.Valid ∧ parseHeader bytes = .ok value.frame := by
  rw [decodeServerDatagram, except_bind_eq_ok]
  constructor
  · rintro ⟨⟨type, payload⟩, hparse, h⟩
    dsimp only at h
    split at h
    · rename_i htype
      obtain ⟨accepted, rfl, rfl⟩ := decodeBindAccepted_eq_ok.mp h
      exact ⟨trivial, by rw [hparse, htype]; rfl⟩
    · split at h
      · rename_i htype
        obtain ⟨fragment, rfl, hvalid, rfl⟩ := decodeFragment_eq_ok.mp h
        exact ⟨hvalid, by rw [hparse, htype]; rfl⟩
      · cases h
  · rintro ⟨hvalid, hparse⟩
    refine ⟨value.frame, hparse, ?_⟩
    cases value with
    | bindAccepted accepted => exact decodeBindAccepted_eq_ok.mpr ⟨accepted, rfl, rfl⟩
    | snapshotFragment fragment => exact decodeFragment_eq_ok.mpr ⟨fragment, rfl, hvalid, rfl⟩

/-! ## Both codecs -/

theorem ClientInput.normalized_normalized (value : ClientInput) :
    value.normalized.normalized = value.normalized :=
  ClientInput.normalized_eq.mpr
    ⟨fun habsent => if_neg (Bool.eq_false_iff.mp habsent),
      fun habsent => if_neg (Bool.eq_false_iff.mp habsent)⟩

theorem isValidInput_normalized (value : ClientInput) :
    isValidInput value.normalized = isValidInput value := by
  unfold isValidInput ClientInput.normalized
  dsimp only
  cases value.hasMoveDestination <;> rfl

theorem writeInput_normalized (value : ClientInput) :
    writeInput value.normalized = writeInput value := by
  unfold writeInput inputFlags ClientInput.normalized
  dsimp only
  cases value.hasMoveDestination <;> cases value.hasAttackTarget <;> rfl

theorem ClientDatagram.normalized_spec (value : ClientDatagram) :
    value.normalized.normalized = value.normalized ∧ value.normalized.frame = value.frame ∧
      (value.normalized.Valid ↔ value.Valid) := by
  cases value with
  | bind value => exact ⟨rfl, rfl, Iff.rfl⟩
  | input value =>
    refine ⟨congrArg ClientDatagram.input value.normalized_normalized, ?_, ?_⟩
    · exact congrArg (UdpDatagramType.clientInput, ·) (writeInput_normalized value)
    · exact iff_of_eq (congrArg (· = true) (isValidInput_normalized value))

def clientDatagramBytes (value : ClientDatagram) : Except Exception Bytes :=
  EncodedDatagram.bytes <$> encodeClientDatagram value

def serverDatagramBytes (value : ServerDatagram) : Except Exception Bytes :=
  EncodedDatagram.bytes <$> encodeServerDatagram value

theorem bytes_eq_ok {encoded : Except Exception EncodedDatagram} {bytes : Bytes} :
    EncodedDatagram.bytes <$> encoded = .ok bytes ↔
      ∃ datagram, encoded = .ok datagram ∧ datagram.bytes = bytes := by
  cases encoded with
  | error e => simp
  | ok datagram => simp

theorem clientDatagram_exactCodec :
    ExactCodec ClientDatagram.normalized clientDatagramBytes decodeClientDatagram where
  decodes value bytes hencode := by
    obtain ⟨datagram, hdatagram, rfl⟩ := bytes_eq_ok.mp hencode
    obtain ⟨hvalid, hframe⟩ := encodeClientDatagram_eq_ok.mp hdatagram
    obtain ⟨hnormal, hsame, hiff⟩ := value.normalized_spec
    rw [decodeClientDatagram_eq_ok, hsame]
    exact ⟨hiff.mpr hvalid, hnormal, (parseHeader_encodeFrame.mp hframe).2⟩
  reencodes bytes value hdecode := by
    obtain ⟨hvalid, -, hparse⟩ := decodeClientDatagram_eq_ok.mp hdecode
    have hframe := parseHeader_eq_ok.mp hparse
    exact bytes_eq_ok.mpr ⟨_, encodeClientDatagram_eq_ok.mpr ⟨hvalid, hframe⟩, rfl⟩

theorem serverDatagram_exactCodec :
    ExactCodec id serverDatagramBytes decodeServerDatagram where
  decodes value bytes hencode := by
    obtain ⟨datagram, hdatagram, rfl⟩ := bytes_eq_ok.mp hencode
    obtain ⟨hvalid, hframe⟩ := encodeServerDatagram_eq_ok.mp hdatagram
    exact decodeServerDatagram_eq_ok.mpr ⟨hvalid, (parseHeader_encodeFrame.mp hframe).2⟩
  reencodes bytes value hdecode := by
    obtain ⟨hvalid, hparse⟩ := decodeServerDatagram_eq_ok.mp hdecode
    have hframe := parseHeader_eq_ok.mp hparse
    exact bytes_eq_ok.mpr ⟨_, encodeServerDatagram_eq_ok.mpr ⟨hvalid, hframe⟩, rfl⟩

/-- The two sides use different types of datagrams. -/
theorem frame_ne (client : ClientDatagram) (server : ServerDatagram) :
    client.frame ≠ server.frame := by
  intro h
  have hclient : client.frame.1 = .bind ∨ client.frame.1 = .clientInput := by
    cases client with
    | bind => exact Or.inl rfl
    | input => exact Or.inr rfl
  have hserver : server.frame.1 = .bindAccepted ∨ server.frame.1 = .snapshotFragment := by
    cases server with
    | bindAccepted => exact Or.inl rfl
    | snapshotFragment => exact Or.inr rfl
  rw [← congrArg Prod.fst h] at hserver
  obtain hbind | hinput := hclient
  · rw [hbind] at hserver
    exact absurd hserver (by decide)
  · rw [hinput] at hserver
    exact absurd hserver (by decide)

/-- What can be encoded fits a datagram. -/
def FitsDatagram (bytes : Except Exception Bytes) : Prop :=
  match bytes with
  | .ok bytes => bytes.length ≤ maxUdpDatagramBytes
  | .error _ => True

theorem fitsDatagram_of_frame {encoded : Except Exception EncodedDatagram}
    (h : ∀ datagram, encoded = .ok datagram →
      ∃ type payload, encodeFrame type payload = .ok datagram) :
    FitsDatagram (EncodedDatagram.bytes <$> encoded) := by
  cases encoded with
  | error e => trivial
  | ok datagram =>
    obtain ⟨type, payload, hframe⟩ := h datagram rfl
    exact encodeFrame_bytes_le hframe

/-- Datagrams are encoded in one way, within the limit, and for one side. -/
theorem datagramCodecs_exact :
    ExactCodec ClientDatagram.normalized clientDatagramBytes decodeClientDatagram ∧
      ExactCodec id serverDatagramBytes decodeServerDatagram ∧
      (∀ value, FitsDatagram (clientDatagramBytes value)) ∧
      (∀ value, FitsDatagram (serverDatagramBytes value)) ∧
      ∀ bytes, ¬∃ client server, decodeClientDatagram bytes = .ok client ∧
        decodeServerDatagram bytes = .ok server := by
  refine ⟨clientDatagram_exactCodec, serverDatagram_exactCodec, fun value => ?_, fun value => ?_,
    fun bytes => ?_⟩
  · exact fitsDatagram_of_frame fun datagram h =>
      ⟨_, _, (encodeClientDatagram_eq_ok.mp h).2⟩
  · exact fitsDatagram_of_frame fun datagram h =>
      ⟨_, _, (encodeServerDatagram_eq_ok.mp h).2⟩
  · rintro ⟨client, server, hclient, hserver⟩
    have hparse := (decodeClientDatagram_eq_ok.mp hclient).2.2
    rw [(decodeServerDatagram_eq_ok.mp hserver).2] at hparse
    exact frame_ne client server (Except.ok.inj hparse).symm

end SurvivalArena
