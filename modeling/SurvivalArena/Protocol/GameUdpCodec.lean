import SurvivalArena.Exception
import SurvivalArena.Framework.Fragments
import SurvivalArena.Protocol.ByteCodec
import SurvivalArena.Protocol.GameUdpMessages

/-!
# Datagram codec

The server's datagrams and the cutting of a snapshot into fragments.  A frame is
a ten-byte header and a payload whose size the header repeats.
-/

namespace SurvivalArena

open Wire

def udpMagic : Bytes := [0x44, 0x58, 0x55, 0x31]
def protocolVersion : UInt16 := 2

def isKnownDatagramType (type : UdpDatagramType) : Bool :=
  type == .bind || type == .bindAccepted || type == .clientInput ||
    type == .snapshotFragment

def expectedFragmentCount (fullPayloadBytes : Nat) : Nat :=
  if fullPayloadBytes = 0 then 0
  else (fullPayloadBytes + maxSnapshotFragmentPayloadBytes - 1) /
    maxSnapshotFragmentPayloadBytes

def isValidFragment (value : SnapshotFragment) : Bool :=
  if value.snapshotId == 0 || value.fullPayloadBytes == 0 ||
      maxSnapshotPayloadBytes < value.fullPayloadBytes.toNat ||
      value.fragmentCount == 0 ||
      maxSnapshotFragments < value.fragmentCount.toNat ||
      value.fragmentCount ≤ value.fragmentIndex then false
  else if value.fragmentCount.toNat ≠
      expectedFragmentCount value.fullPayloadBytes.toNat then false
  else
    let offset := value.fragmentIndex.toNat * maxSnapshotFragmentPayloadBytes
    if value.fullPayloadBytes.toNat ≤ offset then false
    else
      let expectedBytes :=
        min maxSnapshotFragmentPayloadBytes (value.fullPayloadBytes.toNat - offset)
      value.bytes.length = expectedBytes

def writeHeaderFields (type : UdpDatagramType) (payloadBytes : Nat) : Bytes :=
  writeU16 protocolVersion ++ writeU8 type.value ++ writeU8 0 ++
    writeU16 (UInt16.ofNat payloadBytes)

def encodeFrame (type : UdpDatagramType) (payload : Bytes) :
    Except Exception EncodedDatagram := do
  throwIf (!isKnownDatagramType type)
    (.invalidArgument "UDP datagram type is invalid")
  throwIf (maxUdpDatagramBytes - udpHeaderBytes < payload.length ||
      65535 < payload.length)
    (.lengthError "UDP datagram exceeds 1200-byte limit")
  pure {
    type
    bytes := udpMagic ++ writeHeaderFields type payload.length ++ payload }

def writeBindAccepted (value : UdpBindAccepted) : Bytes :=
  writeU64 value.matchId.value ++ writeU32 value.player.value ++
    writeU32 value.serverTick

def writeFragmentHeader (value : SnapshotFragment) : Bytes :=
  writeU64 value.matchId.value ++ writeU32 value.snapshotId ++
    writeU32 value.serverTick ++ writeU32 value.ackInputSequence ++
    writeU16 value.fragmentIndex ++ writeU16 value.fragmentCount ++
    writeU32 value.fullPayloadBytes ++ writeU32 value.fullPayloadCrc32

def writeFragment (value : SnapshotFragment) : Bytes :=
  writeFragmentHeader value ++ value.bytes

def encodeServerDatagram : ServerDatagram → Except Exception EncodedDatagram
  | .bindAccepted value => encodeFrame .bindAccepted (writeBindAccepted value)
  | .snapshotFragment value => do
    throwIf (!isValidFragment value)
      (.invalidArgument "snapshot fragment is invalid")
    encodeFrame .snapshotFragment (writeFragment value)

section Readers

/-- The header's fields after the magic. -/
def readHeaderFields :
    Reader DecodeError (UInt16 × UdpDatagramType × UInt8 × UInt16) := do
  let version ← readU16
  let typeValue ← readU8
  let reserved ← readU8
  let payloadBytes ← readU16
  pure (version, ⟨typeValue⟩, reserved, payloadBytes)

def parseHeader (bytes : Bytes) : Except DecodeError (UdpDatagramType × Bytes) :=
  if maxUdpDatagramBytes < bytes.length then .error .countLimit
  else if bytes.length < udpHeaderBytes then .error .truncated
  else if bytes.take udpMagic.length ≠ udpMagic then .error .invalidValue
  else do
    let ((version, type, reserved, payloadBytes), _) ←
      readHeaderFields ((bytes.take udpHeaderBytes).drop udpMagic.length)
    if version ≠ protocolVersion || reserved ≠ 0 || !isKnownDatagramType type then
      .error .invalidValue
    else if maxUdpDatagramBytes - udpHeaderBytes < payloadBytes.toNat then
      .error .countLimit
    else if bytes.length < udpHeaderBytes + payloadBytes.toNat then
      .error .truncated
    else if udpHeaderBytes + payloadBytes.toNat < bytes.length then
      .error .trailingBytes
    else
      .ok (type, (bytes.drop udpHeaderBytes).take payloadBytes.toNat)

def readBindAccepted : Reader DecodeError UdpBindAccepted := do
  let matchId ← readU64
  let player ← readU32
  let serverTick ← readU32
  pure { matchId := ⟨matchId⟩, player := ⟨player⟩, serverTick }

/-- A fragment without its bytes. -/
def readFragmentHeader : Reader DecodeError SnapshotFragment := do
  let matchId ← readU64
  let snapshotId ← readU32
  let serverTick ← readU32
  let ackInputSequence ← readU32
  let fragmentIndex ← readU16
  let fragmentCount ← readU16
  let fullPayloadBytes ← readU32
  let fullPayloadCrc32 ← readU32
  pure {
    matchId := ⟨matchId⟩, snapshotId, serverTick, ackInputSequence,
    fragmentIndex, fragmentCount, fullPayloadBytes, fullPayloadCrc32,
    bytes := [] }

end Readers

def decodeBindAccepted (payload : Bytes) : Except DecodeError ServerDatagram := do
  let (value, rest) ← readBindAccepted payload
  if rest.isEmpty then .ok (.bindAccepted value) else .error .trailingBytes

def decodeFragment (payload : Bytes) : Except DecodeError ServerDatagram := do
  let (header, fragmentBytes) ← readFragmentHeader payload
  if maxSnapshotFragments < header.fragmentCount.toNat ||
      maxSnapshotPayloadBytes < header.fullPayloadBytes.toNat then
    .error .countLimit
  else
    let fragment := { header with bytes := fragmentBytes }
    if isValidFragment fragment then .ok (.snapshotFragment fragment)
    else .error .invalidValue

def decodeServerDatagram (bytes : Bytes) : Except DecodeError ServerDatagram := do
  let (type, payload) ← parseHeader bytes
  if type = .bindAccepted then decodeBindAccepted payload
  else if type = .snapshotFragment then decodeFragment payload
  else .error .invalidValue

/-- One fragment of a payload. -/
def fragmentAt (matchId : MatchId) (snapshotId serverTick ackInputSequence : UInt32)
    (fullPayload : Bytes) (index : Nat) : SnapshotFragment :=
  let offset := index * maxSnapshotFragmentPayloadBytes
  let count := min maxSnapshotFragmentPayloadBytes (fullPayload.length - offset)
  { matchId, snapshotId, serverTick, ackInputSequence,
    fragmentIndex := UInt16.ofNat index
    fragmentCount := UInt16.ofNat (expectedFragmentCount fullPayload.length)
    fullPayloadBytes := UInt32.ofNat fullPayload.length
    fullPayloadCrc32 := crc32 fullPayload
    bytes := (fullPayload.drop offset).take count }

def fragmentSnapshot (matchId : MatchId)
    (snapshotId serverTick ackInputSequence : UInt32) (fullPayload : Bytes) :
    Except Exception (List SnapshotFragment) := do
  throwIf (snapshotId == 0 || fullPayload.isEmpty)
    (.invalidArgument "snapshot identity and payload are required")
  throwIf (maxSnapshotPayloadBytes < fullPayload.length)
    (.lengthError "snapshot payload exceeds fragment limit")
  pure ((List.range (expectedFragmentCount fullPayload.length)).map
    (fragmentAt matchId snapshotId serverTick ackInputSequence fullPayload))

/-! ## Validity -/

/-- What the validity check of a fragment establishes. -/
structure SnapshotFragment.Valid (value : SnapshotFragment) : Prop where
  snapshotId : value.snapshotId ≠ 0
  payloadPos : 0 < value.fullPayloadBytes.toNat
  payloadMax : value.fullPayloadBytes.toNat ≤ maxSnapshotPayloadBytes
  countMax : value.fragmentCount.toNat ≤ maxSnapshotFragments
  count : value.fragmentCount.toNat = Fragments.count
    maxSnapshotFragmentPayloadBytes value.fullPayloadBytes.toNat
  index : value.fragmentIndex.toNat < value.fragmentCount.toNat
  bytes : value.bytes.length = min maxSnapshotFragmentPayloadBytes
    (value.fullPayloadBytes.toNat -
      value.fragmentIndex.toNat * maxSnapshotFragmentPayloadBytes)

theorem expectedFragmentCount_eq (fullPayloadBytes : Nat) :
    expectedFragmentCount fullPayloadBytes =
      Fragments.count maxSnapshotFragmentPayloadBytes fullPayloadBytes := by
  unfold expectedFragmentCount
  split
  · rename_i h
    subst h
    decide
  · rfl

theorem isValidFragment_iff {value : SnapshotFragment} :
    isValidFragment value = true ↔ value.Valid := by
  unfold isValidFragment
  dsimp only
  constructor
  · intro h
    split at h
    · cases h
    · rename_i hlimits
      simp only [Bool.or_eq_true, beq_iff_eq, decide_eq_true_eq, not_or,
        UInt16.not_le] at hlimits
      obtain ⟨⟨⟨⟨⟨hid, hpayload⟩, hmax⟩, -⟩, hfragments⟩, hindex⟩ := hlimits
      split at h
      · cases h
      · rename_i hcount
        split at h
        · cases h
        · exact {
            snapshotId := hid
            payloadPos := Nat.pos_of_ne_zero fun h0 =>
              hpayload (UInt32.toNat_inj.mp h0)
            payloadMax := not_lt.mp hmax
            countMax := not_lt.mp hfragments
            count := (not_not.mp hcount).trans (expectedFragmentCount_eq _)
            index := UInt16.lt_iff_toNat_lt.mp hindex
            bytes := of_decide_eq_true h }
  · intro h
    have hcount : value.fragmentCount ≠ 0 := by
      intro h0
      have hindex := h.index
      rw [h0] at hindex
      exact Nat.not_lt_zero _ hindex
    have hpayload : value.fullPayloadBytes ≠ 0 := by
      intro h0
      have hpos := h.payloadPos
      rw [h0] at hpos
      exact Nat.lt_irrefl 0 hpos
    rw [if_neg, if_neg, if_neg]
    · exact decide_eq_true h.bytes
    · have hindex := h.index
      rw [h.count] at hindex
      exact not_le.mpr (Fragments.mul_lt_of_lt_count (by decide) hindex)
    · rw [not_not, h.count, expectedFragmentCount_eq]
    · simp only [Bool.or_eq_true, beq_iff_eq, decide_eq_true_eq, not_or,
        UInt16.not_le]
      exact ⟨⟨⟨⟨⟨h.snapshotId, hpayload⟩, not_lt.mpr h.payloadMax⟩, hcount⟩,
        not_lt.mpr h.countMax⟩, UInt16.lt_iff_toNat_lt.mpr h.index⟩

theorem SnapshotFragment.Valid.bytes_le {value : SnapshotFragment} (h : value.Valid) :
    value.bytes.length ≤ maxSnapshotFragmentPayloadBytes := by
  rw [h.bytes]
  exact Nat.min_le_left _ _

/-! ## Round trips -/

theorem encodeFrame_eq_ok {type : UdpDatagramType} {payload : Bytes}
    {datagram : EncodedDatagram} :
    encodeFrame type payload = .ok datagram ↔
      isKnownDatagramType type = true ∧
        payload.length ≤ maxUdpDatagramBytes - udpHeaderBytes ∧
        datagram = { type, bytes :=
          udpMagic ++ writeHeaderFields type payload.length ++ payload } := by
  simp only [encodeFrame, throwIf_bind_eq_ok, Bool.not_eq_false', Bool.or_eq_false_iff,
    decide_eq_false_iff_not, not_lt, pure, Except.pure, Except.ok.injEq]
  constructor
  · rintro ⟨htype, ⟨hlen, -⟩, rfl⟩
    exact ⟨htype, hlen, rfl⟩
  · rintro ⟨htype, hlen, rfl⟩
    exact ⟨htype, ⟨hlen, hlen.trans (by decide)⟩, rfl⟩

@[simp]
theorem writeHeaderFields_length (type : UdpDatagramType) (payloadBytes : Nat) :
    (writeHeaderFields type payloadBytes).length = 6 := by
  simp [writeHeaderFields]

@[simp]
theorem writeFragmentHeader_length (value : SnapshotFragment) :
    (writeFragmentHeader value).length = 32 := by
  simp [writeFragmentHeader]

theorem readHeaderFields_write (type : UdpDatagramType) (payloadBytes : Nat) :
    readHeaderFields (writeHeaderFields type payloadBytes) =
      .ok ((protocolVersion, type, 0, UInt16.ofNat payloadBytes), []) := by
  simp only [readHeaderFields, readU16_exact.bind_eq_ok, readU8_exact.bind_eq_ok,
    pure_eq_ok]
  exact ⟨_, _, by simp only [writeHeaderFields, List.append_assoc], _, _, rfl, _, _,
    rfl, _, [], (List.append_nil _).symm, rfl, rfl⟩

/-- A frame that fits a datagram is split into its type and its payload. -/
theorem parseHeader_frame {type : UdpDatagramType} {payload : Bytes}
    (htype : isKnownDatagramType type = true)
    (hlen : payload.length ≤ maxUdpDatagramBytes - udpHeaderBytes) :
    parseHeader (udpMagic ++ writeHeaderFields type payload.length ++ payload) =
      .ok (type, payload) := by
  have hheader : (udpMagic ++ writeHeaderFields type payload.length).length =
      udpHeaderBytes := by
    rw [List.length_append, writeHeaderFields_length]
    rfl
  have htotal : (udpMagic ++ writeHeaderFields type payload.length ++
      payload).length = udpHeaderBytes + payload.length := by
    rw [List.length_append, hheader]
  have htake : (udpMagic ++ writeHeaderFields type payload.length ++
      payload).take udpHeaderBytes =
        udpMagic ++ writeHeaderFields type payload.length :=
    List.take_left' hheader
  have hdrop : (udpMagic ++ writeHeaderFields type payload.length ++
      payload).drop udpHeaderBytes = payload :=
    List.drop_left' hheader
  have hmagic : (udpMagic ++ writeHeaderFields type payload.length ++
      payload).take udpMagic.length = udpMagic := by
    rw [List.append_assoc]
    exact List.take_left' rfl
  have hsize : (UInt16.ofNat payload.length).toNat = payload.length :=
    UInt16.toNat_ofNat_of_lt' (hlen.trans_lt (by decide))
  have hmax : udpHeaderBytes + payload.length ≤ maxUdpDatagramBytes := by
    have hsum := Nat.add_le_add_left hlen udpHeaderBytes
    exact hsum.trans (by decide)
  rw [parseHeader, htotal, if_neg (not_lt.mpr hmax), if_neg (by omega), hmagic,
    if_neg (not_not.mpr rfl), htake, List.drop_left' rfl, readHeaderFields_write]
  simp only [bind, Except.bind, hsize, hdrop, htype, List.take_length]
  rw [if_neg (by decide), if_neg (not_lt.mpr hlen), if_neg (lt_irrefl _),
    if_neg (lt_irrefl _)]

theorem readFragmentHeader_write (value : SnapshotFragment) (rest : Bytes) :
    readFragmentHeader (writeFragmentHeader value ++ rest) =
      .ok ({ value with bytes := [] }, rest) := by
  simp only [readFragmentHeader, readU64_exact.bind_eq_ok, readU32_exact.bind_eq_ok,
    readU16_exact.bind_eq_ok, pure_eq_ok]
  exact ⟨_, _, by simp only [writeFragmentHeader, List.append_assoc], _, _, rfl, _, _,
    rfl, _, _, rfl, _, _, rfl, _, _, rfl, _, _, rfl, _, _, rfl, rfl, rfl⟩

theorem decodeFragment_write {value : SnapshotFragment} (h : value.Valid) :
    decodeFragment (writeFragment value) = .ok (.snapshotFragment value) := by
  rw [decodeFragment, writeFragment, readFragmentHeader_write]
  simp only [bind, Except.bind]
  rw [if_neg, if_pos (isValidFragment_iff.mpr h)]
  simp only [Bool.or_eq_true, decide_eq_true_eq, not_or, not_lt]
  exact ⟨h.countMax, h.payloadMax⟩

theorem decodeBindAccepted_write (value : UdpBindAccepted) :
    decodeBindAccepted (writeBindAccepted value) = .ok (.bindAccepted value) := by
  have hread : readBindAccepted (writeBindAccepted value) = .ok (value, []) := by
    simp only [readBindAccepted, readU64_exact.bind_eq_ok, readU32_exact.bind_eq_ok,
      pure_eq_ok]
    exact ⟨_, _, by simp only [writeBindAccepted, List.append_assoc], _, _, rfl, _, [],
      (List.append_nil _).symm, rfl, rfl⟩
  rw [decodeBindAccepted, hread]
  rfl

/-- What the server encodes fits one datagram and decodes to itself. -/
theorem decodeServerDatagram_encode {value : ServerDatagram}
    {datagram : EncodedDatagram} (h : encodeServerDatagram value = .ok datagram) :
    datagram.bytes.length ≤ maxUdpDatagramBytes ∧
      decodeServerDatagram datagram.bytes = .ok value := by
  have hframe : ∀ type payload, encodeFrame type payload = .ok datagram →
      datagram.bytes.length ≤ maxUdpDatagramBytes ∧
        parseHeader datagram.bytes = .ok (type, payload) := by
    intro type payload hencode
    obtain ⟨htype, hlen, rfl⟩ := encodeFrame_eq_ok.mp hencode
    refine ⟨?_, parseHeader_frame htype hlen⟩
    rw [List.length_append, List.length_append, writeHeaderFields_length]
    have hsum := Nat.add_le_add_left hlen udpHeaderBytes
    exact hsum.trans (by decide)
  cases value with
  | bindAccepted value =>
    obtain ⟨hlen, hparse⟩ := hframe _ _ h
    refine ⟨hlen, ?_⟩
    rw [decodeServerDatagram, hparse]
    exact decodeBindAccepted_write value
  | snapshotFragment value =>
    obtain ⟨hvalid, h⟩ := throwIf_bind_eq_ok.mp h
    obtain ⟨hlen, hparse⟩ := hframe _ _ h
    refine ⟨hlen, ?_⟩
    rw [decodeServerDatagram, hparse]
    simp only [bind, Except.bind]
    rw [if_neg (by decide), if_pos trivial]
    exact decodeFragment_write (isValidFragment_iff.mp (by simpa using hvalid))

/-- A valid fragment can be encoded. -/
theorem SnapshotFragment.Valid.encodes {value : SnapshotFragment} (h : value.Valid) :
    ∃ datagram, encodeServerDatagram (.snapshotFragment value) = .ok datagram := by
  refine ⟨_, throwIf_bind_eq_ok.mpr ⟨?_, encodeFrame_eq_ok.mpr ⟨rfl, ?_, rfl⟩⟩⟩
  · rw [isValidFragment_iff.mpr h]
    rfl
  · rw [writeFragment, List.length_append, writeFragmentHeader_length]
    have hsum := Nat.add_le_add_left h.bytes_le 32
    exact hsum.trans (by decide)

/-! ## Fragments of a payload -/

section FragmentAt

variable {matchId : MatchId} {snapshotId serverTick ackInputSequence : UInt32}
  {fullPayload : Bytes}

theorem fragmentSnapshot_eq_ok {fragments : List SnapshotFragment} :
    fragmentSnapshot matchId snapshotId serverTick ackInputSequence fullPayload =
        .ok fragments ↔
      (snapshotId ≠ 0 ∧ 0 < fullPayload.length ∧
        fullPayload.length ≤ maxSnapshotPayloadBytes) ∧
      fragments = (List.range (Fragments.count maxSnapshotFragmentPayloadBytes
        fullPayload.length)).map
          (fragmentAt matchId snapshotId serverTick ackInputSequence fullPayload) := by
  simp only [fragmentSnapshot, throwIf_bind_eq_ok, Bool.or_eq_false_iff,
    beq_eq_false_iff_ne, List.isEmpty_eq_false_iff, decide_eq_false_iff_not, not_lt, pure,
    Except.pure, Except.ok.injEq, expectedFragmentCount_eq, List.length_pos_iff]
  constructor
  · rintro ⟨⟨hid, hpos⟩, hmax, rfl⟩
    exact ⟨⟨hid, hpos, hmax⟩, rfl⟩
  · rintro ⟨⟨hid, hpos, hmax⟩, rfl⟩
    exact ⟨⟨hid, hpos⟩, hmax, rfl⟩

theorem fragmentAt_bytes (index : Nat) :
    (fragmentAt matchId snapshotId serverTick ackInputSequence fullPayload index).bytes =
      Fragments.piece maxSnapshotFragmentPayloadBytes fullPayload index := by
  rw [fragmentAt, Fragments.piece]
  apply List.take_eq_take_iff.mpr
  rw [List.length_drop, Nat.min_assoc, Nat.min_self]

/-- A payload within the limit needs at most the fragments a snapshot may have. -/
theorem fragmentCount_le (hmax : fullPayload.length ≤ maxSnapshotPayloadBytes) :
    Fragments.count maxSnapshotFragmentPayloadBytes fullPayload.length ≤
      maxSnapshotFragments := by
  have hle := Nat.div_le_div_right (c := maxSnapshotFragmentPayloadBytes)
    (Nat.sub_le_sub_right (Nat.add_le_add_right hmax
      maxSnapshotFragmentPayloadBytes) 1)
  exact hle.trans (by decide)

theorem fragmentAt_valid (hid : snapshotId ≠ 0) (hpos : 0 < fullPayload.length)
    (hmax : fullPayload.length ≤ maxSnapshotPayloadBytes) {index : Nat}
    (hindex : index < Fragments.count maxSnapshotFragmentPayloadBytes
      fullPayload.length) :
    (fragmentAt matchId snapshotId serverTick ackInputSequence fullPayload
      index).Valid := by
  have hlength : (UInt32.ofNat fullPayload.length).toNat = fullPayload.length :=
    UInt32.toNat_ofNat_of_lt' (hmax.trans_lt (by decide))
  have hfragments := fragmentCount_le hmax
  have hcount : (UInt16.ofNat (expectedFragmentCount fullPayload.length)).toNat =
      Fragments.count maxSnapshotFragmentPayloadBytes fullPayload.length := by
    rw [expectedFragmentCount_eq]
    exact UInt16.toNat_ofNat_of_lt' (hfragments.trans_lt (by decide))
  have hnumber : (UInt16.ofNat index).toNat = index :=
    UInt16.toNat_ofNat_of_lt' ((hindex.trans_le hfragments).trans (by decide))
  exact {
    snapshotId := hid
    payloadPos := hlength.symm ▸ hpos
    payloadMax := hlength.symm ▸ hmax
    countMax := hcount.symm ▸ hfragments
    count := by
      change (UInt16.ofNat _).toNat = Fragments.count _ (UInt32.ofNat _).toNat
      rw [hcount, hlength]
    index := by
      change (UInt16.ofNat _).toNat < (UInt16.ofNat _).toNat
      rw [hcount, hnumber]
      exact hindex
    bytes := by
      rw [fragmentAt_bytes, Fragments.length_piece]
      change _ = min _ ((UInt32.ofNat _).toNat - (UInt16.ofNat _).toNat * _)
      rw [hlength, hnumber] }

end FragmentAt

end SurvivalArena
