import SurvivalArena.Protocol.FieldCodec
import SurvivalArena.Protocol.GameTcpMessages
import SurvivalArena.Protocol.GameUdpCodec

/-!
# Datagrams of a client

A client binds its address with its token, and then sends its input.  Flags say which of the
optional parts of an input follow.
-/

namespace SurvivalArena

open Wire

def moveDestinationFlag : UInt8 := 1
def attackTargetFlag : UInt8 := 2
def keyframeRequestFlag : UInt8 := 4
def knownInputFlags : UInt8 := moveDestinationFlag ||| attackTargetFlag ||| keyframeRequestFlag

def isValidInput (value : ClientInput) : Bool :=
  value.inputSequence != 0 && (!value.hasMoveDestination || value.moveDestination.isFinite)

def writeClientIdentity (matchId : MatchId) (player : PlayerId) (token : UdpSessionToken) :
    Bytes :=
  writeU64 matchId.value ++ writeU32 player.value ++ token.bytes

def inputFlags (value : ClientInput) : UInt8 :=
  (if value.requestKeyframe then keyframeRequestFlag else 0) |||
    (if value.hasMoveDestination then moveDestinationFlag else 0) |||
    (if value.hasAttackTarget then attackTargetFlag else 0)

def writeBind (value : UdpBind) : Bytes :=
  writeClientIdentity value.matchId value.player value.token

def writeInput (value : ClientInput) : Bytes :=
  writeClientIdentity value.matchId value.player value.token ++
    writeU32 value.inputSequence ++ writeU32 value.acknowledgedSnapshotId ++
    writeU8 (inputFlags value) ++
    (if value.hasMoveDestination then writeVec2 value.moveDestination else []) ++
    (if value.hasAttackTarget then writeU32 value.attackTarget.value else [])

def encodeClientDatagram : ClientDatagram → Except Exception EncodedDatagram
  | .bind value => encodeFrame .bind (writeBind value)
  | .input value => do
    throwIf (!isValidInput value) (.invalidArgument "client input is invalid")
    encodeFrame .clientInput (writeInput value)

section Readers

variable {ε : Type} [ReadErrors ε]

def readBind : Reader ε UdpBind := do
  let matchId ← readU64
  let player ← readU32
  let token ← readOpaque
  pure { matchId := ⟨matchId⟩, player := ⟨player⟩, token }

def readMoveDestination (hasMoveDestination : Bool) : Reader ε NetworkVec2 :=
  if hasMoveDestination then readVec2 else pure {}

def readAttackTarget (hasAttackTarget : Bool) : Reader ε UInt32 :=
  if hasAttackTarget then readU32 else pure 0

/-- An input whose flags were read. -/
def inputOf (identity : UdpBind) (inputSequence acknowledgedSnapshotId : UInt32)
    (flags : UInt8) (moveDestination : NetworkVec2) (attackTarget : UInt32) : ClientInput where
  matchId := identity.matchId
  player := identity.player
  token := identity.token
  inputSequence
  acknowledgedSnapshotId
  requestKeyframe := flags &&& keyframeRequestFlag != 0
  moveDestination
  hasMoveDestination := flags &&& moveDestinationFlag != 0
  attackTarget := ⟨attackTarget⟩
  hasAttackTarget := flags &&& attackTargetFlag != 0

def readInput : Reader ε ClientInput := do
  let identity ← readBind
  let inputSequence ← readU32
  let acknowledgedSnapshotId ← readU32
  let flags ← readU8
  require (flags &&& ~~~knownInputFlags == 0) ReadErrors.invalidValue
  let moveDestination ← readMoveDestination (flags &&& moveDestinationFlag != 0)
  let attackTarget ← readAttackTarget (flags &&& attackTargetFlag != 0)
  let input := inputOf identity inputSequence acknowledgedSnapshotId flags moveDestination
    attackTarget
  require (isValidInput input) ReadErrors.invalidValue
  pure input

end Readers

def decodeBind (payload : Bytes) : Except DecodeError ClientDatagram :=
  ClientDatagram.bind <$> complete .trailingBytes readBind payload

def decodeInput (payload : Bytes) : Except DecodeError ClientDatagram :=
  ClientDatagram.input <$> complete .trailingBytes readInput payload

def decodeClientDatagram (bytes : Bytes) : Except DecodeError ClientDatagram := do
  let (type, payload) ← parseHeader bytes
  if type = .bind then decodeBind payload
  else if type = .clientInput then decodeInput payload
  else .error .invalidValue

/-! ## Exactness of the readers -/

section Exactness

variable {ε : Type} [ReadErrors ε]

theorem readBind_exact : Exact (readBind (ε := ε)) writeBind := by
  intro value input rest
  simp only [readBind, readU64_exact.bind_eq_ok, readU32_exact.bind_eq_ok,
    readOpaque_exact.bind_eq_ok, pure_eq_ok, writeBind, writeClientIdentity]
  constructor
  · rintro ⟨matchId, _, rfl, player, _, rfl, token, _, rfl, rfl, rfl⟩
    simp
  · rintro rfl
    exact ⟨_, _, by simp only [List.append_assoc], _, _, rfl, _, _, rfl, rfl, rfl⟩

/-- The flags of an input, from what the input has. -/
def flagsOf (keyframe move attack : Bool) : UInt8 :=
  (if keyframe then keyframeRequestFlag else 0) |||
    (if move then moveDestinationFlag else 0) ||| (if attack then attackTargetFlag else 0)

theorem flagsOf_flags (keyframe move attack : Bool) :
    flagsOf keyframe move attack &&& ~~~knownInputFlags = 0 ∧
      (flagsOf keyframe move attack &&& keyframeRequestFlag != 0) = keyframe ∧
      (flagsOf keyframe move attack &&& moveDestinationFlag != 0) = move ∧
      (flagsOf keyframe move attack &&& attackTargetFlag != 0) = attack := by
  revert keyframe move attack
  decide

/-- Known flags are those of the input that they describe. -/
theorem flags_eq_flagsOf {flags : UInt8} (h : flags &&& ~~~knownInputFlags = 0) :
    flags = flagsOf (flags &&& keyframeRequestFlag != 0) (flags &&& moveDestinationFlag != 0)
      (flags &&& attackTargetFlag != 0) := by
  have hall : ∀ byte : Fin 256, UInt8.ofFin byte &&& ~~~knownInputFlags = 0 →
      UInt8.ofFin byte = flagsOf (UInt8.ofFin byte &&& keyframeRequestFlag != 0)
        (UInt8.ofFin byte &&& moveDestinationFlag != 0)
        (UInt8.ofFin byte &&& attackTargetFlag != 0) := by
    decide +kernel
  exact hall flags.toFin h

/-- Parts that are not there have their defaults. -/
def ClientInput.normalized (value : ClientInput) : ClientInput :=
  { value with
    moveDestination := if value.hasMoveDestination then value.moveDestination else {}
    attackTarget := if value.hasAttackTarget then value.attackTarget else ⟨0⟩ }

theorem readMoveDestination_exactOn (hasMoveDestination : Bool) :
    ExactOn (fun value => if hasMoveDestination then value.IsNumber else value = {})
      (readMoveDestination (ε := ε) hasMoveDestination)
      (fun value => if hasMoveDestination then writeVec2 value else []) :=
  readVec2_exactOn.optional hasMoveDestination {}

theorem readAttackTarget_exactOn (hasAttackTarget : Bool) :
    ExactOn (fun value => if hasAttackTarget then True else value = 0)
      (readAttackTarget (ε := ε) hasAttackTarget)
      (fun value => if hasAttackTarget then writeU32 value else []) :=
  (readU32_exact.exactOn fun _ => True).optional hasAttackTarget 0

theorem inputFlags_eq (value : ClientInput) : inputFlags value =
    flagsOf value.requestKeyframe value.hasMoveDestination value.hasAttackTarget :=
  rfl

theorem ClientInput.normalized_eq {value : ClientInput} :
    value.normalized = value ↔
      (value.hasMoveDestination = false → value.moveDestination = {}) ∧
        (value.hasAttackTarget = false → value.attackTarget = ⟨0⟩) := by
  constructor
  · intro h
    constructor
    · intro habsent
      rw [← h, normalized, habsent]
      rfl
    · intro habsent
      rw [← h, normalized, habsent]
      rfl
  · rintro ⟨hmove, hattack⟩
    have hdestination : (if value.hasMoveDestination then value.moveDestination else {}) =
        value.moveDestination := by
      split
      · rfl
      · rename_i habsent
        exact (hmove (Bool.eq_false_iff.mpr habsent)).symm
    have htarget : (if value.hasAttackTarget then value.attackTarget else ⟨0⟩) =
        value.attackTarget := by
      split
      · rfl
      · rename_i habsent
        exact (hattack (Bool.eq_false_iff.mpr habsent)).symm
    rw [normalized, hdestination, htarget]

theorem isValidInput_move {value : ClientInput} (h : isValidInput value = true)
    (hmove : value.hasMoveDestination = true) : value.moveDestination.IsNumber := by
  simp only [isValidInput, hmove, Bool.and_eq_true, Bool.not_true, Bool.false_or] at h
  exact NetworkVec2.isNumber_of_isFinite h.2

theorem readInput_eq_ok {value : ClientInput} {input rest : Bytes} :
    readInput (ε := ε) input = .ok (value, rest) ↔
      ∃ identity inputSequence acknowledged flags optional destination middle target,
        input = writeBind identity ++ (writeU32 inputSequence ++ (writeU32 acknowledged ++
          (writeU8 flags ++ optional))) ∧
        flags &&& ~~~knownInputFlags = 0 ∧
        readMoveDestination (ε := ε) (flags &&& moveDestinationFlag != 0) optional =
          .ok (destination, middle) ∧
        readAttackTarget (ε := ε) (flags &&& attackTargetFlag != 0) middle =
          .ok (target, rest) ∧
        isValidInput value = true ∧
        value = inputOf identity inputSequence acknowledged flags destination target := by
  simp only [readInput, readBind_exact.bind_eq_ok, readU32_exact.bind_eq_ok,
    readU8_exact.bind_eq_ok, require_bind_eq_ok, bind_eq_ok (r := readMoveDestination _),
    bind_eq_ok (r := readAttackTarget _), pure_eq_ok, beq_iff_eq]
  constructor
  · rintro ⟨identity, _, rfl, inputSequence, _, rfl, acknowledged, _, rfl, flags, optional, rfl,
      hflags, destination, middle, hmove, target, _, hattack, hvalid, rfl, rfl⟩
    exact ⟨identity, inputSequence, acknowledged, flags, optional, destination, middle, target,
      rfl, hflags, hmove, hattack, hvalid, rfl⟩
  · rintro ⟨identity, inputSequence, acknowledged, flags, optional, destination, middle, target,
      rfl, hflags, hmove, hattack, hvalid, rfl⟩
    exact ⟨identity, _, rfl, inputSequence, _, rfl, acknowledged, _, rfl, flags, optional, rfl,
      hflags, destination, middle, hmove, target, rest, hattack, hvalid, rfl, rfl⟩

/-- What is read of a destination is a number or the default. -/
theorem readMoveDestination_eq_ok {hasMoveDestination : Bool} {destination : NetworkVec2}
    {input rest : Bytes} (hnumber : hasMoveDestination = true → destination.IsNumber) :
    readMoveDestination (ε := ε) hasMoveDestination input = .ok (destination, rest) ↔
      (hasMoveDestination = false → destination = {}) ∧
        input = (if hasMoveDestination then writeVec2 destination else []) ++ rest := by
  cases hasMoveDestination with
  | true =>
    rw [(readMoveDestination_exactOn true).eq_ok (hnumber rfl)]
    exact ⟨fun h => ⟨nofun, h⟩, fun h => h.2⟩
  | false =>
    rw [readMoveDestination, if_neg Bool.false_ne_true, pure_eq_ok]
    exact ⟨fun ⟨hdefault, hinput⟩ => ⟨fun _ => hdefault.symm, hinput⟩,
      fun ⟨hdefault, hinput⟩ => ⟨(hdefault rfl).symm, hinput⟩⟩

theorem readAttackTarget_eq_ok {hasAttackTarget : Bool} {target : UInt32}
    {input rest : Bytes} :
    readAttackTarget (ε := ε) hasAttackTarget input = .ok (target, rest) ↔
      (hasAttackTarget = false → target = 0) ∧
        input = (if hasAttackTarget then writeU32 target else []) ++ rest := by
  cases hasAttackTarget with
  | true =>
    rw [(readAttackTarget_exactOn true).eq_ok trivial]
    exact ⟨fun h => ⟨nofun, h⟩, fun h => h.2⟩
  | false =>
    rw [readAttackTarget, if_neg Bool.false_ne_true, pure_eq_ok]
    exact ⟨fun ⟨hdefault, hinput⟩ => ⟨fun _ => hdefault.symm, hinput⟩,
      fun ⟨hdefault, hinput⟩ => ⟨(hdefault rfl).symm, hinput⟩⟩

theorem writeInput_eq (value : ClientInput) : writeInput value =
    writeClientIdentity value.matchId value.player value.token ++
      (writeU32 value.inputSequence ++ (writeU32 value.acknowledgedSnapshotId ++
        (writeU8 (inputFlags value) ++
          ((if value.hasMoveDestination then writeVec2 value.moveDestination else []) ++
            (if value.hasAttackTarget then writeU32 value.attackTarget.value else []))))) := by
  simp only [writeInput, List.append_assoc]

theorem readInput_reads :
    Reads (fun value => isValidInput value = true ∧ value.normalized = value)
      (readInput (ε := ε)) writeInput := by
  apply Reads.of_eq_ok
  intro value input rest
  rw [readInput_eq_ok, ClientInput.normalized_eq]
  constructor
  · rintro ⟨identity, inputSequence, acknowledged, flags, optional, destination, middle, target,
      rfl, hflags, hmove, hattack, hvalid, hvalue⟩
    have hdestination : value.moveDestination = destination := congrArg _ hvalue
    have htarget : value.attackTarget = ⟨target⟩ := congrArg _ hvalue
    have hhasMove : value.hasMoveDestination = (flags &&& moveDestinationFlag != 0) :=
      congrArg _ hvalue
    have hhasAttack : value.hasAttackTarget = (flags &&& attackTargetFlag != 0) :=
      congrArg _ hvalue
    have hvalueFlags : inputFlags value = flags := by
      rw [hvalue]
      exact (flags_eq_flagsOf hflags).symm
    rw [← hhasMove] at hmove
    rw [← hhasAttack] at hattack
    rw [readMoveDestination_eq_ok fun hpresent => hdestination ▸ isValidInput_move hvalid hpresent]
      at hmove
    rw [readAttackTarget_eq_ok] at hattack
    refine ⟨⟨hvalid, fun habsent => ?_, fun habsent => ?_⟩, ?_⟩
    · rw [hdestination, hmove.1 habsent]
    · rw [htarget, hattack.1 habsent]
    · rw [writeInput_eq, hvalueFlags, hmove.2, hattack.2, hdestination, htarget]
      simp only [List.append_assoc]
      rw [hvalue]
      rfl
  · rintro ⟨⟨hvalid, hmove, hattack⟩, rfl⟩
    obtain ⟨hknown, hkeyframe, hmoveFlag, hattackFlag⟩ := flagsOf_flags value.requestKeyframe
      value.hasMoveDestination value.hasAttackTarget
    rw [← inputFlags_eq] at hknown hkeyframe hmoveFlag hattackFlag
    let target := (if value.hasAttackTarget then writeU32 value.attackTarget.value else []) ++
      rest
    let optional :=
      (if value.hasMoveDestination then writeVec2 value.moveDestination else []) ++ target
    refine ⟨⟨value.matchId, value.player, value.token⟩, value.inputSequence,
      value.acknowledgedSnapshotId, inputFlags value, optional, value.moveDestination, target,
      value.attackTarget.value, ?_, hknown, ?_, ?_, hvalid, ?_⟩
    · simp only [writeInput_eq, writeBind, List.append_assoc, optional, target]
    · rw [hmoveFlag, readMoveDestination_eq_ok (isValidInput_move hvalid)]
      exact ⟨hmove, rfl⟩
    · rw [hattackFlag, readAttackTarget_eq_ok]
      exact ⟨fun habsent => congrArg Tagged.value (hattack habsent), rfl⟩
    · rw [inputOf, hkeyframe, hmoveFlag, hattackFlag]

end Exactness

end SurvivalArena
