import SurvivalArena.Framework.Machine
import SurvivalArena.Protocol.GameUdpCodec

/-!
# Snapshot reassembler

The client collects the fragments of one snapshot at a time.  A fragment of a
newer snapshot replaces the collection, and whatever makes the client lose a
snapshot it had seen asks for recovery.
-/

namespace SurvivalArena

open Wire

/-- The client repeats the codec's checks. -/
def validFragment (fragment : SnapshotFragment) : Bool :=
  isValidFragment fragment

structure ReassembledPayload where
  snapshotId : UInt32 := 0
  serverTick : UInt32 := 0
  ackInputSequence : UInt32 := 0
  bytes : Bytes
deriving DecidableEq

structure Assembly where
  matchId : MatchId
  snapshotId : UInt32 := 0
  serverTick : UInt32 := 0
  ackInputSequence : UInt32 := 0
  fragmentCount : UInt16 := 0
  fullPayloadBytes : UInt32 := 0
  fullPayloadCrc32 : UInt32 := 0
  fragments : List (Option Bytes)
deriving DecidableEq

namespace Assembly

def metadataMatches (active : Assembly) (fragment : SnapshotFragment) : Bool :=
  active.matchId == fragment.matchId && active.snapshotId == fragment.snapshotId &&
    active.serverTick == fragment.serverTick &&
    active.ackInputSequence == fragment.ackInputSequence &&
    active.fragmentCount == fragment.fragmentCount &&
    active.fullPayloadBytes == fragment.fullPayloadBytes &&
    active.fullPayloadCrc32 == fragment.fullPayloadCrc32

/-- An empty collection for the snapshot of a fragment. -/
def start (fragment : SnapshotFragment) : Assembly where
  matchId := fragment.matchId
  snapshotId := fragment.snapshotId
  serverTick := fragment.serverTick
  ackInputSequence := fragment.ackInputSequence
  fragmentCount := fragment.fragmentCount
  fullPayloadBytes := fragment.fullPayloadBytes
  fullPayloadCrc32 := fragment.fullPayloadCrc32
  fragments := List.replicate fragment.fragmentCount.toNat none

/-- What the slot of a fragment holds. -/
def destination (active : Assembly) (fragment : SnapshotFragment) : Option Bytes :=
  active.fragments[fragment.fragmentIndex.toNat]?.join

def store (active : Assembly) (fragment : SnapshotFragment) : Assembly :=
  { active with
    fragments :=
      active.fragments.set fragment.fragmentIndex.toNat (some fragment.bytes) }

def complete (active : Assembly) : Bool :=
  active.fragments.all Option.isSome

def payload (active : Assembly) : Bytes :=
  active.fragments.reduceOption.flatten

end Assembly

structure SnapshotReassembler where
  highestSnapshotId : Option UInt32 := none
  active : Option Assembly := none
  recoveryNeeded : Bool := false
deriving DecidableEq

namespace SnapshotReassembler

def isNewer (state : SnapshotReassembler) (snapshotId : UInt32) : Bool :=
  state.highestSnapshotId.elim true fun highest => highest < snapshotId

def isOlder (state : SnapshotReassembler) (snapshotId : UInt32) : Bool :=
  state.highestSnapshotId.elim false fun highest => snapshotId < highest

def noteReplacement (state : SnapshotReassembler) (snapshotId : UInt32) :
    SnapshotReassembler :=
  match state.highestSnapshotId with
  | none => state
  | some highest =>
    let skippedSnapshot := highest < snapshotId && 1 < snapshotId - highest
    if state.active.isSome || skippedSnapshot then
      { state with recoveryNeeded := true }
    else state

/-- Give the snapshot up and ask for recovery. -/
def poison (state : SnapshotReassembler) : SnapshotReassembler :=
  { state with recoveryNeeded := true, active := none }

/-- The end of a completed collection. -/
def finish (state : SnapshotReassembler) (metadata : Assembly) :
    SnapshotReassembler × Option ReassembledPayload :=
  let payload := metadata.payload
  if payload.length ≠ metadata.fullPayloadBytes.toNat ||
      crc32 payload ≠ metadata.fullPayloadCrc32 then (state.poison, none)
  else
    ({ state with active := none },
      some {
        snapshotId := metadata.snapshotId
        serverTick := metadata.serverTick
        ackInputSequence := metadata.ackInputSequence
        bytes := payload })

/-- Put a fragment into the collection it belongs to. -/
def place (state : SnapshotReassembler) (active : Assembly)
    (fragment : SnapshotFragment) : SnapshotReassembler × Option ReassembledPayload :=
  match active.destination fragment with
  | some bytes =>
    if bytes ≠ fragment.bytes then (state.poison, none)
    else ({ state with active := some active }, none)
  | none =>
    let active := active.store fragment
    if active.complete then finish state active
    else ({ state with active := some active }, none)

def pushBytes (state : SnapshotReassembler) (fragment : SnapshotFragment) :
    SnapshotReassembler × Option ReassembledPayload :=
  if !validFragment fragment then
    if state.isNewer fragment.snapshotId then
      ({ state.noteReplacement fragment.snapshotId with
          highestSnapshotId := some fragment.snapshotId, active := none }, none)
    else (state, none)
  else if state.isOlder fragment.snapshotId then (state, none)
  else if state.isNewer fragment.snapshotId then
    place { state.noteReplacement fragment.snapshotId with
      highestSnapshotId := some fragment.snapshotId } (.start fragment) fragment
  else
    match state.active with
    | none => (state, none)
    | some active =>
      if active.metadataMatches fragment then place state active fragment
      else (state.poison, none)

def takeRecoveryNeeded (state : SnapshotReassembler) : SnapshotReassembler × Bool :=
  ({ state with recoveryNeeded := false }, state.recoveryNeeded)

end SnapshotReassembler

inductive ReassemblerCall where
  | pushBytes (fragment : SnapshotFragment)
  | takeRecoveryNeeded

inductive ReassemblerReply where
  | payload (payload : Option ReassembledPayload)
  | recoveryNeeded (needed : Bool)

namespace SnapshotReassembler

def call (state : SnapshotReassembler) :
    ReassemblerCall → SnapshotReassembler × ReassemblerReply
  | .pushBytes fragment =>
    ((state.pushBytes fragment).1, .payload (state.pushBytes fragment).2)
  | .takeRecoveryNeeded =>
    (state.takeRecoveryNeeded.1, .recoveryNeeded state.takeRecoveryNeeded.2)

end SnapshotReassembler

end SurvivalArena
