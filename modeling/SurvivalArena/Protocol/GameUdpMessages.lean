import SurvivalArena.Protocol.LobbyMessages

/-!
# Datagrams of the game server

A snapshot travels as numbered fragments that repeat its metadata.
-/

namespace SurvivalArena

open Wire

/-! ## The checksum

The reflected CRC-32 of a payload, one bit at a time.
-/

def crcPolynomial : UInt32 := 0xEDB88320

def crcBit (crc : UInt32) : UInt32 :=
  let mask := 0 - (crc &&& 1)
  (crc >>> 1) ^^^ (crcPolynomial &&& mask)

def crcByte (crc : UInt32) (byte : UInt8) : UInt32 :=
  Nat.repeat crcBit 8 (crc ^^^ byte.toUInt32)

def crc32 (bytes : Bytes) : UInt32 :=
  bytes.foldl crcByte 0xFFFFFFFF ^^^ 0xFFFFFFFF

/-- The check value of the algorithm: the digits one to nine. -/
example : crc32 [0x31, 0x32, 0x33, 0x34, 0x35, 0x36, 0x37, 0x38, 0x39] =
    0xCBF43926 := by
  decide +kernel

/-! ## Datagrams -/

def udpHeaderBytes : Nat := 10
def maxUdpDatagramBytes : Nat := 1200
def maxSnapshotFragmentPayloadBytes : Nat := 1158
def maxSnapshotFragments : Nat := 32

structure UdpDatagramType where
  value : UInt8
deriving DecidableEq

namespace UdpDatagramType
def bind : UdpDatagramType := ⟨1⟩
def bindAccepted : UdpDatagramType := ⟨2⟩
def clientInput : UdpDatagramType := ⟨3⟩
def snapshotFragment : UdpDatagramType := ⟨4⟩
end UdpDatagramType

structure UdpBindAccepted where
  matchId : MatchId
  player : PlayerId
  serverTick : UInt32 := 0
deriving DecidableEq

structure SnapshotFragment where
  matchId : MatchId
  snapshotId : UInt32 := 0
  serverTick : UInt32 := 0
  ackInputSequence : UInt32 := 0
  fragmentIndex : UInt16 := 0
  fragmentCount : UInt16 := 0
  fullPayloadBytes : UInt32 := 0
  fullPayloadCrc32 : UInt32 := 0
  bytes : Bytes
deriving DecidableEq

inductive ServerDatagram where
  | bindAccepted (value : UdpBindAccepted)
  | snapshotFragment (value : SnapshotFragment)
deriving DecidableEq

structure EncodedDatagram where
  type : UdpDatagramType := .bind
  bytes : Bytes
deriving DecidableEq

/-- What every fragment of one snapshot repeats. -/
structure SnapshotMetadata where
  matchId : MatchId
  snapshotId : UInt32
  serverTick : UInt32
  ackInputSequence : UInt32
  fragmentCount : UInt16
  fullPayloadBytes : UInt32
  fullPayloadCrc32 : UInt32
deriving DecidableEq

def SnapshotFragment.metadata (fragment : SnapshotFragment) : SnapshotMetadata where
  matchId := fragment.matchId
  snapshotId := fragment.snapshotId
  serverTick := fragment.serverTick
  ackInputSequence := fragment.ackInputSequence
  fragmentCount := fragment.fragmentCount
  fullPayloadBytes := fragment.fullPayloadBytes
  fullPayloadCrc32 := fragment.fullPayloadCrc32

end SurvivalArena
