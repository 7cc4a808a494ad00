import SurvivalArena.Framework.BitPolynomial
import SurvivalArena.Replication.ReassemblerRun

/-!
# What the checksum detects

The checksum is the remainder of the message as a polynomial.  Two messages of one length that
differ within thirty-two consecutive bits have different checksums, and the reassembler refuses
the one that comes with the checksum of the other.
-/

namespace SurvivalArena

open BitPolynomial Polynomial Wire

/-! ## The polynomial of the checksum -/

/-- The generator of the checksum. -/
noncomputable def crcGenerator : (ZMod 2)[X] :=
  X ^ 32 + X ^ 26 + X ^ 23 + X ^ 22 + X ^ 16 + X ^ 12 + X ^ 11 + X ^ 10 + X ^ 8 + X ^ 7 + X ^ 5 +
    X ^ 4 + X ^ 2 + X + 1

theorem generator_crcPolynomial : generator (w := 31) crcPolynomial.toBitVec = crcGenerator := by
  have hbits : ∀ k < 32, crcPolynomial.toBitVec.getLsbD k =
      decide (k ∈ [5, 8, 9, 15, 19, 20, 21, 23, 24, 26, 27, 29, 30, 31]) := by
    decide +kernel
  unfold generator ofWord crcGenerator
  rw [ofBits_congr hbits]
  simp [ofBits, Finset.sum_range_succ]
  ring

theorem lowestBit (crc : UInt32) :
    crc &&& 1 = if crc.toBitVec.getLsbD 0 then 1 else 0 := by
  apply UInt32.toBitVec_inj.mp
  have hlow : (crc &&& 1).toBitVec =
      BitVec.setWidth 32 (BitVec.ofBool (crc.toBitVec.getLsbD 0)) := by
    rw [UInt32.toBitVec_and]
    exact BitVec.and_one_eq_setWidth_ofBool_getLsbD
  rw [hlow]
  cases crc.toBitVec.getLsbD 0 <;> rfl

theorem crcBit_toBitVec (crc : UInt32) :
    (crcBit crc).toBitVec = shiftOut (w := 31) crcPolynomial.toBitVec crc.toBitVec := by
  have hmask : (crcPolynomial &&& (0 - (crc &&& 1))).toBitVec =
      if crc.toBitVec.getLsbD 0 then crcPolynomial.toBitVec else 0 := by
    rw [lowestBit]
    split <;> decide
  have hshift : (crc >>> 1).toBitVec = crc.toBitVec >>> 1 := by
    rw [UInt32.toBitVec_shiftRight]
    rfl
  show ((crc >>> 1) ^^^ (crcPolynomial &&& (0 - (crc &&& 1)))).toBitVec = _
  rw [UInt32.toBitVec_xor, hmask, hshift]
  rfl

theorem crcBit_iterate (count : Nat) (crc : UInt32) : (Nat.repeat crcBit count crc).toBitVec =
    (shiftOut (w := 31) crcPolynomial.toBitVec)^[count] crc.toBitVec := by
  induction count with
  | zero => rfl
  | succ count ih =>
    rw [Function.iterate_succ_apply', ← ih]
    exact crcBit_toBitVec _

/-! ## Messages -/

/-- The bits of a message in the order in which the checksum reads them, each byte from its lowest
bit on. -/
def messageBit (bytes : Bytes) (k : Nat) : Bool :=
  (bytes.getD (k / 8) 0).toNat.testBit (k % 8)

/-- The message as a polynomial, its first bit the leading coefficient. -/
noncomputable def messagePolynomial (bytes : Bytes) : (ZMod 2)[X] :=
  ofBits (8 * bytes.length) (messageBit bytes)

theorem messagePolynomial_cons (byte : UInt8) (bytes : Bytes) :
    messagePolynomial (byte :: bytes) = X ^ (8 * bytes.length) * ofBits 8 byte.toNat.testBit +
      messagePolynomial bytes := by
  have hlength : 8 * (byte :: bytes).length = 8 + 8 * bytes.length := by
    rw [List.length_cons]
    omega
  have hfirst : ofBits 8 (messageBit (byte :: bytes)) = ofBits 8 byte.toNat.testBit := by
    refine ofBits_congr fun k hk => ?_
    rw [messageBit, Nat.div_eq_of_lt hk, Nat.mod_eq_of_lt hk]
    rfl
  have hrest : (fun k => messageBit (byte :: bytes) (8 + k)) = messageBit bytes := by
    funext k
    have hnext : (8 + k) / 8 = k / 8 + 1 := by omega
    rw [messageBit, hnext, Nat.add_mod_left]
    rfl
  unfold messagePolynomial
  rw [hlength, ofBits_add, hfirst, hrest]

/-- A byte at the low end of a word. -/
theorem ofWord_byte (byte : UInt8) :
    ofWord byte.toUInt32.toBitVec = X ^ 24 * ofBits 8 byte.toNat.testBit := by
  have hhigh : ofBits 24 (fun k => byte.toUInt32.toBitVec.getLsbD (8 + k)) = 0 := by
    refine (ofBits_congr fun k _ => ?_).trans ofBits_zero
    show byte.toNat.testBit (8 + k) = false
    refine Nat.testBit_lt_two_pow (byte.toNat_lt.trans_le ?_)
    exact Nat.pow_le_pow_right (by decide) (Nat.le_add_right 8 k)
  show ofBits (8 + 24) byte.toUInt32.toBitVec.getLsbD = _
  rw [ofBits_add, hhigh, add_zero]
  rfl

/-- The invariant of the loop over the bytes. -/
theorem mk_foldl_crcByte (bytes : Bytes) (crc : UInt32) :
    AdjoinRoot.mk crcGenerator (ofWord (bytes.foldl crcByte crc).toBitVec) =
      AdjoinRoot.mk crcGenerator (X ^ (8 * bytes.length) * ofWord crc.toBitVec +
        X ^ 32 * messagePolynomial bytes) := by
  induction bytes generalizing crc with
  | nil =>
    have hnothing : messagePolynomial [] = 0 := rfl
    rw [hnothing, mul_zero, add_zero, List.length_nil, mul_zero, pow_zero, one_mul]
    rfl
  | cons byte bytes ih =>
    have hbyte : AdjoinRoot.mk crcGenerator (ofWord (crcByte crc byte).toBitVec) =
        AdjoinRoot.mk crcGenerator (X ^ 8 * ofWord crc.toBitVec +
          X ^ 32 * ofBits 8 byte.toNat.testBit) := by
      unfold crcByte
      rw [crcBit_iterate, ← generator_crcPolynomial, mk_shiftOut_iterate, UInt32.toBitVec_xor,
        ofWord_xor, ofWord_byte]
      refine congrArg (AdjoinRoot.mk _) ?_
      ring
    rw [List.foldl_cons, ih, map_add, map_mul, hbyte, messagePolynomial_cons, List.length_cons,
      ← map_mul, ← map_add]
    refine congrArg (AdjoinRoot.mk _) ?_
    ring

/-- Before the final complement, the checksum is the remainder of the message after thirty-two
zero bits, the first thirty-two of the bits complemented. -/
theorem crc32_eq_remainder (bytes : Bytes) :
    ofWord (crc32 bytes ^^^ 0xFFFFFFFF).toBitVec =
      (X ^ (8 * bytes.length) * ofWord (0xFFFFFFFF : UInt32).toBitVec +
        X ^ 32 * messagePolynomial bytes) %ₘ crcGenerator := by
  have hregister : crc32 bytes ^^^ 0xFFFFFFFF = bytes.foldl crcByte 0xFFFFFFFF := by
    rw [crc32, UInt32.xor_assoc, UInt32.xor_self, UInt32.xor_zero]
  have hcongruent := mk_foldl_crcByte bytes 0xFFFFFFFF
  rw [hregister, ← generator_crcPolynomial]
  rw [← generator_crcPolynomial] at hcongruent
  exact ofWord_eq_modByMonic _ hcongruent

/-! ## Bursts -/

/-- Two messages of one length that differ, and only within thirty-two consecutive bits. -/
structure BurstApart (sent received : Bytes) : Prop where
  length : sent.length = received.length
  differ : sent ≠ received
  window : ∃ start, ∀ k, messageBit sent k ≠ messageBit received k →
    start ≤ k ∧ k < start + 32

theorem eq_of_messageBit {sent received : Bytes} (hlength : sent.length = received.length)
    (h : ∀ k < 8 * sent.length, messageBit sent k = messageBit received k) :
    sent = received := by
  refine List.ext_getElem hlength fun index hsent hreceived => ?_
  apply UInt8.toNat_inj.mp
  refine Nat.eq_of_testBit_eq fun k => ?_
  by_cases hk : k < 8
  · have hbit := h (8 * index + k) (by omega)
    have hbyte : (8 * index + k) / 8 = index := by omega
    have hplace : (8 * index + k) % 8 = k := by omega
    rw [messageBit, messageBit, hbyte, hplace, List.getD_eq_getElem?_getD,
      List.getD_eq_getElem?_getD, List.getElem?_eq_getElem hsent,
      List.getElem?_eq_getElem hreceived] at hbit
    exact hbit
  · have hlarge : 2 ^ 8 ≤ 2 ^ k := Nat.pow_le_pow_right (by decide) (not_lt.mp hk)
    rw [Nat.testBit_lt_two_pow (sent[index].toNat_lt.trans_le hlarge),
      Nat.testBit_lt_two_pow (received[index].toNat_lt.trans_le hlarge)]

theorem crcGenerator_isCoprime (count : Nat) : IsCoprime crcGenerator (X ^ count) := by
  rw [← generator_crcPolynomial]
  exact generator_isCoprime _ (by decide) count

/-- A burst of no more than thirty-two bits changes the checksum. -/
theorem BurstApart.crc32_ne {sent received : Bytes} (h : BurstApart sent received) :
    crc32 sent ≠ crc32 received := by
  intro hsame
  obtain ⟨hlength, hdiffer, start, hwindow⟩ := h
  have hburst : ∀ k < 8 * sent.length, (messageBit sent k ^^ messageBit received k) = true →
      start ≤ k ∧ k < start + 32 := fun k _ hk => hwindow k (by simpa using hk)
  obtain ⟨factor, hdegree, hfactor⟩ := ofBits_window hburst
  have hreceived : messagePolynomial received = ofBits (8 * sent.length) (messageBit received) := by
    rw [hlength]
    rfl
  have hsum : messagePolynomial sent + messagePolynomial received =
      X ^ (8 * sent.length - (start + 32)) * factor := by
    rw [hreceived, ← hfactor, ofBits_xor]
    rfl
  -- The generator divides the difference of the messages.
  have hregisters : sent.foldl crcByte 0xFFFFFFFF = received.foldl crcByte 0xFFFFFFFF :=
    (UInt32.xor_left_inj 0xFFFFFFFF).mp hsame
  have hdivides := mk_foldl_crcByte sent 0xFFFFFFFF
  rw [hregisters, mk_foldl_crcByte received, AdjoinRoot.mk_eq_mk, hlength, add_sub_add_left_eq_sub,
    ← mul_sub, CharTwo.sub_eq_add, add_comm, hsum] at hdivides
  have hsmall : factor = 0 := by
    refine eq_zero_of_dvd_of_degree_lt
      ((crcGenerator_isCoprime _).dvd_of_dvd_mul_left
        ((crcGenerator_isCoprime _).dvd_of_dvd_mul_left hdivides)) ?_
    rw [← generator_crcPolynomial, generator_degree]
    exact hdegree
  rw [hsmall, mul_zero, CharTwo.add_eq_zero, hreceived] at hsum
  exact hdiffer (eq_of_messageBit hlength (ofBits_inj.mp hsum))

/-! ## The reassembler -/

namespace SnapshotReassembler

/-- A payload that is handed on has the checksum of its fragments. -/
theorem pushBytes_crc32 {state : SnapshotReassembler} {fragment : SnapshotFragment}
    {payload : ReassembledPayload} (h : (state.pushBytes fragment).2 = some payload) :
    crc32 payload.bytes = fragment.fullPayloadCrc32 := by
  have hpushes := pushBytes_pushes state fragment
  generalize state.pushBytes fragment = result at h hpushes
  cases hpushes with
  | ignored hnewer => cases h
  | discarded hnewer => cases h
  | poisoned hnewer => cases h
  | placed hcollects hplaces =>
    cases hplaces with
    | repeated => cases h
    | poisoned => cases h
    | stored => cases h
    | finished hdestination hcomplete hlength hcrc =>
      cases h
      refine hcrc.trans ?_
      cases hcollects with
      | newer => rfl
      | active _ _ hmetadata => exact congrArg SnapshotMetadata.fullPayloadCrc32 hmetadata

/-- A collection that a fragment completes to something else than was sent is given up. -/
theorem pushBytes_burst {state base : SnapshotReassembler} {active : Assembly}
    {fragment : SnapshotFragment} {sent : Bytes} (hcollects : state.Collects fragment base active)
    (hvalid : fragment.Valid) (hold : state.isOlder fragment.snapshotId = false)
    (hdestination : active.destination fragment = none)
    (hcomplete : (active.store fragment).complete = true)
    (hsent : crc32 sent = fragment.fullPayloadCrc32)
    (hburst : BurstApart sent (active.store fragment).payload) :
    state.pushBytes fragment = (base.poison, none) := by
  have hcrc : crc32 (active.store fragment).payload ≠
      (active.store fragment).fullPayloadCrc32 := by
    have hsame : (active.store fragment).fullPayloadCrc32 = fragment.fullPayloadCrc32 := by
      cases hcollects with
      | newer => rfl
      | active _ _ hmetadata => exact congrArg SnapshotMetadata.fullPayloadCrc32 hmetadata
    rw [hsame, ← hsent]
    exact hburst.crc32_ne.symm
  rw [hcollects.pushBytes_eq hvalid hold, place, hdestination]
  dsimp only
  rw [if_pos hcomplete, finish]
  exact if_pos (by simp [hcrc])

end SnapshotReassembler

/-- The checksum is the remainder of the message, tells messages apart that differ by a burst, and
keeps the reassembler from handing on one for the other. -/
theorem crc32_integrity :
    (∀ bytes, ofWord (crc32 bytes ^^^ 0xFFFFFFFF).toBitVec =
      (X ^ (8 * bytes.length) * ofWord (0xFFFFFFFF : UInt32).toBitVec +
        X ^ 32 * messagePolynomial bytes) %ₘ crcGenerator) ∧
    (∀ sent received, BurstApart sent received → crc32 sent ≠ crc32 received) ∧
    (∀ (state : SnapshotReassembler) fragment payload sent,
      crc32 sent = fragment.fullPayloadCrc32 →
        (state.pushBytes fragment).2 = some payload → ¬BurstApart sent payload.bytes) ∧
    ∀ (state base : SnapshotReassembler) active fragment sent,
      state.Collects fragment base active → fragment.Valid →
        state.isOlder fragment.snapshotId = false → active.destination fragment = none →
          (active.store fragment).complete = true → crc32 sent = fragment.fullPayloadCrc32 →
            BurstApart sent (active.store fragment).payload →
              state.pushBytes fragment = (base.poison, none) := by
  refine ⟨crc32_eq_remainder, fun _ _ h => h.crc32_ne,
    fun state fragment payload sent hsent h => ?_,
    fun _ _ _ _ _ hcollects hvalid hold hdestination hcomplete hsent hburst =>
      SnapshotReassembler.pushBytes_burst hcollects hvalid hold hdestination hcomplete hsent hburst⟩
  intro hburst
  exact hburst.crc32_ne (hsent.trans (SnapshotReassembler.pushBytes_crc32 h).symm)

/-- A snapshot of one byte, damaged on its way. -/
def damagedFragment : SnapshotFragment where
  matchId := ⟨1⟩
  snapshotId := 1
  fragmentCount := 1
  fullPayloadBytes := 1
  fullPayloadCrc32 := crc32 [1]
  bytes := [2]

theorem damagedFragment_burst : BurstApart [1] [2] where
  length := rfl
  differ := by decide
  window := ⟨0, fun k hk => ⟨Nat.zero_le k, by
    by_contra hlarge
    refine hk ?_
    have hindex : k / 8 = k / 8 - 1 + 1 := by omega
    rw [messageBit, messageBit, hindex]
    rfl⟩⟩

/-- The rule for the damaged snapshot. -/
theorem crc32_integrity_damagedFragment : crc32 [1] ≠ crc32 [2] ∧
    SnapshotReassembler.pushBytes {} damagedFragment =
      (SnapshotReassembler.poison { highestSnapshotId := some 1 }, none) := by
  obtain ⟨-, hdetects, -, hrefuses⟩ := crc32_integrity
  refine ⟨hdetects _ _ damagedFragment_burst, ?_⟩
  exact hrefuses {} _ _ damagedFragment [1] (.newer rfl)
    (isValidFragment_iff.mp (by decide +kernel)) rfl rfl rfl rfl damagedFragment_burst

end SurvivalArena
