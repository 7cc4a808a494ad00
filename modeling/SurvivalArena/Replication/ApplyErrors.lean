import SurvivalArena.Framework.Machine
import SurvivalArena.Replication.ClientWorldValidity

/-!
# Applications that throw

A payload that is refused before it is looked at leaves the stream as it was.  A delta
that turns out not to fit its base has already used up its identifier.
-/

namespace SurvivalArena

/-- A call of the client's stream. -/
inductive StreamCall where
  | apply (snapshotId : UInt32) (payload : SnapshotPayload)
  | reset

namespace ClientSnapshotStream

def reset (stream : ClientSnapshotStream) : ClientSnapshotStream :=
  { stream with
    baselines := []
    highestSeenSnapshotId := none
    acknowledgedSnapshotId := 0
    requestKeyframe := false }

def call (stream : ClientSnapshotStream) :
    StreamCall → ClientSnapshotStream × Option (Except Exception SnapshotApplyResult)
  | .apply snapshotId payload =>
    let (next, outcome) := stream.apply snapshotId payload
    (next, some outcome)
  | .reset => (stream.reset, none)

/-- The payload has the identifier it comes with and can be encoded. -/
def Admits (snapshotId : UInt32) (payload : SnapshotPayload) : Prop :=
  snapshotId ≠ 0 ∧ payload.header.payloadSnapshotId = snapshotId ∧
    ∃ bytes, encodeSnapshotPayload payload = .ok bytes

theorem apply_refused {stream : ClientSnapshotStream} {snapshotId : UInt32}
    {payload : SnapshotPayload} (h : ¬Admits snapshotId payload) :
    (stream.apply snapshotId payload).1 = stream := by
  unfold apply
  split
  · rfl
  · rename_i hidentity
    obtain ⟨hpositive, hmatch⟩ := not_or.mp hidentity
    cases hencoded : encodeSnapshotPayload payload with
    | error e => rfl
    | ok bytes => exact absurd ⟨hpositive, not_not.mp hmatch, bytes, hencoded⟩ h

theorem applyNew_error {stream : ClientSnapshotStream} {snapshotId : UInt32}
    {payload : SnapshotPayload} {e : Exception}
    (h : (stream.applyNew snapshotId payload).2 = .error e) :
    (stream.applyNew snapshotId payload).1 = stream := by
  revert h
  unfold applyNew
  split
  · intro h
    cases h
  · split
    · intro h
      cases h
    · split
      · intro h
        cases h
      · rename_i base _
        refine attempt_induct (P := fun r : ClientSnapshotStream ×
          Except Exception SnapshotApplyResult => r.2 = .error e → r.1 = stream)
          (fun _ _ _ => rfl) ?_
        intro applied _ h
        cases h

/-- Only a delta that does not fit its base throws after the checks, and it leaves its
identifier behind. -/
theorem apply_spoiled {stream : ClientSnapshotStream} {snapshotId : UInt32}
    {payload : SnapshotPayload} {e : Exception} (hadmits : Admits snapshotId payload)
    (h : (stream.apply snapshotId payload).2 = .error e) :
    stream.hasSeen snapshotId = false ∧
      (stream.apply snapshotId payload).1 =
        { stream with highestSeenSnapshotId := some snapshotId } := by
  obtain ⟨hpositive, hmatch, bytes, hencoded⟩ := hadmits
  have hidentity : ¬(snapshotId = 0 ∨ payload.header.payloadSnapshotId ≠ snapshotId) :=
    not_or.mpr ⟨hpositive, not_not.mpr hmatch⟩
  unfold apply at h ⊢
  rw [if_neg hidentity, hencoded, attempt_ok] at h ⊢
  split at h
  · cases h
  · rename_i hseen
    rw [if_neg hseen]
    exact ⟨Bool.eq_false_iff.mpr hseen, applyNew_error h⟩

/-! ## A payload with the same identifier -/

/-- A keyframe of a running world without entities. -/
def emptyKeyframe (snapshotId : UInt32) : SnapshotPayload where
  header := { kind := .keyframe, valueEncoding := .quantized, payloadSnapshotId := snapshotId }
  global := { phase := .running, aliveContenders := 2 }

theorem emptyKeyframe_admits {snapshotId : UInt32} (h : snapshotId ≠ 0) :
    Admits snapshotId (emptyKeyframe snapshotId) := by
  have hvalid : ValidPayload (emptyKeyframe snapshotId) := by
    refine .quantizedKeyframe ?_ rfl ?_ ⟨rfl, rfl, rfl, rfl, rfl⟩ ?_ ?_
    · simp only [isValidHeader, emptyKeyframe, bne_iff_ne, ne_eq, h, not_false_eq_true,
        Bool.and_eq_true, if_true]
      decide
    · exact (by decide : SnapshotValueEncoding.quantized ≠ .fullPrecision)
    · exact (by decide +kernel : hasDefaultPrecisionBody (emptyKeyframe 1) = true)
    · exact validateQuantizedKeyframe_eq_ok.mp
        (by decide +kernel : validateQuantizedKeyframe (emptyKeyframe 1) = .ok ())
  have hlength : ¬maxSnapshotPayloadBytes < (writeHeader (emptyKeyframe snapshotId).header ++
      writeQuantizedKeyframe (emptyKeyframe 1)).length := by
    simp only [writeHeader, List.length_append, writeU8_length, writeU32_length]
    decide +kernel
  exact ⟨h, rfl, _, encodeSnapshotPayload_eq_ok.mpr ⟨hvalid, _, rfl, hlength, rfl⟩⟩

/-- A keyframe above every identifier that was seen is applied. -/
theorem apply_emptyKeyframe {stream : ClientSnapshotStream} {snapshotId : UInt32}
    (h : snapshotId ≠ 0) (hunseen : stream.hasSeen snapshotId = false) :
    ∃ result, (stream.apply snapshotId (emptyKeyframe snapshotId)).2 = .ok result ∧
      result.world.isSome = true := by
  obtain ⟨-, -, bytes, hencoded⟩ := emptyKeyframe_admits h
  have hidentity : ¬(snapshotId = 0 ∨
      (emptyKeyframe snapshotId).header.payloadSnapshotId ≠ snapshotId) :=
    not_or.mpr ⟨h, not_not.mpr rfl⟩
  unfold apply
  rw [if_neg hidentity, hencoded, attempt_ok, if_neg (by rw [hunseen]; exact nofun)]
  exact ⟨_, rfl, rfl⟩

theorem apply_seen {stream : ClientSnapshotStream} {snapshotId : UInt32}
    {payload : SnapshotPayload} (hadmits : Admits snapshotId payload)
    (hseen : stream.hasSeen snapshotId = true) :
    (stream.apply snapshotId payload).2 = .ok stream.currentResult := by
  obtain ⟨hpositive, hmatch, bytes, hencoded⟩ := hadmits
  unfold apply
  rw [if_neg (not_or.mpr ⟨hpositive, not_not.mpr hmatch⟩), hencoded, attempt_ok, if_pos hseen]

/-- An application that throws goes unnoticed by every later call exactly when the
payload was refused before it was looked at. -/
theorem apply_atomic_iff (stream : ClientSnapshotStream) (snapshotId : UInt32)
    (payload : SnapshotPayload) (e : Exception)
    (h : (stream.apply snapshotId payload).2 = .error e) :
    (∀ later : List StreamCall,
        Machine.replies call (stream.apply snapshotId payload).1 later =
          Machine.replies call stream later) ↔
      ¬Admits snapshotId payload := by
  constructor
  · intro hsame hadmits
    obtain ⟨hunseen, hspoiled⟩ := apply_spoiled hadmits h
    have hpositive := hadmits.1
    have hreply := hsame [.apply snapshotId (emptyKeyframe snapshotId)]
    have hseen : ({ stream with
        highestSeenSnapshotId := some snapshotId } : ClientSnapshotStream).hasSeen
          snapshotId = true := by
      simp [hasSeen]
    obtain ⟨result, hresult, hworld⟩ := apply_emptyKeyframe hpositive hunseen
    simp only [Machine.replies, call, hspoiled, List.cons.injEq, Option.some.injEq,
      and_true] at hreply
    rw [hresult, apply_seen (emptyKeyframe_admits hpositive) hseen] at hreply
    rw [← Except.ok.inj hreply] at hworld
    cases hworld
  · intro hrefused later
    rw [apply_refused hrefused]

/-- The stream once it has applied a first keyframe. -/
def keyedStream : ClientSnapshotStream :=
  (emptyStream.apply 1 (emptyKeyframe 1)).1

/-- A delta that removes an actor its base does not have. -/
def misfitDelta : SnapshotPayload where
  header := {
    kind := .delta, valueEncoding := .quantized, baseSnapshotId := 1, payloadSnapshotId := 2 }
  removedActors := [⟨5⟩]

theorem misfitDelta_throws : ∃ e, (keyedStream.apply 2 misfitDelta).2 = .error e :=
  except_eq_error (by decide +kernel)

/-- After the delta the keyframe with its identifier is not applied. -/
theorem misfitDelta_spoils :
    ¬∀ (stream : ClientSnapshotStream) (snapshotId : UInt32) (payload : SnapshotPayload)
        (e : Exception), (stream.apply snapshotId payload).2 = .error e →
      ∀ later : List StreamCall,
        Machine.replies call (stream.apply snapshotId payload).1 later =
          Machine.replies call stream later := by
  intro h
  obtain ⟨e, hthrows⟩ := misfitDelta_throws
  have hreply := h keyedStream 2 misfitDelta e hthrows [.apply 2 (emptyKeyframe 2)]
  have hworlds : (Machine.replies call (keyedStream.apply 2 misfitDelta).1
        [.apply 2 (emptyKeyframe 2)]).map (fun reply =>
          reply.any fun outcome => (publishedWorld outcome).isSome) = [false] ∧
      (Machine.replies call keyedStream [.apply 2 (emptyKeyframe 2)]).map (fun reply =>
          reply.any fun outcome => (publishedWorld outcome).isSome) = [true] := by
    constructor <;> decide +kernel
  rw [hreply, hworlds.2] at hworlds
  cases hworlds.1

theorem apply_atomic_iff_misfit :
    ∃ e, (keyedStream.apply 2 misfitDelta).2 = .error e ∧
      ((∀ later : List StreamCall,
          Machine.replies call (keyedStream.apply 2 misfitDelta).1 later =
            Machine.replies call keyedStream later) ↔
        ¬Admits 2 misfitDelta) := by
  obtain ⟨e, hthrows⟩ := misfitDelta_throws
  exact ⟨e, hthrows, apply_atomic_iff keyedStream 2 misfitDelta e hthrows⟩

end ClientSnapshotStream

end SurvivalArena
