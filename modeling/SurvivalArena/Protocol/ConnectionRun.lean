import SurvivalArena.Protocol.ConnectionReads

/-!
# Runs of a framed connection

The read loop takes a stream of frames apart, stops at a header that is no header, and loses
nothing of what was taken for sending.
-/

namespace SurvivalArena

open Machine Wire

namespace FramedConnection

/-! ## The read loop on a stream of frames -/

/-- The completions that read one frame. -/
def readFrame (frame : RawFrame) : List ConnectionEvent :=
  if frame.payload = [] then [.readCompleted, .frameHandled false]
  else [.readCompleted, .readCompleted, .frameHandled false]

theorem readHeader_decoded {connection : FramedConnection} {type : MessageType}
    {count : UInt32} {rest : Bytes} (hreading : connection.reading = .header)
    (hlimit : count.toNat ≤ maxTcpPayloadBytes)
    (hincoming : connection.incoming = writeFrameHeader type count ++ rest) :
    connection.readCompleted =
      readPayload { connection with reading := .idle, incoming := rest }
        { version := protocolVersion, type, payloadBytes := count } := by
  have henough : ¬connection.incoming.length < tcpFrameHeaderBytes := by
    rw [hincoming, List.length_append, writeFrameHeader_length]
    omega
  unfold readCompleted
  rw [hreading]
  dsimp only
  rw [if_neg henough, hincoming, take_writeFrameHeader, drop_writeFrameHeader,
    decode_writeFrameHeader hlimit]

theorem run_readFrame {connection : FramedConnection} {frame : RawFrame} {rest : Bytes}
    (hopen : connection.closed = false) (hreading : connection.reading = .header)
    (hfits : frame.Fits) (hincoming : connection.incoming = frame.bytes ++ rest) :
    run step connection (readFrame frame) =
      { connection with
        incoming := rest
        delivered := connection.delivered ++ [frame] } := by
  rw [RawFrame.bytes, List.append_assoc] at hincoming
  have hheader := readHeader_decoded hreading hfits.limit hincoming
  cases frame with
  | mk type payload =>
    cases payload with
    | nil =>
      have hdelivered : connection.readCompleted = { connection with
          reading := .delivering
          incoming := rest
          delivered := connection.delivered ++ [⟨type, []⟩] } := by
        rw [hheader]
        simp [readPayload, deliverFrame, hopen]
      simp only [readFrame, if_pos, run_cons, run_nil, step, hdelivered, frameHandled]
      simp [readHeader, hopen, hreading]
    | cons byte payload =>
      have hcount := hfits.toNat
      have hsome : UInt32.ofNat (byte :: payload).length ≠ 0 := by
        intro hzero
        rw [hzero] at hcount
        simp at hcount
      have hpayload : connection.readCompleted = { connection with
          reading := .payload
            ⟨protocolVersion, type, UInt32.ofNat (byte :: payload).length⟩
          incoming := byte :: payload ++ rest } := by
        rw [hheader, readPayload, if_neg hsome]
      have hdelivered : connection.readCompleted.readCompleted = { connection with
          reading := .delivering
          incoming := rest
          delivered := connection.delivered ++ [⟨type, byte :: payload⟩] } := by
        rw [hpayload]
        unfold readCompleted
        dsimp only at hcount ⊢
        rw [hcount, if_neg (by simp), List.take_left, List.drop_left]
        simp [deliverFrame, hopen]
      rw [readFrame, if_neg (by simp)]
      simp only [run_cons, run_nil, step, hdelivered, frameHandled]
      simp [readHeader, hopen, hreading]

/-- Frames one after another are read one after another. -/
theorem run_readFrames {frames : List RawFrame} {connection : FramedConnection} {rest : Bytes}
    (hopen : connection.closed = false) (hreading : connection.reading = .header)
    (hfits : ∀ frame ∈ frames, frame.Fits)
    (hincoming : connection.incoming = (frames.map RawFrame.bytes).flatten ++ rest) :
    run step connection (frames.flatMap readFrame) =
      { connection with
        incoming := rest
        delivered := connection.delivered ++ frames } := by
  induction frames generalizing connection with
  | nil =>
    rw [List.map_nil, List.flatten_nil, List.nil_append] at hincoming
    rw [List.flatMap_nil, run_nil, List.append_nil, ← hincoming]
  | cons frame frames ih =>
    rw [List.forall_mem_cons] at hfits
    rw [List.map_cons, List.flatten_cons, List.append_assoc] at hincoming
    rw [List.flatMap_cons, run_append, run_readFrame hopen hreading hfits.1 hincoming]
    refine (ih ?_ ?_ hfits.2 ?_).trans ?_
    · exact hopen
    · exact hreading
    · rfl
    · simp only [List.append_assoc, List.singleton_append]

/-- The read loop can take every stream of frames apart. -/
structure ReadsStream (connection : FramedConnection) : Prop where
  all : ∀ (messages : List EncodedMessage) frames rest,
    messages.mapM encodeTcpFrame = .ok frames → connection.closed = false →
    connection.reading = .header → connection.incoming = frames.flatten ++ rest →
    ∃ reads : List ConnectionEvent,
      (∀ read ∈ reads, read = .readCompleted ∨ read = .frameHandled false) ∧
        run step connection reads = { connection with
          incoming := rest
          delivered := connection.delivered ++ messages.map EncodedMessage.frame }

theorem mem_readFrame {frame : RawFrame} {read : ConnectionEvent} (h : read ∈ readFrame frame) :
    read = .readCompleted ∨ read = .frameHandled false := by
  unfold readFrame at h
  split at h <;> simp at h <;> tauto

theorem readsStream (connection : FramedConnection) : connection.ReadsStream where
  all messages frames rest hframes hopen hreading hincoming := by
    obtain ⟨hfits, hbytes⟩ := mapM_encodeTcpFrame hframes
    rw [hbytes] at hincoming
    refine ⟨(messages.map EncodedMessage.frame).flatMap readFrame, fun read hread => ?_,
      run_readFrames hopen hreading hfits hincoming⟩
    obtain ⟨frame, -, hframe⟩ := List.mem_flatMap.mp hread
    exact mem_readFrame hframe

/-! ## Headers that are none -/

/-- A step of a closed connection leaves it closed and delivers nothing. -/
structure Silent (connection connection' : FramedConnection) : Prop where
  closed : connection'.closed = true
  delivered : connection'.delivered = connection.delivered

theorem SameReads.silent {connection connection' : FramedConnection}
    (h : connection.SameReads connection') (hclosed : connection.closed = true) :
    connection.Silent connection' :=
  ⟨h.closed hclosed, h.delivered⟩

theorem readCompleted_silent {connection : FramedConnection}
    (hclosed : connection.closed = true) : connection.Silent connection.readCompleted := by
  unfold readCompleted
  split
  · split
    · exact ⟨hclosed, rfl⟩
    · dsimp only
      split
      · exact ⟨finishClose_closed _ _, (finishClose_sameReads _ _).delivered⟩
      · unfold readPayload deliverFrame
        simp only [hclosed, if_true]
        split <;> exact ⟨rfl, rfl⟩
  · dsimp only
    split
    · exact ⟨hclosed, rfl⟩
    · unfold deliverFrame
      simp only [hclosed, if_true]
      exact ⟨rfl, rfl⟩
  · exact ⟨hclosed, rfl⟩

theorem readFailed_silent {connection : FramedConnection} (hclosed : connection.closed = true)
    (error : ConnectionError) : connection.Silent (connection.readFailed error) := by
  unfold readFailed
  split
  · exact ⟨finishClose_closed _ _, (finishClose_sameReads _ _).delivered⟩
  · exact ⟨finishClose_closed _ _, (finishClose_sameReads _ _).delivered⟩
  · exact ⟨hclosed, rfl⟩

theorem frameHandled_silent {connection : FramedConnection} (hclosed : connection.closed = true)
    (thrown : Bool) : connection.Silent (connection.frameHandled thrown) := by
  unfold frameHandled
  split
  · split
    · exact ⟨finishClose_closed _ _, (finishClose_sameReads _ _).delivered⟩
    · unfold readHeader
      rw [if_pos hclosed]
      exact ⟨hclosed, rfl⟩
  · exact ⟨hclosed, rfl⟩

theorem step_closed {connection : FramedConnection} (hclosed : connection.closed = true)
    (event : ConnectionEvent) : connection.Silent (connection.step event) := by
  cases event with
  | start =>
    have hsame : connection.step .start = connection := by
      simp [step, start, hclosed]
    rw [hsame]
    exact ⟨hclosed, rfl⟩
  | send message => exact (connection.send_sameReads message).silent hclosed
  | closeAfterFlush => exact connection.flushAndClose_sameReads.silent hclosed
  | close => exact (connection.finishClose_sameReads .operationAborted).silent hclosed
  | arrived bytes => exact ⟨hclosed, rfl⟩
  | readCompleted => exact readCompleted_silent hclosed
  | readFailed error => exact readFailed_silent hclosed error
  | frameHandled thrown => exact frameHandled_silent hclosed thrown
  | writeCompleted error => exact (connection.writeCompleted_sameReads error).silent hclosed
  | closeHandled => exact connection.closeHandled_sameReads.silent hclosed

theorem run_closed {connection : FramedConnection} (hclosed : connection.closed = true)
    (events : List ConnectionEvent) : connection.Silent (run step connection events) := by
  induction events generalizing connection with
  | nil => exact ⟨hclosed, rfl⟩
  | cons event events ih =>
    have hstep := step_closed hclosed event
    have hrest := ih hstep.closed
    exact ⟨hrest.closed, hrest.delivered.trans hstep.delivered⟩

/-- A header that is malformed or too large ends the connection, with nothing delivered. -/
structure EndsAtHeader (connection : FramedConnection) : Prop where
  ends : connection.closed = false → connection.reading = .header →
    tcpFrameHeaderBytes ≤ connection.incoming.length → Unframed connection.incoming →
    connection.readCompleted.closed = true
  nothing : connection.closed = false → connection.reading = .header →
    tcpFrameHeaderBytes ≤ connection.incoming.length → Unframed connection.incoming →
    ∀ later, (run step connection.readCompleted later).delivered = connection.delivered

theorem readCompleted_unframed {connection : FramedConnection}
    (hreading : connection.reading = .header)
    (henough : tcpFrameHeaderBytes ≤ connection.incoming.length)
    (hunframed : Unframed connection.incoming) :
    connection.readCompleted.closed = true ∧
      connection.readCompleted.delivered = connection.delivered := by
  unfold readCompleted
  rw [hreading]
  dsimp only
  rw [if_neg (not_lt.mpr henough)]
  split
  · exact ⟨finishClose_closed _ _, (finishClose_sameReads _ _).delivered⟩
  · rename_i header hdecode
    exact absurd hdecode (hunframed header)

theorem endsAtHeader (connection : FramedConnection) : connection.EndsAtHeader where
  ends _ hreading henough hunframed := (readCompleted_unframed hreading henough hunframed).1
  nothing _ hreading henough hunframed later := by
    obtain ⟨hclosed, hdelivered⟩ := readCompleted_unframed hreading henough hunframed
    exact (run_closed hclosed later).delivered.trans hdelivered

/-- Nothing is lost, whatever calls and completions come in whatever order: a stream of frames
is split back, a bad header ends the connection, an open connection counts what is queued,
frames are written in order and once, an orderly end waits for the queue, and the close handler
is handed over once. -/
theorem framedConnection_losesNothing (onClose : Bool) (events : List ConnectionEvent) :
    let connection := run step (create onClose) events
    connection.SplitsBack ∧ connection.ReadsStream ∧ connection.EndsAtHeader ∧
      connection.pendingWriteBytes =
        (if connection.closed then 0 else (connection.writeQueue.map List.length).sum) ∧
      connection.pendingWriteBytes ≤ maxPendingWriteBytes ∧ connection.Writes ∧
      connection.ClosesAfterFlush ∧ connection.posted.length + connection.handled.length ≤ 1 := by
  intro connection
  have hwrites : connection.Writes := writes_run onClose events
  have hreads : connection.Reads := reads_run onClose events
  have honce : connection.posted.length + connection.handled.length ≤ 1 := by
    have := hwrites.handed.once
    omega
  refine ⟨hreads.splitsBack, connection.readsStream, connection.endsAtHeader, ?_, ?_, hwrites,
    hwrites.closesAfterFlush, honce⟩
  · cases hclosed : connection.closed with
    | true => exact (hwrites.ended hclosed).pending
    | false => exact (hwrites.accounts hclosed).pending
  · cases hclosed : connection.closed with
    | true =>
      rw [(hwrites.ended hclosed).pending]
      exact Nat.zero_le _
    | false => exact (hwrites.accounts hclosed).bounded

/-- A connection that is closed with frames in its queue keeps them there and counts nothing. -/
theorem closed_keepsQueue :
    ¬∀ (onClose : Bool) (events : List ConnectionEvent),
      let connection := run step (create onClose) events
      connection.pendingWriteBytes = (connection.writeQueue.map List.length).sum := by
  intro h
  have := h true [.send { type := .clientHello, payload := [] }, .close]
  revert this
  decide +kernel

end FramedConnection

end SurvivalArena
