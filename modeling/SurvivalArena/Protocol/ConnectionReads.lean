import SurvivalArena.Protocol.ConnectionWrites

/-!
# Reads of a framed connection

The bytes that have arrived are the delivered frames, the header that was read and the bytes
that were not.  A frame's header says where it ends, so frames one after another are split in
one way only.
-/

namespace SurvivalArena

open Machine Wire

namespace RawFrame

def bytes (frame : RawFrame) : Bytes :=
  writeFrameHeader frame.type (UInt32.ofNat frame.payload.length) ++ frame.payload

def Fits (frame : RawFrame) : Prop :=
  frame.payload.length ≤ maxTcpPayloadBytes

end RawFrame

def EncodedMessage.frame (message : EncodedMessage) : RawFrame where
  type := message.type
  payload := message.payload

/-- No frame begins with these bytes: the header is malformed, too large or not complete. -/
def Unframed (bytes : Bytes) : Prop :=
  ∀ header, decodeTcpFrameHeader (bytes.take tcpFrameHeaderBytes) ≠ .ok header

/-! ## Frames one after another -/

theorem decode_writeFrameHeader {type : MessageType} {payloadBytes : UInt32}
    (hlimit : payloadBytes.toNat ≤ maxTcpPayloadBytes) :
    decodeTcpFrameHeader (writeFrameHeader type payloadBytes) =
      .ok { version := protocolVersion, type, payloadBytes } :=
  decodeTcpFrameHeader_eq_ok.mpr ⟨rfl, hlimit, rfl⟩

theorem take_writeFrameHeader (type : MessageType) (payloadBytes : UInt32) (rest : Bytes) :
    (writeFrameHeader type payloadBytes ++ rest).take tcpFrameHeaderBytes =
      writeFrameHeader type payloadBytes :=
  List.take_left' (writeFrameHeader_length type payloadBytes)

theorem drop_writeFrameHeader (type : MessageType) (payloadBytes : UInt32) (rest : Bytes) :
    (writeFrameHeader type payloadBytes ++ rest).drop tcpFrameHeaderBytes = rest :=
  List.drop_left' (writeFrameHeader_length type payloadBytes)

theorem writeFrameHeader_inj {type type' : MessageType} {count count' : UInt32}
    (hlimit : count.toNat ≤ maxTcpPayloadBytes) (hlimit' : count'.toNat ≤ maxTcpPayloadBytes)
    {rest rest' : Bytes}
    (h : writeFrameHeader type count ++ rest = writeFrameHeader type' count' ++ rest') :
    type = type' ∧ count = count' ∧ rest = rest' := by
  have htake := congrArg (List.take tcpFrameHeaderBytes) h
  have hdrop := congrArg (List.drop tcpFrameHeaderBytes) h
  rw [take_writeFrameHeader, take_writeFrameHeader] at htake
  rw [drop_writeFrameHeader, drop_writeFrameHeader] at hdrop
  have hdecode := congrArg decodeTcpFrameHeader htake
  rw [decode_writeFrameHeader hlimit, decode_writeFrameHeader hlimit'] at hdecode
  simp only [Except.ok.injEq, TcpFrameHeader.mk.injEq, true_and] at hdecode
  exact ⟨hdecode.1, hdecode.2, hdrop⟩

theorem RawFrame.Fits.toNat {frame : RawFrame} (h : frame.Fits) :
    (UInt32.ofNat frame.payload.length).toNat = frame.payload.length := by
  have hsmall : maxTcpPayloadBytes < 2 ^ 32 := by decide
  exact UInt32.toNat_ofNat_of_lt' (lt_of_le_of_lt h hsmall)

theorem RawFrame.Fits.limit {frame : RawFrame} (h : frame.Fits) :
    (UInt32.ofNat frame.payload.length).toNat ≤ maxTcpPayloadBytes := by
  rw [h.toNat]
  exact h

/-- What comes first is the same frame. -/
theorem RawFrame.bytes_append_inj {frame frame' : RawFrame} (h : frame.Fits) (h' : frame'.Fits)
    {rest rest' : Bytes} (heq : frame.bytes ++ rest = frame'.bytes ++ rest') :
    frame = frame' ∧ rest = rest' := by
  simp only [RawFrame.bytes, List.append_assoc] at heq
  obtain ⟨htype, hcount, hpayload⟩ := writeFrameHeader_inj h.limit h'.limit heq
  have hlength : frame.payload.length = frame'.payload.length := by
    rw [← h.toNat, ← h'.toNat, hcount]
  obtain ⟨hsame, hrest⟩ := List.append_inj hpayload hlength
  refine ⟨?_, hrest⟩
  cases frame
  cases frame'
  simp_all

theorem RawFrame.Fits.not_unframed {frame : RawFrame} (h : frame.Fits) (rest : Bytes) :
    ¬Unframed (frame.bytes ++ rest) := by
  intro hunframed
  have hdecode : decodeTcpFrameHeader (writeFrameHeader frame.type _) = .ok _ :=
    decode_writeFrameHeader h.limit
  rw [← take_writeFrameHeader _ _ (frame.payload ++ rest), ← List.append_assoc] at hdecode
  exact hunframed _ hdecode

/-- Frames are split in one way, up to where no frame begins. -/
theorem frames_prefix {delivered frames : List RawFrame} {rest tail : Bytes}
    (hdelivered : ∀ frame ∈ delivered, frame.Fits) (hframes : ∀ frame ∈ frames, frame.Fits)
    (htail : Unframed tail)
    (h : (delivered.map RawFrame.bytes).flatten ++ rest =
      (frames.map RawFrame.bytes).flatten ++ tail) : delivered <+: frames := by
  induction delivered generalizing frames with
  | nil => exact List.nil_prefix
  | cons first delivered ih =>
    rw [List.forall_mem_cons] at hdelivered
    rw [List.map_cons, List.flatten_cons, List.append_assoc] at h
    cases frames with
    | nil =>
      rw [List.map_nil, List.flatten_nil, List.nil_append] at h
      rw [← h] at htail
      exact absurd htail (hdelivered.1.not_unframed _)
    | cons frame frames =>
      rw [List.forall_mem_cons] at hframes
      rw [List.map_cons, List.flatten_cons, List.append_assoc] at h
      obtain ⟨hfirst, hrest⟩ := RawFrame.bytes_append_inj hdelivered.1 hframes.1 h
      rw [hfirst, List.cons_prefix_cons]
      exact ⟨rfl, ih hdelivered.2 hframes.2 hrest⟩

/-! ## What was encoded -/

theorem encodeTcpFrame_frame {message : EncodedMessage} {frame : Bytes}
    (h : encodeTcpFrame message = .ok frame) :
    message.frame.Fits ∧ frame = message.frame.bytes := by
  obtain ⟨hlength, hframe⟩ := encodeTcpFrame_eq_ok.mp h
  exact ⟨hlength, hframe⟩

theorem mapM_encodeTcpFrame {messages : List EncodedMessage} {frames : List Bytes}
    (h : messages.mapM encodeTcpFrame = .ok frames) :
    (∀ frame ∈ messages.map EncodedMessage.frame, frame.Fits) ∧
      frames = (messages.map EncodedMessage.frame).map RawFrame.bytes := by
  induction messages generalizing frames with
  | nil =>
    cases h
    exact ⟨by simp, rfl⟩
  | cons message messages ih =>
    rw [List.mapM_cons] at h
    cases hmessage : encodeTcpFrame message with
    | error error => simp [hmessage, bind, Except.bind] at h
    | ok frame =>
      cases hmessages : messages.mapM encodeTcpFrame with
      | error error => simp [hmessage, hmessages, bind, Except.bind] at h
      | ok rest =>
        have hframes : frames = frame :: rest := by
          simpa [hmessage, hmessages, bind, Except.bind, pure, Except.pure] using h.symm
        obtain ⟨hfits, hbytes⟩ := encodeTcpFrame_frame hmessage
        obtain ⟨hall, hrest⟩ := ih hmessages
        rw [hframes, hrest, hbytes, List.map_cons, List.forall_mem_cons]
        exact ⟨⟨hfits, hall⟩, rfl⟩

/-! ## The bytes of a connection -/

namespace FramedConnection

/-- A header that was read and whose frame was not delivered. -/
def ReadState.bytes : ReadState → Bytes
  | .payload header => writeFrameHeader header.type header.payloadBytes
  | _ => []

structure Reads (connection : FramedConnection) : Prop where
  fits : ∀ frame ∈ connection.delivered, frame.Fits
  stream : (connection.delivered.map RawFrame.bytes).flatten <+: connection.arrived
  splits : connection.closed = false → connection.arrived =
    (connection.delivered.map RawFrame.bytes).flatten ++
      (ReadState.bytes connection.reading ++ connection.incoming)
  header : ∀ header, connection.reading = .payload header →
    header.payloadBytes.toNat ≤ maxTcpPayloadBytes
  fresh : connection.started = false → connection.reading = .idle

/-- What the reads of a connection are, without its writes. -/
structure SameReads (connection connection' : FramedConnection) : Prop where
  started : connection'.started = connection.started
  reading : connection'.reading = connection.reading
  incoming : connection'.incoming = connection.incoming
  arrived : connection'.arrived = connection.arrived
  delivered : connection'.delivered = connection.delivered
  closed : connection.closed = true → connection'.closed = true

theorem SameReads.trans {first second third : FramedConnection} (h : first.SameReads second)
    (h' : second.SameReads third) : first.SameReads third where
  started := h'.started.trans h.started
  reading := h'.reading.trans h.reading
  incoming := h'.incoming.trans h.incoming
  arrived := h'.arrived.trans h.arrived
  delivered := h'.delivered.trans h.delivered
  closed hclosed := h'.closed (h.closed hclosed)

theorem SameReads.refl (connection : FramedConnection) : connection.SameReads connection :=
  ⟨rfl, rfl, rfl, rfl, rfl, id⟩

theorem finishClose_sameReads (connection : FramedConnection) (error : ConnectionError) :
    connection.SameReads (connection.finishClose error) := by
  unfold finishClose
  split
  · exact SameReads.refl connection
  · exact ⟨rfl, rfl, rfl, rfl, rfl, fun _ => rfl⟩

theorem writeNext_sameReads (connection : FramedConnection) :
    connection.SameReads connection.writeNext := by
  unfold writeNext
  split
  · split <;> exact ⟨rfl, rfl, rfl, rfl, rfl, id⟩
  · have hstill : connection.SameReads { connection with writeInProgress := false } :=
      ⟨rfl, rfl, rfl, rfl, rfl, id⟩
    dsimp only
    split
    · exact hstill.trans (finishClose_sameReads _ .operationAborted)
    · exact hstill

theorem send_sameReads (connection : FramedConnection) (message : EncodedMessage) :
    connection.SameReads (connection.send message).1 := by
  unfold send
  split
  · exact SameReads.refl connection
  · split
    · exact connection.finishClose_sameReads .messageSize
    · rename_i frame _
      split
      · exact connection.finishClose_sameReads .noBufferSpace
      · have hqueued : connection.SameReads { connection with
            pendingWriteBytes := connection.pendingWriteBytes + frame.length
            writeQueue := connection.writeQueue ++ [frame]
            sent := connection.sent ++ [frame] } := ⟨rfl, rfl, rfl, rfl, rfl, id⟩
        dsimp only
        split
        · exact hqueued.trans (writeNext_sameReads _)
        · exact hqueued

theorem flushAndClose_sameReads (connection : FramedConnection) :
    connection.SameReads connection.flushAndClose := by
  have hflush : connection.SameReads { connection with closeAfterFlush := true } :=
    ⟨rfl, rfl, rfl, rfl, rfl, id⟩
  unfold flushAndClose
  split
  · exact SameReads.refl connection
  · dsimp only
    split
    · exact hflush.trans (finishClose_sameReads _ .operationAborted)
    · exact hflush

theorem writeCompleted_sameReads (connection : FramedConnection)
    (error : Option ConnectionError) :
    connection.SameReads (connection.writeCompleted error) := by
  have hdone : connection.SameReads { connection with writing := none } :=
    ⟨rfl, rfl, rfl, rfl, rfl, id⟩
  unfold writeCompleted
  split
  · exact SameReads.refl connection
  · cases error with
    | some error => exact hdone.trans (finishClose_sameReads _ error)
    | none =>
      dsimp only
      split
      · exact hdone
      · refine SameReads.trans ?_ (writeNext_sameReads _)
        exact ⟨rfl, rfl, rfl, rfl, rfl, id⟩

theorem Reads.same {connection connection' : FramedConnection} (h : connection.Reads)
    (hsame : connection.SameReads connection') : connection'.Reads where
  fits := by rw [hsame.delivered]; exact h.fits
  stream := by rw [hsame.delivered, hsame.arrived]; exact h.stream
  splits hopen := by
    have hbefore : connection.closed = false :=
      Bool.eq_false_iff.mpr fun hclosed => by cases hopen.symm.trans (hsame.closed hclosed)
    rw [hsame.delivered, hsame.arrived, hsame.reading, hsame.incoming]
    exact h.splits hbefore
  header := by rw [hsame.reading]; exact h.header
  fresh hstarted := by
    rw [hsame.reading]
    exact h.fresh (hsame.started.symm.trans hstarted)

/-! ## The read loop -/

/-- The next frame is asked for when the bytes are all accounted for. -/
theorem Reads.readHeader {connection : FramedConnection} (h : connection.Reads)
    (hbytes : ReadState.bytes connection.reading = []) (hstarted : connection.started = true) :
    connection.readHeader.Reads := by
  unfold FramedConnection.readHeader
  split
  · rename_i hclosed
    exact ⟨h.fits, h.stream, (fun hopen => nomatch hopen.symm.trans hclosed), nofun,
      fun _ => rfl⟩
  · refine ⟨h.fits, h.stream, fun hopen => ?_, nofun, fun hfresh => ?_⟩
    · have hsplits := h.splits hopen
      rw [hbytes] at hsplits
      exact hsplits
    · cases hfresh.symm.trans hstarted

/-- A connection that ends accounts for what it has delivered. -/
theorem reads_finishClose {connection : FramedConnection}
    (hdelivered : ∀ frame ∈ connection.delivered, frame.Fits)
    (hstream : (connection.delivered.map RawFrame.bytes).flatten <+: connection.arrived)
    (hidle : connection.reading = .idle) (error : ConnectionError) :
    (connection.finishClose error).Reads := by
  have hsame := connection.finishClose_sameReads error
  refine ⟨?_, ?_, fun hopen => ?_, ?_, ?_⟩
  · rw [hsame.delivered]
    exact hdelivered
  · rw [hsame.delivered, hsame.arrived]
    exact hstream
  · cases hopen.symm.trans (finishClose_closed _ _)
  · rw [hsame.reading, hidle]
    nofun
  · rw [hsame.reading]
    exact fun _ => hidle

theorem Reads.deliverFrame {connection : FramedConnection} (frame : RawFrame)
    (hdelivered : ∀ frame ∈ connection.delivered, frame.Fits)
    (hstream : (connection.delivered.map RawFrame.bytes).flatten <+: connection.arrived)
    (hfits : frame.Fits) (hstarted : connection.started = true)
    (hsplits : connection.closed = false → connection.arrived =
      (connection.delivered.map RawFrame.bytes).flatten ++ (frame.bytes ++ connection.incoming)) :
    (connection.deliverFrame frame.type frame.payload).Reads := by
  unfold FramedConnection.deliverFrame
  split
  · rename_i hclosed
    exact ⟨hdelivered, hstream, (fun hopen => nomatch hopen.symm.trans hclosed), nofun,
      fun _ => rfl⟩
  · rename_i hopen
    have harrived : connection.arrived =
        ((connection.delivered ++ [frame]).map RawFrame.bytes).flatten ++
          connection.incoming := by
      rw [hsplits (Bool.eq_false_iff.mpr hopen)]
      simp
    refine ⟨?_, ?_, fun _ => harrived, nofun, fun hfresh => nomatch hfresh.symm.trans hstarted⟩
    · simp only [List.mem_append, List.mem_singleton]
      rintro other (hother | rfl)
      · exact hdelivered other hother
      · exact hfits
    · exact ⟨connection.incoming, harrived.symm⟩

theorem Reads.started {connection : FramedConnection} (h : connection.Reads)
    (hreading : connection.reading ≠ .idle) : connection.started = true := by
  cases hstarted : connection.started with
  | true => rfl
  | false => exact absurd (h.fresh hstarted) hreading

theorem Reads.readCompleted {connection : FramedConnection} (h : connection.Reads) :
    connection.readCompleted.Reads := by
  unfold FramedConnection.readCompleted
  split
  · rename_i hreading
    have hstarted := h.started (by rw [hreading]; nofun)
    split
    · exact h
    · dsimp only
      split
      · refine reads_finishClose ?_ ?_ rfl _
        · exact h.fits
        · exact h.stream
      · rename_i header hdecode
        obtain ⟨-, hlimit, hbytes⟩ := decodeTcpFrameHeader_eq_ok.mp hdecode
        have hincoming : connection.incoming =
            writeFrameHeader header.type header.payloadBytes ++
              connection.incoming.drop tcpFrameHeaderBytes := by
          rw [← hbytes, List.take_append_drop]
        have hsplits : connection.closed = false → connection.arrived =
            (connection.delivered.map RawFrame.bytes).flatten ++
              (writeFrameHeader header.type header.payloadBytes ++
                connection.incoming.drop tcpFrameHeaderBytes) := by
          intro hopen
          rw [← hincoming, h.splits hopen, hreading]
          rfl
        unfold readPayload
        split
        · rename_i hempty
          refine Reads.deliverFrame ⟨header.type, []⟩ h.fits h.stream
            (Nat.zero_le _) hstarted fun hopen => ?_
          rw [hsplits hopen, hempty]
          simp [RawFrame.bytes]
        · refine ⟨h.fits, h.stream, hsplits, fun header' hheader => ?_, fun hfresh => ?_⟩
          · cases hheader
            exact hlimit
          · cases hfresh.symm.trans hstarted
  · rename_i header hreading
    have hstarted := h.started (by rw [hreading]; nofun)
    dsimp only
    split
    · exact h
    · rename_i hcount
      have hlength : (connection.incoming.take header.payloadBytes.toNat).length =
          header.payloadBytes.toNat := by
        rw [List.length_take]
        omega
      refine Reads.deliverFrame
        ⟨header.type, connection.incoming.take header.payloadBytes.toNat⟩
        h.fits h.stream ?_ hstarted fun hopen => ?_
      · rw [RawFrame.Fits, hlength]
        exact h.header header hreading
      · have hsplits := h.splits hopen
        rw [hreading] at hsplits
        rw [hsplits]
        simp only [RawFrame.bytes, ReadState.bytes, hlength, UInt32.ofNat_toNat,
          List.append_assoc, List.take_append_drop]
  · exact h

theorem Reads.readFailed {connection : FramedConnection} (h : connection.Reads)
    (error : ConnectionError) : (connection.readFailed error).Reads := by
  unfold FramedConnection.readFailed
  split
  · refine reads_finishClose ?_ ?_ rfl error
    · exact h.fits
    · exact h.stream
  · refine reads_finishClose ?_ ?_ rfl error
    · exact h.fits
    · exact h.stream
  · exact h

theorem Reads.frameHandled {connection : FramedConnection} (h : connection.Reads)
    (thrown : Bool) : (connection.frameHandled thrown).Reads := by
  unfold FramedConnection.frameHandled
  split
  · rename_i hreading
    split
    · refine reads_finishClose ?_ ?_ rfl .operationAborted
      · exact h.fits
      · exact h.stream
    · have hbytes : ReadState.bytes connection.reading = [] := by
        rw [hreading]
        rfl
      exact h.readHeader hbytes (h.started (by rw [hreading]; nofun))
  · exact h

theorem Reads.start {connection : FramedConnection} (h : connection.Reads) :
    connection.start.Reads := by
  unfold FramedConnection.start
  split
  · exact h
  · rename_i hfresh
    rw [Bool.or_eq_true, not_or, Bool.not_eq_true, Bool.not_eq_true] at hfresh
    have hidle := h.fresh hfresh.1
    have hstarted : Reads { connection with started := true } :=
      ⟨h.fits, h.stream, h.splits, h.header, nofun⟩
    refine hstarted.readHeader ?_ rfl
    rw [hidle]
    rfl

theorem Reads.arrive {connection : FramedConnection} (h : connection.Reads) (bytes : Bytes) :
    (connection.step (.arrived bytes)).Reads where
  fits := h.fits
  stream := h.stream.trans (List.prefix_append _ _)
  splits hopen := by
    change connection.arrived ++ bytes = (connection.delivered.map RawFrame.bytes).flatten ++
      (ReadState.bytes connection.reading ++ (connection.incoming ++ bytes))
    rw [h.splits hopen]
    simp only [List.append_assoc]
  header := h.header
  fresh := h.fresh

theorem closeHandled_sameReads (connection : FramedConnection) :
    connection.SameReads (connection.step .closeHandled) := by
  unfold step
  dsimp only
  split
  · exact SameReads.refl connection
  · exact ⟨rfl, rfl, rfl, rfl, rfl, id⟩

theorem Reads.step {connection : FramedConnection} (h : connection.Reads)
    (event : ConnectionEvent) : (connection.step event).Reads := by
  cases event with
  | start => exact h.start
  | send message => exact h.same (connection.send_sameReads message)
  | closeAfterFlush => exact h.same connection.flushAndClose_sameReads
  | close => exact h.same (connection.finishClose_sameReads .operationAborted)
  | arrived bytes => exact h.arrive bytes
  | readCompleted => exact h.readCompleted
  | readFailed error => exact h.readFailed error
  | frameHandled thrown => exact h.frameHandled thrown
  | writeCompleted error => exact h.same (connection.writeCompleted_sameReads error)
  | closeHandled => exact h.same connection.closeHandled_sameReads

theorem reads_create (onClose : Bool) : (create onClose).Reads where
  fits := nofun
  stream := List.nil_prefix
  splits _ := rfl
  header := nofun
  fresh _ := rfl

theorem reads_run (onClose : Bool) (events : List ConnectionEvent) :
    (run step (create onClose) events).Reads :=
  run_invariant (P := fun _ => True) (fun _ event _ h => h.step event) (reads_create onClose)
    fun _ _ => trivial

/-! ## Frames come out as they went in -/

/-- It reads, and the bytes that it waits for have not come. -/
def Starved (connection : FramedConnection) : Prop :=
  match connection.reading with
  | .header => connection.incoming.length < tcpFrameHeaderBytes
  | .payload header => connection.incoming.length < header.payloadBytes.toNat
  | _ => False

/-- What is delivered of a stream of frames. -/
structure SplitsBack (connection : FramedConnection) : Prop where
  /-- Only frames of the stream, from the first one on. -/
  only : ∀ (messages : List EncodedMessage) frames tail,
    messages.mapM encodeTcpFrame = .ok frames → Unframed tail →
    connection.arrived <+: frames.flatten ++ tail →
    connection.delivered <+: messages.map EncodedMessage.frame
  /-- And all of them, when there is nothing left to read. -/
  all : ∀ (messages : List EncodedMessage) frames tail,
    messages.mapM encodeTcpFrame = .ok frames → Unframed tail →
    connection.arrived = frames.flatten ++ tail → connection.closed = false →
    connection.Starved → connection.delivered = messages.map EncodedMessage.frame

theorem Reads.delivered_prefix {connection : FramedConnection} (h : connection.Reads)
    {messages : List EncodedMessage} {frames : List Bytes} {tail : Bytes}
    (hframes : messages.mapM encodeTcpFrame = .ok frames) (htail : Unframed tail)
    (harrived : connection.arrived <+: frames.flatten ++ tail) :
    connection.delivered <+: messages.map EncodedMessage.frame := by
  obtain ⟨hfits, hbytes⟩ := mapM_encodeTcpFrame hframes
  obtain ⟨rest, hrest⟩ := h.stream.trans harrived
  rw [hbytes] at hrest
  exact frames_prefix h.fits hfits htail hrest

theorem Starved.nil_of_eq {connection : FramedConnection} (h : connection.Starved)
    (hreads : connection.Reads) {frame : RawFrame} (hfits : frame.Fits) {rest : Bytes}
    (hbytes : ReadState.bytes connection.reading ++ connection.incoming =
      frame.bytes ++ rest) : False := by
  unfold Starved at h
  split at h
  · rename_i hreading
    rw [hreading] at hbytes
    have hlength := congrArg List.length hbytes
    simp only [ReadState.bytes, List.nil_append, RawFrame.bytes, List.length_append,
      writeFrameHeader_length] at hlength
    omega
  · rename_i header hreading
    rw [hreading] at hbytes
    simp only [ReadState.bytes, RawFrame.bytes, List.append_assoc] at hbytes
    obtain ⟨-, hcount, hincoming⟩ :=
      writeFrameHeader_inj (hreads.header header hreading) hfits.limit hbytes
    rw [hincoming, hcount, hfits.toNat, List.length_append] at h
    omega
  · exact h

theorem Reads.splitsBack {connection : FramedConnection} (h : connection.Reads) :
    connection.SplitsBack where
  only _ _ _ hframes htail harrived := h.delivered_prefix hframes htail harrived
  all messages frames tail hframes htail harrived hopen hstarved := by
    obtain ⟨later, hlater⟩ := h.delivered_prefix hframes htail
      (harrived ▸ List.prefix_rfl)
    obtain ⟨hfits, hbytes⟩ := mapM_encodeTcpFrame hframes
    have hsplits := h.splits hopen
    rw [harrived, hbytes, ← hlater, List.map_append, List.flatten_append, List.append_assoc]
      at hsplits
    have hrest := List.append_cancel_left hsplits
    cases later with
    | nil => rw [← hlater, List.append_nil]
    | cons frame later =>
      rw [List.map_cons, List.flatten_cons, List.append_assoc] at hrest
      have hframe : frame.Fits := hfits frame (by rw [← hlater]; simp)
      exact (hstarved.nil_of_eq h hframe hrest.symm).elim

end FramedConnection

end SurvivalArena
