import SurvivalArena.Framework.Machine
import SurvivalArena.Protocol.FramedConnection

/-!
# Writes of a framed connection

What was taken for sending is written once and in order, within the limit, and the close handler
runs at most once, in whatever order calls and completions come.
-/

namespace SurvivalArena

open Machine Wire

namespace FramedConnection

/-- Frames are written in the order in which they were taken, each one once. -/
structure Written (connection : FramedConnection) : Prop where
  order : connection.sent = connection.completed ++ connection.writeQueue
  started : connection.written <+: connection.sent
  finished : connection.completed <+: connection.written

/-- The close handler is handed over once. -/
structure Handed (connection : FramedConnection) : Prop where
  once : connection.posted.length + connection.handled.length +
    connection.onClose.toNat ≤ 1
  closing : connection.closed = false → connection.posted = [] ∧ connection.handled = []

/-- The accounts of an open connection. -/
structure Accounts (connection : FramedConnection) : Prop where
  pending : connection.pendingWriteBytes = (connection.writeQueue.map List.length).sum
  bounded : connection.pendingWriteBytes ≤ maxPendingWriteBytes
  writing : connection.writing = connection.writeQueue.head?
  inProgress : connection.writeInProgress = connection.writing.isSome
  written : connection.written = connection.completed ++ connection.writing.toList
  /-- The queue has not drained. -/
  flushing : connection.closeAfterFlush = true → connection.writeQueue ≠ []

/-- What is left of a closed connection. -/
structure Ended (connection : FramedConnection) : Prop where
  pending : connection.pendingWriteBytes = 0
  inProgress : connection.writeInProgress = false
  flushing : connection.closeAfterFlush = false

structure Writes (connection : FramedConnection) : Prop where
  written : connection.Written
  handed : connection.Handed
  accounts : connection.closed = false → connection.Accounts
  ended : connection.closed = true → connection.Ended

theorem finishClose_closed (connection : FramedConnection) (error : ConnectionError) :
    (connection.finishClose error).closed = true := by
  unfold finishClose
  split
  · assumption
  · rfl

theorem Handed.finishClose {connection : FramedConnection} (h : connection.Handed)
    (error : ConnectionError) : (connection.finishClose error).Handed := by
  refine ⟨?_, fun hopen => ?_⟩
  · unfold FramedConnection.finishClose
    split
    · exact h.once
    · rename_i hopen
      obtain ⟨hposted, hhandled⟩ := h.closing (Bool.eq_false_iff.mpr hopen)
      dsimp only
      rw [hposted, hhandled]
      cases connection.onClose <;> simp
  · rw [finishClose_closed] at hopen
    cases hopen

theorem writes_finishClose {connection : FramedConnection} (hwritten : connection.Written)
    (hhanded : connection.Handed) (hended : connection.closed = true → connection.Ended)
    (error : ConnectionError) : (connection.finishClose error).Writes := by
  refine ⟨?_, hhanded.finishClose error, fun hopen => ?_, fun _ => ?_⟩
  · unfold finishClose
    split
    · exact hwritten
    · exact ⟨hwritten.order, hwritten.started, hwritten.finished⟩
  · rw [finishClose_closed] at hopen
    cases hopen
  · unfold finishClose
    split
    · rename_i hclosed
      exact hended hclosed
    · exact ⟨rfl, rfl, rfl⟩

theorem Writes.finishClose {connection : FramedConnection} (h : connection.Writes)
    (error : ConnectionError) : (connection.finishClose error).Writes :=
  writes_finishClose h.written h.handed h.ended error

/-- The next write is started, or the connection ends when it was to end after the last one. -/
theorem writes_writeNext {connection : FramedConnection} (hopen : connection.closed = false)
    (hhanded : connection.Handed)
    (horder : connection.sent = connection.completed ++ connection.writeQueue)
    (hwritten : connection.written = connection.completed)
    (hwriting : connection.writing = none)
    (hpending : connection.pendingWriteBytes = (connection.writeQueue.map List.length).sum)
    (hbounded : connection.pendingWriteBytes ≤ maxPendingWriteBytes) :
    connection.writeNext.Writes := by
  have hprefix : connection.completed <+: connection.sent :=
    ⟨connection.writeQueue, horder.symm⟩
  cases hqueue : connection.writeQueue with
  | cons front rest =>
    have hnext : connection.writeNext = { connection with
        writeInProgress := true
        writing := some front
        written := connection.written ++ [front] } := by
      simp [writeNext, hqueue, hopen]
    rw [hnext]
    refine ⟨⟨horder, ?_, ?_⟩, ⟨hhanded.once, hhanded.closing⟩, fun _ => ?_, fun hclosed => ?_⟩
    · dsimp only
      rw [horder, hwritten, hqueue]
      exact ⟨rest, by simp⟩
    · dsimp only
      rw [hwritten]
      exact List.prefix_append _ _
    · exact {
        pending := hpending
        bounded := hbounded
        writing := by simp [hqueue]
        inProgress := rfl
        written := by simp [hwritten]
        flushing := fun _ => by simp [hqueue] }
    · dsimp only at hclosed
      rw [hopen] at hclosed
      cases hclosed
  | nil =>
    have hnext : connection.writeNext =
        if connection.closeAfterFlush then
          FramedConnection.finishClose { connection with writeInProgress := false }
            .operationAborted
        else { connection with writeInProgress := false } := by
      simp [writeNext, hqueue, hopen]
    rw [hnext]
    have hstill : ∀ hclosed : connection.closed = true,
        Ended { connection with writeInProgress := false } := fun hclosed => by
      rw [hopen] at hclosed
      cases hclosed
    have hlog : Written { connection with writeInProgress := false } :=
      ⟨horder, by rw [hwritten]; exact hprefix, by rw [hwritten]⟩
    have hkept : Handed { connection with writeInProgress := false } :=
      ⟨hhanded.once, hhanded.closing⟩
    split
    · exact writes_finishClose hlog hkept hstill .operationAborted
    · rename_i hflush
      refine ⟨hlog, hkept, fun _ => ?_, hstill⟩
      exact {
        pending := hpending
        bounded := hbounded
        writing := by simp [hqueue, hwriting]
        inProgress := by simp [hwriting]
        written := by simp [hwritten, hwriting]
        flushing := fun h => absurd h hflush }

/-! ## Steps -/

theorem Written.queued {connection : FramedConnection} (h : connection.Written) (frame : Bytes) :
    Written { connection with
      writeQueue := connection.writeQueue ++ [frame]
      sent := connection.sent ++ [frame] } where
  order := by rw [h.order, List.append_assoc]
  started := h.started.trans (List.prefix_append _ _)
  finished := h.finished

theorem Writes.send {connection : FramedConnection} (h : connection.Writes)
    (message : EncodedMessage) : (connection.send message).1.Writes := by
  unfold FramedConnection.send
  split
  · exact h
  · rename_i haccepts
    rw [Bool.or_eq_true, not_or, Bool.not_eq_true, Bool.not_eq_true] at haccepts
    obtain ⟨hopen, hflush⟩ := haccepts
    have haccounts := h.accounts hopen
    split
    · exact h.finishClose .messageSize
    · rename_i frame _
      split
      · exact h.finishClose .noBufferSpace
      · rename_i hfits
        have hpending : connection.pendingWriteBytes + frame.length =
            ((connection.writeQueue ++ [frame]).map List.length).sum := by
          simp [haccounts.pending]
        have hbounded : connection.pendingWriteBytes + frame.length ≤ maxPendingWriteBytes := by
          have := haccounts.bounded
          omega
        have hqueued := h.written.queued frame
        have hkept : Handed { connection with
            pendingWriteBytes := connection.pendingWriteBytes + frame.length
            writeQueue := connection.writeQueue ++ [frame]
            sent := connection.sent ++ [frame] } := ⟨h.handed.once, h.handed.closing⟩
        dsimp only
        split
        · rename_i hidle
          have hnone : connection.writing = none := by
            rw [← Option.not_isSome_iff_eq_none, ← haccounts.inProgress]
            simpa using hidle
          exact writes_writeNext hopen hkept hqueued.order
            (by simp [haccounts.written, hnone]) hnone hpending hbounded
        · rename_i hbusy
          have hsome : connection.writeQueue.head?.isSome = true := by
            rw [← haccounts.writing, ← haccounts.inProgress]
            simpa using hbusy
          obtain ⟨front, hfront⟩ := Option.isSome_iff_exists.mp hsome
          refine ⟨⟨hqueued.order, hqueued.started, hqueued.finished⟩, hkept, fun _ => ?_,
            fun hclosed => nomatch hopen.symm.trans hclosed⟩
          exact {
            pending := hpending
            bounded := hbounded
            writing := by
              dsimp only
              rw [List.head?_append, haccounts.writing, hfront]
              rfl
            inProgress := haccounts.inProgress
            written := haccounts.written
            flushing := fun _ => by simp }

theorem Writes.flushAndClose {connection : FramedConnection} (h : connection.Writes) :
    connection.flushAndClose.Writes := by
  unfold FramedConnection.flushAndClose
  split
  · exact h
  · rename_i haccepts
    rw [Bool.or_eq_true, not_or, Bool.not_eq_true, Bool.not_eq_true] at haccepts
    have haccounts := h.accounts haccepts.1
    have hended : connection.closed = true →
        Ended { connection with closeAfterFlush := true } := fun hclosed =>
      nomatch haccepts.1.symm.trans hclosed
    have hlog : Written { connection with closeAfterFlush := true } :=
      ⟨h.written.order, h.written.started, h.written.finished⟩
    have hkept : Handed { connection with closeAfterFlush := true } :=
      ⟨h.handed.once, h.handed.closing⟩
    dsimp only
    split
    · exact writes_finishClose hlog hkept hended .operationAborted
    · rename_i hbusy
      refine ⟨hlog, hkept, fun _ => ?_, hended⟩
      refine ⟨haccounts.pending, haccounts.bounded, haccounts.writing, haccounts.inProgress,
        haccounts.written, fun _ hempty => hbusy ?_⟩
      have hidle : connection.writeInProgress = false := by
        rw [haccounts.inProgress, haccounts.writing, hempty]
        rfl
      simp only at hempty
      simp [hidle, hempty]

theorem Writes.writeCompleted {connection : FramedConnection} (h : connection.Writes)
    (error : Option ConnectionError) : (connection.writeCompleted error).Writes := by
  unfold FramedConnection.writeCompleted
  split
  · exact h
  · rename_i frame hwriting
    have hlog : Written { connection with writing := none } :=
      ⟨h.written.order, h.written.started, h.written.finished⟩
    have hkept : Handed { connection with writing := none } :=
      ⟨h.handed.once, h.handed.closing⟩
    have hended : connection.closed = true → Ended { connection with writing := none } :=
      fun hclosed => ⟨(h.ended hclosed).pending, (h.ended hclosed).inProgress,
        (h.ended hclosed).flushing⟩
    cases error with
    | some error => exact writes_finishClose hlog hkept hended error
    | none =>
      dsimp only
      split
      · rename_i hclosed
        exact ⟨hlog, hkept, (fun hopen => nomatch hopen.symm.trans hclosed), hended⟩
      · rename_i hopen
        have haccounts := h.accounts (Bool.eq_false_iff.mpr hopen)
        have hhead := haccounts.writing.symm.trans hwriting
        obtain ⟨rest, hqueue⟩ := List.head?_eq_some_iff.mp hhead
        have hpending := haccounts.pending
        have hbounded := haccounts.bounded
        rw [hqueue, List.map_cons, List.sum_cons] at hpending
        refine writes_writeNext (Bool.eq_false_iff.mpr hopen)
          ⟨h.handed.once, h.handed.closing⟩ ?_ ?_ rfl ?_ ?_
        · simp [h.written.order, hqueue]
        · simp [haccounts.written, hwriting]
        · simp only [hqueue, List.headD_cons, List.tail_cons]
          omega
        · simp only
          omega

/-! ## The other steps -/

/-- What the writes of a connection are, without its reads. -/
structure SameWrites (connection connection' : FramedConnection) : Prop where
  onClose : connection'.onClose = connection.onClose
  writeQueue : connection'.writeQueue = connection.writeQueue
  pending : connection'.pendingWriteBytes = connection.pendingWriteBytes
  closed : connection'.closed = connection.closed
  inProgress : connection'.writeInProgress = connection.writeInProgress
  flushing : connection'.closeAfterFlush = connection.closeAfterFlush
  writing : connection'.writing = connection.writing
  sent : connection'.sent = connection.sent
  written : connection'.written = connection.written
  completed : connection'.completed = connection.completed
  posted : connection'.posted = connection.posted
  handled : connection'.handled = connection.handled

theorem Writes.same {connection connection' : FramedConnection} (h : connection.Writes)
    (hsame : connection.SameWrites connection') : connection'.Writes where
  written := ⟨by rw [hsame.sent, hsame.completed, hsame.writeQueue, h.written.order],
    by rw [hsame.written, hsame.sent]; exact h.written.started,
    by rw [hsame.written, hsame.completed]; exact h.written.finished⟩
  handed := ⟨by rw [hsame.posted, hsame.handled, hsame.onClose]; exact h.handed.once,
    by rw [hsame.closed, hsame.posted, hsame.handled]; exact h.handed.closing⟩
  accounts hopen := by
    have haccounts := h.accounts (hsame.closed.symm.trans hopen)
    exact {
      pending := by rw [hsame.pending, hsame.writeQueue, haccounts.pending]
      bounded := by rw [hsame.pending]; exact haccounts.bounded
      writing := by rw [hsame.writing, hsame.writeQueue, haccounts.writing]
      inProgress := by rw [hsame.inProgress, hsame.writing, haccounts.inProgress]
      written := by rw [hsame.written, hsame.completed, hsame.writing, haccounts.written]
      flushing := by rw [hsame.flushing, hsame.writeQueue]; exact haccounts.flushing }
  ended hclosed := by
    have hended := h.ended (hsame.closed.symm.trans hclosed)
    exact ⟨hsame.pending.trans hended.pending, hsame.inProgress.trans hended.inProgress,
      hsame.flushing.trans hended.flushing⟩
theorem readHeader_sameWrites (connection : FramedConnection) :
    connection.SameWrites connection.readHeader := by
  unfold readHeader
  split <;> constructor <;> rfl

theorem deliverFrame_sameWrites (connection : FramedConnection) (type : MessageType)
    (payload : Bytes) : connection.SameWrites (connection.deliverFrame type payload) := by
  unfold deliverFrame
  split <;> constructor <;> rfl

theorem readPayload_sameWrites (connection : FramedConnection) (header : TcpFrameHeader) :
    connection.SameWrites (connection.readPayload header) := by
  unfold readPayload
  split
  · exact connection.deliverFrame_sameWrites header.type []
  · constructor <;> rfl

theorem Writes.start {connection : FramedConnection} (h : connection.Writes) :
    connection.start.Writes := by
  unfold FramedConnection.start
  split
  · exact h
  · have hstarted : Writes { connection with started := true } :=
      h.same (by constructor <;> rfl)
    exact hstarted.same (readHeader_sameWrites _)

theorem Writes.readCompleted {connection : FramedConnection} (h : connection.Writes) :
    connection.readCompleted.Writes := by
  unfold FramedConnection.readCompleted
  split
  · split
    · exact h
    · have hread : Writes { connection with
          reading := .idle
          incoming := connection.incoming.drop tcpFrameHeaderBytes } :=
        h.same (by constructor <;> rfl)
      dsimp only
      split
      · exact hread.finishClose _
      · exact hread.same (readPayload_sameWrites _ _)
  · rename_i header _
    dsimp only
    split
    · exact h
    · have hread : Writes { connection with
          reading := .idle
          incoming := connection.incoming.drop header.payloadBytes.toNat } :=
        h.same (by constructor <;> rfl)
      exact hread.same (deliverFrame_sameWrites _ _ _)
  · exact h

theorem Writes.readFailed {connection : FramedConnection} (h : connection.Writes)
    (error : ConnectionError) : (connection.readFailed error).Writes := by
  have hidle : Writes { connection with reading := .idle } :=
    h.same (by constructor <;> rfl)
  unfold FramedConnection.readFailed
  split
  · exact hidle.finishClose error
  · exact hidle.finishClose error
  · exact h

theorem Writes.frameHandled {connection : FramedConnection} (h : connection.Writes)
    (thrown : Bool) : (connection.frameHandled thrown).Writes := by
  have hidle : Writes { connection with reading := .idle } :=
    h.same (by constructor <;> rfl)
  unfold FramedConnection.frameHandled
  split
  · split
    · exact hidle.finishClose .operationAborted
    · exact h.same connection.readHeader_sameWrites
  · exact h

theorem Writes.closeHandled {connection : FramedConnection} (h : connection.Writes) :
    (connection.step .closeHandled).Writes := by
  unfold step
  dsimp only
  split
  · exact h
  · rename_i error posted hposted
    refine ⟨⟨h.written.order, h.written.started, h.written.finished⟩, ⟨?_, fun hopen => ?_⟩,
      fun hopen => ?_, fun hclosed => ?_⟩
    · have := h.handed.once
      simp only [hposted, List.length_cons] at this
      simp only [List.length_append, List.length_singleton]
      omega
    · cases hposted.symm.trans (h.handed.closing hopen).1
    · have haccounts := h.accounts hopen
      exact ⟨haccounts.pending, haccounts.bounded, haccounts.writing, haccounts.inProgress,
        haccounts.written, haccounts.flushing⟩
    · have hended := h.ended hclosed
      exact ⟨hended.pending, hended.inProgress, hended.flushing⟩

theorem writes_create (onClose : Bool) : (create onClose).Writes where
  written := ⟨rfl, List.prefix_rfl, List.prefix_rfl⟩
  handed := ⟨by cases onClose <;> decide, fun _ => ⟨rfl, rfl⟩⟩
  accounts _ := ⟨rfl, Nat.zero_le _, rfl, rfl, rfl, nofun⟩
  ended h := by cases h

theorem Writes.step {connection : FramedConnection} (h : connection.Writes)
    (event : ConnectionEvent) : (connection.step event).Writes := by
  cases event with
  | start => exact h.start
  | send message => exact h.send message
  | closeAfterFlush => exact h.flushAndClose
  | close => exact h.finishClose .operationAborted
  | arrived bytes => exact h.same (by constructor <;> rfl)
  | readCompleted => exact h.readCompleted
  | readFailed error => exact h.readFailed error
  | frameHandled thrown => exact h.frameHandled thrown
  | writeCompleted error => exact h.writeCompleted error
  | closeHandled => exact h.closeHandled

theorem writes_run (onClose : Bool) (events : List ConnectionEvent) :
    (run step (create onClose) events).Writes :=
  run_invariant (P := fun _ => True) (fun _ event _ h => h.step event) (writes_create onClose)
    fun _ _ => trivial

/-! ## Closing after the last write -/

/-- An orderly end comes when the queue has drained, and not before. -/
structure ClosesAfterFlush (connection : FramedConnection) : Prop where
  /-- Ends at once when nothing is queued. -/
  drained : connection.closed = false → connection.closeAfterFlush = false →
    (connection.flushAndClose.closed = true ↔ connection.writeQueue = [])
  /-- Otherwise waits, takes nothing more and keeps what is queued. -/
  waits : connection.closed = false → connection.writeQueue ≠ [] →
    connection.flushAndClose.closeAfterFlush = true ∧
      connection.flushAndClose.writeQueue = connection.writeQueue ∧
      ∀ message, connection.flushAndClose.send message = (connection.flushAndClose, false)
  /-- A write ends the connection when it was the last one of a queue that is flushed. -/
  last : connection.closed = false → connection.writing.isSome = true →
    ((connection.writeCompleted none).closed = true ↔
      connection.closeAfterFlush = true ∧ connection.writeQueue.length = 1)
  /-- Then everything was written. -/
  complete : connection.closed = false → (connection.writeCompleted none).closed = true →
    (connection.writeCompleted none).completed = connection.sent

theorem writeNext_closed {connection : FramedConnection} (hopen : connection.closed = false) :
    connection.writeNext.closed = true ↔
      connection.closeAfterFlush = true ∧ connection.writeQueue = [] := by
  unfold writeNext
  split
  · rename_i front rest hqueue
    simp [hopen, hqueue]
  · rename_i hqueue
    cases hflush : connection.closeAfterFlush with
    | true => simp [hopen, hqueue, finishClose_closed]
    | false => simp [hopen]

theorem Writes.closesAfterFlush {connection : FramedConnection} (h : connection.Writes) :
    connection.ClosesAfterFlush where
  drained hopen hflush := by
    have haccounts := h.accounts hopen
    have hidle : connection.writeQueue = [] → connection.writeInProgress = false := by
      intro hempty
      rw [haccounts.inProgress, haccounts.writing, hempty]
      rfl
    unfold FramedConnection.flushAndClose
    rw [if_neg (by simp [hopen, hflush])]
    dsimp only
    split
    · rename_i hempty
      simp only [Bool.and_eq_true, List.isEmpty_iff] at hempty
      simp [finishClose_closed, hempty.2]
    · rename_i hbusy
      simp only [hopen, Bool.false_eq_true, false_iff]
      intro hempty
      simp [hidle hempty, hempty] at hbusy
  waits hopen hqueue := by
    cases hflush : connection.closeAfterFlush with
    | true =>
      have hsame : connection.flushAndClose = connection := by
        simp [FramedConnection.flushAndClose, hflush]
      rw [hsame]
      exact ⟨hflush, rfl, fun message => by simp [FramedConnection.send, hflush]⟩
    | false =>
      have hwait : connection.flushAndClose = { connection with closeAfterFlush := true } := by
        simp [FramedConnection.flushAndClose, hflush, hopen, hqueue]
      rw [hwait]
      exact ⟨rfl, rfl, fun message => by simp [FramedConnection.send]⟩
  last hopen hwriting := by
    have haccounts := h.accounts hopen
    obtain ⟨frame, hframe⟩ := Option.isSome_iff_exists.mp hwriting
    obtain ⟨rest, hqueue⟩ := List.head?_eq_some_iff.mp (haccounts.writing.symm.trans hframe)
    simp only [FramedConnection.writeCompleted, hframe, hopen, Bool.false_eq_true, if_false]
    rw [writeNext_closed rfl]
    simp [hqueue]
  complete hopen hclosed := by
    have haccounts := h.accounts hopen
    cases hframe : connection.writing with
    | none => simp [FramedConnection.writeCompleted, hframe, hopen] at hclosed
    | some frame =>
      obtain ⟨rest, hqueue⟩ := List.head?_eq_some_iff.mp (haccounts.writing.symm.trans hframe)
      simp only [FramedConnection.writeCompleted, hframe, hopen, Bool.false_eq_true,
        if_false] at hclosed ⊢
      have hlast := (writeNext_closed rfl).mp hclosed
      simp only [hqueue, List.tail_cons] at hlast
      rw [h.written.order, hqueue, hlast.2]
      simp [writeNext, FramedConnection.finishClose, hlast.1]

end FramedConnection

end SurvivalArena
