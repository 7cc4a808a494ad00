import SurvivalArena.Protocol.TcpFrame

/-!
# Framed connection

A connection reads a header and then its payload, again and again, and writes its frames one at
a time.  The socket hands over exactly the bytes that were asked for, in the order in which they
arrived.  A handler of a frame may call the connection, so it runs as an event of its own.
-/

namespace SurvivalArena

open Wire

def maxPendingWriteBytes : Nat := 262144

inductive ConnectionError where
  | messageSize
  | invalidArgument
  | noBufferSpace
  | operationAborted
  /-- An error of the socket. -/
  | socket (code : Int)
deriving DecidableEq

structure RawFrame where
  type : MessageType := .clientHello
  payload : Bytes
deriving DecidableEq

/-- What the read loop waits for. -/
inductive ReadState where
  | idle
  | header
  | payload (header : TcpFrameHeader)
  /-- The handler of a frame runs. -/
  | delivering
deriving DecidableEq

structure FramedConnection where
  /-- There is a close handler, and it was not handed over. -/
  onClose : Bool
  writeQueue : List Bytes := []
  pendingWriteBytes : Nat := 0
  started : Bool := false
  closed : Bool := false
  writeInProgress : Bool := false
  closeAfterFlush : Bool := false
  reading : ReadState := .idle
  /-- The write that has not completed. -/
  writing : Option Bytes := none
  /-- Bytes at the socket that were not read. -/
  incoming : Bytes := []
  /-- All bytes that have arrived. -/
  arrived : Bytes := []
  delivered : List RawFrame := []
  /-- The frames that were taken for sending. -/
  sent : List Bytes := []
  /-- The frames whose writes were started. -/
  written : List Bytes := []
  completed : List Bytes := []
  /-- Close handlers that wait to run, and those that ran. -/
  posted : List ConnectionError := []
  handled : List ConnectionError := []

def headerError (error : FrameHeaderError) : ConnectionError :=
  if error = .frameTooLarge then .messageSize else .invalidArgument

namespace FramedConnection

def create (onClose : Bool) : FramedConnection := { onClose }

def finishClose (connection : FramedConnection) (error : ConnectionError) : FramedConnection :=
  if connection.closed then connection
  else
    { connection with
      closed := true
      pendingWriteBytes := 0
      writeInProgress := false
      closeAfterFlush := false
      onClose := false
      posted := if connection.onClose then connection.posted ++ [error] else connection.posted }

def readHeader (connection : FramedConnection) : FramedConnection :=
  if connection.closed then { connection with reading := .idle }
  else { connection with reading := .header }

/-- The frame goes to its handler. -/
def deliverFrame (connection : FramedConnection) (type : MessageType) (payload : Bytes) :
    FramedConnection :=
  if connection.closed then { connection with reading := .idle }
  else
    { connection with
      reading := .delivering
      delivered := connection.delivered ++ [{ type, payload }] }

def readPayload (connection : FramedConnection) (header : TcpFrameHeader) : FramedConnection :=
  if header.payloadBytes = 0 then connection.deliverFrame header.type []
  else { connection with reading := .payload header }

def start (connection : FramedConnection) : FramedConnection :=
  if connection.started || connection.closed then connection
  else readHeader { connection with started := true }

def writeNext (connection : FramedConnection) : FramedConnection :=
  match connection.writeQueue with
  | front :: _ =>
    if connection.closed then { connection with writeInProgress := false }
    else
      { connection with
        writeInProgress := true
        writing := some front
        written := connection.written ++ [front] }
  | [] =>
    let connection := { connection with writeInProgress := false }
    if !connection.closed && connection.closeAfterFlush then
      connection.finishClose .operationAborted
    else connection

def send (connection : FramedConnection) (message : EncodedMessage) : FramedConnection × Bool :=
  if connection.closed || connection.closeAfterFlush then (connection, false)
  else
    match encodeTcpFrame message with
    | .error _ => (connection.finishClose .messageSize, false)
    | .ok frame =>
      if maxPendingWriteBytes - connection.pendingWriteBytes < frame.length then
        (connection.finishClose .noBufferSpace, false)
      else
        let connection := { connection with
          pendingWriteBytes := connection.pendingWriteBytes + frame.length
          writeQueue := connection.writeQueue ++ [frame]
          sent := connection.sent ++ [frame] }
        (if !connection.writeInProgress then connection.writeNext else connection, true)

def close (connection : FramedConnection) : FramedConnection :=
  connection.finishClose .operationAborted

def flushAndClose (connection : FramedConnection) : FramedConnection :=
  if connection.closed || connection.closeAfterFlush then connection
  else
    let connection := { connection with closeAfterFlush := true }
    if !connection.writeInProgress && connection.writeQueue.isEmpty then
      connection.finishClose .operationAborted
    else connection

/-- The handler of a read that has its bytes. -/
def readCompleted (connection : FramedConnection) : FramedConnection :=
  match connection.reading with
  | .header =>
    if connection.incoming.length < tcpFrameHeaderBytes then connection
    else
      let headerBytes := connection.incoming.take tcpFrameHeaderBytes
      let connection := { connection with
        reading := .idle
        incoming := connection.incoming.drop tcpFrameHeaderBytes }
      match decodeTcpFrameHeader headerBytes with
      | .error error => connection.finishClose (headerError error)
      | .ok header => connection.readPayload header
  | .payload header =>
    let count := header.payloadBytes.toNat
    if connection.incoming.length < count then connection
    else
      let connection' := { connection with
        reading := .idle
        incoming := connection.incoming.drop count }
      connection'.deliverFrame header.type (connection.incoming.take count)
  | _ => connection

def readFailed (connection : FramedConnection) (error : ConnectionError) : FramedConnection :=
  match connection.reading with
  | .header => finishClose { connection with reading := .idle } error
  | .payload _ => finishClose { connection with reading := .idle } error
  | _ => connection

/-- The handler of a frame has returned, or thrown an exception. -/
def frameHandled (connection : FramedConnection) (thrown : Bool) : FramedConnection :=
  match connection.reading with
  | .delivering =>
    if thrown then finishClose { connection with reading := .idle } .operationAborted
    else connection.readHeader
  | _ => connection

/-- The handler of a write. -/
def writeCompleted (connection : FramedConnection) (error : Option ConnectionError) :
    FramedConnection :=
  match connection.writing with
  | none => connection
  | some frame =>
    let connection := { connection with writing := none }
    match error with
    | some error => connection.finishClose error
    | none =>
      if connection.closed then connection
      else
        writeNext { connection with
          pendingWriteBytes :=
            connection.pendingWriteBytes - (connection.writeQueue.headD []).length
          writeQueue := connection.writeQueue.tail
          completed := connection.completed ++ [frame] }

/-! ## Steps -/

inductive ConnectionEvent where
  | start
  | send (message : EncodedMessage)
  | closeAfterFlush
  | close
  | arrived (bytes : Bytes)
  | readCompleted
  | readFailed (error : ConnectionError)
  | frameHandled (thrown : Bool)
  | writeCompleted (error : Option ConnectionError)
  /-- A posted close handler runs. -/
  | closeHandled

def step (connection : FramedConnection) : ConnectionEvent → FramedConnection
  | .start => connection.start
  | .send message => (connection.send message).1
  | .closeAfterFlush => connection.flushAndClose
  | .close => connection.close
  | .arrived bytes =>
    { connection with
      incoming := connection.incoming ++ bytes
      arrived := connection.arrived ++ bytes }
  | .readCompleted => connection.readCompleted
  | .readFailed error => connection.readFailed error
  | .frameHandled thrown => connection.frameHandled thrown
  | .writeCompleted error => connection.writeCompleted error
  | .closeHandled =>
    match connection.posted with
    | [] => connection
    | error :: posted =>
      { connection with posted, handled := connection.handled ++ [error] }

end FramedConnection

end SurvivalArena
