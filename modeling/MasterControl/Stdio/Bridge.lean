import MasterControl.Foundation.Json
import MasterControl.Foundation.Lines

/-!
# The stdio bridge

`sendStdioJsonRpc` writes one request to a child and reads the child's lines until one
answers it.  What the child will ever write is fixed in advance, as the unread part of its
pipe; how much of it is there at each poll is up to the environment, as is whether the
instance has been taken out of `children_` whenever the bridge looks it up again.

Calls of one instance queue at its `stdioMutex`, so nobody else touches its buffer while a
call runs, and a run of the bridge is a list of calls.  The handshake re-checks under that
mutex, so `mcpInitialized` is read once here.  The requests and envelopes that the bridge
writes are not modelled, only whether each write succeeds.
-/

namespace MasterControl
namespace Stdio

open Foundation

/-! ## The child and its pipe -/

structure StdioBridgeResult where
  succeeded : Bool
  responseBody : Bytes := []
  errorMessage : String := ""
  deriving DecidableEq

/-- What the bridge uses of a `ChildProcess`. -/
structure StdioChild where
  active : Bool := true
  /-- Whether the process handle is open. -/
  hasProcess : Bool := true
  /-- Whether both pipe ends are open. -/
  hasPipes : Bool := true
  hasStdioMutex : Bool := true
  mcpInitialized : Bool := false
  stdioReadBuffer : Bytes := []
  deriving DecidableEq

/-- An instance: its entry in `children_`, if there is one, and what is left in its pipe. -/
structure StdioInstance where
  child : Option StdioChild
  unread : Bytes
  deriving DecidableEq

/-- One poll of the pipe: how many bytes are there, and whether the instance is gone when
the bridge appends, scans and trims. -/
inductive Poll where
  | available (bytesAvailable : Nat) (goneAtAppend goneAtScan goneAtTrim : Bool)
  | peekFailed (lastError : Nat)

/-- One call, with what its environment does.  The deadline passes after the last poll. -/
structure BridgeCall where
  request : Bytes
  timeoutMs : Nat := 30000
  goneBeforeHandshake : Bool := false
  initializeWritten : Bool := true
  handshakePolls : List Poll := []
  notificationWritten : Bool := true
  goneAfterHandshake : Bool := false
  requestWritten : Bool := true
  polls : List Poll := []

/-- The instance when it is looked up again. -/
def StdioInstance.lookedUp (gone : Bool) (i : StdioInstance) : StdioInstance :=
  if gone then { i with child := none } else i

def kReadChunkBytes : Nat := 4096

/-- `ReadFile`: the chunk, and the rest of the pipe. -/
def readChunk (bytesAvailable : Nat) (i : StdioInstance) : Bytes × StdioInstance :=
  let toRead := min bytesAvailable kReadChunkBytes
  (i.unread.take toRead, { i with unread := i.unread.drop toRead })

def setBuffer (child : StdioChild) (buffer : Bytes) (i : StdioInstance) : StdioInstance :=
  { i with child := some { child with stdioReadBuffer := buffer } }

/-- Dropping the front of the buffer, if the instance is still there. -/
def trimBuffer (consumedThrough : Nat) (i : StdioInstance) : StdioInstance :=
  { i with child := i.child.map fun child =>
      { child with stdioReadBuffer := child.stdioReadBuffer.drop consumedThrough } }

/-! ## Lines -/

def newline : UInt8 := 10

/-- `std::isspace` in the C locale. -/
def isSpace (c : UInt8) : Bool := c = 32 || (9 ≤ c && c ≤ 13)

/-- Whether the first visible character opens an object or an array. -/
def jsonish (line : Bytes) : Bool :=
  match line.find? fun c => !isSpace c with
  | none => false
  | some c => c = 123 || c = 91

/-- Whether a line answers the request with this id. -/
def isReply (json : JsonLibrary) (targetId : String) (line : Bytes) : Bool :=
  jsonish line &&
    match json.parse line with
    | .ok (.object members) =>
      match Json.lookup "id" members with
      | none => false
      | some .null => false
      | some id => json.dump id = targetId
    | _ => false

/-- A line without the carriage return at its end. -/
def withoutReturn (line : Bytes) : Bytes :=
  if line.getLast? = some 13 then line.dropLast else line

def handshakeIdOf (instanceId : String) : String := "\"mcos-handshake-" ++ instanceId ++ "\""

/-- Whether a line answers the handshake. -/
def isHandshakeReply (json : JsonLibrary) (instanceId : String) (line : Bytes) : Bool :=
  match json.parse (withoutReturn line) with
  | .ok (.object members) =>
    match Json.lookup "id" members with
    | none => false
    | some id => json.dump id = handshakeIdOf instanceId
  | _ => false

/-! ## The handshake -/

/-- Reading until the child has answered `initialize`. -/
def handshakeLoop (json : JsonLibrary) (instanceId : String) :
    List Poll → StdioInstance → Except String Unit × StdioInstance
  | [], i => (.error "initialize handshake timed out (no response in 3s)", i)
  | .peekFailed _ :: _, i => (.error "PeekNamedPipe failed during initialize handshake", i)
  | .available bytesAvailable gone _ _ :: polls, i =>
    if bytesAvailable = 0 then handshakeLoop json instanceId polls i
    else
      let read := readChunk bytesAvailable i
      if read.1 = [] then (.error "ReadFile failed during initialize handshake", i)
      else
        let i := read.2.lookedUp gone
        match i.child with
        | none => (.error "instance disappeared during handshake read", i)
        | some child =>
          let buffer := child.stdioReadBuffer ++ read.1
          let found := scanLines newline (isHandshakeReply json instanceId) buffer
          let i := setBuffer child (buffer.drop found.1) i
          if found.2.isSome then (.ok (), i) else handshakeLoop json instanceId polls i

/-- The instance skips the handshake from now on. -/
def markInitialized (i : StdioInstance) : StdioInstance :=
  { i with child := i.child.map fun child => { child with mcpInitialized := true } }

/-- The handshake that precedes the first request. -/
def performHandshake (json : JsonLibrary) (instanceId : String) (call : BridgeCall)
    (i : StdioInstance) : Except String Unit × StdioInstance :=
  let i := i.lookedUp call.goneBeforeHandshake
  if i.child = none then (.error "instance disappeared before handshake", i)
  else if !call.initializeWritten then (.error "WriteFile (initialize handshake) failed", i)
  else
    let shaken := handshakeLoop json instanceId call.handshakePolls i
    match shaken.1 with
    | .error message => (.error message, shaken.2)
    | .ok () =>
      if !call.notificationWritten then
        (.error "WriteFile (notifications/initialized) failed", shaken.2)
      else
        (.ok (), markInitialized (shaken.2.lookedUp call.goneAfterHandshake))

/-- The handshake, unless the child has answered one before. -/
def ensureHandshake (json : JsonLibrary) (instanceId : String) (call : BridgeCall)
    (child : StdioChild) (i : StdioInstance) : Except String Unit × StdioInstance :=
  if child.mcpInitialized then (.ok (), i) else performHandshake json instanceId call i

/-! ## A call -/

def bridgeFailure (message : String) : StdioBridgeResult :=
  { succeeded := false, errorMessage := message }

/-- The id to wait for, as text; none for a request that expects no answer. -/
def targetIdOf (json : JsonLibrary) (request : Bytes) : Except String (Option String) :=
  match json.parse request with
  | .error what => .error ("could not parse request envelope to extract id: " ++ what)
  | .ok (.object members) =>
    match Json.lookup "id" members with
    | none => .ok none
    | some .null => .ok none
    | some id => .ok (some (json.dump id))
  | .ok _ => .ok none

/-- Reading until a line answers the request: append, scan and trim, each after a look-up
of its own. -/
def readLoop (json : JsonLibrary) (targetId : String) (timeoutMs : Nat) :
    List Poll → StdioInstance → StdioBridgeResult × StdioInstance
  | [], i =>
    (bridgeFailure ("stdio bridge timed out after " ++ toString timeoutMs ++
      " ms (no response with matching id=" ++ targetId ++ ")"), i)
  | .peekFailed lastError :: _, i =>
    (bridgeFailure ("PeekNamedPipe failed (child likely exited); GetLastError=" ++
      toString lastError), i)
  | .available bytesAvailable goneAtAppend goneAtScan goneAtTrim :: polls, i =>
    if bytesAvailable = 0 then readLoop json targetId timeoutMs polls i
    else
      let read := readChunk bytesAvailable i
      if read.1 = [] then (bridgeFailure "ReadFile from child stdout failed", i)
      else
        let i := read.2.lookedUp goneAtAppend
        match i.child with
        | none => (bridgeFailure "instance disappeared while reading", i)
        | some child =>
          let i := (setBuffer child (child.stdioReadBuffer ++ read.1) i).lookedUp goneAtScan
          match i.child with
          | none => (bridgeFailure "instance disappeared while scanning", i)
          | some child =>
            let found := scanLines newline (isReply json targetId) child.stdioReadBuffer
            let i := trimBuffer found.1 (i.lookedUp goneAtTrim)
            match found.2 with
            | some line => ({ succeeded := true, responseBody := line }, i)
            | none => readLoop json targetId timeoutMs polls i

/-- One request to a child, and the answer. -/
def sendStdioJsonRpc (json : JsonLibrary) (instanceId : String) (call : BridgeCall)
    (i : StdioInstance) : StdioBridgeResult × StdioInstance :=
  match i.child with
  | none =>
    (bridgeFailure ("instance not found in supervisor (instanceId=" ++ instanceId ++ ")"), i)
  | some child =>
    if !child.active || !child.hasProcess then (bridgeFailure "instance is not active", i)
    else if !child.hasPipes then
      (bridgeFailure ("stdio bridge unavailable on this instance (pipe creation failed at " ++
        "spawn or worker launch failed)"), i)
    else if !child.hasStdioMutex then
      (bridgeFailure "stdio bridge mutex missing (internal bug)", i)
    else
      let shaken := ensureHandshake json instanceId call child i
      match shaken.1 with
      | .error message => (bridgeFailure message, shaken.2)
      | .ok () =>
        if !call.requestWritten then
          (bridgeFailure "WriteFile to child stdin failed (child likely exited)",
            { shaken.2 with child := none })
        else
          match targetIdOf json call.request with
          | .error message => (bridgeFailure message, shaken.2)
          | .ok none => ({ succeeded := true }, shaken.2)
          | .ok (some targetId) => readLoop json targetId call.timeoutMs call.polls shaken.2

/-- Calls one after the other, with what they return. -/
def performCalls (json : JsonLibrary) (instanceId : String) :
    List BridgeCall → StdioInstance → List StdioBridgeResult × StdioInstance
  | [], i => ([], i)
  | call :: calls, i =>
    let answered := sendStdioJsonRpc json instanceId call i
    let rest := performCalls json instanceId calls answered.2
    (answered.1 :: rest.1, rest.2)

end Stdio
end MasterControl
