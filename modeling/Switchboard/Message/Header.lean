import Switchboard.Frame
import Switchboard.Json.Shape
/-!
# Typed headers

The header shapes that message kinds declare, each with a reader from an object and a writer back.
Optional fields that are absent are not written.
-/

namespace Switchboard

/-- A member that is written only if it is there. -/
def optionalMember (name : String) (value : Option Json) : List (String × Json) :=
  (value.map (name, ·)).toList

open Json (Mismatch Decoder field? require)

structure PingHeader where
  sessionId : Option String
  requestId : String
  /-- The sender's clock in milliseconds since 1970. -/
  timestamp : Option UInt64
  deriving DecidableEq, Repr

namespace PingHeader

def read (h : Header) : Except Mismatch PingHeader := do
  let requestId ← field? h "requestId" Decoder.string
  let sessionId ← field? h "sessionId" (Decoder.optional Decoder.string)
  let timestamp ← field? h "timestamp" (Decoder.optional Decoder.word64)
  return ⟨sessionId.join, ← require "requestId" requestId, timestamp.join⟩

def members (p : PingHeader) : List (String × Json) :=
  optionalMember "sessionId" (p.sessionId.map .str) ++
    ("requestId", .str p.requestId) ::
      optionalMember "timestamp" (p.timestamp.map fun t => .int t.toNat)

end PingHeader

structure PongHeader where
  sessionId : Option String
  requestId : String
  timestamp : Option UInt64
  serverTime : Option UInt64
  deriving DecidableEq, Repr

namespace PongHeader

def read (h : Header) : Except Mismatch PongHeader := do
  let requestId ← field? h "requestId" Decoder.string
  let serverTime ← field? h "serverTime" (Decoder.optional Decoder.word64)
  let sessionId ← field? h "sessionId" (Decoder.optional Decoder.string)
  let timestamp ← field? h "timestamp" (Decoder.optional Decoder.word64)
  return ⟨sessionId.join, ← require "requestId" requestId, timestamp.join, serverTime.join⟩

def members (p : PongHeader) : List (String × Json) :=
  optionalMember "sessionId" (p.sessionId.map .str) ++
    ("requestId", .str p.requestId) ::
      optionalMember "timestamp" (p.timestamp.map fun t => .int t.toNat) ++
        optionalMember "serverTime" (p.serverTime.map fun t => .int t.toNat)

end PongHeader

/-- A phase of the exchange of credentials. -/
inductive AuthPhase where
  /-- The gateway asks for credentials. -/
  | required (methods : List String)
  /-- The client gives them. -/
  | credentials (value : Json)
  /-- The gateway accepts them. -/
  | success
  /-- The gateway rejects them. -/
  | failure (reason : Option String)

namespace AuthPhase

/-- The names of the phases, in order. -/
def names : List String := ["required", "credentials", "success", "failure"]

/-- The position of the phase that a tag names: a name, or the position itself. -/
def index : Decoder Nat
  | .str name =>
    match names.idxOf? name with
    | some i => .ok i
    | none => .error (.unknownVariant name names)
  | .int n =>
    if n < 0 then .error (.wrongType (.int n) "variant identifier")
    else if n < 4 then .ok n.toNat
    else .error (.wrongValue (Json.describe (.int n)) "variant index 0 <= i < 4")
  | v => .error (.wrongType v "variant identifier")

def read (h : Header) : Except Mismatch AuthPhase := do
  let phase ← require "phase" (← field? h "phase" index)
  match phase with
  | 0 =>
    let methods ← field? h "methods" (Decoder.listOf Decoder.string)
    return .required (methods.getD [])
  | 1 =>
    let value ← field? h "credentials" Decoder.any
    return .credentials (← require "credentials" value)
  | 2 => return .success
  | _ =>
    let reason ← field? h "reason" (Decoder.optional Decoder.string)
    return .failure reason.join

def members : AuthPhase → List (String × Json)
  | required methods =>
    ("phase", .str "required") ::
      if methods.isEmpty then [] else [("methods", .arr (methods.map .str))]
  | credentials value => [("phase", .str "credentials"), ("credentials", value)]
  | success => [("phase", .str "success")]
  | failure reason =>
    ("phase", .str "failure") :: optionalMember "reason" (reason.map .str)

end AuthPhase

/-- A step of the exchange of credentials. -/
structure AuthHeader where
  sessionId : Option String
  phase : AuthPhase

namespace AuthHeader

def read (h : Header) : Except Mismatch AuthHeader := do
  let sessionId ← field? h "sessionId" (Decoder.optional Decoder.string)
  return ⟨sessionId.join, ← AuthPhase.read h⟩

def members (a : AuthHeader) : List (String × Json) :=
  optionalMember "sessionId" (a.sessionId.map .str) ++ a.phase.members

end AuthHeader

/-- A failure that the gateway reports. -/
structure ErrorHeader where
  code : Option String
  message : String
  requestId : Option String
  deriving DecidableEq, Repr

namespace ErrorHeader

def read (h : Header) : Except Mismatch ErrorHeader := do
  let code ← field? h "code" (Decoder.optional Decoder.string)
  let message ← field? h "message" Decoder.string
  let requestId ← field? h "requestId" (Decoder.optional Decoder.string)
  return ⟨code.join, ← require "message" message, requestId.join⟩

def members (e : ErrorHeader) : List (String × Json) :=
  optionalMember "code" (e.code.map .str) ++
    ("message", .str e.message) :: optionalMember "requestId" (e.requestId.map .str)

end ErrorHeader

/-- A status line from the gateway. -/
structure StatusHeader where
  state : String
  message : Option String
  deriving DecidableEq, Repr

namespace StatusHeader

def read (h : Header) : Except Mismatch StatusHeader := do
  let message ← field? h "message" (Decoder.optional Decoder.string)
  let state ← field? h "state" Decoder.string
  return ⟨← require "state" state, message.join⟩

def members (s : StatusHeader) : List (String × Json) :=
  ("state", .str s.state) :: optionalMember "message" (s.message.map .str)

end StatusHeader

/-- A measured latency. -/
structure LatencyHeader where
  latencyMs : UInt64
  deriving DecidableEq, Repr

namespace LatencyHeader

def read (h : Header) : Except Mismatch LatencyHeader := do
  let latency ← field? h "latencyMs" Decoder.word64
  return ⟨← require "latencyMs" latency⟩

def members (l : LatencyHeader) : List (String × Json) := [("latencyMs", .int l.latencyMs.toNat)]

end LatencyHeader

/-- Terminal data, which travels in the payload. -/
structure DataHeader where
  sessionId : String
  deriving DecidableEq, Repr

namespace DataHeader

def read (h : Header) : Except Mismatch DataHeader := do
  let sessionId ← field? h "sessionId" Decoder.string
  return ⟨← require "sessionId" sessionId⟩

def members (d : DataHeader) : List (String × Json) := [("sessionId", .str d.sessionId)]

end DataHeader

/-- A new size of the terminal. -/
structure ResizeHeader where
  sessionId : String
  cols : UInt16
  rows : UInt16
  deriving DecidableEq, Repr

namespace ResizeHeader

def read (h : Header) : Except Mismatch ResizeHeader := do
  let cols ← field? h "cols" Decoder.word16
  let rows ← field? h "rows" Decoder.word16
  let sessionId ← field? h "sessionId" Decoder.string
  return ⟨← require "sessionId" sessionId, ← require "cols" cols, ← require "rows" rows⟩

def members (r : ResizeHeader) : List (String × Json) :=
  [("sessionId", .str r.sessionId), ("cols", .int r.cols.toNat), ("rows", .int r.rows.toNat)]

end ResizeHeader

/-- A command to run. -/
structure CommandHeader where
  sessionId : String
  command : String
  deriving DecidableEq, Repr

namespace CommandHeader

def read (h : Header) : Except Mismatch CommandHeader := do
  let command ← field? h "command" Decoder.string
  let sessionId ← field? h "sessionId" Decoder.string
  return ⟨← require "sessionId" sessionId, ← require "command" command⟩

def members (c : CommandHeader) : List (String × Json) :=
  [("sessionId", .str c.sessionId), ("command", .str c.command)]

end CommandHeader

/-- A count of bytes received. -/
structure DataAckHeader where
  sessionId : String
  bytes : UInt64
  deriving DecidableEq, Repr

namespace DataAckHeader

def read (h : Header) : Except Mismatch DataAckHeader := do
  let bytes ← field? h "bytes" Decoder.word64
  let sessionId ← field? h "sessionId" Decoder.string
  return ⟨← require "sessionId" sessionId, ← require "bytes" bytes⟩

def members (d : DataAckHeader) : List (String × Json) :=
  [("sessionId", .str d.sessionId), ("bytes", .int d.bytes.toNat)]

end DataAckHeader

/-- A file operation or its response. Members that only one operation knows stay as they are. -/
structure SftpHeader where
  requestId : String
  sessionId : Option String
  fields : Header

namespace SftpHeader

def read (h : Header) : Except Mismatch SftpHeader := do
  let requestId ← field? h "requestId" Decoder.string
  let sessionId ← field? h "sessionId" (Decoder.optional Decoder.string)
  return ⟨← require "requestId" requestId, sessionId.join,
    KeyMap.erase "sessionId" (KeyMap.erase "requestId" h)⟩

def members (s : SftpHeader) : List (String × Json) :=
  ("requestId", .str s.requestId) :: optionalMember "sessionId" (s.sessionId.map .str) ++ s.fields

end SftpHeader

end Switchboard
