/-!
# Errors

Everything that can go wrong, by cause. `Error.message` words it; `isCodec`, `isTransient` and
`isFatal` sort causes by what a caller can do about them: fix the frame, wait for a retry, or step
in.
-/

namespace Switchboard

inductive Error where
  /-- A frame could not be written. -/
  | encoding (reason : String)
  | frameTooShort (length least : Nat)
  | invalidMagic (found : UInt32)
  | unsupportedVersion (found : UInt8)
  | headerLengthMismatch (declared available : Nat)
  /-- The header is no JSON object. -/
  | headerParse (reason : String)
  /-- The header lacks the shape of its message kind. -/
  | invalidHeader (kind reason : String)
  /-- A connection attempt failed. -/
  | connect (reason : String)
  /-- The peer rejected the credentials. -/
  | auth (reason : String)
  | heartbeatTimeout
  | reconnectExhausted (attempts : Nat)
  /-- An open connection was lost. -/
  | transport (reason : String)
  | connectionClosed
  | sessionNotFound (key : String)
  | requestTimeout (requestId : String)
  /-- The operating system refused. -/
  | system (reason : String)
  deriving DecidableEq, Repr, Inhabited

namespace Error

/-- Eight hexadecimal digits of a 32-bit word. -/
def hexWord (word : UInt32) : String :=
  let digits := Nat.toDigits 16 word.toNat
  String.ofList (List.replicate (8 - digits.length) '0' ++ digits)

def message : Error → String
  | encoding reason => s!"encoding error: {reason}"
  | frameTooShort length least => s!"frame too short: {length} bytes (need at least {least})"
  | invalidMagic found => s!"invalid frame magic: 0x{hexWord found}"
  | unsupportedVersion found => s!"unsupported protocol version: {found}"
  | headerLengthMismatch declared available =>
    s!"header length mismatch: declared {declared} bytes, {available} available"
  | headerParse reason => s!"header parse error: {reason}"
  | invalidHeader kind reason => s!"invalid {kind} header: {reason}"
  | connect reason => s!"connect error: {reason}"
  | auth reason => s!"authentication failed: {reason}"
  | heartbeatTimeout => "heartbeat timeout"
  | reconnectExhausted attempts =>
    s!"reconnection attempts exhausted after {attempts} attempts"
  | transport reason => s!"transport error: {reason}"
  | connectionClosed => "connection closed"
  | sessionNotFound key => s!"session not found: {key}"
  | requestTimeout requestId => s!"request {requestId} timed out"
  | system reason => s!"I/O error: {reason}"

/-- The frame itself is at fault. -/
def isCodec : Error → Bool
  | encoding _ | frameTooShort _ _ | invalidMagic _ | unsupportedVersion _
  | headerLengthMismatch _ _ | headerParse _ | invalidHeader _ _ => true
  | _ => false

/-- Another attempt may succeed. -/
def isTransient : Error → Bool
  | connect _ | transport _ | heartbeatTimeout | system _ => true
  | _ => false

/-- No further attempt is made without the caller. -/
def isFatal : Error → Bool
  | auth _ | reconnectExhausted _ => true
  | _ => false

end Error

end Switchboard
