import Switchboard.Message.Header
/-!
# Messages

A message is a frame header narrowed to the shape that its kind declares. `Message.ofHeader`
narrows and `Message.toHeader` widens again; kinds of the control band without a shape of their
own keep the header as it is.
-/

namespace Switchboard

/-- A header in the shape of its kind. -/
inductive Message where
  | ping (header : PingHeader)
  | pong (header : PongHeader)
  | authenticate (header : AuthHeader)
  | error (header : ErrorHeader)
  | status (header : StatusHeader)
  | latency (header : LatencyHeader)
  | sshData (header : DataHeader)
  | sshResize (header : ResizeHeader)
  | sshCommand (header : CommandHeader)
  | sshDataAck (header : DataAckHeader)
  /-- A file operation or a response, of the bands for those. -/
  | sftp (kind : MessageKind) (header : SftpHeader)
  /-- A control message without a declared shape. -/
  | control (kind : MessageKind) (header : Header)

namespace Message

def kind : Message → MessageKind
  | ping _ => .ping
  | pong _ => .pong
  | authenticate _ => .authenticate
  | error _ => .error
  | status _ => .status
  | latency _ => .latency
  | sshData _ => .sshData
  | sshResize _ => .sshResize
  | sshCommand _ => .sshCommand
  | sshDataAck _ => .sshDataAck
  | sftp kind _ | control kind _ => kind

/-- Narrow a header, or say how it misses the shape. -/
def read (kind : MessageKind) (h : Header) : Except Json.Mismatch Message :=
  match kind with
  | .ping => ping <$> PingHeader.read h
  | .pong => pong <$> PongHeader.read h
  | .authenticate => authenticate <$> AuthHeader.read h
  | .error => error <$> ErrorHeader.read h
  | .status => status <$> StatusHeader.read h
  | .latency => latency <$> LatencyHeader.read h
  | .sshData => sshData <$> DataHeader.read h
  | .sshResize => sshResize <$> ResizeHeader.read h
  | .sshCommand => sshCommand <$> CommandHeader.read h
  | .sshDataAck => sshDataAck <$> DataAckHeader.read h
  | kind =>
    if kind.band = .subProtocol ∨ kind.band = .response then sftp kind <$> SftpHeader.read h
    else .ok (control kind h)

def ofHeader (kind : MessageKind) (h : Header) : Except Error Message :=
  (read kind h).mapError fun mismatch => .invalidHeader kind.name mismatch.message

/-- Narrow the header of a frame. A type code without a kind has no message. -/
def ofFrame (frame : Frame) : Except Error (Option Message) :=
  match frame.kind? with
  | none => .ok none
  | some kind => some <$> ofHeader kind frame.header

def toHeader : Message → Header
  | ping h => KeyMap.ofList h.members
  | pong h => KeyMap.ofList h.members
  | authenticate h => KeyMap.ofList h.members
  | error h => KeyMap.ofList h.members
  | status h => KeyMap.ofList h.members
  | latency h => KeyMap.ofList h.members
  | sshData h => KeyMap.ofList h.members
  | sshResize h => KeyMap.ofList h.members
  | sshCommand h => KeyMap.ofList h.members
  | sshDataAck h => KeyMap.ofList h.members
  | sftp _ h => KeyMap.ofList h.members
  | control _ h => h

def encode (message : Message) (payload : Option Bytes) : Except Error Bytes :=
  Frame.encodeHeader message.kind.code message.toHeader payload

end Message

end Switchboard
