import Switchboard.Frame
import Switchboard.KeyMap
/-!
# The gateway's side of a conversation

Frames that a gateway sends: the steps of the exchange of credentials, and the answers to a frame
with a request id.
-/

namespace Switchboard

namespace GatewayFrame

/-- A frame around an object. An object of this size always fits. -/
def write (kind : MessageKind) (members : List (String × Json)) : Bytes :=
  Frame.assemble kind.code (Frame.headerBytes (KeyMap.ofList members)) []

def authRequired : Bytes :=
  write .authenticate [("phase", .str "required"), ("methods", .arr [.str "password"])]

def authSuccess : Bytes := write .authenticate [("phase", .str "success")]

def authFailure (reason : String) : Bytes :=
  write .authenticate [("phase", .str "failure"), ("reason", .str reason)]

/-- The answer to a probe with the given header. -/
def pongFor (ping : Header) (requestId : String) : Bytes :=
  write .pong ([("requestId", .str requestId), ("serverTime", .int 1)] ++
    ((KeyMap.find? Frame.timestampField ping).map (Frame.timestampField, ·)).toList)

/-- An answer to the request with an id, with further members. -/
def responseTo (requestId : String) (code : UInt8) (extra : Header) : Bytes :=
  Frame.assemble code (Frame.headerBytes (KeyMap.insert Frame.requestIdField (.str requestId) extra))
    []

/-- A frame around any header text, well formed or not. -/
def verbatim (code : UInt8) (header payload : Bytes) : Bytes := Frame.assemble code header payload

end GatewayFrame

end Switchboard
