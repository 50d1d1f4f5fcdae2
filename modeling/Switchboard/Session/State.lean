import Switchboard.Json.Shape
/-!
# Session states

The states of a session's life and what each of them allows.
-/

namespace Switchboard

/-- A state in the life of a session. -/
inductive SessionState where
  /-- Created and never connected. -/
  | idle
  /-- The first attempt is under way. -/
  | connecting
  /-- The transport is open and may be used. -/
  | connected
  /-- The peer asked for credentials and none are configured. -/
  | needAuth
  /-- Credentials are sent and the verdict is awaited. -/
  | authenticating
  /-- An attempt after an earlier success is under way. -/
  | reconnecting
  /-- Such an attempt succeeded; `connected` follows at once. -/
  | reconnected
  /-- The session is being torn down. -/
  | disconnecting
  /-- The session is torn down, or has spent its attempts. -/
  | disconnected
  /-- An attempt failed. A retry may be scheduled. -/
  | error
  deriving DecidableEq, Repr, Inhabited

namespace SessionState

def all : List SessionState :=
  [idle, connecting, connected, needAuth, authenticating, reconnecting, reconnected,
    disconnecting, disconnected, error]

/-- The transport is open. -/
def isLive : SessionState → Bool
  | connected | needAuth | authenticating => true
  | _ => false

/-- An attempt is under way. -/
def isAttempting : SessionState → Bool
  | connecting | reconnecting => true
  | _ => false

/-- Connected, or on the way there without help. -/
def isActive (s : SessionState) : Bool := s.isLive || s.isAttempting || s = reconnected

/-- A caller may connect. -/
def canConnect : SessionState → Bool
  | idle | disconnected | error => true
  | _ => false

/-- A caller may disconnect. -/
def canDisconnect (s : SessionState) : Bool := s.isLive || s.isAttempting || s = error

def name : SessionState → String
  | idle => "IDLE"
  | connecting => "CONNECTING"
  | connected => "CONNECTED"
  | needAuth => "NEED_AUTH"
  | authenticating => "AUTHENTICATING"
  | reconnecting => "RECONNECTING"
  | reconnected => "RECONNECTED"
  | disconnecting => "DISCONNECTING"
  | disconnected => "DISCONNECTED"
  | error => "ERROR"

def label : SessionState → String
  | idle => "Idle"
  | connecting => "Connecting"
  | connected => "Connected"
  | needAuth => "NeedAuth"
  | authenticating => "Authenticating"
  | reconnecting => "Reconnecting"
  | reconnected => "Reconnected"
  | disconnecting => "Disconnecting"
  | disconnected => "Disconnected"
  | error => "Error"

def ofName? (text : String) : Option SessionState := all.find? fun s => s.name = text

def toJson (s : SessionState) : Json := .str s.name

def ofJson : Json.Decoder SessionState := Json.Decoder.variant (all.map name) ofName?

end SessionState

end Switchboard
