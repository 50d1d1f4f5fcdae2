import Switchboard.Json.Shape
import Switchboard.Time
/-!
# Configuration

The settings of a session and of its reconnection policy, with their defaults and their JSON form.
Durations are written as whole milliseconds. Absent members keep their defaults; an array may stand
for the settings in order.
-/

namespace Switchboard

/-- How the delay before a retry grows. -/
inductive Backoff where
  /-- The base delay times the attempt number. -/
  | linear
  /-- The base delay doubled for each attempt after the first. -/
  | exponential
  deriving DecidableEq, Repr, Inhabited

namespace Backoff

def name : Backoff → String
  | linear => "linear"
  | exponential => "exponential"

def ofName? (text : String) : Option Backoff :=
  [linear, exponential].find? fun s => s.name = text

def ofJson : Json.Decoder Backoff := Json.Decoder.variant [linear.name, exponential.name] ofName?

end Backoff

def Duration.ofJson : Json.Decoder Duration := fun v => (Json.Decoder.word64 v).map .ofMillis

def Duration.toJson (d : Duration) : Json := .int d.millisWord.toNat

open Json (Mismatch Decoder field? item?)

/-- How often and when a lost connection is tried again. -/
structure ReconnectConfig where
  baseDelay : Duration := .ofSeconds 1
  maxDelay : Duration := .ofSeconds 30
  /-- How many failures in a row make the session give up. -/
  maxAttempts : UInt32 := 5
  strategy : Backoff := .linear
  deriving DecidableEq, Repr, Inhabited

namespace ReconnectConfig

def standard : ReconnectConfig := {}

/-- Settings with defaults for the absent ones. -/
def ofFields (baseDelay maxDelay : Option Duration) (maxAttempts : Option UInt32)
    (strategy : Option Backoff) : ReconnectConfig :=
  ⟨baseDelay.getD standard.baseDelay, maxDelay.getD standard.maxDelay,
    maxAttempts.getD standard.maxAttempts, strategy.getD standard.strategy⟩

def ofJson : Decoder ReconnectConfig
  | .obj h => do
    let baseDelay ← field? h "baseDelay" Duration.ofJson
    let maxAttempts ← field? h "maxAttempts" Decoder.word32
    let maxDelay ← field? h "maxDelay" Duration.ofJson
    let strategy ← field? h "strategy" Backoff.ofJson
    return ofFields baseDelay maxDelay maxAttempts strategy
  | .arr items => do
    let baseDelay ← item? items 0 Duration.ofJson
    let maxDelay ← item? items 1 Duration.ofJson
    let maxAttempts ← item? items 2 Decoder.word32
    let strategy ← item? items 3 Backoff.ofJson
    if 4 < items.length then throw (.tooLong items.length)
    return ofFields baseDelay maxDelay maxAttempts strategy
  | v => throw (.wrongType v "struct ReconnectConfig")

def toJson (c : ReconnectConfig) : Json :=
  .obj [("baseDelay", c.baseDelay.toJson), ("maxDelay", c.maxDelay.toJson),
    ("maxAttempts", .int c.maxAttempts.toNat), ("strategy", .str c.strategy.name)]

end ReconnectConfig

structure SessionConfig where
  /-- The time between probes of an open connection. -/
  heartbeatInterval : Duration := .ofSeconds 30
  /-- How long an attempt may take. -/
  connectTimeout : Duration := .ofSeconds 10
  /-- How long a request waits for its response. -/
  requestTimeout : Duration := .ofSeconds 60
  reconnect : ReconnectConfig := {}
  /-- How many frames are held back while there is no open connection. -/
  maxQueuedFrames : UInt64 := 1024
  /-- What to answer when the peer asks for credentials. -/
  credentials : Option Json := none
  deriving Inhabited

namespace SessionConfig

def standard : SessionConfig := {}

/-- Settings with defaults for the absent ones. -/
def ofFields (heartbeatInterval connectTimeout requestTimeout : Option Duration)
    (reconnect : Option ReconnectConfig) (maxQueuedFrames : Option UInt64)
    (credentials : Option Json) : SessionConfig :=
  ⟨heartbeatInterval.getD standard.heartbeatInterval,
    connectTimeout.getD standard.connectTimeout, requestTimeout.getD standard.requestTimeout,
    reconnect.getD standard.reconnect, maxQueuedFrames.getD standard.maxQueuedFrames, credentials⟩

def ofJson : Decoder SessionConfig
  | .obj h => do
    let connectTimeout ← field? h "connectTimeout" Duration.ofJson
    let credentials ← field? h "credentials" (Decoder.optional Decoder.any)
    let heartbeatInterval ← field? h "heartbeatInterval" Duration.ofJson
    let maxQueuedFrames ← field? h "maxQueuedFrames" Decoder.size
    let reconnect ← field? h "reconnect" ReconnectConfig.ofJson
    let requestTimeout ← field? h "requestTimeout" Duration.ofJson
    return ofFields heartbeatInterval connectTimeout requestTimeout reconnect maxQueuedFrames
      credentials.join
  | .arr items => do
    let heartbeatInterval ← item? items 0 Duration.ofJson
    let connectTimeout ← item? items 1 Duration.ofJson
    let requestTimeout ← item? items 2 Duration.ofJson
    let reconnect ← item? items 3 ReconnectConfig.ofJson
    let maxQueuedFrames ← item? items 4 Decoder.size
    let credentials ← item? items 5 (Decoder.optional Decoder.any)
    if 6 < items.length then throw (.tooLong items.length)
    return ofFields heartbeatInterval connectTimeout requestTimeout reconnect maxQueuedFrames
      credentials.join
  | v => throw (.wrongType v "struct SessionConfig")

def toJson (c : SessionConfig) : Json :=
  .obj ([("heartbeatInterval", c.heartbeatInterval.toJson),
    ("connectTimeout", c.connectTimeout.toJson), ("requestTimeout", c.requestTimeout.toJson),
    ("reconnect", c.reconnect.toJson), ("maxQueuedFrames", .int c.maxQueuedFrames.toNat)] ++
      (c.credentials.map ("credentials", ·)).toList)

/-- Set the base delay and the strategy of the retries. -/
def withBackoff (c : SessionConfig) (baseDelay : Duration) (strategy : Backoff) :
    SessionConfig :=
  { c with reconnect := { c.reconnect with baseDelay, strategy } }

def withMaxAttempts (c : SessionConfig) (maxAttempts : UInt32) : SessionConfig :=
  { c with reconnect := { c.reconnect with maxAttempts } }

end SessionConfig

end Switchboard
