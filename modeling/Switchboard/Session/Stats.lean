import Switchboard.Session.Config
/-!
# Statistics

Traffic counters and latency estimates of a session, which outlive its connections. Counters stop
at the end of their word. The smoothed latency moves an eighth of the way to each sample, the
jitter a quarter of the way to the distance between them; both are computed in 64-bit words of
nanoseconds.
-/

namespace Switchboard

/-- Add to a counter that cannot exceed `limit`. -/
def saturatingAdd (limit counter amount : Nat) : Nat := min (counter + amount) limit

def maxCount64 : Nat := UInt64.size - 1

def maxCount32 : Nat := UInt32.size - 1

/-- Counters and estimates of one session. -/
structure Stats where
  framesSent : Nat := 0
  framesRecv : Nat := 0
  bytesSent : Nat := 0
  bytesRecv : Nat := 0
  /-- Frames that arrived and could not be decoded. -/
  decodeErrors : Nat := 0
  /-- Frames that did not fit the queue. -/
  droppedFrames : Nat := 0
  latency : Option Duration := none
  smoothed : Option Duration := none
  jitter : Option Duration := none
  /-- Connections won again after a loss. -/
  reconnects : Nat := 0
  deriving DecidableEq, Repr, Inhabited

namespace Stats

/-- A weighted mean of an estimate and a new value, in words: `weight` parts to one. -/
def blend (weight parts old new : UInt64) : UInt64 := (old * weight + new) / parts

/-- Take in a round trip. -/
def recordLatency (s : Stats) (sample : Duration) : Stats :=
  let smoothed := match s.smoothed with
    | some old => Duration.ofNanos (blend 7 8 old.nanosWord sample.nanosWord)
    | none => sample
  let distance := Duration.ofNanos
    ((sample.nanos - smoothed.nanos) + (smoothed.nanos - sample.nanos)).toUInt64
  let jitter := match s.jitter with
    | some old => Duration.ofNanos (blend 3 4 old.nanosWord distance.nanosWord)
    | none => distance
  { s with latency := some sample, smoothed := some smoothed, jitter := some jitter }

def recordSend (s : Stats) (bytes : Nat) : Stats :=
  { s with
    bytesSent := saturatingAdd maxCount64 s.bytesSent bytes
    framesSent := saturatingAdd maxCount64 s.framesSent 1 }

def recordReceive (s : Stats) (bytes : Nat) : Stats :=
  { s with
    bytesRecv := saturatingAdd maxCount64 s.bytesRecv bytes
    framesRecv := saturatingAdd maxCount64 s.framesRecv 1 }

def recordDecodeError (s : Stats) : Stats :=
  { s with decodeErrors := saturatingAdd maxCount64 s.decodeErrors 1 }

def recordDropped (s : Stats) : Stats :=
  { s with droppedFrames := saturatingAdd maxCount64 s.droppedFrames 1 }

def recordReconnect (s : Stats) : Stats :=
  { s with reconnects := saturatingAdd maxCount32 s.reconnects 1 }

/-- The latency for display: the smoothed one, else the latest, else a dash. -/
def latencyText (s : Stats) : String :=
  match s.smoothed.or s.latency with
  | some d => s!"{d.millis}ms"
  | none => "-"

open Json (Mismatch Decoder field? require item?)

/-- A latency in whole milliseconds, or null. -/
def latencyToJson : Option Duration → Json
  | some d => d.toJson
  | none => .null

def toJson (s : Stats) : Json :=
  .obj [("framesSent", .int s.framesSent), ("framesRecv", .int s.framesRecv),
    ("bytesSent", .int s.bytesSent), ("bytesRecv", .int s.bytesRecv),
    ("decodeErrors", .int s.decodeErrors), ("droppedFrames", .int s.droppedFrames),
    ("latency", latencyToJson s.latency), ("latencySmoothed", latencyToJson s.smoothed),
    ("jitter", latencyToJson s.jitter), ("reconnectCount", .int s.reconnects)]

def counter : Decoder Nat := Decoder.unsigned UInt64.size "u64"

def latencyOfJson : Decoder (Option Duration) := Decoder.optional Duration.ofJson

/-- What an array in place of the statistics should have been. -/
def expected : String := "struct SessionStats with 10 elements"

/-- The item at a position that an array in place of the statistics must reach. -/
def requiredItem {α : Type} (items : List Json) (index : Nat) (item : Decoder α) :
    Except Mismatch α := do
  match ← item? items index item with
  | some a => return a
  | none => throw (.tooShort index expected)

def ofJson : Decoder Stats
  | .obj h => do
    let bytesRecv ← field? h "bytesRecv" counter
    let bytesSent ← field? h "bytesSent" counter
    let decodeErrors ← field? h "decodeErrors" counter
    let droppedFrames ← field? h "droppedFrames" counter
    let framesRecv ← field? h "framesRecv" counter
    let framesSent ← field? h "framesSent" counter
    let jitter ← field? h "jitter" latencyOfJson
    let latency ← field? h "latency" latencyOfJson
    let smoothed ← field? h "latencySmoothed" latencyOfJson
    let reconnects ← field? h "reconnectCount" (Decoder.unsigned UInt32.size "u32")
    return {
      framesSent := ← require "framesSent" framesSent
      framesRecv := ← require "framesRecv" framesRecv
      bytesSent := ← require "bytesSent" bytesSent
      bytesRecv := ← require "bytesRecv" bytesRecv
      decodeErrors := ← require "decodeErrors" decodeErrors
      droppedFrames := ← require "droppedFrames" droppedFrames
      latency := ← require "latency" latency
      smoothed := ← require "latencySmoothed" smoothed
      jitter := ← require "jitter" jitter
      reconnects := ← require "reconnectCount" reconnects }
  | .arr items => do
    let framesSent ← requiredItem items 0 counter
    let framesRecv ← requiredItem items 1 counter
    let bytesSent ← requiredItem items 2 counter
    let bytesRecv ← requiredItem items 3 counter
    let decodeErrors ← requiredItem items 4 counter
    let droppedFrames ← requiredItem items 5 counter
    let latency ← requiredItem items 6 latencyOfJson
    let smoothed ← requiredItem items 7 latencyOfJson
    let jitter ← requiredItem items 8 latencyOfJson
    let reconnects ← requiredItem items 9 (Decoder.unsigned UInt32.size "u32")
    if 10 < items.length then throw (.tooLong items.length)
    return { framesSent, framesRecv, bytesSent, bytesRecv, decodeErrors, droppedFrames, latency,
             smoothed, jitter, reconnects }
  | v => throw (.wrongType v "struct SessionStats")

end Stats

end Switchboard
