import Switchboard.Error
import Switchboard.Json.Parser
import Switchboard.Json.Printer
import Switchboard.Message.Kind
import Switchboard.Text.Utf8
/-!
# Frames

A frame is ten bytes of preamble (the magic word, the version, the type code and the length of the
header, all big-endian), a JSON object as header, and everything after it as payload. `encode`
writes one and `decode` reads one back; a decoder reports the first of: too few bytes, a wrong
magic word, a wrong version, a header that reaches beyond the end, a header that is no JSON object.
-/

namespace Switchboard

structure Frame where
  version : UInt8
  /-- The type code, which need not belong to a kind. -/
  code : UInt8
  header : Header
  /-- What follows the header, absent if nothing does. -/
  payload : Option Bytes

namespace Frame

/-- The four bytes that open every frame. -/
def magic : UInt32 := 0x54575346

/-- The version that frames are written with and must have. -/
def currentVersion : UInt8 := 1

/-- The bytes before the header. -/
def preambleLength : Nat := 10

/-- The header member that ties a response to its request. -/
def requestIdField : String := "requestId"

/-- The header member with the sender's clock. -/
def timestampField : String := "timestamp"

/-- The header member with the session id that the gateway assigned. -/
def sessionIdField : String := "sessionId"

/-- A frame of the current version. -/
def ofParts (code : UInt8) (header : Header) (payload : Option Bytes) : Frame :=
  ⟨currentVersion, code, header, payload⟩

/-- The kind of message, if the code is registered. -/
def kind? (frame : Frame) : Option MessageKind := MessageKind.ofCode? frame.code

def typeName (frame : Frame) : String := Switchboard.typeName frame.code

/-- A member of a header that holds a string. -/
def stringField? (header : Header) (name : String) : Option String :=
  (KeyMap.find? name header).bind Json.string?

/-- The request that the frame belongs to. -/
def requestId? (frame : Frame) : Option String := stringField? frame.header requestIdField

def payloadBytes (frame : Frame) : Bytes := frame.payload.getD []

/-- The four bytes of a word, the most significant first. -/
def wordBytes (word : UInt32) : Bytes :=
  [(word >>> 24).toUInt8, (word >>> 16).toUInt8, (word >>> 8).toUInt8, word.toUInt8]

/-- The word that four bytes spell. -/
def wordOf (a b c d : UInt8) : UInt32 :=
  a.toUInt32 <<< 24 ||| b.toUInt32 <<< 16 ||| c.toUInt32 <<< 8 ||| d.toUInt32

/-- A frame around a header text. -/
def assemble (code : UInt8) (header payload : Bytes) : Bytes :=
  wordBytes magic ++ currentVersion :: code :: wordBytes header.length.toUInt32 ++ header ++ payload

def headerBytes (header : Header) : Bytes := Utf8.encode (Json.obj header).render

/-- Write a frame with an object as header. -/
def encodeHeader (code : UInt8) (header : Header) (payload : Option Bytes) :
    Except Error Bytes :=
  let text := headerBytes header
  if text.length < UInt32.size then .ok (assemble code text (payload.getD []))
  else .error (.encoding s!"header too large: {text.length} bytes")

/-- Write a frame. The header must be an object. -/
def encodeValue (code : UInt8) (header : Json) (payload : Option Bytes) : Except Error Bytes :=
  match header with
  | .obj members => encodeHeader code members payload
  | v => .error (.encoding s!"header must be a JSON object, got {v.kind}")

/-- Write a frame with a header of any type, of which either a JSON value was made or a reason is
given why there is none. -/
def encodeSerialized (code : UInt8) (header : Except String Json) (payload : Option Bytes) :
    Except Error Bytes :=
  match header with
  | .ok v => encodeValue code v payload
  | .error reason => .error (.encoding s!"header serialization failed: {reason}")

/-- A map with keys of any type as a JSON value. Keys that `name?` gives no name to cannot be
members. -/
def serializeMap {κ : Type} (name? : κ → Option String) (entries : List (κ × Json)) :
    Except String Json :=
  match entries.mapM fun (key, v) => (name? key).map (·, v) with
  | some members => .ok (.obj (KeyMap.ofList members))
  | none => .error "key must be a string"

/-- Write a decoded frame, always with the current version. -/
def encode (frame : Frame) : Except Error Bytes :=
  encodeHeader frame.code frame.header frame.payload

def parseHeader (text : Bytes) : Except Error Header :=
  match Utf8.decode text with
  | .error fault => .error (.headerParse ("header is not UTF-8: " ++ fault.message))
  | .ok chars =>
    match Json.parse chars with
    | .ok (.obj members) => .ok members
    | .ok v => .error (.headerParse s!"header must be a JSON object, got {v.kind}")
    | .error fault => .error (.headerParse fault.message)

/-- Read a frame that spans all the bytes. -/
def decode : Bytes → Except Error Frame
  | m₀ :: m₁ :: m₂ :: m₃ :: version :: code :: l₀ :: l₁ :: l₂ :: l₃ :: rest =>
    let found := wordOf m₀ m₁ m₂ m₃
    let declared := (wordOf l₀ l₁ l₂ l₃).toNat
    if found ≠ magic then .error (.invalidMagic found)
    else if version ≠ currentVersion then .error (.unsupportedVersion version)
    else if rest.length < declared then .error (.headerLengthMismatch declared rest.length)
    else
      match parseHeader (rest.take declared) with
      | .error e => .error e
      | .ok header =>
        let payload := rest.drop declared
        .ok ⟨version, code, header, if payload.isEmpty then none else some payload⟩
  | short => .error (.frameTooShort short.length preambleLength)

end Frame

end Switchboard
