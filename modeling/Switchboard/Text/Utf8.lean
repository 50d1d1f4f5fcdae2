/-!
# UTF-8 text

Characters to bytes by `encode`, bytes to characters by `decode`. The decoder refuses overlong
forms, surrogates and values beyond U+10FFFF, and its `Fault` tells where the text stops being
UTF-8 and how many bytes of the broken sequence could still have started a character.
-/

namespace Switchboard

abbrev Bytes := List UInt8

namespace Utf8

/-- Where a byte string stops being UTF-8. -/
inductive Fault where
  /-- The `length` bytes from `index` start no character. -/
  | invalid (length index : Nat)
  /-- The text ends inside the character that starts at `index`. -/
  | incomplete (index : Nat)
  deriving DecidableEq, Repr

def Fault.message : Fault → String
  | .invalid length index => s!"invalid utf-8 sequence of {length} bytes from index {index}"
  | .incomplete index => s!"incomplete utf-8 byte sequence from index {index}"

def encode (text : List Char) : Bytes := text.flatMap String.utf8EncodeChar

def isTail (b : UInt8) : Bool := 0x80 ≤ b && b ≤ 0xBF

/-- Which second bytes may follow the first byte of a three-byte character. -/
def secondOfThree (first second : UInt8) : Bool :=
  if first = 0xE0 then 0xA0 ≤ second && second ≤ 0xBF
  else if first = 0xED then 0x80 ≤ second && second ≤ 0x9F
  else isTail second

/-- Which second bytes may follow the first byte of a four-byte character. -/
def secondOfFour (first second : UInt8) : Bool :=
  if first = 0xF0 then 0x90 ≤ second && second ≤ 0xBF
  else if first = 0xF4 then 0x80 ≤ second && second ≤ 0x8F
  else isTail second

/-- The low bits that a continuation byte carries. -/
def tailBits (b : UInt8) : Nat := b.toNat - 0x80

/-- Decode from byte number `index` on. -/
def decodeFrom (index : Nat) : Bytes → Except Fault (List Char)
  | [] => .ok []
  | a :: rest =>
    if a < 0x80 then (Char.ofNat a.toNat :: ·) <$> decodeFrom (index + 1) rest
    else if 0xC2 ≤ a && a ≤ 0xDF then
      match rest with
      | [] => .error (.incomplete index)
      | b :: rest =>
        if isTail b then
          (Char.ofNat ((a.toNat - 0xC0) * 64 + tailBits b) :: ·) <$> decodeFrom (index + 2) rest
        else .error (.invalid 1 index)
    else if 0xE0 ≤ a && a ≤ 0xEF then
      match rest with
      | [] => .error (.incomplete index)
      | b :: rest =>
        if secondOfThree a b then
          match rest with
          | [] => .error (.incomplete index)
          | c :: rest =>
            if isTail c then
              (Char.ofNat (((a.toNat - 0xE0) * 64 + tailBits b) * 64 + tailBits c) :: ·) <$>
                decodeFrom (index + 3) rest
            else .error (.invalid 2 index)
        else .error (.invalid 1 index)
    else if 0xF0 ≤ a && a ≤ 0xF4 then
      match rest with
      | [] => .error (.incomplete index)
      | b :: rest =>
        if secondOfFour a b then
          match rest with
          | [] => .error (.incomplete index)
          | c :: rest =>
            if isTail c then
              match rest with
              | [] => .error (.incomplete index)
              | d :: rest =>
                if isTail d then
                  (Char.ofNat ((((a.toNat - 0xF0) * 64 + tailBits b) * 64 + tailBits c) * 64 +
                    tailBits d) :: ·) <$> decodeFrom (index + 4) rest
                else .error (.invalid 3 index)
            else .error (.invalid 2 index)
        else .error (.invalid 1 index)
    else .error (.invalid 1 index)

def decode (bytes : Bytes) : Except Fault (List Char) := decodeFrom 0 bytes

end Utf8

end Switchboard
