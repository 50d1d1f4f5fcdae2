import Switchboard.Json.Value
/-!
# Reading JSON text

`Json.parse` reads one value that spans the whole text, or gives the first `Json.Fault` that a
reader from left to right meets. Containers nest at most 127 deep. Recursion is on the depth that
is left; within a container it is on the length of the text that is left.
-/

namespace Switchboard

namespace Json

/-- Why a text is not JSON. -/
inductive Fault where
  | listCut
  | objectCut
  | stringCut
  | valueCut
  | expectedColon
  | expectedListComma
  | expectedObjectComma
  | expectedWord
  | expectedValue
  | invalidEscape
  | invalidNumber
  | numberOutOfRange
  | unpairedHexEscape
  | loneSurrogate
  | controlCharacter
  | keyNotString
  | trailingComma
  | trailingCharacters
  | tooDeep
  deriving DecidableEq, Repr

/-- The wording of a fault, without the line and the column at which it was met. -/
def Fault.message : Fault → String
  | listCut => "EOF while parsing a list"
  | objectCut => "EOF while parsing an object"
  | stringCut => "EOF while parsing a string"
  | valueCut => "EOF while parsing a value"
  | expectedColon => "expected `:`"
  | expectedListComma => "expected `,` or `]`"
  | expectedObjectComma => "expected `,` or `\x7d`"
  | expectedWord => "expected ident"
  | expectedValue => "expected value"
  | invalidEscape => "invalid escape"
  | invalidNumber => "invalid number"
  | numberOutOfRange => "number out of range"
  | unpairedHexEscape => "unexpected end of hex escape"
  | loneSurrogate => "lone leading surrogate in hex escape"
  | controlCharacter => "control character (\\u0000-\\u001F) found while parsing a string"
  | keyNotString => "key must be a string"
  | trailingComma => "trailing comma"
  | trailingCharacters => "trailing characters"
  | tooDeep => "recursion limit exceeded"

/-- What a reader makes of the text in front of it: a result and the text after it. -/
abbrev Reading (α : Type) := Except Fault (α × List Char)

namespace Reading

variable {α β : Type}

/-- Read on from where a reading ended. -/
def andThen (r : Reading α) (next : α → List Char → Reading β) : Reading β :=
  match r with
  | .ok (a, rest) => next a rest
  | .error e => .error e

def map (f : α → β) (r : Reading α) : Reading β := andThen r fun a rest => .ok (f a, rest)

@[simp] theorem andThen_ok (a : α) (rest : List Char) (next : α → List Char → Reading β) :
    andThen (.ok (a, rest)) next = next a rest := rfl

@[simp] theorem andThen_error (e : Fault) (next : α → List Char → Reading β) :
    andThen (.error e) next = .error e := rfl

@[simp] theorem map_ok (f : α → β) (a : α) (rest : List Char) :
    map f (.ok (a, rest)) = .ok (f a, rest) := rfl

@[simp] theorem map_error (f : α → β) (e : Fault) : map f (.error e) = .error e := rfl

end Reading

/-- The depth a text starts with; entering a container takes one, and none may be left over. -/
def depthLimit : Nat := 128

/-- The characters that may stand between tokens. -/
def isBlank (c : Char) : Bool := c = ' ' || c = '\t' || c = '\n' || c = '\r'

def skipBlanks (s : List Char) : List Char := s.dropWhile isBlank

/-- A value spelt by a word, whose first letter has been read. -/
def readWord (value : Json) : (word : List Char) → List Char → Reading Json
  | [], s => .ok (value, s)
  | _ :: _, [] => .error .valueCut
  | w :: word, c :: s => if c = w then readWord value word s else .error .expectedWord

/-! ## Numbers -/

def digitValue (c : Char) : Nat := c.toNat - '0'.toNat

def startsWithDigit : List Char → Bool
  | c :: _ => c.isDigit
  | [] => false

/-- The digits that fit an unsigned 64-bit word after `significand`: the word, how many digits
were taken, and the text after them. -/
def takeDigits (significand taken : Nat) : List Char → Nat × Nat × List Char
  | [] => (significand, taken, [])
  | c :: rest =>
    if c.isDigit ∧ significand * 10 + digitValue c < UInt64.size then
      takeDigits (significand * 10 + digitValue c) (taken + 1) rest
    else (significand, taken, c :: rest)

def readFloat (negative : Bool) (significand : Nat) (e : Int) (rest : List Char) : Reading Json :=
  match Binary64.ofDecimal? negative significand e with
  | some x => .ok (.float x, rest)
  | none => .error .numberOutOfRange

/-- The digits of an exponent, after its mark. -/
def readExponent (negative : Bool) (significand : Nat) (e : Int) (s : List Char) :
    Reading Json :=
  let (down, s) := match s with
    | '+' :: rest => (false, rest)
    | '-' :: rest => (true, rest)
    | s => (false, s)
  match s with
  | [] => .error .valueCut
  | c :: rest =>
    if c.isDigit then
      let digits := c :: rest.takeWhile Char.isDigit
      let size : Int := Nat.ofDigitChars 10 digits 0
      readFloat negative significand (if down then e - size else e + size)
        (rest.dropWhile Char.isDigit)
    else .error .invalidNumber

/-- What may follow the digits of a double: an exponent or nothing. -/
def readTail (negative : Bool) (significand : Nat) (e : Int) (s : List Char) : Reading Json :=
  match s with
  | 'e' :: rest => readExponent negative significand e rest
  | 'E' :: rest => readExponent negative significand e rest
  | s => readFloat negative significand e s

/-- The digits after the point. Those that no longer fit the significand are passed over. -/
def readFraction (negative : Bool) (significand : Nat) (e : Int) (s : List Char) :
    Reading Json :=
  let (significand, taken, rest) := takeDigits significand 0 s
  if startsWithDigit rest then
    readTail negative significand (e - taken) (rest.dropWhile Char.isDigit)
  else if taken = 0 then
    match rest with
    | [] => .error .valueCut
    | _ :: _ => .error .invalidNumber
  else readTail negative significand (e - taken) rest

/-- A whole number: an integer if it fits the 64-bit ranges, and a double otherwise. Minus zero is
a double, since no integer has a signed zero. -/
def ofWhole (negative : Bool) (significand : Nat) : Json :=
  if !negative then .int significand
  else if significand = 0 ∨ -(significand : Int) < minInteger then
    .float (Binary64.ofNat significand).negate
  else .int (-significand)

/-- What follows the whole digits of a number. -/
def readAfterWhole (negative : Bool) (significand : Nat) (s : List Char) : Reading Json :=
  match s with
  | '.' :: rest => readFraction negative significand 0 rest
  | 'e' :: rest => readExponent negative significand 0 rest
  | 'E' :: rest => readExponent negative significand 0 rest
  | s => .ok (ofWhole negative significand, s)

/-- Whole digits beyond the 64-bit range only shift the significand. -/
def readLongWhole (negative : Bool) (significand : Nat) (s : List Char) : Reading Json :=
  let shift := (s.takeWhile Char.isDigit).length
  match s.dropWhile Char.isDigit with
  | '.' :: rest => readFraction negative significand shift rest
  | s => readTail negative significand shift s

def readNumber (negative : Bool) (s : List Char) : Reading Json :=
  match s with
  | [] => .error .valueCut
  | c :: rest =>
    if c = '0' then
      if startsWithDigit rest then .error .invalidNumber else readAfterWhole negative 0 rest
    else if c.isDigit then
      let (significand, _, rest) := takeDigits (digitValue c) 1 rest
      if startsWithDigit rest then readLongWhole negative significand rest
      else readAfterWhole negative significand rest
    else .error .invalidNumber

/-! ## Strings -/

/-- The value of a hexadecimal digit of either case. -/
def hexValue? (c : Char) : Option Nat :=
  if c.isDigit then some (c.toNat - '0'.toNat)
  else if 'a' ≤ c ∧ c ≤ 'f' then some (c.toNat - 'a'.toNat + 10)
  else if 'A' ≤ c ∧ c ≤ 'F' then some (c.toNat - 'A'.toNat + 10)
  else none

/-- The 16-bit unit that four hexadecimal digits spell. -/
def hexUnit? (a b c d : Char) : Option Nat := do
  let a ← hexValue? a
  let b ← hexValue? b
  let c ← hexValue? c
  let d ← hexValue? d
  return ((a * 16 + b) * 16 + c) * 16 + d

/-- Fewer than four characters where four hexadecimal digits are due: the text is cut, unless the
characters make up four bytes, of which one is then no digit. -/
def shortHexFault (s : List Char) : Fault :=
  if (String.ofList s).utf8ByteSize < 4 then .stringCut else .invalidEscape

/-- The character behind a one-letter escape. -/
def unescape? (c : Char) : Option Char :=
  if c = '"' ∨ c = '\\' ∨ c = '/' then some c
  else if c = 'b' then some '\x08'
  else if c = 'f' then some '\x0c'
  else if c = 'n' then some '\n'
  else if c = 'r' then some '\r'
  else if c = 't' then some '\t'
  else none

def isHighSurrogate (n : Nat) : Bool := 0xD800 ≤ n && n ≤ 0xDBFF

def isLowSurrogate (n : Nat) : Bool := 0xDC00 ≤ n && n ≤ 0xDFFF

/-- The character behind a pair of surrogates. -/
def ofSurrogates (high low : Nat) : Char :=
  Char.ofNat ((high - 0xD800) * 0x400 + (low - 0xDC00) + 0x10000)

/-- The characters of a string up to its closing quote. -/
def readString : List Char → Reading (List Char)
  | [] => .error .stringCut
  | c :: rest =>
    if c = '"' then .ok ([], rest)
    else if c = '\\' then
      match rest with
      | [] => .error .stringCut
      | e :: rest =>
        if e = 'u' then
          match rest with
          | h₁ :: h₂ :: h₃ :: h₄ :: rest =>
            match hexUnit? h₁ h₂ h₃ h₄ with
            | none => .error .invalidEscape
            | some n =>
              if isLowSurrogate n then .error .loneSurrogate
              else if isHighSurrogate n then
                match rest with
                | [] => .error .stringCut
                | '\\' :: rest =>
                  match rest with
                  | [] => .error .stringCut
                  | 'u' :: rest =>
                    match rest with
                    | l₁ :: l₂ :: l₃ :: l₄ :: rest =>
                      match hexUnit? l₁ l₂ l₃ l₄ with
                      | none => .error .invalidEscape
                      | some m =>
                        if isLowSurrogate m then Reading.map (ofSurrogates n m :: ·) (readString rest)
                        else .error .loneSurrogate
                    | short => .error (shortHexFault short)
                  | _ :: _ => .error .unpairedHexEscape
                | _ :: _ => .error .unpairedHexEscape
              else Reading.map (Char.ofNat n :: ·) (readString rest)
          | short => .error (shortHexFault short)
        else
          match unescape? e with
          | some d => Reading.map (d :: ·) (readString rest)
          | none => .error .invalidEscape
    else if c.toNat < 0x20 then .error .controlCharacter
    else Reading.map (c :: ·) (readString rest)

/-! ## Values -/

/-- The items after the first, each behind a comma, up to the closing bracket. -/
def readMoreItems (item : List Char → Reading Json) : Nat → List Char → Reading (List Json)
  | 0, _ => .error .listCut
  | fuel + 1, s =>
    match skipBlanks s with
    | [] => .error .listCut
    | c :: rest =>
      if c = ']' then .ok ([], rest)
      else if c = ',' then
        match skipBlanks rest with
        | [] => .error .valueCut
        | d :: rest =>
          if d = ']' then .error .trailingComma
          else
            Reading.andThen (item (d :: rest)) fun v s =>
              Reading.map (v :: ·) (readMoreItems item fuel s)
      else .error .expectedListComma

/-- The items of an array, after its opening bracket. -/
def readItems (item : List Char → Reading Json) (s : List Char) : Reading (List Json) :=
  match skipBlanks s with
  | [] => .error .listCut
  | c :: rest =>
    if c = ']' then .ok ([], rest)
    else
      Reading.andThen (item (c :: rest)) fun v s =>
        Reading.map (v :: ·) (readMoreItems item (s.length + 1) s)

/-- A member, after the quote that opens its key. -/
def readMember (item : List Char → Reading Json) (s : List Char) : Reading (String × Json) :=
  Reading.andThen (readString s) fun key s =>
    match skipBlanks s with
    | [] => .error .objectCut
    | c :: rest =>
      if c = ':' then Reading.map (String.ofList key, ·) (item rest) else .error .expectedColon

/-- The members after the first, each behind a comma, up to the closing brace. -/
def readMoreMembers (item : List Char → Reading Json) :
    Nat → List Char → Reading (List (String × Json))
  | 0, _ => .error .objectCut
  | fuel + 1, s =>
    match skipBlanks s with
    | [] => .error .objectCut
    | c :: rest =>
      if c = '}' then .ok ([], rest)
      else if c = ',' then
        match skipBlanks rest with
        | [] => .error .valueCut
        | d :: rest =>
          if d = '"' then
            Reading.andThen (readMember item rest) fun m s =>
              Reading.map (m :: ·) (readMoreMembers item fuel s)
          else if d = '}' then .error .trailingComma
          else .error .keyNotString
      else .error .expectedObjectComma

/-- The members of an object, after its opening brace. -/
def readMembers (item : List Char → Reading Json) (s : List Char) :
    Reading (List (String × Json)) :=
  match skipBlanks s with
  | [] => .error .objectCut
  | c :: rest =>
    if c = '}' then .ok ([], rest)
    else if c = '"' then
      Reading.andThen (readMember item rest) fun m s =>
        Reading.map (m :: ·) (readMoreMembers item (s.length + 1) s)
    else .error .keyNotString

/-- A value, blanks before it skipped, inside a container that leaves `depth` levels. -/
def readValue : (depth : Nat) → List Char → Reading Json
  | 0, _ => .error .tooDeep
  | depth + 1, s =>
    match skipBlanks s with
    | [] => .error .valueCut
    | c :: rest =>
      if c = 'n' then readWord .null ['u', 'l', 'l'] rest
      else if c = 't' then readWord (.bool true) ['r', 'u', 'e'] rest
      else if c = 'f' then readWord (.bool false) ['a', 'l', 's', 'e'] rest
      else if c = '"' then Reading.map (fun cs => .str (String.ofList cs)) (readString rest)
      else if c = '-' then readNumber true rest
      else if c.isDigit then readNumber false (c :: rest)
      else if c = '[' then
        if depth = 0 then .error .tooDeep
        else Reading.map .arr (readItems (readValue depth) rest)
      else if c = '{' then
        if depth = 0 then .error .tooDeep
        else Reading.map object (readMembers (readValue depth) rest)
      else .error .expectedValue

def parse (s : List Char) : Except Fault Json :=
  match readValue depthLimit s with
  | .error e => .error e
  | .ok (v, rest) => if (skipBlanks rest).isEmpty then .ok v else .error .trailingCharacters

end Json

end Switchboard
