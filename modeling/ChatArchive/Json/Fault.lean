namespace ChatArchive

namespace Json

-- A place in the text: the line, from 1, and the byte column within it, from 0.
structure Place where
  line : Nat
  column : Nat
  deriving Repr, DecidableEq

-- The syntax faults of the reader.
inductive Slip where
  | eofList
  | eofObject
  | eofString
  | eofValue
  | expectedColon
  | expectedListCommaOrEnd
  | expectedObjectCommaOrEnd
  | expectedIdent
  | expectedValue
  | invalidEscape
  | invalidNumber
  | numberOutOfRange
  | invalidCodePoint
  | controlCharacter
  | keyMustBeString
  | loneLeadingSurrogate
  | trailingComma
  | trailingCharacters
  | unexpectedEndOfHexEscape
  | recursionLimit
  deriving Repr, DecidableEq

-- The message of a syntax fault.
def Slip.text : Slip → String
  | .eofList => "EOF while parsing a list"
  | .eofObject => "EOF while parsing an object"
  | .eofString => "EOF while parsing a string"
  | .eofValue => "EOF while parsing a value"
  | .expectedColon => "expected `:`"
  | .expectedListCommaOrEnd => "expected `,` or `]`"
  | .expectedObjectCommaOrEnd => "expected `,` or `\x7d`"
  | .expectedIdent => "expected ident"
  | .expectedValue => "expected value"
  | .invalidEscape => "invalid escape"
  | .invalidNumber => "invalid number"
  | .numberOutOfRange => "number out of range"
  | .invalidCodePoint => "invalid unicode code point"
  | .controlCharacter => "control character (\\u0000-\\u001F) found while parsing a string"
  | .keyMustBeString => "key must be a string"
  | .loneLeadingSurrogate => "lone leading surrogate in hex escape"
  | .trailingComma => "trailing comma"
  | .trailingCharacters => "trailing characters"
  | .unexpectedEndOfHexEscape => "unexpected end of hex escape"
  | .recursionLimit => "recursion limit exceeded"

-- A step from a value into one of its parts: the member under a key, or the element at an
-- index.
inductive Segment where
  | key (name : String)
  | index (i : Nat)
  deriving Repr, DecidableEq

-- The text of a path: keys joined by dots, each index in brackets after what it indexes.
def pathText : List Segment → String
  | [] => ""
  | .key k :: rest => k ++ restText rest
  | .index i :: rest => "[" ++ toString i ++ "]" ++ restText rest
where
  -- The text of the segments after the first.
  restText : List Segment → String
    | [] => ""
    | .key k :: rest => "." ++ k ++ restText rest
    | .index i :: rest => "[" ++ toString i ++ "]" ++ restText rest

-- A failed read: what went wrong, once known where, whether the text itself is malformed
-- rather than of the wrong shape, and the path from the top value to the part that failed.
structure Fault where
  message : String
  place : Option Place
  malformed : Bool
  path : List Segment
  deriving Repr, DecidableEq

def Fault.bare (message : String) : Fault := ⟨message, none, false, []⟩

def Fault.render (f : Fault) : String :=
  match f.place with
  | some p => f.message ++ " at line " ++ toString p.line ++ " column " ++ toString p.column
  | none => f.message

def Fault.renderWithPath (f : Fault) : String :=
  if f.path.isEmpty then f.render else pathText f.path ++ ": " ++ f.render

def placeOf (text : ByteArray) (i : Nat) : Place :=
  let before := (text.extract 0 i).toList
  let lineStart := before.length - ((before.reverse.takeWhile (· != 10)).length)
  ⟨1 + (before.take lineStart).count 10, i - lineStart⟩

end Json

end ChatArchive
