import ChatArchive.Json.Number

namespace ChatArchive

namespace Json

def hexDigit? (b : UInt8) : Option Nat :=
  if 48 ≤ b && b ≤ 57 then some (b.toNat - 48)
  else if 97 ≤ b && b ≤ 102 then some (b.toNat - 87)
  else if 65 ≤ b && b ≤ 70 then some (b.toNat - 55)
  else none

-- Reads the four hex digits of a `\u` escape from index `k`: their value and the index after
-- them. Fewer than four bytes left is the end of the string.
def scanHex4 (text : ByteArray) (k : Nat) : Scanned Nat :=
  if k + 4 ≤ text.size then
    let digits := [text[k]?, text[k + 1]?, text[k + 2]?, text[k + 3]?].map
      fun b => b.bind hexDigit?
    match digits with
    | [some a, some b, some c, some d] => .ok (((a * 16 + b) * 16 + c) * 16 + d, k + 4)
    | _ => .error (.invalidEscape, k + 4)
  else .error (.eofString, text.size)

def pushCodePoint (acc : ByteArray) (n : Nat) : ByteArray :=
  acc ++ (String.singleton (Char.ofNat n)).toUTF8

def isHighSurrogate (n : Nat) : Bool := 0xD800 ≤ n && n ≤ 0xDBFF

def isLowSurrogate (n : Nat) : Bool := 0xDC00 ≤ n && n ≤ 0xDFFF

-- Reads a `\u` escape whose hex digits start at index `k`, with the second escape of a
-- surrogate pair.
def scanUnicodeEscape (text : ByteArray) (k : Nat) (acc : ByteArray) : Scanned ByteArray :=
  match scanHex4 text k with
  | .error e => .error e
  | .ok (n, k1) =>
    if isLowSurrogate n then .error (.loneLeadingSurrogate, k1)
    else if !isHighSurrogate n then .ok (pushCodePoint acc n, k1)
    else
      match text[k1]? with
      | none => .error (.eofString, k1)
      | some b1 =>
        if b1 != 92 then .error (.unexpectedEndOfHexEscape, k1 + 1)
        else
          match text[k1 + 1]? with
          | none => .error (.eofString, k1 + 1)
          | some b2 =>
            if b2 != 117 then .error (.unexpectedEndOfHexEscape, k1 + 2)
            else
              match scanHex4 text (k1 + 2) with
              | .error e => .error e
              | .ok (n2, k2) =>
                if isLowSurrogate n2 then
                  .ok (pushCodePoint acc ((n - 0xD800) * 1024 + (n2 - 0xDC00) + 0x10000), k2)
                else .error (.loneLeadingSurrogate, k2)

-- Reads the escape after a backslash, from index `k`.
def scanEscape (text : ByteArray) (k : Nat) (acc : ByteArray) : Scanned ByteArray :=
  match text[k]? with
  | none => .error (.eofString, k)
  | some ch =>
    match ch with
    | 34 => .ok (acc.push 34, k + 1)
    | 92 => .ok (acc.push 92, k + 1)
    | 47 => .ok (acc.push 47, k + 1)
    | 98 => .ok (acc.push 8, k + 1)
    | 102 => .ok (acc.push 12, k + 1)
    | 110 => .ok (acc.push 10, k + 1)
    | 114 => .ok (acc.push 13, k + 1)
    | 116 => .ok (acc.push 9, k + 1)
    | 117 => scanUnicodeEscape text (k + 1) acc
    | _ => .error (.invalidEscape, k + 1)

-- Reads the rest of a string from index `i`, the bytes so far in `acc`: its UTF-8 bytes and the
-- index after the closing quote.
def scanStringBytes (text : ByteArray) (i : Nat) (acc : ByteArray) : Scanned ByteArray :=
  if h : i < text.size then
    let c := text[i]
    if c == 34 then .ok (acc, i + 1)
    else if c == 92 then
      match scanEscape text (i + 1) acc with
      | .ok (acc', j) => if i < j then scanStringBytes text j acc' else .error (.invalidEscape, j)
      | .error e => .error e
    else if c < 32 then .error (.controlCharacter, i + 1)
    else scanStringBytes text (i + 1) (acc.push c)
  else .error (.eofString, i)
termination_by text.size - i

-- Reads a string whose body starts at index `i`: the text and the index after it.
def scanString (text : ByteArray) (i : Nat) : Scanned String :=
  match scanStringBytes text i ByteArray.empty with
  | .ok (bytes, j) =>
    match String.fromUTF8? bytes with
    | some s => .ok (s, j)
    | none => .error (.invalidCodePoint, j)
  | .error e => .error e

-- Checks the escape after a backslash of a skipped string, from index `k`.
def skipEscape (text : ByteArray) (k : Nat) : Except (Slip × Nat) Nat :=
  match text[k]? with
  | none => .error (.eofString, k)
  | some ch =>
    if ch == 34 || ch == 92 || ch == 47 || ch == 98 || ch == 102 || ch == 110 || ch == 114
        || ch == 116 then .ok (k + 1)
    else if ch == 117 then
      match scanHex4 text (k + 1) with
      | .ok (_, j) => .ok j
      | .error e => .error e
    else .error (.invalidEscape, k + 1)

-- Checks a skipped string from index `i`: the index after its closing quote.
def skipString (text : ByteArray) (i : Nat) : Except (Slip × Nat) Nat :=
  if h : i < text.size then
    let c := text[i]
    if c == 34 then .ok (i + 1)
    else if c == 92 then
      match skipEscape text (i + 1) with
      | .ok j => if i < j then skipString text j else .error (.invalidEscape, j)
      | .error e => .error e
    else if c < 32 then .error (.controlCharacter, i)
    else skipString text (i + 1)
  else .error (.eofString, i)
termination_by text.size - i

end Json

end ChatArchive
