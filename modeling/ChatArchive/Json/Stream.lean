import ChatArchive.Json.Str
import ChatArchive.Json.Value

namespace ChatArchive

namespace Json

namespace Scan

def number (positive : Bool) : Scan Number := do
  match scanNumber (← read) positive (← get).pos with
  | .ok (n, j) => jump j; pure n
  | .error (s, i) => jump i; slipAt i s

def string : Scan String := do
  match scanString (← read) (← get).pos with
  | .ok (s, j) => jump j; pure s
  | .error (s, i) => jump i; slipAt i s

def skipWith (scanner : ByteArray → Nat → Except (Slip × Nat) Nat) : Scan Unit := do
  match scanner (← read) (← get).pos with
  | .ok j => jump j
  | .error (s, i) => jump i; slipAt i s

def fuel : Scan Nat := do return (← read).size + 1

def colon : Scan Unit := do
  match ← blank with
  | some 58 => advance
  | some _ => slipAhead .expectedColon
  | none => slipAhead .eofObject

-- The end of an object: its closing brace.
def closeObject : Scan Unit := do
  match ← blank with
  | some 125 => advance
  | some 44 => slipAhead .trailingComma
  | some _ => slipAhead .trailingCharacters
  | none => slipAhead .eofObject

-- The end of an array: its closing bracket. A comma there steps over, then tells a trailing
-- comma from more elements.
def closeArray : Scan Unit := do
  match ← blank with
  | some 93 => advance
  | some 44 =>
    advance
    match ← blank with
    | some 93 => slipAhead .trailingComma
    | _ => slipAhead .trailingCharacters
  | some _ => slipAhead .trailingCharacters
  | none => slipAhead .eofList

-- The outcome of a bracketed body, then the closing of the bracket: the body's fault comes
-- first, the closing still steps over what it can.
def closeAfter (body : Except Fault α) (close : Scan Unit) : Scan α := do
  let closed ← attempt close
  match body, closed with
  | .error f, _ => throw f
  | .ok _, .error f => throw f
  | .ok a, .ok () => pure a

-- Reads the key of a member once the byte after the separator is known.
def keyAt : Option UInt8 → Scan (Option String)
  | some 34 => do
    advance
    return some (← string)
  | some 125 => slipAhead .trailingComma
  | some _ => slipAhead .keyMustBeString
  | none => slipAhead .eofValue

-- Finds the next member of an object: its key, or nothing at the closing brace (which is left
-- for `closeObject`). `first` tells that no member has been seen yet.
def nextKey (first : Bool) : Scan (Option String) := do
  match ← blank with
  | some 125 => pure none
  | some 44 =>
    if first then keyAt (some 44)
    else
      advance
      keyAt (← blank)
  | some b => if first then keyAt (some b) else slipAhead .expectedObjectCommaOrEnd
  | none => slipAhead .eofObject

def elementAt : Option UInt8 → Scan Bool
  | some 93 => slipAhead .trailingComma
  | some _ => pure true
  | none => slipAhead .eofValue

-- Finds the next element of an array: `true` with the cursor on it, or `false` at the closing
-- bracket (which is left for `closeArray`). `first` tells that no element has been seen yet.
def nextElement (first : Bool) : Scan Bool := do
  match ← blank with
  | some 93 => pure false
  | some 44 =>
    if first then elementAt (some 44)
    else
      advance
      elementAt (← blank)
  | some b => if first then elementAt (some b) else slipAhead .expectedListCommaOrEnd
  | none => slipAhead .eofList

mutual

-- Skips one value, checking only its syntax.
def skipValue : Nat → Scan Unit
  | 0 => slip .recursionLimit
  | fuel + 1 => do
    match ← blank with
    | none => slipAhead .eofValue
    | some b =>
      if b == 110 then advance; expectWord [117, 108, 108]
      else if b == 116 then advance; expectWord [114, 117, 101]
      else if b == 102 then advance; expectWord [97, 108, 115, 101]
      else if b == 45 then advance; skipWith skipNumber
      else if isDigit b then skipWith skipNumber
      else if b == 34 then advance; skipWith skipString
      else if b == 91 then
        advance
        match ← blank with
        | some 93 => advance
        | some _ => skipValue fuel; skipItems fuel
        | none => slipAhead .eofList
      else if b == 123 then
        advance
        match ← blank with
        | some 125 => advance
        | some _ => skipMember fuel
        | none => slipAhead .eofObject
      else slipAhead .expectedValue

-- Skips the rest of an array after an element.
def skipItems : Nat → Scan Unit
  | 0 => slip .recursionLimit
  | fuel + 1 => do
    match ← blank with
    | some 44 => advance; skipValue fuel; skipItems fuel
    | some 93 => advance
    | some _ => slipAhead .expectedListCommaOrEnd
    | none => slipAhead .eofList

-- Skips one member of an object, its key first, and the rest of the object.
def skipMember : Nat → Scan Unit
  | 0 => slip .recursionLimit
  | fuel + 1 => do
    match ← blank with
    | some 34 => advance; skipWith skipString
    | some _ => slipAhead .keyMustBeString
    | none => slipAhead .eofObject
    colon
    skipValue fuel
    match ← blank with
    | some 44 => advance; skipMember fuel
    | some 125 => advance
    | some _ => slipAhead .expectedObjectCommaOrEnd
    | none => slipAhead .eofObject

end

def skip : Scan Unit := do skipValue (← fuel)

mutual

-- Reads one value whole.
def valueWith : Nat → Scan Value
  | 0 => slip .recursionLimit
  | fuel + 1 => settle do
    match ← blank with
    | none => slipAhead .eofValue
    | some b =>
      if b == 110 then advance; expectWord [117, 108, 108]; pure .null
      else if b == 116 then advance; expectWord [114, 117, 101]; pure (.bool true)
      else if b == 102 then advance; expectWord [97, 108, 115, 101]; pure (.bool false)
      else if b == 45 then advance; return .num (← number false)
      else if isDigit b then return .num (← number true)
      else if b == 34 then advance; return .str (← string)
      else if b == 91 then
        let body ← nested (itemsWith fuel true [])
        return .arr (← closeAfter body closeArray)
      else if b == 123 then
        let body ← nested (membersWith fuel true [])
        return .obj (← closeAfter body closeObject)
      else slipAhead .expectedValue

-- Reads the elements of an array up to its closing bracket, after those in `acc`.
def itemsWith : Nat → Bool → List Value → Scan (List Value)
  | 0, _, _ => slip .recursionLimit
  | fuel + 1, first, acc => do
    if ← nextElement first then
      let v ← valueWith fuel
      itemsWith fuel false (v :: acc)
    else pure acc.reverse

-- Reads the members of an object up to its closing brace, after those in `acc`.
def membersWith : Nat → Bool → List (String × Value) → Scan (List (String × Value))
  | 0, _, _ => slip .recursionLimit
  | fuel + 1, first, acc => do
    match ← nextKey first with
    | some k =>
      colon
      let v ← valueWith fuel
      membersWith fuel false ((k, v) :: acc)
    | none => pure acc.reverse

end

def value : Scan Value := do valueWith (← fuel)

def restItems (first : Bool) : Scan (List Value) := do itemsWith (← fuel) first []

-- Fails on the value at the cursor, which is not of the kind `expected` describes: a scalar is
-- read first so that the message can show it.
def mismatch (expected : String) : Scan α := settle do
  let b ← peekOrNul
  if b == 110 then advance; expectWord [117, 108, 108]; refuse (invalidType .null expected)
  else if b == 116 then advance; expectWord [114, 117, 101]; refuse (invalidType (.bool true) expected)
  else if b == 102 then
    advance; expectWord [97, 108, 115, 101]; refuse (invalidType (.bool false) expected)
  else if b == 45 then advance; refuse (invalidType (← number false).found expected)
  else if isDigit b then refuse (invalidType (← number true).found expected)
  else if b == 34 then advance; refuse (invalidType (.str (← string)) expected)
  else if b == 91 then refuse (invalidType .seq expected)
  else if b == 123 then refuse (invalidType .map expected)
  else slipAhead .expectedValue

-- Reads a number and checks it with `accept`.
def numeric (expected : String) (accept : Number → Except String α) : Scan α := settle do
  match ← blank with
  | none => slipAhead .eofValue
  | some b =>
    let n ← if b == 45 then do advance; number false
      else if isDigit b then number true
      else mismatch expected
    match accept n with
    | .ok a => pure a
    | .error m => refuse m

-- Reads `true` or `false`.
def bool : Scan Bool := settle do
  match ← blank with
  | none => slipAhead .eofValue
  | some b =>
    if b == 116 then advance; expectWord [114, 117, 101]; pure true
    else if b == 102 then advance; expectWord [97, 108, 115, 101]; pure false
    else mismatch "a boolean"

-- Reads a string and checks it with `accept`; anything else is not of the kind `expected`
-- describes.
def text (expected : String) (accept : String → Except String α) : Scan α := settle do
  match ← blank with
  | none => slipAhead .eofValue
  | some b =>
    if b == 34 then
      advance
      match accept (← string) with
      | .ok a => pure a
      | .error m => refuse m
    else mismatch expected

def optional (r : Scan α) : Scan (Option α) := do
  match ← blank with
  | some 110 => advance; expectWord [117, 108, 108]; pure none
  | _ => some <$> r

-- Reads the rest of an array with `r`, after the elements in `acc`.
def elementsWith (r : Scan α) : Nat → Bool → List α → Scan (List α)
  | 0, _, _ => slip .recursionLimit
  | fuel + 1, first, acc => do
    if ← nextElement first then
      let v ← under (.index acc.length) r
      elementsWith r fuel false (v :: acc)
    else pure acc.reverse

-- Reads an array of values each read by `r`.
def list (r : Scan α) : Scan (List α) := settle do
  match ← blank with
  | none => slipAhead .eofValue
  | some b =>
    if b == 91 then
      let body ← nested (do elementsWith r (← fuel) true [])
      closeAfter body closeArray
    else mismatch "a sequence"

-- Reads a value that is an object or an array, visiting the members with `ofObject` or the
-- elements with `ofArray`; anything else is not of the kind `expected` describes.
def compound (expected : String) (ofArray ofObject : Scan α) : Scan α := settle do
  match ← blank with
  | none => slipAhead .eofValue
  | some b =>
    if b == 91 then closeAfter (← nested ofArray) closeArray
    else if b == 123 then closeAfter (← nested ofObject) closeObject
    else mismatch expected

def finishText : Scan Unit := do
  match ← blank with
  | some _ => slipAhead .trailingCharacters
  | none => pure ()

end Scan

end Json

end ChatArchive
