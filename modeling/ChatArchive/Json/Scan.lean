import ChatArchive.Json.Fault

namespace ChatArchive

namespace Json

-- Where the reader stands: the index of the next byte and the nesting still allowed.
structure Cursor where
  pos : Nat
  depth : Nat
  deriving Repr

def nestingLimit : Nat := 128

-- A reader over the bytes of one text. The cursor survives a failure.
abbrev Scan := ReaderT ByteArray (ExceptT Fault (StateM Cursor))

def Scan.run (r : Scan α) (text : ByteArray) : Except Fault α × Cursor :=
  (r text).run.run ⟨0, nestingLimit⟩

-- The index of the first byte at or after `i` that is not JSON whitespace.
def skipBlank (text : ByteArray) (i : Nat) : Nat :=
  if h : i < text.size then
    let c := text[i]
    if c == 32 || c == 10 || c == 9 || c == 13 then skipBlank text (i + 1) else i
  else i
termination_by text.size - i

-- The index of the first byte at or after `i` that is not an ASCII digit.
def skipDigits (text : ByteArray) (i : Nat) : Nat :=
  if h : i < text.size then
    let c := text[i]
    if 48 ≤ c && c ≤ 57 then skipDigits text (i + 1) else i
  else i
termination_by text.size - i

namespace Scan

def peek? : Scan (Option UInt8) := do
  let text ← read
  return text[(← get).pos]?

def peekOrNul : Scan UInt8 := do
  return (← peek?).getD 0

def advance : Scan Unit := modify fun c => { c with pos := c.pos + 1 }

def jump (i : Nat) : Scan Unit := modify fun c => { c with pos := i }

def next? : Scan (Option UInt8) := do
  let b ← peek?
  if b.isSome then advance
  return b

def blank : Scan (Option UInt8) := do
  let text ← read
  jump (skipBlank text (← get).pos)
  peek?

def slipAt (i : Nat) (s : Slip) : Scan α := do
  throw ⟨s.text, some (placeOf (← read) i), true, []⟩

def slip (s : Slip) : Scan α := do
  slipAt (← get).pos s

def slipAhead (s : Slip) : Scan α := do
  slipAt (min (← read).size ((← get).pos + 1)) s

def refuse (message : String) : Scan α := throw (Fault.bare message)

def settle (r : Scan α) : Scan α :=
  tryCatch r fun f => do
    match f.place with
    | some _ => throw f
    | none => throw { f with place := some (placeOf (← read) (← get).pos) }

def under (seg : Segment) (r : Scan α) : Scan α :=
  tryCatch r fun f => throw { f with path := seg :: f.path }

def attempt (r : Scan α) : Scan (Except Fault α) :=
  tryCatch (Except.ok <$> r) fun f => pure (Except.error f)

def ofExcept (e : Except Fault α) : Scan α :=
  match e with
  | .ok a => pure a
  | .error f => throw f

-- Checks that the next bytes spell `word`, stepping over them; a wrong byte is a fault after
-- it, the end of the text a fault at the end.
def expectWord (word : List UInt8) : Scan Unit := do
  match word with
  | [] => pure ()
  | w :: rest =>
    match ← next? with
    | none => slip .eofValue
    | some b => if b == w then expectWord rest else slip .expectedIdent

-- Opens a bracket: spends one level of nesting, refusing the bracket when none is left, steps
-- over it and runs `body`, giving the level back afterwards whatever `body` did.
def nested (body : Scan α) : Scan (Except Fault α) := do
  let c ← get
  if c.depth ≤ 1 then slipAhead .recursionLimit
  set { c with depth := c.depth - 1 }
  advance
  let r ← attempt body
  modify fun c => { c with depth := c.depth + 1 }
  return r

end Scan

end Json

end ChatArchive
