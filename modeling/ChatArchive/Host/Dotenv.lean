import ChatArchive.Text.Space

namespace ChatArchive

namespace Dotenv

-- Where a scan for the end of a line stands.
inductive Scan where
  | complete
  | blank
  | escape
  | strongOpen
  | weakOpen
  | weakOpenEscape
  deriving Repr, DecidableEq

-- Scans a piece of a line from `st`: the state at its end, or the index of a `#` after a blank,
-- which starts a comment.
def scanEnd : Scan → List Char → Nat → Sum Scan Nat
  | st, [], _ => .inl st
  | st, c :: more, i =>
    let opened := fun (other : Scan) =>
      if c == '\\' then Scan.escape else if c == '"' then .weakOpen
      else if c == '\x27' then .strongOpen else other
    match st with
    | .blank => if c == '#' then .inr i else scanEnd (opened .complete) more (i + 1)
    | .escape => scanEnd .complete more (i + 1)
    | .complete =>
      scanEnd (if isSpace c && c != '\n' && c != '\r' then .blank else opened .complete) more (i + 1)
    | .weakOpen =>
      scanEnd (if c == '\\' then .weakOpenEscape else if c == '"' then .complete else .weakOpen)
        more (i + 1)
    | .weakOpenEscape => scanEnd .weakOpen more (i + 1)
    | .strongOpen => scanEnd (if c == '\x27' then .complete else .strongOpen) more (i + 1)

def physicalLines (cs : List Char) : List (List Char) :=
  let (done, current) := cs.foldl (fun (acc : List (List Char) × List Char) c =>
    if c == '\n' then ((c :: acc.2).reverse :: acc.1, []) else (acc.1, c :: acc.2)) ([], [])
  (if current.isEmpty then done else current.reverse :: done).reverse

def dropEnding (cs : List Char) : List Char :=
  match cs.reverse with
  | '\n' :: '\r' :: rest => rest.reverse
  | '\n' :: rest => rest.reverse
  | _ => cs

-- Joins physical lines into logical ones: each is a line to read, or nothing where the text cannot
-- be read any further, which ends the list.
def logicalLines : List (List Char) → List Char → Scan → List (Option (List Char))
  | [], [], _ => []
  | [], _, _ => [none]
  | line :: more, buf, st =>
    let joined := buf ++ line
    if (joined.dropWhile isSpace).head? == some '#' then some [] :: logicalLines more [] .complete
    else
      match scanEnd st line 0 with
      | .inr i => some (buf ++ line.take i) :: logicalLines more [] .complete
      | .inl .complete => some (dropEnding joined) :: logicalLines more [] .complete
      | .inl st => logicalLines more joined st

-- How a `$` substitution is being read.
inductive Substitution where
  | off
  | bare
  | braced
  deriving Repr, DecidableEq

-- The state of reading a value.
structure ValueScan where
  strong : Bool
  weak : Bool
  escaped : Bool
  expectingEnd : Bool
  out : String
  mode : Substitution
  name : String

def isAsciiAlnum (c : Char) : Bool := c.isAlpha || c.isDigit

-- Reads the characters of a value; `lookup` gives the text a substitution stands for. Nothing
-- when the value is malformed.
def scanValue (lookup : String → String) : ValueScan → List Char → Option ValueScan
  | v, [] => some v
  | v, c :: more =>
    if v.expectingEnd then
      if c == ' ' || c == '\t' then scanValue lookup v more
      else if c == '#' then some v
      else none
    else if v.escaped then
      if c == '\\' || c == '\x27' || c == '"' || c == '$' || c == ' ' then
        scanValue lookup { v with out := v.out.push c, escaped := false } more
      else if c == 'n' then scanValue lookup { v with out := v.out.push '\n', escaped := false } more
      else none
    else if v.strong then
      if c == '\x27' then scanValue lookup { v with strong := false } more
      else scanValue lookup { v with out := v.out.push c } more
    else if v.mode != .off then
      if isAsciiAlnum c then scanValue lookup { v with name := v.name.push c } more
      else if v.mode == .bare then
        if c == '{' && v.name.isEmpty then scanValue lookup { v with mode := .braced } more
        else
          let out := v.out ++ lookup v.name
          if c == '$' then scanValue lookup { v with out := out, name := "" } more
          else scanValue lookup { v with out := out.push c, name := "", mode := .off } more
      else if c == '}' then
        scanValue lookup { v with out := v.out ++ lookup v.name, name := "", mode := .off } more
      else scanValue lookup { v with name := v.name.push c } more
    else if c == '$' then scanValue lookup { v with mode := .bare } more
    else if v.weak then
      if c == '"' then scanValue lookup { v with weak := false } more
      else if c == '\\' then scanValue lookup { v with escaped := true } more
      else scanValue lookup { v with out := v.out.push c } more
    else if c == '\x27' then scanValue lookup { v with strong := true } more
    else if c == '"' then scanValue lookup { v with weak := true } more
    else if c == '\\' then scanValue lookup { v with escaped := true } more
    else if c == ' ' || c == '\t' then scanValue lookup { v with expectingEnd := true } more
    else scanValue lookup { v with out := v.out.push c } more

def readValue (lookup : String → String) (cs : List Char) : Option String := do
  let v ← scanValue lookup ⟨false, false, false, false, "", .off, ""⟩ cs
  if v.mode == .braced || v.strong || v.weak then none
  else some (v.out ++ lookup v.name)

-- A name at the start of the characters, and what follows it.
def readName (cs : List Char) : Option (String × List Char) :=
  match cs with
  | c :: _ =>
    if c.isAlpha || c == '_' then
      let name := cs.takeWhile fun d => isAsciiAlnum d || d == '_' || d == '.'
      some (String.ofList name, cs.drop name.length)
    else none
  | [] => none

-- What a logical line sets: a name and its value, nothing for a blank or comment line, or a
-- failure. The value is absent when nothing follows the `=`.
def readLine (lookup : String → String) (line : List Char) :
    Except Unit (Option (String × Option String)) := do
  let cs := ((line.reverse.dropWhile isSpace).reverse).dropWhile isSpace
  if cs.isEmpty || cs.head? == some '#' then return none
  let (name, rest) ← (readName cs).elim (throw ()) pure
  let rest := rest.dropWhile isSpace
  let (name, rest) ← match name, rest with
    | _, '=' :: after => pure (name, after)
    | "export", _ => do
      let (name, rest) ← (readName rest).elim (throw ()) pure
      match rest.dropWhile isSpace with
      | '=' :: after => pure (name, after)
      | _ => throw ()
    | _, _ => throw ()
  let rest := rest.dropWhile isSpace
  if rest.isEmpty || rest.head? == some '#' then return some (name, none)
  match readValue lookup rest with
  | some v => return some (name, some v)
  | none => throw ()

-- The value of a variable: the process's, else one set earlier in the file, else nothing.
def lookupIn (env : List (String × String)) (file : List (String × Option String))
    (name : String) : String :=
  match env.find? (·.1 == name) with
  | some (_, v) => v
  | none => match file.find? (·.1 == name) with
    | some (_, some v) => v
    | _ => ""

-- Sets the variables of logical lines in an environment, up to the first line that cannot be
-- read. `file` holds what the file has set so far, the latest first.
def apply : List (Option (List Char)) → List (String × String) → List (String × Option String) →
    List (String × String)
  | [], env, _ => env
  | none :: _, env, _ => env
  | some line :: more, env, file =>
    match readLine (lookupIn env file) line with
    | .error () => env
    | .ok none => apply more env file
    | .ok (some (name, value)) =>
      let env := if env.any (·.1 == name) then env else env ++ [(name, value.getD "")]
      apply more env ((name, value) :: file)

def load (env : List (String × String)) (text : String) : List (String × String) :=
  apply (logicalLines (physicalLines text.toList) [] .complete) env []

end Dotenv

end ChatArchive
