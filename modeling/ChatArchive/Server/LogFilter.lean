namespace ChatArchive

namespace Server

-- A log level, from the most severe: error is 1, trace is 5.
abbrev Severity := Nat

def errorLevel : Severity := 1
def warnLevel : Severity := 2
def infoLevel : Severity := 3

def levelLabel (l : Severity) : String :=
  if l ≤ 1 then "ERROR" else if l == 2 then "WARN" else if l == 3 then "INFO"
  else if l == 4 then "DEBUG" else "TRACE"

-- One directive: lines of the target, or of every target, up to a level.
structure Directive where
  target : Option String
  upTo : Severity
  deriving Repr, DecidableEq

-- The level a word names, through `upTo`: 0 lets nothing through.
def levelOf? (word : String) : Option Severity :=
  match word.toNat? with
  | some n => if n ≤ 5 then some n else none
  | none =>
    [("off", 0), ("error", 1), ("warn", 2), ("info", 3), ("debug", 4), ("trace", 5)].findSome?
      fun (name, n) => if word.toLower == name then some n else none

-- Reads one directive.
def Directive.read? (text : String) : Option Directive :=
  match text.splitOn "=" with
  | [word] => match levelOf? word with
    | some n => some ⟨none, n⟩
    | none => some ⟨some word, 5⟩
  | [target, word] => if target.isEmpty then none else (⟨some target, ·⟩) <$> levelOf? word
  | _ => none

def defaultDirectives : List Directive := [⟨some "flotg", 4⟩, ⟨some "tower_http", 4⟩]

-- The directives a `RUST_LOG` value gives, or the default when it does not read.
def directivesOf (setting : Option String) : List Directive :=
  match setting with
  | none => defaultDirectives
  | some text =>
    let pieces := (text.splitOn ",").filter (!·.isEmpty)
    match pieces.mapM Directive.read? with
    | none => defaultDirectives
    | some [] => [⟨none, errorLevel⟩]
    | some ds => ds

def specificity (target : String) (d : Directive) : Option Nat :=
  match d.target with
  | none => some 0
  | some t => if target.startsWith t then some (t.length + 1) else none

-- A line of `target` at `level` is printed.
def enabled (ds : List Directive) (target : String) (level : Severity) : Bool :=
  let best := ds.foldl (fun (acc : Option (Nat × Directive)) d =>
    match specificity target d, acc with
    | none, _ => acc
    | some n, none => some (n, d)
    | some n, some (m, _) => if n ≥ m then some (n, d) else acc) none
  match best with
  | some (_, d) => level ≤ d.upTo && d.upTo > 0
  | none => false

end Server

end ChatArchive
