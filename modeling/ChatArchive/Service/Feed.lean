import ChatArchive.Service.Ingest
import ChatArchive.Event.Read
import ChatArchive.Text.Space
import ChatArchive.Host.Disk

namespace ChatArchive

-- The counts of a feed.
structure FeedStats where
  peers : Nat
  stored : Nat
  dropped : Nat
  malformed : Nat
  deriving Repr, DecidableEq

def FeedStats.zero : FeedStats := ⟨0, 0, 0, 0⟩

-- Why a feed could not be read.
inductive FeedError where
  | io (path message : String)
  deriving Repr, DecidableEq

namespace FeedError

def text : FeedError → String
  | .io path message => "failed to read feed " ++ path ++ ": " ++ message

def kind : FeedError → String
  | .io _ _ => "Io"

end FeedError

def isContinuation (b : UInt8) : Bool := 0x80 ≤ b && b ≤ 0xBF

def secondOfThree (lead b : UInt8) : Bool :=
  if lead == 0xE0 then 0xA0 ≤ b && b ≤ 0xBF
  else if lead == 0xED then 0x80 ≤ b && b ≤ 0x9F
  else isContinuation b

def secondOfFour (lead b : UInt8) : Bool :=
  if lead == 0xF0 then 0x90 ≤ b && b ≤ 0xBF
  else if lead == 0xF4 then 0x80 ≤ b && b ≤ 0x8F
  else isContinuation b

-- The first place where `bytes`, from index `i`, stop being UTF-8: the index of the bad
-- sequence, and how many bytes of it are known bad, or nothing when the text ends inside it.
def utf8Break : List UInt8 → Nat → Option (Nat × Option Nat)
  | [], _ => none
  | b :: rest, i =>
    if b < 0x80 then utf8Break rest (i + 1)
    else if 0xC2 ≤ b && b ≤ 0xDF then
      match rest with
      | [] => some (i, none)
      | c :: more => if isContinuation c then utf8Break more (i + 2) else some (i, some 1)
    else if 0xE0 ≤ b && b ≤ 0xEF then
      match rest with
      | [] => some (i, none)
      | c :: more =>
        if !secondOfThree b c then some (i, some 1)
        else
          match more with
          | [] => some (i, none)
          | d :: tail => if isContinuation d then utf8Break tail (i + 3) else some (i, some 2)
    else if 0xF0 ≤ b && b ≤ 0xF4 then
      match rest with
      | [] => some (i, none)
      | c :: more =>
        if !secondOfFour b c then some (i, some 1)
        else
          match more with
          | [] => some (i, none)
          | d :: tail =>
            if !isContinuation d then some (i, some 2)
            else
              match tail with
              | [] => some (i, none)
              | e :: last => if isContinuation e then utf8Break last (i + 4) else some (i, some 3)
    else some (i, some 1)

def utf8Fault (bytes : List UInt8) : Option String :=
  (utf8Break bytes 0).map fun (i, len) => match len with
    | some n => "invalid utf-8 sequence of " ++ toString n ++ " bytes from index " ++ toString i
    | none => "incomplete utf-8 byte sequence from index " ++ toString i

-- The lines of a file, each with its line feed when it has one.
def splitLines (bytes : List UInt8) : List (List UInt8) :=
  let rec go (current : List UInt8) : List UInt8 → List (List UInt8)
    | [] => if current.isEmpty then [] else [current.reverse]
    | b :: rest =>
      if b == 10 then (b :: current).reverse :: go [] rest else go (b :: current) rest
  go [] bytes

def stripEnding (line : List UInt8) : List UInt8 :=
  match line.reverse with
  | 10 :: 13 :: rest => rest.reverse
  | 10 :: rest => rest.reverse
  | _ => line

namespace Service

def feedKind : String := "feed"

def feedNote (s : Service) (level : Level) (message : String) (fields : List Field) : Service :=
  s.report [Logger.root.record level feedKind message fields]

def feedDone (s : Service) (stats : FeedStats) : Except FeedError FeedStats × Service :=
  (.ok stats, s.feedNote .info "Event feed finished"
    [("peers", toString stats.peers), ("stored", toString stats.stored),
      ("dropped", toString stats.dropped), ("malformed", toString stats.malformed)])

-- Reads the lines of a feed at `path`, the first being line `no + 1`.
def feedLines (s : Service) (path : String) (no : Nat) (stats : FeedStats) :
    List (List UInt8) → Except FeedError FeedStats × Service
  | [] => s.feedDone stats
  | line :: rest =>
    match utf8Fault line with
    | some message => (.error (.io path message), s)
    | none =>
      let no := no + 1
      let text := (String.fromUTF8? (ByteArray.mk (stripEnding line).toArray)).getD ""
      if (trimSpace text).isEmpty then s.feedLines path no stats rest
      else
        match Json.readText Wire.feedLine text with
        | .error f =>
          let s := s.feedNote .warning "Malformed feed line skipped"
            [("line", toString no), ("err", f.render)]
          s.feedLines path no { stats with malformed := stats.malformed + 1 } rest
        | .ok (.peer p) =>
          match s.remember p with
          | (some _, s) => s.feedLines path no { stats with peers := stats.peers + 1 } rest
          | (none, s) => s.feedLines path no { stats with malformed := stats.malformed + 1 } rest
        | .ok (.event u) =>
          match s.ingest u none with
          | (.ok outcome, s) =>
            if outcome.isStored then s.feedLines path no { stats with stored := stats.stored + 1 } rest
            else s.feedLines path no { stats with dropped := stats.dropped + 1 } rest
          | (.error (.lane e), s) =>
            let s := s.feedNote .warning "Queue unavailable, feed stops"
              [("line", toString no), ("err", e.text)]
            s.feedDone stats
          | (.error e, s) =>
            let s := s.feedNote .debug "Event not stored" [("line", toString no), ("err", e.text)]
            s.feedLines path no { stats with dropped := stats.dropped + 1 } rest

-- Runs a feed from the file at `path`, as reading it gave. A feed cancelled from the start
-- reads no line. Opening the file lets the worker take a turn.
def feed (s : Service) (path : String) (file : Reading) (cancelled : Bool) :
    Except FeedError FeedStats × Service :=
  let s := { s with lane := s.lane.pass }
  match file with
  | .unopened e => (.error (.io path e.text), s)
  | .unread e =>
    let s := s.feedNote .info "Event feed started" [("path", path)]
    if cancelled then s.feedDone FeedStats.zero else (.error (.io path e.text), s)
  | .bytes bytes =>
    let s := s.feedNote .info "Event feed started" [("path", path)]
    if cancelled then s.feedDone FeedStats.zero
    else s.feedLines path 0 FeedStats.zero (splitLines bytes.toList)

end Service

end ChatArchive
