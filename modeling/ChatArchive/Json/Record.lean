import ChatArchive.Json.Reader

namespace ChatArchive

namespace Json

-- One field of a record read into drafts of type `σ`.
structure Field (σ : Type) where
  name : String
  -- the draft already holds this field
  seen : σ → Bool
  -- a missing field takes its default
  defaulted : Bool
  scan : σ → Scan σ
  tree : σ → Value → Except Fault σ

-- The field `name` read by `r`, kept in the draft by `put` and looked up by `get`.
def Field.of (name : String) (defaulted : Bool) (r : Reader α) (get : σ → Option α)
    (put : σ → α → σ) : Field σ where
  name := name
  seen := fun s => (get s).isSome
  defaulted := defaulted
  scan := fun s => do return put s (← r.scan)
  tree := fun s v => do return put s (← r.tree v)

-- How a record of type `α` is read through drafts of type `σ`.
structure Record (σ α : Type) where
  -- what a value of another kind was expected to be
  expected : String
  fields : List (Field σ)
  -- the empty draft
  start : σ
  -- names that are not fields are refused
  closed : Bool
  -- the record of a finished draft, or the name of a missing field's fault
  build : σ → Except String α

def need (name : String) : Option α → Except String α
  | some a => .ok a
  | none => .error (missingField name)

namespace Record

variable {σ α : Type}

def field? (rec : Record σ α) (name : String) : Option (Field σ) :=
  rec.fields.find? (·.name == name)

def shortBy (rec : Record σ α) (length : Nat) : String :=
  invalidLength length (withElements rec.expected rec.fields.length)

-- Reads the members of an object from the text into the draft `s`.
def scanMembers (rec : Record σ α) : Nat → Bool → σ → Scan σ
  | 0, _, _ => Scan.slip .recursionLimit
  | fuel + 1, first, s => do
    match ← Scan.nextKey first with
    | none => pure s
    | some k =>
      match rec.field? k with
      | some f =>
        if f.seen s then Scan.refuse (duplicateField k)
        else
          Scan.colon
          let s' ← Scan.under (.key k) (f.scan s)
          rec.scanMembers fuel false s'
      | none =>
        if rec.closed then Scan.refuse (unknownField k (rec.fields.map (·.name)))
        else
          Scan.colon
          Scan.under (.key k) Scan.skip
          rec.scanMembers fuel false s

-- Reads the elements of an array from the text into the draft `s`, one per field in `fields`,
-- the first of which is field number `index`.
def scanElements (rec : Record σ α) : List (Field σ) → Nat → Bool → σ → Scan σ
  | [], _, _, s => pure s
  | f :: rest, index, first, s => do
    if ← Scan.nextElement first then
      let s' ← Scan.under (.index index) (f.scan s)
      rec.scanElements rest (index + 1) false s'
    else if f.defaulted then rec.scanElements rest (index + 1) first s
    else Scan.refuse (rec.shortBy index)

def finish (rec : Record σ α) (s : σ) : Scan α :=
  match rec.build s with
  | .ok a => pure a
  | .error m => Scan.refuse m

-- Reads the members of an object tree into the draft `s`.
def treeMembers (rec : Record σ α) : List (String × Value) → σ → Except Fault σ
  | [], s => .ok s
  | (k, v) :: rest, s =>
    match rec.field? k with
    | some f =>
      if f.seen s then Tree.refuse (duplicateField k)
      else do
        let s' ← f.tree s v
        rec.treeMembers rest s'
    | none =>
      if rec.closed then Tree.refuse (unknownField k (rec.fields.map (·.name)))
      else rec.treeMembers rest s

-- Reads the elements of an array tree into the draft `s`, one per field in `fields`, the first
-- of which is field number `index`; hands back the elements left over.
def treeElements (rec : Record σ α) :
    List (Field σ) → Nat → List Value → σ → Except Fault (σ × List Value)
  | [], _, items, s => .ok (s, items)
  | f :: rest, index, items, s =>
    match items with
    | v :: more => do
      let s' ← f.tree s v
      rec.treeElements rest (index + 1) more s'
    | [] =>
      if f.defaulted then rec.treeElements rest (index + 1) [] s
      else Tree.refuse (rec.shortBy index)

def settleTree (rec : Record σ α) (s : σ) : Except Fault α := Tree.check (rec.build s)

-- The reader of the record.
def reader (rec : Record σ α) : Reader α where
  scan := Scan.compound rec.expected
    (do rec.finish (← rec.scanElements rec.fields 0 true rec.start))
    (do rec.finish (← rec.scanMembers (← Scan.fuel) true rec.start))
  tree := Tree.compound rec.expected
    (fun items => do
      let (s, rest) ← rec.treeElements rec.fields 0 items rec.start
      return (← rec.settleTree s, rest))
    (fun members => do rec.settleTree (← rec.treeMembers members rec.start))

end Record

end Json

end ChatArchive
