import ChatArchive.Json.Record

namespace ChatArchive

namespace Json

-- A type whose variants are named by a tag member beside a content member.
structure Adjacent (α : Type) where
  expected : String
  tag : String
  content : String
  variants : List String
  -- the reader of each variant's content, by index
  body : Nat → Reader α
  -- the value of a variant whose content member is absent, or its fault
  absent : Nat → Except String α

-- Which member was met: the tag, the content, or the end of the object.
inductive Member where
  | tag
  | content
  | done
  deriving DecidableEq

namespace Adjacent

variable {α : Type}

-- Finds the next tag or content member in the text, skipping the others.
def scanRelevant (a : Adjacent α) : Nat → Bool → Scan Member
  | 0, _ => Scan.slip .recursionLimit
  | fuel + 1, first => do
    match ← Scan.nextKey first with
    | none => pure .done
    | some k =>
      if k == a.tag then pure .tag
      else if k == a.content then pure .content
      else
        Scan.colon
        Scan.skip
        a.scanRelevant fuel false

def scanRest (a : Adjacent α) (r : α) : Scan α := do
  match ← a.scanRelevant (← Scan.fuel) false with
  | .tag => Scan.refuse (duplicateField a.tag)
  | .content => Scan.refuse (duplicateField a.content)
  | .done => pure r

-- Reads the members of the object from the text.
def scanMembers (a : Adjacent α) : Scan α := do
  match ← a.scanRelevant (← Scan.fuel) true with
  | .tag =>
    Scan.colon
    let v ← (Reader.variant a.variants).scan
    match ← a.scanRelevant (← Scan.fuel) false with
    | .tag => Scan.refuse (duplicateField a.tag)
    | .content =>
      Scan.colon
      let r ← (a.body v).scan
      a.scanRest r
    | .done =>
      match a.absent v with
      | .ok r => pure r
      | .error m => Scan.refuse m
  | .content =>
    Scan.colon
    let c ← Scan.value
    match ← a.scanRelevant (← Scan.fuel) false with
    | .tag =>
      Scan.colon
      let v ← (Reader.variant a.variants).scan
      let r ← Scan.ofExcept ((a.body v).tree c)
      a.scanRest r
    | .content => Scan.refuse (duplicateField a.content)
    | .done => Scan.refuse (missingField a.tag)
  | .done => Scan.refuse (missingField a.tag)

-- Reads the tag and the content from the elements of an array in the text.
def scanElements (a : Adjacent α) : Scan α := do
  if ← Scan.nextElement true then
    let v ← (Reader.variant a.variants).scan
    if ← Scan.nextElement false then (a.body v).scan
    else Scan.refuse (invalidLength 1 a.expected)
  else Scan.refuse (invalidLength 0 a.expected)

-- Finds the next tag or content member of an object tree, with the members after it.
def treeRelevant (a : Adjacent α) :
    List (String × Value) → Member × Value × List (String × Value)
  | [] => (.done, .null, [])
  | (k, v) :: rest =>
    if k == a.tag then (.tag, v, rest)
    else if k == a.content then (.content, v, rest)
    else a.treeRelevant rest

def treeRest (a : Adjacent α) (members : List (String × Value)) (r : α) : Except Fault α :=
  match (a.treeRelevant members).1 with
  | .tag => Tree.refuse (duplicateField a.tag)
  | .content => Tree.refuse (duplicateField a.content)
  | .done => .ok r

-- Reads an object tree.
def treeMembers (a : Adjacent α) (members : List (String × Value)) : Except Fault α :=
  match a.treeRelevant members with
  | (.tag, t, rest) => do
    let v ← Tree.variant a.variants t
    match a.treeRelevant rest with
    | (.tag, _, _) => Tree.refuse (duplicateField a.tag)
    | (.content, c, more) => a.treeRest more (← (a.body v).tree c)
    | (.done, _, _) => Tree.check (a.absent v)
  | (.content, c, rest) =>
    match a.treeRelevant rest with
    | (.tag, t, more) => do
      let v ← Tree.variant a.variants t
      a.treeRest more (← (a.body v).tree c)
    | (.content, _, _) => Tree.refuse (duplicateField a.content)
    | (.done, _, _) => Tree.refuse (missingField a.tag)
  | (.done, _, _) => Tree.refuse (missingField a.tag)

-- Reads an array tree: the tag, then the content.
def treeElements (a : Adjacent α) : List Value → Except Fault (α × List Value)
  | [] => Tree.refuse (invalidLength 0 a.expected)
  | t :: rest => do
    let v ← Tree.variant a.variants t
    match rest with
    | [] => Tree.refuse (invalidLength 1 a.expected)
    | c :: more => return (← (a.body v).tree c, more)

def reader (a : Adjacent α) : Reader α where
  scan := Scan.compound a.expected a.scanElements a.scanMembers
  tree := Tree.compound a.expected a.treeElements a.treeMembers

end Adjacent

-- A type whose variants are named by a tag member inside the variant's own object.
structure Internal (α : Type) where
  expected : String
  tag : String
  variants : List String
  -- reads each variant, by index, from the rest of the value
  body : Nat → Value → Except Fault α

namespace Internal

variable {α : Type}

-- Reads the members of the object from the text: the variant, and the other members whole.
def scanMembers (i : Internal α) : Nat → Bool → Option Nat → List (String × Value) →
    Scan (Nat × Value)
  | 0, _, _, _ => Scan.slip .recursionLimit
  | fuel + 1, first, found, acc => do
    match ← Scan.nextKey first with
    | none =>
      match found with
      | some v => pure (v, .obj acc.reverse)
      | none => Scan.refuse (missingField i.tag)
    | some k =>
      if k == i.tag then
        if found.isSome then Scan.refuse (duplicateField i.tag)
        else
          Scan.colon
          let v ← (Reader.variant i.variants).scan
          i.scanMembers fuel false (some v) acc
      else
        Scan.colon
        let x ← Scan.value
        i.scanMembers fuel false found ((k, x) :: acc)

def scanElements (i : Internal α) : Scan (Nat × Value) := do
  if ← Scan.nextElement true then
    let v ← (Reader.variant i.variants).scan
    return (v, .arr (← Scan.restItems false))
  else Scan.refuse (missingField i.tag)

-- Splits the tag from the members of an object tree.
def treeMembers (i : Internal α) : List (String × Value) → Option Nat → List (String × Value) →
    Except Fault (Nat × Value)
  | [], found, acc =>
    match found with
    | some v => .ok (v, .obj acc.reverse)
    | none => Tree.refuse (missingField i.tag)
  | (k, x) :: rest, found, acc =>
    if k == i.tag then
      if found.isSome then Tree.refuse (duplicateField i.tag)
      else do
        let v ← Tree.variant i.variants x
        i.treeMembers rest (some v) acc
    else i.treeMembers rest found ((k, x) :: acc)

def split (i : Internal α) : Value → Except Fault (Nat × Value)
  | .obj members => i.treeMembers members none []
  | .arr [] => Tree.refuse (missingField i.tag)
  | .arr (t :: rest) => do return (← Tree.variant i.variants t, .arr rest)
  | v => Tree.refuse (invalidType v.found i.expected)

-- The reader of the tagged type. The variant is read from the rest of the value after the
-- text's reader has left it, so its faults have no place.
def reader (i : Internal α) : Reader α where
  scan := do
    let (v, rest) ← Scan.compound i.expected i.scanElements (do i.scanMembers (← Scan.fuel) true none [])
    Scan.ofExcept (i.body v rest)
  tree := fun x => do
    let (v, rest) ← i.split x
    i.body v rest

def unit (expected : String) : Value → Except Fault Unit
  | .obj _ => .ok ()
  | .arr [] => .ok ()
  | .arr items => Tree.refuse (invalidLength items.length (elementsInSequence 0))
  | v => Tree.refuse (invalidType v.found expected)

end Internal

end Json

end ChatArchive
