namespace ChatArchive

-- The state of the generator of random suffixes.
structure Seed where
  state : UInt64
  deriving Repr, DecidableEq, Inhabited

namespace Seed

def next (s : Seed) : UInt64 × Seed :=
  let t := s.state + 0x9E3779B97F4A7C15
  let z := (t ^^^ (t >>> 30)) * 0xBF58476D1CE4E5B9
  let z := (z ^^^ (z >>> 27)) * 0x94D049BB133111EB
  (z ^^^ (z >>> 31), ⟨t⟩)

end Seed

def suffixAlphabet : List Char :=
  "ABCDEFGHIJKLMNOPQRSTUVWXYZabcdefghijklmnopqrstuvwxyz0123456789".toList

-- `count` random characters of the alphabet.
def randomSuffix (seed : Seed) : Nat → List Char × Seed
  | 0 => ([], seed)
  | count + 1 =>
    let (r, seed) := seed.next
    let c := suffixAlphabet.getD (r.toNat % suffixAlphabet.length) 'A'
    let (rest, seed) := randomSuffix seed count
    (c :: rest, seed)

def correlationId (name : String) (length : Nat) (seed : Seed) : String × Seed :=
  let (suffix, seed) := randomSuffix seed length
  (name ++ "-" ++ String.ofList suffix, seed)

end ChatArchive
