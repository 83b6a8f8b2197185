namespace ChatArchive

namespace Decimal

def i64Min : Int := -9223372036854775808
def i64Max : Int := 9223372036854775807
def u64Max : Nat := 18446744073709551615
def u32Max : Nat := 4294967295

def FitsI64 (n : Int) : Prop := i64Min ≤ n ∧ n ≤ i64Max

instance (n : Int) : Decidable (FitsI64 n) := inferInstanceAs (Decidable (_ ∧ _))

def isDigit (c : Char) : Bool := '0' ≤ c && c ≤ '9'

def digitsValue (cs : List Char) : Nat :=
  cs.foldl (fun acc c => acc * 10 + (c.toNat - '0'.toNat)) 0

def natOf? (cs : List Char) : Option Nat :=
  if cs.isEmpty || !cs.all isDigit then none else some (digitsValue cs)

def i64OfDigits? (cs : List Char) : Option Int :=
  match natOf? cs with
  | some n => if (n : Int) ≤ i64Max then some n else none
  | none => none

def ofNat (n : Nat) : String := toString n

def ofInt (n : Int) : String := toString n

end Decimal

end ChatArchive
