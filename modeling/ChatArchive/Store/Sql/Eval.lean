import ChatArchive.Store.Sql.Schema
import ChatArchive.Text.Hex

namespace ChatArchive

namespace Sql

-- What an expression sees: the row's id and values, and the bound parameters.
structure Scope where
  rowid : Int
  values : List Datum
  params : List Datum

-- The class a comparison converts its operands towards.
inductive Leaning where
  | none
  | text
  | numeric

def Expr.affinity? : Expr → Option Affinity
  | .slot _ a => some a
  | .rowid => some .integer
  | _ => none

def Affinity.isNumeric (a : Affinity) : Bool :=
  a == .numeric || a == .integer || a == .real

def leaning : Option Affinity → Option Affinity → Leaning
  | some x, some y => if x.isNumeric || y.isNumeric then .numeric else .none
  | some x, none | none, some x =>
    if x.isNumeric then .numeric else if x == .text then .text else .none
  | none, none => .none

-- A text that reads wholly as a number becomes that number.
def asNumber (d : Datum) : Datum :=
  match d with
  | .text s =>
    match numeral? s with
    | some n => n.datum
    | none => d
  | _ => d

-- Values prepared for comparison under a leaning.
def converge (l : Leaning) (a b : Datum) : Datum × Datum :=
  match l with
  | .numeric => (asNumber a, asNumber b)
  | .text =>
    let texty := match a, b with
      | .text _, _ | _, .text _ => true
      | _, _ => false
    if texty then (a.withAffinity .text, b.withAffinity .text) else (a, b)
  | .none => (a, b)

def comparison (l : Leaning) (a b : Datum) : Option Ordering :=
  if a.isNull || b.isNull then none
  else
    let (x, y) := converge l a b
    some (x.compare y)

def truthDatum : Option Bool → Datum
  | some true => .integer 1
  | some false => .integer 0
  | none => .null

-- The characters of the longest numeric prefix of a text, after leading blanks.
def numericPrefix (s : String) : List Char :=
  let cs := s.toList.dropWhile isBlank
  let (sign, cs) := match cs with
    | '-' :: r => (['-'], r)
    | '+' :: r => (['+'], r)
    | r => ([], r)
  let whole := cs.takeWhile Char.isDigit
  let cs := cs.drop whole.length
  let (frac, cs) := match cs with
    | '.' :: r => let f := r.takeWhile Char.isDigit; ('.' :: f, r.drop f.length)
    | r => ([], r)
  let exp := match cs with
    | e :: rest =>
      if e == 'e' || e == 'E' then
        let (sg, rest) := match rest with
          | '-' :: r => (['-'], r)
          | '+' :: r => (['+'], r)
          | r => ([], r)
        let ds := rest.takeWhile Char.isDigit
        if ds.isEmpty then [] else e :: sg ++ ds
      else []
    | [] => []
  if whole.isEmpty && frac.length ≤ 1 then [] else sign ++ whole ++ frac ++ exp

-- The number a value stands for in arithmetic; nothing stays nothing.
def numericValue (d : Datum) : Datum :=
  match d with
  | .integer _ | .real _ | .null => d
  | .text s =>
    match numeral? (String.ofList (numericPrefix s)) with
    | some n => n.datum
    | none => .integer 0
  | .blob b =>
    match String.fromUTF8? b with
    | some s =>
      match numeral? (String.ofList (numericPrefix s)) with
      | some n => n.datum
      | none => .integer 0
    | none => .integer 0

-- The truth of a value: nothing is unknown, a number is true unless zero, a text by its
-- numeric prefix.
def truth (d : Datum) : Option Bool :=
  match numericValue d with
  | .null => none
  | .integer n => some (n != 0)
  | .real bits => some (bits &&& 0x7FFFFFFFFFFFFFFF != 0)
  | _ => some false

def realOfFraction (num : Int) (den : Nat) : Datum :=
  match Binary64.nearest num.natAbs den with
  | some bits => .real (if num < 0 then Binary64.negate bits else bits)
  | none => .null

-- The exact fraction of a finite number.
def fractionOf : Datum → Option (Int × Nat)
  | .integer n => some (n, 1)
  | .real bits =>
    match Exact.ofBits bits with
    | .finite n d => some (n, d)
    | .infinite _ => none
  | _ => none

-- The integer a number is cut to.
def truncated : Datum → Option Int
  | .integer n => some n
  | .real bits =>
    match Exact.ofBits bits with
    | .finite n d => some (n.tdiv d)
    | .infinite _ => none
  | _ => none

def fits (n : Int) : Bool := Decimal.i64Min ≤ n && n ≤ Decimal.i64Max

def wrap64 (n : Int) : Int :=
  let m := n % 18446744073709551616
  if m ≥ 9223372036854775808 then m - 18446744073709551616 else m

def bitsOf (n : Int) : UInt64 := (n % 18446744073709551616).toNat.toUInt64

def ofBits64 (b : UInt64) : Int := wrap64 b.toNat

-- An arithmetic operator on two values.
def arith (op : BinOp) (a b : Datum) : Datum :=
  let x := numericValue a
  let y := numericValue b
  if x.isNull || y.isNull then .null
  else
    match op, x, y with
    | .add, .integer m, .integer n =>
      if fits (m + n) then .integer (m + n) else realOfFraction (m + n) 1
    | .sub, .integer m, .integer n =>
      if fits (m - n) then .integer (m - n) else realOfFraction (m - n) 1
    | .mul, .integer m, .integer n =>
      if fits (m * n) then .integer (m * n) else realOfFraction (m * n) 1
    | .div, .integer m, .integer n =>
      if n == 0 then .null
      else if fits (m.tdiv n) then .integer (m.tdiv n) else realOfFraction m n.natAbs
    | .rem, _, _ =>
      match truncated x, truncated y with
      | some m, some n =>
        if n == 0 then .null
        else
          let r := m.tmod n
          match x, y with
          | .integer _, .integer _ => .integer r
          | _, _ => realOfFraction r 1
      | _, _ => .null
    | .bitAnd, _, _ | .bitOr, _, _ | .shl, _, _ | .shr, _, _ =>
      match truncated x, truncated y with
      | some m, some n =>
        match op with
        | .bitAnd => .integer (ofBits64 (bitsOf m &&& bitsOf n))
        | .bitOr => .integer (ofBits64 (bitsOf m ||| bitsOf n))
        | .shl =>
          if n ≥ 64 || n ≤ -64 then .integer (if n < 0 && m < 0 then -1 else 0)
          else if n ≥ 0 then .integer (wrap64 (m * Int.pow 2 n.toNat))
          else .integer (m / Int.pow 2 n.natAbs)
        | _ =>
          if n ≥ 64 || n ≤ -64 then .integer (if n > 0 && m < 0 then -1 else 0)
          else if n ≥ 0 then .integer (m / Int.pow 2 n.toNat)
          else .integer (wrap64 (m * Int.pow 2 n.natAbs))
      | _, _ => .null
    | _, _, _ =>
      match fractionOf x, fractionOf y with
      | some (p, q), some (r, s) =>
        match op with
        | .add => realOfFraction (p * s + r * q) (q * s)
        | .sub => realOfFraction (p * s - r * q) (q * s)
        | .mul => realOfFraction (p * r) (q * s)
        | .div =>
          if r == 0 then .null
          else realOfFraction ((p * s) * (if r < 0 then -1 else 1)) (q * r.natAbs)
        | _ => .null
      | _, _ => .null

-- The text of a value for concatenation.
def concatText : Datum → String
  | .text s => s
  | .integer n => toString n
  | .real bits => realText bits
  | .blob b => (String.fromUTF8? b).getD ""
  | .null => ""

def bytesOf : Datum → ByteArray
  | .blob b => b
  | d => (concatText d).toUTF8

-- A call of a built-in function on evaluated arguments; an unknown function gives nothing.
def callFunction (name : String) (args : List Datum) : Datum :=
  let n := upper name
  match n, args with
  | "LENGTH", [d] =>
    match d with
    | .null => .null
    | .blob b => .integer b.size
    | d => .integer (concatText d).length
  | "TYPEOF", [d] => .text (d.typeName.toLower)
  | "LOWER", [d] => if d.isNull then .null else .text (String.ofList ((concatText d).toList.map Char.toLower))
  | "UPPER", [d] => if d.isNull then .null else .text (upper (concatText d))
  | "HEX", [d] => .text (Hex.encode (bytesOf d)).toUpper
  | "ABS", [d] =>
    match numericValue d with
    | .integer k => if k == Decimal.i64Min then .null else .integer k.natAbs
    | .real bits => .real (bits &&& 0x7FFFFFFFFFFFFFFF)
    | other => other
  | "COALESCE", ds | "IFNULL", ds => (ds.find? fun d => !d.isNull).getD .null
  | "ZEROBLOB", [d] =>
    match numericValue d with
    | .integer k => .blob ⟨(List.replicate k.toNat (0 : UInt8)).toArray⟩
    | _ => .blob ByteArray.empty
  | _, _ => .null

-- A binary comparison operator applied to an order.
def BinOp.holds (op : BinOp) (o : Ordering) : Bool :=
  match op with
  | .eq | .is => o == .eq
  | .ne | .isNot => o != .eq
  | .lt => o == .lt
  | .le => o != .gt
  | .gt => o == .gt
  | .ge => o != .lt
  | _ => false

mutual

-- The value of an expression over a row.
def eval (s : Scope) : Expr → Datum
  | .lit d => d
  | .param i => s.params.getD (i - 1) .null
  | .column _ _ _ _ => .null
  | .slot i _ => s.values.getD i .null
  | .rowid => .integer s.rowid
  | .unary op e =>
    let v := eval s e
    match op with
    | .plus => v
    | .not => truthDatum ((truth v).map (!·))
    | .neg =>
      match numericValue v with
      | .integer n => if n == Decimal.i64Min then realOfFraction (-n) 1 else .integer (-n)
      | .real bits => .real (bits ^^^ 0x8000000000000000)
      | other => other
    | .bitNot =>
      match truncated (numericValue v) with
      | some n => .integer (-n - 1)
      | none => .null
  | .binary op a b =>
    let x := eval s a
    let y := eval s b
    match op with
    | .and =>
      match truth x, truth y with
      | some false, _ | _, some false => .integer 0
      | some true, some true => .integer 1
      | _, _ => .null
    | .or =>
      match truth x, truth y with
      | some true, _ | _, some true => .integer 1
      | some false, some false => .integer 0
      | _, _ => .null
    | .eq | .ne | .lt | .le | .gt | .ge =>
      truthDatum ((comparison (leaning a.affinity? b.affinity?) x y).map op.holds)
    | .is | .isNot =>
      let same := match x.isNull, y.isNull with
        | true, true => true
        | true, false | false, true => false
        | false, false =>
          (comparison (leaning a.affinity? b.affinity?) x y) == some .eq
      truthDatum (some (if op == .is then same else !same))
    | .concat => if x.isNull || y.isNull then .null else .text (concatText x ++ concatText y)
    | _ => arith op x y
  | .isNull e negated =>
    let v := eval s e
    truthDatum (some (if negated then !v.isNull else v.isNull))
  | .inList e items negated =>
    let v := eval s e
    let found := evalIn s e v items
    truthDatum (if negated then found.map (!·) else found)
  | .between e lo hi negated =>
    let v := eval s e
    let l := eval s lo
    let h := eval s hi
    let above := (comparison (leaning e.affinity? lo.affinity?) v l).map (· != .lt)
    let below := (comparison (leaning e.affinity? hi.affinity?) v h).map (· != .gt)
    let both := match above, below with
      | some false, _ | _, some false => some false
      | some true, some true => some true
      | _, _ => none
    truthDatum (if negated then both.map (!·) else both)
  | .call name args => callFunction name (evalList s args)

def evalList (s : Scope) : List Expr → List Datum
  | [] => []
  | e :: es => eval s e :: evalList s es

-- Whether `v` (the value of `e`) equals one of `items`: unknown when no item matches and some
-- comparison was unknown.
def evalIn (s : Scope) (e : Expr) (v : Datum) : List Expr → Option Bool
  | [] => some false
  | item :: rest =>
    let w := eval s item
    match comparison (leaning e.affinity? item.affinity?) v w with
    | some .eq => some true
    | some _ => evalIn s e v rest
    | none =>
      match evalIn s e v rest with
      | some true => some true
      | _ => none

end

end Sql

end ChatArchive
