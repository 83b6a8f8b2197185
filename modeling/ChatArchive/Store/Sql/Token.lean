import ChatArchive.Store.Sql.Datum
import ChatArchive.Text.Hex

namespace ChatArchive

namespace Sql

-- What a token is.
inductive Tok where
  -- a bare word: a name or a keyword
  | word (text : String)
  -- a name in double quotes, backquotes or brackets; `double` for double quotes
  | quoted (name : String) (double : Bool)
  | str (value : String)
  | integer (value : Nat)
  | float (value : Numeral)
  | blob (bytes : ByteArray)
  -- a parameter `?NNN`, or `?` alone (numbered after the one before it)
  | param (index : Option Nat)
  | named (text : String)
  | punct (text : String)
  | illegal

-- A token, where it starts (in bytes) and its text as written.
structure Token where
  tok : Tok
  start : Nat
  text : String

def isSpaceChar (c : Char) : Bool :=
  c == ' ' || c == '\t' || c == '\n' || c == '\x0c' || c == '\r' || c == '\x0b'

def isWordChar (c : Char) : Bool :=
  c.isAlphanum || c == '_' || c == '$' || c.toNat ≥ 0x80

def isWordStart (c : Char) : Bool :=
  c.isAlpha || c == '_' || c.toNat ≥ 0x80

def isHexChar (c : Char) : Bool :=
  c.isDigit || ('a' ≤ c && c ≤ 'f') || ('A' ≤ c && c ≤ 'F')

-- The body of a quoted text after its opening quote `q`, a doubled quote standing for one:
-- the body and the rest after the closing quote, or `none` when the quote is never closed.
def quotedBody (q : Char) : List Char → Option (List Char × List Char)
  | [] => none
  | c :: rest =>
    if c == q then
      match rest with
      | d :: more => if d == q then (quotedBody q more).map fun (b, r) => (q :: b, r)
                     else some ([], rest)
      | [] => some ([], [])
    else (quotedBody q rest).map fun (b, r) => (c :: b, r)

-- The characters of a number literal at the head of `cs` (which starts with a digit or with a
-- point and a digit), whether it has a point or exponent, and whether letters run into it.
def numberSpan (cs : List Char) : List Char × Bool × Bool :=
  let whole := cs.takeWhile Char.isDigit
  let rest := cs.drop whole.length
  let (frac, pointed, rest) := match rest with
    | '.' :: r => let f := r.takeWhile Char.isDigit; ('.' :: f, true, r.drop f.length)
    | r => ([], false, r)
  let (exp, rest) := match rest with
    | e :: d :: r =>
      if (e == 'e' || e == 'E') && d.isDigit then
        let ds := r.takeWhile Char.isDigit
        (e :: d :: ds, r.drop ds.length)
      else if (e == 'e' || e == 'E') && (d == '+' || d == '-') then
        match r with
        | d2 :: r2 =>
          if d2.isDigit then
            let ds := r2.takeWhile Char.isDigit
            (e :: d :: d2 :: ds, r2.drop ds.length)
          else ([], rest)
        | [] => ([], rest)
      else ([], rest)
    | _ => ([], rest)
  let tail := rest.takeWhile isWordChar
  (whole ++ frac ++ exp ++ tail, pointed || !exp.isEmpty, !tail.isEmpty)

-- The token at the head of `cs` (which is not empty and starts with no white space), as a
-- kind and the characters it spans. Comments come back as `none`.
def nextToken (cs : List Char) : Option Tok × List Char :=
  match cs with
  | [] => (some .illegal, [])
  | c :: rest =>
    let one (t : String) := (some (Tok.punct t), [c])
    match c, rest with
    | '-', '-' :: more => (none, '-' :: '-' :: more.takeWhile (· != '\n'))
    | '-', '>' :: '>' :: _ => (some (.punct "->>"), ['-', '>', '>'])
    | '-', '>' :: _ => (some (.punct "->"), ['-', '>'])
    | '/', '*' :: more =>
      let rec body : List Char → List Char
        | '*' :: '/' :: _ => ['*', '/']
        | d :: r => d :: body r
        | [] => []
      (none, '/' :: '*' :: body more)
    | '=', '=' :: _ => (some (.punct "=="), ['=', '='])
    | '<', '=' :: _ => (some (.punct "<="), ['<', '='])
    | '<', '>' :: _ => (some (.punct "<>"), ['<', '>'])
    | '<', '<' :: _ => (some (.punct "<<"), ['<', '<'])
    | '>', '=' :: _ => (some (.punct ">="), ['>', '='])
    | '>', '>' :: _ => (some (.punct ">>"), ['>', '>'])
    | '!', '=' :: _ => (some (.punct "!="), ['!', '='])
    | '|', '|' :: _ => (some (.punct "||"), ['|', '|'])
    | '.', d :: _ =>
      if d.isDigit then
        let (span, _, bad) := numberSpan cs
        if bad then (some .illegal, span)
        else (some (.float ((numeral? (String.ofList span)).getD (.whole 0))), span)
      else one "."
    | '\'', _ =>
      match quotedBody '\'' rest with
      | some (body, after) => (some (.str (String.ofList body)), cs.take (cs.length - after.length))
      | none => (some .illegal, cs)
    | '"', _ =>
      match quotedBody '"' rest with
      | some (body, after) =>
        (some (.quoted (String.ofList body) true), cs.take (cs.length - after.length))
      | none => (some .illegal, cs)
    | '`', _ =>
      match quotedBody '`' rest with
      | some (body, after) =>
        (some (.quoted (String.ofList body) false), cs.take (cs.length - after.length))
      | none => (some .illegal, cs)
    | '[', _ =>
      let body := rest.takeWhile (· != ']')
      if body.length < rest.length then
        (some (.quoted (String.ofList body) false), c :: body ++ [']'])
      else (some .illegal, cs)
    | '?', _ =>
      let ds := rest.takeWhile Char.isDigit
      (some (.param (if ds.isEmpty then none else some (Decimal.digitsValue ds))), c :: ds)
    | _, _ =>
      if c == 'x' || c == 'X' then
        match rest with
        | '\'' :: more =>
          let hex := more.takeWhile isHexChar
          let after := more.drop hex.length
          match after with
          | '\'' :: _ =>
            if hex.length % 2 == 0 then
              (some (.blob ((Hex.decode (String.ofList hex)).getD ByteArray.empty)),
                c :: '\'' :: hex ++ ['\''])
            else (some .illegal, c :: '\'' :: hex ++ ['\''])
          | _ =>
            let upto := after.takeWhile (· != '\'')
            let closed := if upto.length < after.length then ['\''] else []
            (some .illegal, c :: '\'' :: hex ++ upto ++ closed)
        | _ =>
          let w := c :: rest.takeWhile isWordChar
          (some (.word (String.ofList w)), w)
      else if c.isDigit then
        match rest with
        | x :: h :: _ =>
          if c == '0' && (x == 'x' || x == 'X') && isHexChar h then
            let hs := (rest.drop 1).takeWhile isHexChar
            let span := c :: x :: hs
            let value := hs.foldl (fun acc d =>
              acc * 16 + (if d.isDigit then d.toNat - '0'.toNat
                else (d.toLower.toNat - 'a'.toNat) + 10)) 0
            (some (.integer value), span)
          else
            let (span, real, bad) := numberSpan cs
            if bad then (some .illegal, span)
            else if real then (some (.float ((numeral? (String.ofList span)).getD (.whole 0))), span)
            else (some (.integer (Decimal.digitsValue span)), span)
        | _ =>
          let (span, real, bad) := numberSpan cs
          if bad then (some .illegal, span)
          else if real then (some (.float ((numeral? (String.ofList span)).getD (.whole 0))), span)
          else (some (.integer (Decimal.digitsValue span)), span)
      else if isWordStart c then
        let w := c :: rest.takeWhile isWordChar
        (some (.word (String.ofList w)), w)
      else if c == ':' || c == '@' || c == '$' || c == '#' then
        let w := rest.takeWhile isWordChar
        if w.isEmpty then (some .illegal, [c]) else (some (.named (String.ofList (c :: w))), c :: w)
      else if c == '(' || c == ')' || c == ';' || c == '+' || c == '-' || c == '*' ||
          c == '/' || c == '%' || c == ',' || c == '&' || c == '~' || c == '=' || c == '<' ||
          c == '>' || c == '|' then one (String.singleton c)
      else (some .illegal, [c])

def byteLength (cs : List Char) : Nat := cs.foldl (fun n c => n + c.utf8Size) 0

-- The tokens of `cs`, which starts at byte `pos`, up to and including the first illegal one.
def tokensFrom (cs : List Char) (pos : Nat) : Nat → List Token
  | 0 => []
  | fuel + 1 =>
    match cs with
    | [] => []
    | c :: rest =>
      if isSpaceChar c then tokensFrom rest (pos + c.utf8Size) fuel
      else
        let (tok, span) := nextToken cs
        -- every token spans at least its first character
        let span := if span.isEmpty then [c] else span
        let after := cs.drop span.length
        let next := pos + byteLength span
        match tok with
        | none => tokensFrom after next fuel
        | some .illegal => [⟨.illegal, pos, String.ofList span⟩]
        | some t => ⟨t, pos, String.ofList span⟩ :: tokensFrom after next fuel

def tokenize (s : String) : List Token :=
  tokensFrom s.toList 0 (s.length + 1)

-- The words that can never serve as a bare name.
def reservedWords : List String :=
  ["ADD", "ALL", "ALTER", "AND", "AS", "AUTOINCREMENT", "BETWEEN", "CASE", "CHECK", "COLLATE",
   "COMMIT", "CONSTRAINT", "CREATE", "CROSS", "DEFAULT", "DEFERRABLE", "DELETE", "DISTINCT",
   "DROP", "ELSE", "ESCAPE", "EXCEPT", "EXISTS", "FOREIGN", "FROM", "FULL", "GLOB", "GROUP",
   "HAVING", "IN", "INDEX", "INNER", "INSERT", "INTERSECT", "INTO", "IS", "ISNULL", "JOIN",
   "LEFT", "LIKE", "LIMIT", "NATURAL", "NOT", "NOTNULL", "NULL", "ON", "OR", "ORDER", "OUTER",
   "PRIMARY", "REFERENCES", "REGEXP", "RETURNING", "RIGHT", "ROLLBACK", "SELECT", "SET",
   "TABLE", "THEN", "TO", "TRANSACTION", "UNION", "UNIQUE", "UPDATE", "USING", "VALUES", "WHEN",
   "WHERE"]

def Token.is (t : Token) (k : String) : Bool :=
  match t.tok with
  | .word w => upper w == k
  | .punct p => p == k
  | _ => false

def Token.name? (t : Token) : Option String :=
  match t.tok with
  | .word w => if reservedWords.contains (upper w) then none else some w
  | .quoted n _ => some n
  | _ => none

end Sql

end ChatArchive
