import ChatArchive.Store.Sql.Token
import ChatArchive.Store.Sql.Syntax

namespace ChatArchive

namespace Sql

-- Why a statement could not be read.
inductive ParseError where
  | near (t : Token)
  | unrecognized (t : Token)
  | incomplete
  | other (message : String)

-- The reader's place: the next token and the number of the last parameter seen.
structure Cursor where
  pos : Nat
  params : Nat

-- A reader over a fixed array of tokens.
abbrev Parser := StateT Cursor (ReaderT (Array Token) (Except ParseError))

namespace Parser

def current : Parser (Option Token) := do
  let ts ← read
  pure ts[(← get).pos]?

def following : Parser (Option Token) := do
  let ts ← read
  pure ts[(← get).pos + 1]?

def bump : Parser Unit := modify fun c => { c with pos := c.pos + 1 }

-- Fails at the next token.
def stuck {α : Type} : Parser α := do
  match ← current with
  | none => throw .incomplete
  | some t =>
    match t.tok with
    | .illegal => throw (.unrecognized t)
    | _ => throw (.near t)

def isKw (k : String) : Parser Bool := do
  match ← current with
  | some t => pure (t.is k)
  | none => pure false

def takeKw (k : String) : Parser Bool := do
  if ← isKw k then
    bump
    pure true
  else pure false

def needKw (k : String) : Parser Unit := do
  if ← takeKw k then pure () else stuck

-- A name: a quoted name, a bare word that is not reserved, or (where `strings`) a string.
def nameWith (strings : Bool) : Parser (String × Token) := do
  match ← current with
  | some t =>
    match t.tok, t.name? with
    | .str s, _ => if strings then do bump; pure (s, t) else stuck
    | _, some n => do bump; pure (n, t)
    | _, none => stuck
  | none => stuck

def name : Parser (String × Token) := nameWith true

-- A table, view or index name, with an optional schema before a point.
def objectName : Parser Name := do
  let (first, t) ← name
  if ← takeKw "." then
    let (second, t2) ← name
    pure ⟨some first, second, t2.start, t2.text⟩
  else pure ⟨none, first, t.start, t.text⟩

-- `IF NOT EXISTS`, when it comes next.
def ifNotExists : Parser Bool := do
  if ← takeKw "IF" then
    needKw "NOT"
    needKw "EXISTS"
    pure true
  else pure false

def ifExists : Parser Bool := do
  if ← takeKw "IF" then
    needKw "EXISTS"
    pure true
  else pure false

def integerDatum (n : Nat) : Datum :=
  if (n : Int) ≤ Decimal.i64Max then .integer n else .real (realOfDecimal false n 0)

def overflow {α : Type} : Parser α := throw (.other "parser stack overflow")

-- The level of the binary operator or postfix test the token starts, loosest first.
def levelOf (t : Token) : Option Nat :=
  if t.is "OR" then some 1
  else if t.is "AND" then some 2
  else if t.is "=" || t.is "==" || t.is "!=" || t.is "<>" || t.is "IS" || t.is "IN" ||
      t.is "ISNULL" || t.is "NOTNULL" || t.is "NOT" || t.is "BETWEEN" || t.is "LIKE" ||
      t.is "GLOB" then some 4
  else if t.is "<" || t.is "<=" || t.is ">" || t.is ">=" then some 5
  else if t.is "&" || t.is "|" || t.is "<<" || t.is ">>" then some 7
  else if t.is "+" || t.is "-" then some 8
  else if t.is "*" || t.is "/" || t.is "%" then some 9
  else if t.is "||" || t.is "->" || t.is "->>" then some 10
  else if t.is "COLLATE" then some 11
  else none

-- The binary operator a token names, for the plain ones.
def binOpOf (t : Token) : Option BinOp :=
  if t.is "OR" then some .or
  else if t.is "AND" then some .and
  else if t.is "=" || t.is "==" then some .eq
  else if t.is "!=" || t.is "<>" then some .ne
  else if t.is "<" then some .lt
  else if t.is "<=" then some .le
  else if t.is ">" then some .gt
  else if t.is ">=" then some .ge
  else if t.is "&" then some .bitAnd
  else if t.is "|" then some .bitOr
  else if t.is "<<" then some .shl
  else if t.is ">>" then some .shr
  else if t.is "+" then some .add
  else if t.is "-" then some .sub
  else if t.is "*" then some .mul
  else if t.is "/" then some .div
  else if t.is "%" then some .rem
  else if t.is "||" then some .concat
  else none

mutual

def climb : Nat → Nat → Parser Expr
  | 0, _ => overflow
  | fuel + 1, level => do
    let lhs ← unary fuel
    climbTail fuel level lhs

-- A prefix operator and its operand, or a primary expression.
def unary : Nat → Parser Expr
  | 0 => overflow
  | fuel + 1 => do
    match ← current with
    | none => stuck
    | some t =>
      if t.is "-" then
        bump
        -- the least integer is written as the negation of a literal one beyond the greatest
        match ← current with
        | some { tok := .integer n, .. } =>
          if n == 9223372036854775808 then
            bump
            pure (.lit (.integer Decimal.i64Min))
          else pure (.unary .neg (← unary fuel))
        | _ => pure (.unary .neg (← unary fuel))
      else if t.is "+" then
        bump
        pure (.unary .plus (← unary fuel))
      else if t.is "~" then
        bump
        pure (.unary .bitNot (← unary fuel))
      else if t.is "NOT" then
        bump
        pure (.unary .not (← climb fuel 4))
      else primary fuel

-- A literal, a parameter, a column, a call, or an expression in parentheses.
def primary : Nat → Parser Expr
  | 0 => overflow
  | fuel + 1 => do
    match ← current with
    | none => stuck
    | some t =>
      match t.tok with
      | .punct "(" =>
        bump
        let e ← climb fuel 1
        needKw ")"
        pure e
      | .integer n => do bump; pure (.lit (integerDatum n))
      | .float v => do bump; pure (.lit v.datum)
      | .str s => do bump; pure (.lit (.text s))
      | .blob b => do bump; pure (.lit (.blob b))
      | .param idx =>
        bump
        let c ← get
        let i := idx.getD (c.params + 1)
        set { c with params := max c.params i }
        pure (.param i)
      | .named _ =>
        bump
        let c ← get
        set { c with params := c.params + 1 }
        pure (.param (c.params + 1))
      | .word w =>
        if upper w == "NULL" then do bump; pure (.lit .null)
        else
          match t.name? with
          | some n => reference fuel n false t
          | none => stuck
      | .quoted n double => reference fuel n double t
      | _ => stuck

-- A column reference, possibly after a table name, or a function call.
def reference : Nat → String → Bool → Token → Parser Expr
  | 0, _, _, _ => overflow
  | fuel + 1, n, double, t => do
    bump
    if ← takeKw "(" then
      if ← takeKw ")" then pure (.call n [])
      else if ← takeKw "*" then
        needKw ")"
        pure (.call n [])
      else
        let _ ← takeKw "DISTINCT"
        let args ← exprList fuel
        needKw ")"
        pure (.call n args)
    else if ← takeKw "." then
      let (col, t2) ← name
      let double2 := match t2.tok with
        | .quoted _ d => d
        | _ => false
      pure (.column (some n) col double2 t.start)
    else pure (.column none n double t.start)

def exprList : Nat → Parser (List Expr)
  | 0 => overflow
  | fuel + 1 => do
    let e ← climb fuel 1
    if ← takeKw "," then pure (e :: (← exprList fuel)) else pure [e]

-- The operators after `lhs` that bind at `level` or tighter, applied left to right.
def climbTail : Nat → Nat → Expr → Parser Expr
  | 0, _, _ => overflow
  | fuel + 1, level, lhs => do
    match ← current with
    | none => pure lhs
    | some t =>
      match levelOf t with
      | none => pure lhs
      | some l =>
        if l < level then pure lhs
        else if t.is "IS" then
          bump
          let negated ← takeKw "NOT"
          let rhs ← climb fuel 5
          climbTail fuel level (.binary (if negated then .isNot else .is) lhs rhs)
        else if t.is "ISNULL" then
          bump
          climbTail fuel level (.isNull lhs false)
        else if t.is "NOTNULL" then
          bump
          climbTail fuel level (.isNull lhs true)
        else if t.is "NOT" then
          bump
          if ← takeKw "NULL" then climbTail fuel level (.isNull lhs true)
          else
            let e ← membership fuel lhs true
            climbTail fuel level e
        else if t.is "IN" || t.is "BETWEEN" || t.is "LIKE" || t.is "GLOB" then
          let e ← membership fuel lhs false
          climbTail fuel level e
        else if t.is "COLLATE" then
          bump
          let _ ← name
          climbTail fuel level lhs
        else if t.is "->" || t.is "->>" then
          bump
          let rhs ← climb fuel (l + 1)
          climbTail fuel level (.call t.text [lhs, rhs])
        else
          match binOpOf t with
          | some op =>
            bump
            let rhs ← climb fuel (l + 1)
            climbTail fuel level (.binary op lhs rhs)
          | none => pure lhs

-- `IN (...)`, `BETWEEN ... AND ...`, `LIKE` or `GLOB` after `lhs`, negated after `NOT`.
def membership : Nat → Expr → Bool → Parser Expr
  | 0, _, _ => overflow
  | fuel + 1, lhs, negated => do
    if ← takeKw "IN" then
      needKw "("
      if ← takeKw ")" then pure (.inList lhs [] negated)
      else
        let items ← exprList fuel
        needKw ")"
        pure (.inList lhs items negated)
    else if ← takeKw "BETWEEN" then
      let lo ← climb fuel 5
      needKw "AND"
      let hi ← climb fuel 5
      pure (.between lhs lo hi negated)
    else
      match ← current with
      | some t =>
        if t.is "LIKE" || t.is "GLOB" then
          bump
          let rhs ← climb fuel 5
          let e := Expr.call (upper t.text) [rhs, lhs]
          pure (if negated then .unary .not e else e)
        else stuck
      | none => stuck

end

def fuelFor (n : Nat) : Nat := 16 * (n + 4)

def expr : Parser Expr := do
  climb (fuelFor (← read).size) 1

def exprs : Parser (List Expr) := do
  exprList (fuelFor (← read).size)

-- `ON CONFLICT <resolution>`, skipped when it comes next.
def onConflict : Parser Unit := do
  if ← takeKw "ON" then
    needKw "CONFLICT"
    match ← current with
    | some t =>
      if t.is "ROLLBACK" || t.is "ABORT" || t.is "FAIL" || t.is "IGNORE" || t.is "REPLACE" then
        bump
      else stuck
    | none => stuck

-- `OR <resolution>` after `INSERT` or `UPDATE`, skipped.
def orResolution : Parser Unit := do
  if ← takeKw "OR" then
    match ← current with
    | some t =>
      if t.is "ROLLBACK" || t.is "ABORT" || t.is "FAIL" || t.is "IGNORE" || t.is "REPLACE" then
        bump
      else stuck
    | none => stuck

-- A signed number in a type, as written.
def signedText : Parser String := do
  let sign ← if ← takeKw "-" then pure "-" else if ← takeKw "+" then pure "+" else pure ""
  match ← current with
  | some t =>
    match t.tok with
    | .integer _ | .float _ => do bump; pure (sign ++ t.text)
    | _ => stuck
  | none => stuck

-- The words of a declared type, with an optional size in parentheses.
def typeWords (fuel : Nat) : Parser (List String) := do
  match fuel with
  | 0 => pure []
  | fuel + 1 =>
    match ← current with
    | some t =>
      match t.tok, t.name? with
      | .str s, _ => do bump; pure (s :: (← typeWords fuel))
      | .word _, some w => do bump; pure (w :: (← typeWords fuel))
      | _, _ => pure []
    | none => pure []

-- A declared type: words, then `(n)` or `(n, m)`.
def declaredType : Parser String := do
  let words ← typeWords (← read).size
  if words.isEmpty then pure ""
  else if ← takeKw "(" then
    let a ← signedText
    let b ← if ← takeKw "," then pure ("," ++ (← signedText)) else pure ""
    needKw ")"
    pure (" ".intercalate words ++ "(" ++ a ++ b ++ ")")
  else pure (" ".intercalate words)

-- A default value: a literal, a signed number, an expression in parentheses, or a word.
def defaultValue : Parser Expr := do
  if ← takeKw "(" then
    let e ← expr
    needKw ")"
    pure e
  else
    match ← current with
    | some t =>
      if t.is "-" || t.is "+" then
        bump
        match ← current with
        | some u =>
          match u.tok with
          | .integer n => do
            bump
            pure (if t.is "-" then .unary .neg (.lit (integerDatum n)) else .lit (integerDatum n))
          | .float v => do
            bump
            pure (if t.is "-" then .unary .neg (.lit v.datum) else .lit v.datum)
          | _ => stuck
        | none => stuck
      else
        match t.tok with
        | .integer n => do bump; pure (.lit (integerDatum n))
        | .float v => do bump; pure (.lit v.datum)
        | .str s => do bump; pure (.lit (.text s))
        | .blob b => do bump; pure (.lit (.blob b))
        | .word w =>
          if upper w == "NULL" then do bump; pure (.lit .null)
          else
            match t.name? with
            | some n => do bump; pure (.lit (.text n))
            | none => stuck
        | _ => stuck
    | none => stuck

-- Names in parentheses, separated by commas, each optionally with `COLLATE`, `ASC` or `DESC`.
def nameList (fuel : Nat) : Parser (List String) := do
  match fuel with
  | 0 => overflow
  | fuel + 1 =>
    let (n, _) ← name
    if ← takeKw "COLLATE" then
      let _ ← name
    let _ ← takeKw "ASC" <||> takeKw "DESC"
    if ← takeKw "," then pure (n :: (← nameList fuel)) else pure [n]

-- The constraints after a column's type.
def constraints (fuel : Nat) : Parser (List Constraint) := do
  match fuel with
  | 0 => pure []
  | fuel + 1 =>
    let more (c : Constraint) : Parser (List Constraint) := do
      pure (c :: (← constraints fuel))
    if ← takeKw "CONSTRAINT" then
      let _ ← name
      constraints fuel
    else if ← takeKw "DEFAULT" then more (.default (← defaultValue))
    else if ← takeKw "NULL" then
      onConflict
      constraints fuel
    else if ← takeKw "NOT" then
      needKw "NULL"
      onConflict
      more .notNull
    else if ← takeKw "PRIMARY" then
      needKw "KEY"
      let _ ← takeKw "ASC" <||> takeKw "DESC"
      onConflict
      let _ ← takeKw "AUTOINCREMENT"
      more .primaryKey
    else if ← takeKw "UNIQUE" then
      onConflict
      more .unique
    else if ← takeKw "CHECK" then
      needKw "("
      let _ ← expr
      needKw ")"
      more .other
    else if ← takeKw "COLLATE" then
      let _ ← name
      more .other
    else if ← takeKw "REFERENCES" then
      let _ ← name
      if ← takeKw "(" then
        let _ ← nameList (← read).size
        needKw ")"
      more .other
    else pure []

def columnDef : Parser ColumnDef := do
  let (n, _) ← name
  let declared ← declaredType
  let cs ← constraints (← read).size
  pure ⟨n, declared, cs⟩

def atTableKey : Parser Bool := do
  pure ((← isKw "CONSTRAINT") || (← isKw "PRIMARY") || (← isKw "UNIQUE") || (← isKw "CHECK") ||
    (← isKw "FOREIGN"))

-- A table constraint.
def tableKey : Parser TableKey := do
  if ← takeKw "CONSTRAINT" then
    let _ ← name
  if ← takeKw "PRIMARY" then
    needKw "KEY"
    needKw "("
    let cols ← nameList (← read).size
    let _ ← takeKw "AUTOINCREMENT"
    needKw ")"
    onConflict
    pure (.primaryKey cols)
  else if ← takeKw "UNIQUE" then
    needKw "("
    let cols ← nameList (← read).size
    needKw ")"
    onConflict
    pure (.unique cols)
  else if ← takeKw "CHECK" then
    needKw "("
    let _ ← expr
    needKw ")"
    onConflict
    pure .other
  else if ← takeKw "FOREIGN" then
    needKw "KEY"
    needKw "("
    let _ ← nameList (← read).size
    needKw ")"
    needKw "REFERENCES"
    let _ ← name
    if ← takeKw "(" then
      let _ ← nameList (← read).size
      needKw ")"
    pure .other
  else stuck

-- Table constraints, separated by optional commas, up to the closing parenthesis.
def tableKeys (fuel : Nat) : Parser (List TableKey) := do
  match fuel with
  | 0 => overflow
  | fuel + 1 =>
    let k ← tableKey
    let _ ← takeKw ","
    if ← isKw ")" then pure [k] else pure (k :: (← tableKeys fuel))

-- The columns and table constraints of a new table, up to the closing parenthesis.
def columnDefs (fuel : Nat) : Parser (List ColumnDef × List TableKey) := do
  match fuel with
  | 0 => overflow
  | fuel + 1 =>
    let c ← columnDef
    if ← takeKw "," then
      if ← atTableKey then pure ([c], ← tableKeys (← read).size)
      else
        let (cs, ks) ← columnDefs fuel
        pure (c :: cs, ks)
    else pure ([c], [])

-- An alias after a result column or a table: `AS name`, or a bare name.
def asName? : Parser (Option String) := do
  if ← takeKw "AS" then pure (some (← name).1)
  else
    match ← current with
    | some t =>
      match t.tok, t.name? with
      | .str s, _ => do bump; pure (some s)
      | _, some n => do bump; pure (some n)
      | _, none => pure none
    | none => pure none

-- A result column.
def resultColumn : Parser ResultColumn := do
  if ← takeKw "*" then pure .star
  else
    -- `table.*`
    match ← current, ← following with
    | some t, some u =>
      if u.is "." && t.name?.isSome then
        let ts ← read
        let c ← get
        match ts[c.pos + 2]? with
        | some v =>
          if v.is "*" then
            bump; bump; bump
            return .star
        | none => pure ()
      let e ← expr
      pure (.expr e (← asName?))
    | _, _ =>
      let e ← expr
      pure (.expr e (← asName?))

-- Result columns separated by commas.
def resultColumns (fuel : Nat) : Parser (List ResultColumn) := do
  match fuel with
  | 0 => overflow
  | fuel + 1 =>
    let c ← resultColumn
    if ← takeKw "," then pure (c :: (← resultColumns fuel)) else pure [c]

-- Terms of an ordering separated by commas.
def orderTerms (fuel : Nat) : Parser (List OrderTerm) := do
  match fuel with
  | 0 => overflow
  | fuel + 1 =>
    let e ← expr
    let descending ← if ← takeKw "DESC" then pure true else do
      let _ ← takeKw "ASC"
      pure false
    let t : OrderTerm := ⟨e, descending⟩
    if ← takeKw "," then pure (t :: (← orderTerms fuel)) else pure [t]

-- A selection, after its `SELECT`.
def selectBody : Parser Select := do
  let _ ← takeKw "DISTINCT" <||> takeKw "ALL"
  let size := (← read).size
  let columns ← resultColumns size
  let source ← if ← takeKw "FROM" then
      let n ← objectName
      let _ ← asName?
      pure (some n)
    else pure none
  let filter ← if ← takeKw "WHERE" then pure (some (← expr)) else pure none
  let order ← if ← takeKw "ORDER" then
      needKw "BY"
      orderTerms size
    else pure []
  let limit ← if ← takeKw "LIMIT" then
      let e ← expr
      if ← takeKw "OFFSET" then
        let _ ← expr
      else if ← takeKw "," then
        let _ ← expr
      pure (some e)
    else pure none
  pure ⟨columns, source, filter, order, limit⟩

-- Rows of values in parentheses, separated by commas.
def valueRows (fuel : Nat) : Parser (List (List Expr)) := do
  match fuel with
  | 0 => overflow
  | fuel + 1 =>
    needKw "("
    let row ← exprs
    needKw ")"
    if ← takeKw "," then pure (row :: (← valueRows fuel)) else pure [row]

-- Assignments `name = expr` separated by commas.
def assignments (fuel : Nat) : Parser (List (String × Expr)) := do
  match fuel with
  | 0 => overflow
  | fuel + 1 =>
    let (n, _) ← name
    needKw "="
    let e ← expr
    if ← takeKw "," then pure ((n, e) :: (← assignments fuel)) else pure [(n, e)]

-- Indexed columns, separated by commas: each a column name with its offset.
def indexedColumns (fuel : Nat) : Parser (List (String × Nat)) := do
  match fuel with
  | 0 => overflow
  | fuel + 1 =>
    let e ← expr
    let col ← match e with
      | .column none n _ pos => pure (n, pos)
      | _ => stuck
    let _ ← takeKw "ASC" <||> takeKw "DESC"
    if ← takeKw "," then pure (col :: (← indexedColumns fuel)) else pure [col]

-- A statement after `CREATE`.
def create : Parser Statement := do
  let _ ← takeKw "TEMP" <||> takeKw "TEMPORARY"
  if ← takeKw "TABLE" then
    let ine ← ifNotExists
    let n ← objectName
    needKw "("
    let (cols, keys) ← columnDefs (← read).size
    needKw ")"
    pure (.createTable n ine cols keys)
  else if ← takeKw "VIEW" then
    let ine ← ifNotExists
    let n ← objectName
    needKw "AS"
    needKw "SELECT"
    pure (.createView n ine (← selectBody))
  else
    let unique ← takeKw "UNIQUE"
    needKw "INDEX"
    let ine ← ifNotExists
    let n ← objectName
    needKw "ON"
    let (tname, tt) ← name
    needKw "("
    let cols ← indexedColumns (← read).size
    needKw ")"
    if ← takeKw "WHERE" then
      let _ ← expr
    pure (.createIndex n unique ine ⟨none, tname, tt.start, tt.text⟩ cols)

-- A statement after `DROP`.
def drop : Parser Statement := do
  let kind ← if ← takeKw "TABLE" then pure ObjectKind.table
    else if ← takeKw "VIEW" then pure .view
    else if ← takeKw "INDEX" then pure .index
    else stuck
  let ie ← ifExists
  pure (.drop kind ie (← objectName))

-- A statement after `INSERT` or `REPLACE`.
def insert : Parser Statement := do
  needKw "INTO"
  let n ← objectName
  if ← takeKw "AS" then
    let _ ← name
  let cols ← if ← takeKw "(" then
      let cs ← nameList (← read).size
      needKw ")"
      pure (some cs)
    else pure none
  if ← takeKw "DEFAULT" then
    needKw "VALUES"
    pure (.insert n cols [[]])
  else
    needKw "VALUES"
    pure (.insert n cols (← valueRows (← read).size))

-- One statement, or none when only a `;` comes.
def statement : Parser (Option Statement) := do
  if ← takeKw ";" then return none
  let s ← if ← takeKw "CREATE" then create
    else if ← takeKw "DROP" then drop
    else if ← takeKw "INSERT" then
      orResolution
      insert
    else if ← takeKw "REPLACE" then insert
    else if ← takeKw "UPDATE" then
      orResolution
      let n ← objectName
      needKw "SET"
      let sets ← assignments (← read).size
      let filter ← if ← takeKw "WHERE" then pure (some (← expr)) else pure none
      pure (.update n sets filter)
    else if ← takeKw "DELETE" then
      needKw "FROM"
      let n ← objectName
      let filter ← if ← takeKw "WHERE" then pure (some (← expr)) else pure none
      pure (.delete n filter)
    else if ← takeKw "SELECT" then pure (.select (← selectBody))
    else stuck
  -- the statement ends at a `;` or at the end of the text
  match ← current with
  | none => pure (some s)
  | some t => if t.is ";" then do bump; pure (some s) else stuck

end Parser

def readStatement (tokens : Array Token) : Except ParseError (Option Statement × Nat × Nat) :=
  match (Parser.statement.run ⟨0, 0⟩).run tokens with
  | .ok (s, c) => .ok (s, c.params, c.pos)
  | .error e => .error e

end Sql

end ChatArchive
