import ChatArchive.Store.Sql.Datum

namespace ChatArchive

namespace Sql

-- Operators of one operand.
inductive UnOp where
  | neg
  | plus
  | not
  | bitNot
  deriving DecidableEq, Repr

-- Operators of two operands.
inductive BinOp where
  | or
  | and
  | eq
  | ne
  | lt
  | le
  | gt
  | ge
  | is
  | isNot
  | add
  | sub
  | mul
  | div
  | rem
  | concat
  | bitAnd
  | bitOr
  | shl
  | shr
  deriving DecidableEq, Repr

-- An expression. A column reference is resolved against a table into a `slot` (carrying the
-- column's affinity) or the `rowid` before the expression is evaluated.
inductive Expr where
  | lit (d : Datum)
  | param (index : Nat)
  -- a column as written: an optional table name, the column name, whether the name was in
  -- double quotes, and the byte offset of the reference
  | column (table : Option String) (name : String) (double : Bool) (pos : Nat)
  | slot (index : Nat) (affinity : Affinity)
  | rowid
  | unary (op : UnOp) (e : Expr)
  | binary (op : BinOp) (a b : Expr)
  | isNull (e : Expr) (negated : Bool)
  | inList (e : Expr) (items : List Expr) (negated : Bool)
  | between (e lo hi : Expr) (negated : Bool)
  | call (name : String) (args : List Expr)

-- A table, view or index name as written: an optional schema, the name, the byte offset and
-- the text of its token.
structure Name where
  schema : Option String
  name : String
  pos : Nat
  text : String

-- A column constraint.
inductive Constraint where
  | primaryKey
  | notNull
  | unique
  | default (value : Expr)
  | other

-- A column of a new table: its name, declared type and constraints.
structure ColumnDef where
  name : String
  declared : String
  constraints : List Constraint

-- A constraint over several columns of a new table.
inductive TableKey where
  | primaryKey (columns : List String)
  | unique (columns : List String)
  | other

-- A result column of a selection.
inductive ResultColumn where
  | star
  | expr (e : Expr) (asName : Option String)

-- A term of an ordering, and whether it runs backwards.
structure OrderTerm where
  e : Expr
  descending : Bool

-- A selection from at most one table.
structure Select where
  columns : List ResultColumn
  source : Option Name
  filter : Option Expr
  order : List OrderTerm
  limit : Option Expr

-- The kinds of schema objects.
inductive ObjectKind where
  | table
  | view
  | index
  deriving DecidableEq, Repr

-- A statement.
inductive Statement where
  | createTable (name : Name) (ifNotExists : Bool) (columns : List ColumnDef)
      (keys : List TableKey)
  | createView (name : Name) (ifNotExists : Bool) (body : Select)
  | createIndex (name : Name) (unique ifNotExists : Bool) (table : Name)
      (columns : List (String × Nat))
  | drop (kind : ObjectKind) (ifExists : Bool) (name : Name)
  | insert (table : Name) (columns : Option (List String)) (rows : List (List Expr))
  | update (table : Name) (sets : List (String × Expr)) (filter : Option Expr)
  | delete (table : Name) (filter : Option Expr)
  | select (s : Select)

end Sql

end ChatArchive
