import ChatArchive.Store.Sql.Syntax

namespace ChatArchive

namespace Sql

-- Why a statement failed: the primary error, or the kind of broken constraint.
inductive Code where
  | error
  | notNull
  | primaryKey
  | unique
  | mismatch
  | readOnly
  deriving DecidableEq, Repr

-- A failure: its code, its message, and for a failure found while preparing a statement, the
-- byte offset in the statement it points at, when it points anywhere.
structure Failure where
  code : Code
  message : String
  pos : Option Nat

def Failure.plain (message : String) : Failure := ⟨.error, message, none⟩

-- A column of a table.
structure Column where
  name : String
  affinity : Affinity
  notNull : Bool
  default : Expr

-- A row: its id and one value per column.
structure Row where
  rowid : Int
  values : List Datum

-- A table: its name, columns, the column serving as row id if any, and its rows in row id
-- order.
structure Table where
  name : String
  columns : List Column
  rowidColumn : Option Nat
  rows : List Row

-- An index: its name, its table, the positions of its columns, whether its keys are unique,
-- whether it is the table's primary key, and whether it came with the table.
structure Index where
  name : String
  table : String
  columns : List Nat
  unique : Bool
  primary : Bool
  automatic : Bool

-- A schema object and the text of the statement that made it.
inductive Object where
  | table (t : Table) (sql : String)
  | view (name : String) (body : Select) (sql : String)
  | index (i : Index) (sql : Option String)

-- A database: its objects in the order they were made.
structure Catalog where
  objects : List Object

namespace Catalog

def empty : Catalog := ⟨[]⟩

end Catalog

def sameName (a b : String) : Bool :=
  a.toList.map Char.toLower == b.toList.map Char.toLower

def isReservedName (n : String) : Bool :=
  (n.toList.take 7).map Char.toLower == "sqlite_".toList

def isSchemaName (n : String) : Bool :=
  sameName n "sqlite_master" || sameName n "sqlite_schema" || sameName n "sqlite_temp_master" ||
    sameName n "sqlite_temp_schema"

def isRowidName (n : String) : Bool :=
  sameName n "rowid" || sameName n "oid" || sameName n "_rowid_"

namespace Object

def name : Object → String
  | .table t _ => t.name
  | .view n _ _ => n
  | .index i _ => i.name

def kindName : Object → String
  | .table _ _ => "table"
  | .view _ _ _ => "view"
  | .index _ _ => "index"

def tableName : Object → String
  | .table t _ => t.name
  | .view n _ _ => n
  | .index i _ => i.table

def sql : Object → Option String
  | .table _ s => some s
  | .view _ _ s => some s
  | .index _ s => s

end Object

namespace Catalog

def relation? (c : Catalog) (n : String) : Option Object :=
  c.objects.find? fun o =>
    match o with
    | .index _ _ => false
    | _ => sameName o.name n

def table? (c : Catalog) (n : String) : Option Table :=
  match c.relation? n with
  | some (.table t _) => some t
  | _ => none

def index? (c : Catalog) (n : String) : Option Index :=
  c.objects.findSome? fun o =>
    match o with
    | .index i _ => if sameName i.name n then some i else none
    | _ => none

-- The indexes of a table, the primary key's first, then in the order they were made.
def indexesOf (c : Catalog) (table : String) : List Index :=
  let all := c.objects.filterMap fun o =>
    match o with
    | .index i _ => if sameName i.table table then some i else none
    | _ => none
  all.filter (·.primary) ++ all.filter (!·.primary)

def putTable (c : Catalog) (t : Table) : Catalog :=
  ⟨c.objects.map fun o =>
    match o with
    | .table u sql => if sameName u.name t.name then .table t sql else o
    | _ => o⟩

def add (c : Catalog) (o : Object) : Catalog := ⟨c.objects ++ [o]⟩

def schemaColumns : List Column :=
  [⟨"type", .text, false, .lit .null⟩, ⟨"name", .text, false, .lit .null⟩,
   ⟨"tbl_name", .text, false, .lit .null⟩, ⟨"rootpage", .integer, false, .lit .null⟩,
   ⟨"sql", .text, false, .lit .null⟩]

-- The rows of the schema table: one per object, numbered from one.
def schemaRows (c : Catalog) : List Row :=
  (c.objects.zip (List.range c.objects.length)).map fun (o, i) =>
    let page : Datum := match o with
      | .view _ _ _ => .integer 0
      | _ => .integer (i + 2)
    ⟨i + 1, [.text o.kindName, .text o.name, .text o.tableName, page,
      match o.sql with
      | some s => .text s
      | none => .null]⟩

def schemaTable (c : Catalog) : Table :=
  ⟨"sqlite_master", schemaColumns, none, c.schemaRows⟩

end Catalog

def Table.column? (t : Table) (n : String) : Option Nat :=
  (t.columns.zip (List.range t.columns.length)).findSome? fun (col, i) =>
    if sameName col.name n then some i else none

def Table.nextRowid (t : Table) : Int :=
  t.rows.foldl (fun m r => max m r.rowid) 0 + 1

end Sql

end ChatArchive
