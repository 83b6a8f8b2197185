import ChatArchive.Store.Sql.Eval
import ChatArchive.Store.Sql.Parse

namespace ChatArchive

namespace Sql

-- The columns an expression may name: those of one table, known by its name or alias.
structure Frame where
  table : Option String
  asName : Option String
  columns : List Column
  hasRowid : Bool

def Frame.bare : Frame := ⟨none, none, [], false⟩

def Frame.ofTable (t : Table) (asName : Option String) : Frame := ⟨some t.name, asName, t.columns, true⟩

-- The column a reference names in a frame.
def Frame.lookup (f : Frame) (tbl : Option String) (n : String) : Option Expr :=
  let tableOk := match tbl with
    | none => true
    | some t => (f.table.map (sameName t)).getD false || (f.asName.map (sameName t)).getD false
  if !tableOk then none
  else
    let found := (f.columns.zip (List.range f.columns.length)).findSome? fun (c, i) =>
      if sameName c.name n then some (Expr.slot i c.affinity) else none
    match found with
    | some e => some e
    | none => if f.hasRowid && isRowidName n then some .rowid else none

mutual

-- Resolves the column references of an expression against a frame. A name in double quotes
-- that names no column is a text; a bare `true` or `false` that names no column is one or zero.
def resolve (f : Frame) : Expr → Except Failure Expr
  | .column tbl n double pos =>
    match f.lookup tbl n with
    | some e => .ok e
    | none =>
      if double && tbl.isNone then .ok (.lit (.text n))
      else if tbl.isNone && !double && sameName n "true" then .ok (.lit (.integer 1))
      else if tbl.isNone && !double && sameName n "false" then .ok (.lit (.integer 0))
      else
        let shown := match tbl with
          | some t => t ++ "." ++ n
          | none => n
        .error ⟨.error, "no such column: " ++ shown, some pos⟩
  | .unary op e => do pure (.unary op (← resolve f e))
  | .binary op a b => do pure (.binary op (← resolve f a) (← resolve f b))
  | .isNull e negated => do pure (.isNull (← resolve f e) negated)
  | .inList e items negated => do pure (.inList (← resolve f e) (← resolveList f items) negated)
  | .between e lo hi negated => do
    pure (.between (← resolve f e) (← resolve f lo) (← resolve f hi) negated)
  | .call name args => do pure (.call name (← resolveList f args))
  | e => .ok e

def resolveList (f : Frame) : List Expr → Except Failure (List Expr)
  | [] => .ok []
  | e :: es => do pure ((← resolve f e) :: (← resolveList f es))

end

def resolveOpt (f : Frame) : Option Expr → Except Failure (Option Expr)
  | some e => do pure (some (← resolve f e))
  | none => .ok none

-- Where the rows of a selection come from.
inductive Source where
  | nothing
  | rows (t : Table)
  | empty

-- A prepared statement.
inductive Plan where
  | noop
  | addObjects (objects : List Object)
  | createIndex (i : Index) (sql : String)
  | dropObject (name : String)
  | insert (table : String) (targets : List (Option Nat)) (rows : List (List Expr))
  -- an update: the table, each assignment's column (none for the row id), the filter
  | update (table : String) (sets : List (Option Nat × Expr)) (filter : Option Expr)
  | delete (table : String) (filter : Option Expr)
  | select (source : Source) (names : List String) (columns : List Expr) (filter : Option Expr)
      (order : List (Expr × Bool)) (limit : Option Expr)

-- What running a statement gives: the names and rows of a selection, and how many rows it
-- changed.
structure Outcome where
  names : List String
  rows : List (List Datum)
  changes : Nat

-- Looks up the table a statement writes to.
def Catalog.writable (c : Catalog) (n : Name) : Except Failure Table :=
  if isSchemaName n.name then .error (.plain "table sqlite_master may not be modified")
  else
    match c.relation? n.name with
    | some (.table t _) => .ok t
    | some (.view v _ _) => .error (.plain ("cannot modify " ++ v ++ " because it is a view"))
    | _ => .error (.plain ("no such table: " ++ n.name))

def firstRepeat : List String → Option String
  | [] => none
  | n :: rest => if rest.any (sameName n) then some n else firstRepeat rest

-- The columns of a new table and its unique keys, each key as column positions and whether it
-- is the primary key.
def tableShape (tname : String) (defs : List ColumnDef) (keys : List TableKey) :
    Except Failure (List Column × Option Nat × List (List Nat × Bool)) := do
  match firstRepeat (defs.map (·.name)) with
  | some n => throw (.plain ("duplicate column name: " ++ n))
  | none => pure ()
  let columns : List Column := defs.map fun d =>
    let notNull := d.constraints.any fun c => match c with
      | .notNull => true
      | _ => false
    let dflt := (d.constraints.findSome? fun c => match c with
      | .default e => some e
      | _ => none).getD (.lit .null)
    ⟨d.name, Affinity.ofType d.declared, notNull, dflt⟩
  let positions (names : List String) : List Nat :=
    names.filterMap fun n => (columns.zip (List.range columns.length)).findSome? fun (c, i) =>
      if sameName c.name n then some i else none
  let columnKeys : List (List Nat × Bool) :=
    (defs.zip (List.range defs.length)).flatMap fun (d, i) =>
      d.constraints.filterMap fun c => match c with
        | .primaryKey => some ([i], true)
        | .unique => some ([i], false)
        | _ => none
  let tableKeys : List (List Nat × Bool) := keys.filterMap fun k => match k with
    | .primaryKey names => some (positions names, true)
    | .unique names => some (positions names, false)
    | .other => none
  let all := columnKeys ++ tableKeys
  if (all.filter (·.2)).length > 1 then
    throw (.plain ("table \"" ++ tname ++ "\" has more than one primary key"))
  -- a key of one column declared exactly INTEGER is the row id
  let rowidColumn := all.findSome? fun (cols, primary) =>
    match primary, cols with
    | true, [i] =>
      match defs[i]? with
      | some d => if upper d.declared == "INTEGER" then some i else none
      | none => none
    | _, _ => none
  let uniques := all.filter fun (cols, primary) => !(primary && rowidColumn.isSome && cols.length == 1 &&
    cols.head? == rowidColumn)
  pure (columns, rowidColumn, uniques)

-- Prepares `CREATE TABLE`.
def Catalog.prepareTable (c : Catalog) (n : Name) (ifNotExists : Bool) (defs : List ColumnDef)
    (keys : List TableKey) : Except Failure Plan := do
  if isReservedName n.name then
    throw (.plain ("object name reserved for internal use: " ++ n.name))
  match c.relation? n.name with
  | some o =>
    if ifNotExists then return .noop
    throw ⟨.error, o.kindName ++ " " ++ n.text ++ " already exists", some n.pos⟩
  | none => pure ()
  if (c.index? n.name).isSome then
    throw (.plain ("there is already an index named " ++ n.name))
  let (columns, rowidColumn, uniques) ← tableShape n.name defs keys
  let table : Table := ⟨n.name, columns, rowidColumn, []⟩
  let indexes := (uniques.zip (List.range uniques.length)).map fun ((cols, primary), k) =>
    Object.index ⟨"sqlite_autoindex_" ++ n.name ++ "_" ++ toString (k + 1), n.name, cols, true,
      primary, true⟩ none
  pure (.addObjects (.table table ("CREATE TABLE " ++ n.text) :: indexes))

-- Prepares `CREATE VIEW`.
def Catalog.prepareView (c : Catalog) (n : Name) (ifNotExists : Bool) (body : Select) :
    Except Failure Plan := do
  if isReservedName n.name then
    throw (.plain ("object name reserved for internal use: " ++ n.name))
  match c.relation? n.name with
  | some o =>
    if ifNotExists then return .noop
    throw ⟨.error, o.kindName ++ " " ++ n.text ++ " already exists", some n.pos⟩
  | none => pure ()
  if (c.index? n.name).isSome then
    throw (.plain ("there is already an index named " ++ n.name))
  pure (.addObjects [.view n.name body ("CREATE VIEW " ++ n.text)])

-- Prepares `CREATE INDEX`.
def Catalog.prepareIndex (c : Catalog) (n : Name) (unique ifNotExists : Bool) (target : Name)
    (cols : List (String × Nat)) : Except Failure Plan := do
  let table ← if isSchemaName target.name then pure (c.schemaTable)
    else
      match c.relation? target.name with
      | some (.table t _) => pure t
      | some (.view _ _ _) =>
        if isReservedName target.name then
          throw (.plain ("table " ++ target.name ++ " may not be indexed"))
        throw (.plain "views may not be indexed")
      | _ => throw (.plain ("no such table: main." ++ target.name))
  if isReservedName table.name then
    throw (.plain ("table " ++ table.name ++ " may not be indexed"))
  if isReservedName n.name then
    throw (.plain ("object name reserved for internal use: " ++ n.name))
  if (c.relation? n.name).isSome then
    throw (.plain ("there is already a table named " ++ n.name))
  if (c.index? n.name).isSome then
    if ifNotExists then return .noop
    throw (.plain ("index " ++ n.name ++ " already exists"))
  let positions ← cols.mapM fun (name, pos) =>
    match table.column? name with
    | some i => pure i
    | none => throw ⟨.error, "no such column: " ++ name, some pos⟩
  pure (.createIndex ⟨n.name, table.name, positions, unique, false, false⟩
    ("CREATE " ++ (if unique then "UNIQUE " else "") ++ "INDEX " ++ n.text))

-- Prepares `DROP`.
def Catalog.prepareDrop (c : Catalog) (kind : ObjectKind) (ifExists : Bool) (n : Name) :
    Except Failure Plan :=
  match kind with
  | .table =>
    if isSchemaName n.name then .error (.plain "table sqlite_master may not be dropped")
    else
      match c.relation? n.name with
      | some (.table t _) =>
        if isReservedName t.name then .error (.plain ("table " ++ t.name ++ " may not be dropped"))
        else .ok (.dropObject t.name)
      | some (.view v _ _) => .error (.plain ("use DROP VIEW to delete view " ++ v))
      | _ => if ifExists then .ok .noop else .error (.plain ("no such table: " ++ n.name))
  | .view =>
    match c.relation? n.name with
    | some (.view v _ _) => .ok (.dropObject v)
    | some (.table t _) => .error (.plain ("use DROP TABLE to delete table " ++ t.name))
    | _ => if ifExists then .ok .noop else .error (.plain ("no such view: " ++ n.name))
  | .index =>
    match c.index? n.name with
    | some i =>
      if i.automatic then
        .error (.plain "index associated with UNIQUE or PRIMARY KEY constraint cannot be dropped")
      else .ok (.dropObject i.name)
    | none => if ifExists then .ok .noop else .error (.plain ("no such index: " ++ n.name))

-- Prepares `INSERT`.
def Catalog.prepareInsert (c : Catalog) (n : Name) (names : Option (List String))
    (rows : List (List Expr)) : Except Failure Plan := do
  let width := (rows.head?.map List.length).getD 0
  if rows.any (·.length != width) then
    throw (.plain "all VALUES must have the same number of terms")
  let t ← c.writable n
  let targets ← match names with
    | some ns =>
      ns.mapM fun col =>
        match t.column? col with
        | some i => pure (some i)
        | none =>
          if isRowidName col then pure none
          else throw (.plain ("table " ++ n.name ++ " has no column named " ++ col))
    | none => pure ((List.range t.columns.length).map some)
  if width != 0 || names.isSome then
    match names with
    | some ns =>
      if width != ns.length then
        throw (.plain (toString width ++ " values for " ++ toString ns.length ++ " columns"))
    | none =>
      if width != t.columns.length then
        throw (.plain ("table " ++ n.name ++ " has " ++ toString t.columns.length ++
          " columns but " ++ toString width ++ " values were supplied"))
  let resolved ← rows.mapM (resolveList Frame.bare)
  let targets := if width == 0 then [] else targets
  pure (.insert t.name targets resolved)

-- Prepares `UPDATE`.
def Catalog.prepareUpdate (c : Catalog) (n : Name) (sets : List (String × Expr))
    (filter : Option Expr) : Except Failure Plan := do
  let t ← c.writable n
  let frame := Frame.ofTable t none
  let resolved ← sets.mapM fun (col, e) => do
    let e ← resolve frame e
    match t.column? col with
    | some i => pure (some i, e)
    | none =>
      if isRowidName col then pure (none, e)
      else throw (.plain ("no such column: " ++ col))
  pure (.update t.name resolved (← resolveOpt frame filter))

def Catalog.prepareDelete (c : Catalog) (n : Name) (filter : Option Expr) : Except Failure Plan := do
  let t ← c.writable n
  pure (.delete t.name (← resolveOpt (Frame.ofTable t none) filter))

-- The name a result column shows: its alias, or the name of the column it is.
def resultName (f : Frame) (e : Expr) (asName : Option String) (k : Nat) : String :=
  match asName with
  | some a => a
  | none =>
    match e with
    | .slot i _ => ((f.columns[i]?).map (·.name)).getD ("column" ++ toString (k + 1))
    | .rowid => "rowid"
    | _ => "column" ++ toString (k + 1)

-- Prepares a selection.
def Catalog.prepareSelect (c : Catalog) (s : Select) : Except Failure Plan := do
  let (source, frame, known) ← match s.source with
    | none => pure (Source.nothing, Frame.bare, true)
    | some n =>
      if isSchemaName n.name then
        let t := c.schemaTable
        pure (.rows t, Frame.ofTable t none, true)
      else
        match c.relation? n.name with
        | some (.table t _) => pure (.rows t, Frame.ofTable t none, true)
        | some (.view _ _ _) => pure (.empty, Frame.bare, false)
        | _ => throw (.plain ("no such table: " ++ n.name))
  -- the rows of a view are not kept; its selections read nothing and check no names
  if !known then return .select .empty [] [] none [] none
  let items := s.columns.flatMap fun rc => match rc with
    | .star => (List.range frame.columns.length).filterMap fun i =>
        (frame.columns[i]?).map fun col => (Expr.slot i col.affinity, some col.name)
    | .expr e a => [(e, a)]
  let exprs ← items.mapM fun (e, _) => resolve frame e
  let names := ((exprs.zip items).zip (List.range exprs.length)).map fun ((e, (_, a)), k) =>
    resultName frame e a k
  let filter ← resolveOpt frame s.filter
  let order ← s.order.mapM fun term => do
    match term.e with
    | .lit (.integer k) =>
      if 1 ≤ k ∧ k ≤ exprs.length then pure (exprs.getD (k.toNat - 1) (.lit .null), term.descending)
      else throw (.plain ("1st ORDER BY term out of range - should be between 1 and " ++
        toString exprs.length))
    | .column none n _ _ =>
      match (items.zip exprs).find? (fun ((_, a), _) => (a.map (sameName n)).getD false) with
      | some (_, e) => pure (e, term.descending)
      | none => pure (← resolve frame term.e, term.descending)
    | e => pure (← resolve frame e, term.descending)
  let limit ← resolveOpt Frame.bare s.limit
  pure (.select source names exprs filter order limit)

-- Prepares a statement.
def Catalog.prepare (c : Catalog) : Statement → Except Failure Plan
  | .createTable n ine defs keys => c.prepareTable n ine defs keys
  | .createView n ine body => c.prepareView n ine body
  | .createIndex n unique ine target cols => c.prepareIndex n unique ine target cols
  | .drop kind ie n => c.prepareDrop kind ie n
  | .insert n names rows => c.prepareInsert n names rows
  | .update n sets filter => c.prepareUpdate n sets filter
  | .delete n filter => c.prepareDelete n filter
  | .select s => c.prepareSelect s

def keyOf (values : List Datum) (cols : List Nat) : List Datum :=
  cols.map fun i => values.getD i .null

def sameKey (a b : List Datum) : Bool :=
  a.length == b.length && (a.zip b).all fun (x, y) => x.compare y == .eq

def uniqueMessage (t : Table) (cols : List Nat) : String :=
  "UNIQUE constraint failed: " ++ ", ".intercalate (cols.map fun i =>
    t.name ++ "." ++ ((t.columns[i]?).map (·.name)).getD "rowid")

-- Checks a row about to be stored among `others`: `NOT NULL` for the columns `changed` marks,
-- then the row id, then every unique index.
def checkRow (t : Table) (indexes : List Index) (others : List Row) (row : Row)
    (changed : Nat → Bool) : Except Failure Unit := do
  for (col, i) in t.columns.zip (List.range t.columns.length) do
    if col.notNull && changed i && (row.values.getD i .null).isNull then
      throw ⟨.notNull, "NOT NULL constraint failed: " ++ t.name ++ "." ++ col.name, none⟩
  if others.any (·.rowid == row.rowid) then
    let shown := match t.rowidColumn with
      | some i => ((t.columns[i]?).map (·.name)).getD "rowid"
      | none => "rowid"
    throw ⟨.primaryKey, "UNIQUE constraint failed: " ++ t.name ++ "." ++ shown, none⟩
  for idx in indexes do
    if idx.unique then
      let key := keyOf row.values idx.columns
      if !(key.any (·.isNull)) && others.any (fun r => sameKey (keyOf r.values idx.columns) key) then
        throw ⟨if idx.primary then .primaryKey else .unique, uniqueMessage t idx.columns, none⟩

def insertRow (row : Row) : List Row → List Row
  | [] => [row]
  | r :: rest => if row.rowid < r.rowid then row :: r :: rest else r :: insertRow row rest

def rowidOf (d : Datum) : Except Failure Int :=
  match d.withAffinity .integer with
  | .integer n => .ok n
  | _ => .error ⟨.mismatch, "datatype mismatch", none⟩

-- Runs the rows of an `INSERT`.
def runInsert (t : Table) (indexes : List Index) (targets : List (Option Nat))
    (rows : List (List Expr)) (params : List Datum) : Except Failure Table := do
  let mut table := t
  for exprs in rows do
    let given := (targets.zip exprs).map fun (target, e) =>
      (target, eval ⟨0, [], params⟩ e)
    let values := (table.columns.zip (List.range table.columns.length)).map fun (col, i) =>
      match given.find? (·.1 == some i) with
      | some (_, d) => d.withAffinity col.affinity
      | none => (eval ⟨0, [], params⟩ col.default).withAffinity col.affinity
    let explicit := (given.find? (·.1 == none)).map (·.2)
    let aliasValue := table.rowidColumn.map fun i => values.getD i .null
    let rowid ← match explicit, aliasValue with
      | some d, _ => if d.isNull then pure table.nextRowid else rowidOf d
      | none, some d => if d.isNull then pure table.nextRowid else rowidOf d
      | none, none => pure table.nextRowid
    let values := match table.rowidColumn with
      | some i => values.set i (.integer rowid)
      | none => values
    let row : Row := ⟨rowid, values⟩
    checkRow table indexes table.rows row (fun _ => true)
    table := { table with rows := insertRow row table.rows }
  pure table

def passing (filter : Option Expr) (params : List Datum) (rows : List Row) : List Row :=
  match filter with
  | none => rows
  | some f => rows.filter fun r => truth (eval ⟨r.rowid, r.values, params⟩ f) == some true

-- Runs an `UPDATE`: each chosen row in row id order gets its new values, worked out from its
-- old ones, and is checked against the rows as they stand by then.
def runUpdate (t : Table) (indexes : List Index) (sets : List (Option Nat × Expr))
    (filter : Option Expr) (params : List Datum) : Except Failure (Table × Nat) := do
  let chosen := passing filter params t.rows
  let mut rows := t.rows
  for old in chosen do
    let scope : Scope := ⟨old.rowid, old.values, params⟩
    let assigned := sets.map fun (target, e) => (target, eval scope e)
    let values := (t.columns.zip (List.range t.columns.length)).map fun (col, i) =>
      match (assigned.reverse.find? (·.1 == some i)) with
      | some (_, d) => d.withAffinity col.affinity
      | none => old.values.getD i .null
    let newRowid ← match (assigned.reverse.find? (·.1 == none)).map (·.2), t.rowidColumn with
      | some d, _ => rowidOf d
      | none, some i =>
        if assigned.any (·.1 == some i) then rowidOf (values.getD i .null) else pure old.rowid
      | none, none => pure old.rowid
    let values := match t.rowidColumn with
      | some i => values.set i (.integer newRowid)
      | none => values
    let others := rows.filter (·.rowid != old.rowid)
    let row : Row := ⟨newRowid, values⟩
    checkRow t indexes others row (fun i => assigned.any (·.1 == some i))
    rows := insertRow row others
  pure ({ t with rows := rows }, chosen.length)

-- Compares two key lists term by term, a descending term reversed.
def compareKeys : List Datum → List Datum → List Bool → Ordering
  | a :: as, b :: bs, d :: ds =>
    match a.compare b with
    | .eq => compareKeys as bs ds
    | o => if d then o.swap else o
  | _, _, _ => .eq

-- Runs a selection.
def runSelect (source : Source) (names : List String) (columns : List Expr) (filter : Option Expr)
    (order : List (Expr × Bool)) (limit : Option Expr) (params : List Datum) : Outcome :=
  let rows : List Row := match source with
    | .nothing => [⟨0, []⟩]
    | .rows t => t.rows
    | .empty => []
  let kept := passing filter params rows
  let keyed := kept.map fun r =>
    let scope : Scope := ⟨r.rowid, r.values, params⟩
    (order.map (fun (e, _) => eval scope e), columns.map (eval scope))
  let directions := order.map (·.2)
  let sorted := keyed.mergeSort fun a b => compareKeys a.1 b.1 directions != .gt
  let out := sorted.map (·.2)
  let out := match limit.map (eval ⟨0, [], params⟩) with
    | some (.integer n) => if n < 0 then out else out.take n.toNat
    | _ => out
  ⟨names, out, 0⟩

-- Runs a prepared statement with its parameters.
def Catalog.run (c : Catalog) (plan : Plan) (params : List Datum) :
    Except Failure (Catalog × Outcome) := do
  let none' : Outcome := ⟨[], [], 0⟩
  match plan with
  | .noop => pure (c, none')
  | .addObjects objects => pure (objects.foldl Catalog.add c, none')
  | .createIndex idx sql =>
    match c.table? idx.table with
    | some t =>
      if idx.unique then
        -- the rows already stored must not collide on the new key
        let keys := t.rows.filterMap fun r =>
          let k := keyOf r.values idx.columns
          if k.any (·.isNull) then none else some k
        let rec clash : List (List Datum) → Bool
          | [] => false
          | k :: rest => rest.any (sameKey k) || clash rest
        if clash keys then throw ⟨.unique, uniqueMessage t idx.columns, none⟩
      pure (c.add (.index idx (some sql)), none')
    | none => pure (c.add (.index idx (some sql)), none')
  | .dropObject name =>
    let objects := c.objects.filter fun o =>
      !(sameName o.name name) && !(match o with
        | .index i _ => sameName i.table name
        | _ => false)
    pure (⟨objects⟩, none')
  | .insert table targets rows =>
    match c.table? table with
    | some t =>
      let t' ← runInsert t (c.indexesOf t.name) targets rows params
      pure (c.putTable t', ⟨[], [], rows.length⟩)
    | none => throw (.plain ("no such table: " ++ table))
  | .update table sets filter =>
    match c.table? table with
    | some t =>
      let (t', n) ← runUpdate t (c.indexesOf t.name) sets filter params
      pure (c.putTable t', ⟨[], [], n⟩)
    | none => throw (.plain ("no such table: " ++ table))
  | .delete table filter =>
    match c.table? table with
    | some t =>
      let gone := passing filter params t.rows
      let kept := t.rows.filter fun r => !(gone.any (·.rowid == r.rowid))
      pure (c.putTable { t with rows := kept }, ⟨[], [], gone.length⟩)
    | none => throw (.plain ("no such table: " ++ table))
  | .select source names columns filter order limit =>
    let source := match source with
      | .rows t => if isSchemaName t.name then Source.rows c.schemaTable else
          match c.table? t.name with
          | some t' => .rows t'
          | none => .empty
      | s => s
    pure (c, runSelect source names columns filter order limit params)

def ParseError.failure : ParseError → Failure
  | .near t => ⟨.error, "near \"" ++ t.text ++ "\": syntax error", some t.start⟩
  | .unrecognized t => ⟨.error, "unrecognized token: \"" ++ t.text ++ "\"", some t.start⟩
  | .incomplete => .plain "incomplete input"
  | .other m => .plain m

-- The text after the first `n` tokens of `sql`.
def tailAfter (sql : String) (tokens : Array Token) (n : Nat) : String :=
  match n with
  | 0 => sql
  | k + 1 =>
    match tokens[k]? with
    | some t =>
      let start := t.start + t.text.utf8ByteSize
      let bytes := sql.toUTF8
      (String.fromUTF8? (bytes.extract start bytes.size)).getD ""
    | none => ""

-- Prepares the first statement of a text: its plan (none when the text holds no statement),
-- the number of parameters it takes, and the text after it.
def Catalog.prepareText (c : Catalog) (sql : String) :
    Except Failure (Option (Plan × Nat) × String) := do
  let tokens := (tokenize sql).toArray
  if tokens.isEmpty then return (none, "")
  match readStatement tokens with
  | .error e => throw e.failure
  | .ok (none, _, used) => pure (none, tailAfter sql tokens used)
  | .ok (some s, params, used) =>
    let plan ← c.prepare s
    pure (some (plan, params), tailAfter sql tokens used)

end Sql

end ChatArchive
