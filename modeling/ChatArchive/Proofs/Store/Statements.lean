import Mathlib
import ChatArchive.Store.Database

namespace ChatArchive

open Sql StoreM

theorem ok_bind {ε α β : Type} (a : α) (f : α → Except ε β) : (Except.ok a >>= f) = f a := rfl

theorem List.isEmpty_filter_eq_not_any {α : Type} (l : List α) (q : α → Bool) :
    (l.filter q).isEmpty = !(l.any q) := by
  cases h : l.any q <;> simp_all [List.isEmpty_iff, List.filter_eq_nil_iff]

theorem List.any_zip_fst {α β : Type} (l : List α) (l' : List β) (h : l.length ≤ l'.length)
    (p : α → Bool) : (l.zip l').any (fun x => p x.1) = l.any p := by
  rw [show (fun x : α × β => p x.1) = p ∘ Prod.fst from rfl, ← List.any_map, List.map_fst_zip h]

theorem List.map_zip_range_congr {α β : Type} (l : List α) (F G : α × Nat → β)
    (h : ∀ a i, i < l.length → F (a, i) = G (a, i)) :
    (l.zip (List.range l.length)).map F = (l.zip (List.range l.length)).map G := by
  apply List.map_congr_left
  rintro ⟨a, i⟩ hx
  exact h a i (List.mem_range.mp (List.of_mem_zip hx).2)

theorem List.mapM_except_ok {α β ε : Type} (f : α → Except ε β) (g : α → β) (l : List α)
    (h : ∀ x ∈ l, f x = .ok (g x)) : l.mapM f = .ok (l.map g) := by
  induction l with
  | nil => rfl
  | cons x l ih =>
    simp only [List.mapM_cons, h x (List.mem_cons_self ..),
      ih fun y hy => h y (List.mem_cons_of_mem _ hy)]
    rfl

theorem List.mapM_except_error {α β ε : Type} (f : α → Except ε β) (P : ε → Prop) {l : List α}
    {x : α} (hx : x ∈ l) {e : ε} (he : f x = .error e)
    (hP : ∀ y ∈ l, ∀ e, f y = .error e → P e) : ∃ e', l.mapM f = .error e' ∧ P e' := by
  induction l with
  | nil => simp at hx
  | cons y l ih =>
    rw [List.mapM_cons]
    cases hy : f y with
    | error e' => exact ⟨e', rfl, hP y (List.mem_cons_self ..) e' hy⟩
    | ok b =>
      have hx' : x ∈ l := by
        rcases List.mem_cons.mp hx with rfl | hx
        · rw [he] at hy; cases hy
        · exact hx
      obtain ⟨e', he', hpe⟩ := ih hx' fun z hz => hP z (List.mem_cons_of_mem _ hz)
      exact ⟨e', by simp only [ok_bind, he']; rfl, hpe⟩

theorem List.mapM_bind_except_error {α β γ ε : Type} (f : α → Except ε β)
    (g : List β → Except ε γ) (P : ε → Prop) {l : List α} {x : α} (hx : x ∈ l)
    (hfx : ∃ e, f x = .error e) (hP : ∀ y ∈ l, ∀ e, f y = .error e → P e) :
    ∃ e, (l.mapM f >>= g) = .error e ∧ P e := by
  obtain ⟨e, he⟩ := hfx
  obtain ⟨e', he', hpe⟩ := List.mapM_except_error f P hx he hP
  exact ⟨e', by rw [he']; rfl, hpe⟩

namespace StoreM

def on {α : Type} (m : StoreM α) (s : Store) : Except StorageError α × Store := (m.run).run s

theorem on_bind {α β : Type} (m : StoreM α) (f : α → StoreM β) (s : Store) :
    (m >>= f).on s = match m.on s with
      | (.ok a, s') => (f a).on s'
      | (.error e, s') => (.error e, s') := by
  simp only [on, ExceptT.run_bind, StateT.run_bind]
  rcases (m.run).run s with ⟨_ | _, s'⟩ <;> rfl

theorem on_get (s : Store) : (get : StoreM Store).on s = (.ok s, s) := rfl

theorem on_note (l : Logger) (level : Level) (kind message : String) (fields : List Field)
    (s : Store) : (note l level kind message fields).on s =
      (.ok (), { s with logs := s.logs ++ [l.record level kind message fields] }) := rfl

theorem on_attempt {α : Type} (m : StoreM α) (s : Store) :
    (attempt m).on s = match m.on s with
      | (.ok a, s') => (.ok (.ok a), s')
      | (.error e, s') => (.ok (.error e), s') := by
  rcases h : (m.run).run s with ⟨_ | _, s'⟩ <;>
    simp only [attempt, on, ExceptT.run_tryCatch, ExceptT.run_bind, StateT.run_bind, h] <;> rfl

end StoreM

namespace Sql

theorem sameName_refl (n : String) : sameName n n = true := by simp [sameName]

theorem length_eq_of_sameName {a b : String} (h : sameName a b = true) :
    a.toList.length = b.toList.length := by
  simpa [sameName] using congrArg List.length (beq_iff_eq.mp h)

theorem isReservedName_of_isSchemaName {n : String} (h : isSchemaName n = true) :
    isReservedName n = true := by
  have take7 : ∀ m : String, sameName n m = true → isReservedName m = true →
      isReservedName n = true := by
    intro m hm hr
    simp only [isReservedName, sameName, beq_iff_eq] at hm hr ⊢
    rw [List.map_take, hm, ← List.map_take, hr]
  simp only [isSchemaName, Bool.or_eq_true] at h
  rcases h with ((h | h) | h) | h <;> exact take7 _ h (by decide +kernel)

theorem isSchemaName_eq_false {n : String} (h : isReservedName n = false) :
    isSchemaName n = false := by
  cases hs : isSchemaName n
  · rfl
  · rw [isReservedName_of_isSchemaName hs] at h
    exact h

theorem lexCompare_eq_iff {α : Type} [Ord α] [Std.LawfulEqOrd α] {xs ys : List α} :
    lexCompare xs ys = .eq ↔ xs = ys := by
  induction xs generalizing ys with
  | nil => cases ys <;> simp [lexCompare]
  | cons x xs ih =>
    cases ys with
    | nil => simp [lexCompare]
    | cons y ys =>
      have hxy : compare x y = .eq ↔ x = y := Std.compare_eq_iff_eq
      simp only [lexCompare, List.cons.injEq]
      cases h : compare x y with
      | eq => simp [ih, hxy.mp h]
      | lt => simp [← hxy, h]
      | gt => simp [← hxy, h]

@[simp] theorem Datum.compare_text_beq (a b : String) :
    ((Datum.text a).compare (.text b) == .eq) = (a == b) := by
  by_cases h : a = b <;> simp [Datum.compare, lexCompare_eq_iff, String.toList_inj, h]

theorem Numeral.datum_ne_null (n : Numeral) : n.datum ≠ .null := by
  cases n <;> simp only [Numeral.datum] <;> (try split) <;> simp

theorem integral_ne_null (b : UInt64) : integral b ≠ .null := by
  unfold integral
  split <;> simp

theorem Datum.isNull_eq_false_iff {d : Datum} : d.isNull = false ↔ d ≠ .null := by
  cases d <;> simp [Datum.isNull]

theorem Datum.isNull_withAffinity {d : Datum} (a : Affinity) (h : d.isNull = false) :
    (d.withAffinity a).isNull = false := by
  rw [Datum.isNull_eq_false_iff] at h ⊢
  cases a <;> cases d <;> simp only [Datum.withAffinity] <;> (repeat' split) <;>
    simp_all [integral_ne_null, Numeral.datum_ne_null]

theorem Table.column?_congr {t : Table} (t' : Table) (h : t.columns = t'.columns) (n : String) :
    t.column? n = t'.column? n := by
  simp only [Table.column?, h]

namespace Catalog

def Free (c : Catalog) (n : String) : Prop :=
  isReservedName n = false ∧ ∀ o ∈ c.objects, sameName o.name n = false

def hasTable (c : Catalog) (n : String) : Bool :=
  c.objects.any fun o => o.kindName == "table" && o.name == n

theorem relation?_eq_none_iff {c : Catalog} {n : String} :
    c.relation? n = none ↔
      ∀ o ∈ c.objects, (o matches .index _ _) = false → sameName o.name n = false := by
  simp only [relation?, List.find?_eq_none]
  constructor <;> intro h o ho <;> specialize h o ho <;> cases o <;> simp_all

theorem index?_eq_none_iff {c : Catalog} {n : String} :
    c.index? n = none ↔
      ∀ o ∈ c.objects, (o matches .index _ _) = true → sameName o.name n = false := by
  simp only [index?, List.findSome?_eq_none_iff]
  constructor <;> intro h o ho <;> specialize h o ho <;> cases o <;> simp_all [Object.name]

theorem free_iff {c : Catalog} {n : String} :
    c.Free n ↔ isReservedName n = false ∧ c.relation? n = none ∧ c.index? n = none := by
  simp only [Free, relation?_eq_none_iff, index?_eq_none_iff]
  constructor
  · rintro ⟨hr, h⟩
    exact ⟨hr, fun o ho _ => h o ho, fun o ho _ => h o ho⟩
  · rintro ⟨hr, hrel, hidx⟩
    refine ⟨hr, fun o ho => ?_⟩
    cases o with
    | index i sql => exact hidx _ ho rfl
    | table t sql => exact hrel _ ho rfl
    | view v b sql => exact hrel _ ho rfl

theorem relation?_congr (c : Catalog) {a b : String} (h : sameName a b = true) :
    c.relation? a = c.relation? b := by
  simp only [sameName, beq_iff_eq] at h
  simp only [relation?, sameName, h]

theorem sameName_of_relation?_eq_some {c : Catalog} {n : String} {o : Object}
    (h : c.relation? n = some o) : sameName o.name n = true := by
  have := List.find?_some h
  cases o with
  | index i sql => simp at this
  | table t sql => simpa using this
  | view v b sql => simpa using this

theorem table?_of_relation? {c : Catalog} {n : String} {t : Table} {sql : String}
    (ht : c.relation? n = some (.table t sql)) : c.table? t.name = some t := by
  have h := sameName_of_relation?_eq_some ht
  simp only [Object.name] at h
  rw [Catalog.table?, c.relation?_congr h, ht]

end Catalog

end Sql

namespace StoreM

def tableFilter : Expr :=
  .binary .and (.binary .eq (.slot 0 .text) (.lit (.text "table")))
    (.binary .eq (.slot 1 .text) (.param 1))

theorem truth_integer (i : Int) : truth (.integer i) = some (i != 0) := rfl

theorem eval_tableFilter (rowid : Int) (k nm n : String) (rest : List Datum) :
    truth (eval ⟨rowid, .text k :: .text nm :: rest, [.text n]⟩ tableFilter) =
      some (k == "table" && nm == n) := by
  cases hk : (k == "table") <;> cases hn : (nm == n) <;>
    simp [eval, tableFilter, comparison, leaning, converge, Expr.affinity?, BinOp.holds,
      truthDatum, Datum.withAffinity, hk, hn, truth_integer, Affinity.isNumeric, Datum.isNull]

theorem prepare_tableQuery (c : Catalog) :
    c.prepare tableQuery.stmt = .ok (.select (.rows c.schemaTable) ["column1"]
      [.lit (.integer 1)] (some tableFilter) [] none) := rfl

theorem run_schemaSelect (c : Catalog) (names : List String) (cols : List Expr)
    (f : Option Expr) (order : List (Expr × Bool)) (lim : Option Expr) (ps : List Datum) :
    c.run (.select (.rows c.schemaTable) names cols f order lim) ps =
      .ok (c, runSelect (.rows c.schemaTable) names cols f order lim ps) := by
  have h : isSchemaName c.schemaTable.name = true := by
    show isSchemaName "sqlite_master" = true
    decide
  simp only [Catalog.run, h]
  rfl

theorem runSelect_rows_length (t : Table) (names : List String) (cols : List Expr)
    (f : Option Expr) (order : List (Expr × Bool)) (ps : List Datum) :
    (runSelect (.rows t) names cols f order none ps).rows.length =
      (passing f ps t.rows).length := by
  simp [runSelect, List.length_mergeSort]

theorem schemaRows_passing_isEmpty (c : Catalog) (n : String) :
    (passing (some tableFilter) [.text n] c.schemaRows).isEmpty = !c.hasTable n := by
  simp only [passing, Catalog.schemaRows, Catalog.hasTable, List.filter_map, List.isEmpty_map,
    List.isEmpty_filter_eq_not_any, Function.comp_def, eval_tableFilter]
  rw [← List.any_zip_fst c.objects (List.range c.objects.length) (by simp)]
  simp

theorem containerExists_on (n : String) (s : Store) :
    (containerExists n).on s = (.ok (s.catalog.hasTable n), s) := by
  have hrows : (runSelect (.rows s.catalog.schemaTable) ["column1"] [.lit (.integer 1)]
      (some tableFilter) [] none [.text n]).rows.isEmpty = !s.catalog.hasTable n := by
    rw [← schemaRows_passing_isEmpty]
    have hlen := runSelect_rows_length s.catalog.schemaTable ["column1"] [.lit (.integer 1)]
      (some tableFilter) [] [.text n]
    generalize (runSelect _ _ _ _ _ _ _).rows = rows at hlen ⊢
    cases rows <;> cases h : passing (some tableFilter) [.text n] s.catalog.schemaTable.rows <;>
      simp_all [Catalog.schemaTable]
  simp only [containerExists, execQuery, on_bind, on_get, prepare_tableQuery, run_schemaSelect]
  show (Except.ok (!(runSelect _ _ _ _ _ _ _).rows.isEmpty), s) = _
  rw [hrows, Bool.not_not]

end StoreM

namespace ContainerKind

def tableColumns (k : ContainerKind) : List Column :=
  k.columnDefs.map fun d =>
    ⟨d.name, Affinity.ofType d.declared, d.constraints.any (· matches .notNull), .lit .null⟩

def table (k : ContainerKind) (n : String) : Table := ⟨n, k.tableColumns, none, []⟩

theorem firstRepeat_columnNames (k : ContainerKind) : firstRepeat k.columnNames = none := by
  cases k <;> decide +kernel

theorem tableShape_columnDefs (n : String) (k : ContainerKind) :
    tableShape n k.columnDefs [] = .ok (k.tableColumns, none, [([0], true)]) := by
  have h := firstRepeat_columnNames k
  simp only [columnNames] at h
  have h2 : upper "TEXT" = "TEXT" := by decide +kernel
  cases k <;> simp only [tableShape, h] <;>
    simp [tableColumns, columnDefs, List.range_succ, h2] <;> rfl

end ContainerKind

namespace Sql

def keyIndex (n : String) : Index := ⟨"sqlite_autoindex_" ++ n ++ "_1", n, [0], true, true, true⟩

def Catalog.withContainer (c : Catalog) (n : String) (k : ContainerKind) : Catalog :=
  (c.add (.table (k.table n) ("CREATE TABLE " ++ quoted n))).add (.index (keyIndex n) none)

end Sql

namespace StoreM

theorem createQuery_stmt (n : String) (k : ContainerKind) :
    (createQuery n k).stmt = .createTable (quotedName n 13) false k.columnDefs [] := rfl

theorem prepare_createQuery_of_free {c : Catalog} {n : String} (k : ContainerKind)
    (h : c.Free n) : c.prepare (createQuery n k).stmt =
      .ok (.addObjects [.table (k.table n) ("CREATE TABLE " ++ quoted n),
        .index (keyIndex n) none]) := by
  obtain ⟨hr, hrel, hidx⟩ := Catalog.free_iff.mp h
  rw [createQuery_stmt]
  simp only [quotedName, Catalog.prepare, Catalog.prepareTable, hr, hrel, hidx,
    ContainerKind.tableShape_columnDefs, Bool.false_eq_true, ↓reduceIte, Option.isSome_none]
  -- the key's index is numbered from one
  have hname : "sqlite_autoindex_" ++ n ++ "_" ++ toString (0 + 1) =
      "sqlite_autoindex_" ++ n ++ "_1" := by
    rw [String.append_assoc]
    congr 1
  show Except.ok (Plan.addObjects [_, .index ⟨"sqlite_autoindex_" ++ n ++ "_" ++ toString (0 + 1),
    n, [0], true, true, true⟩ none]) = _
  rw [hname]
  rfl

theorem prepare_createQuery_of_not_free {c : Catalog} {n : String} (k : ContainerKind)
    (h : ¬ c.Free n) : ∃ f, c.prepare (createQuery n k).stmt = .error f := by
  rw [Catalog.free_iff] at h
  rw [createQuery_stmt]
  simp only [quotedName, Catalog.prepare, Catalog.prepareTable]
  -- the checks of a new table, in the order they are made
  by_cases hr : isReservedName n = true
  · simp only [hr, ↓reduceIte]
    exact ⟨_, rfl⟩
  · rcases Option.eq_none_or_eq_some (c.relation? n) with hrel | ⟨o, hrel⟩
    · by_cases hidx : (c.index? n).isSome = true
      · simp only [hr, hrel, hidx, Bool.false_eq_true, ↓reduceIte]
        exact ⟨_, rfl⟩
      · exact absurd ⟨by simpa using hr, hrel, by simpa using hidx⟩ h
    · simp only [hr, hrel, Bool.false_eq_true, ↓reduceIte]
      exact ⟨_, rfl⟩

theorem createQuery_of_free {s : Store} {n : String} (k : ContainerKind) (h : s.catalog.Free n) :
    (execQuery (createQuery n k) []).on s =
      (.ok ⟨[], [], 0⟩, { s with catalog := s.catalog.withContainer n k }) := by
  simp only [execQuery, on_bind, on_get, prepare_createQuery_of_free k h]
  rfl

theorem createQuery_of_not_free {s : Store} {n : String} (k : ContainerKind)
    (h : ¬ s.catalog.Free n) : ∃ e, (execQuery (createQuery n k) []).on s = (.error e, s) := by
  obtain ⟨f, hf⟩ := prepare_createQuery_of_not_free k h
  simp only [execQuery, on_bind, on_get, hf]
  exact ⟨_, rfl⟩

end StoreM

namespace Sql

def Catalog.withIndex (c : Catalog) (i table : String) (j : Nat) : Catalog :=
  if (c.index? i).isSome then c
  else c.add (.index ⟨i, table, [j], false, false, false⟩ (some ("CREATE INDEX " ++ quoted i)))

theorem Catalog.run_createIndex_of_not_unique (c : Catalog) {idx : Index} (sql : String)
    (ps : List Datum) (h : idx.unique = false) :
    c.run (.createIndex idx sql) ps = .ok (c.add (.index idx (some sql)), ⟨[], [], 0⟩) := by
  simp only [Catalog.run, h, Bool.false_eq_true, ↓reduceIte]
  split <;> rfl

end Sql

namespace StoreM

theorem indexQuery_stmt (i n f : String) : ∃ p q, (indexQuery i n f).stmt =
    .createIndex (quotedName i 27) false true (quotedName n p) [(f, q)] := ⟨_, _, rfl⟩

theorem indexQuery_on {s : Store} {i n f : String} {t : Table} {sql : String} {j : Nat}
    (ht : s.catalog.relation? n = some (.table t sql)) (hn : isReservedName n = false)
    (htn : isReservedName t.name = false) (hj : t.column? f = some j)
    (hi : isReservedName i = false) (hrel : s.catalog.relation? i = none) :
    (execQuery (indexQuery i n f) []).on s =
      (.ok ⟨[], [], 0⟩, { s with catalog := s.catalog.withIndex i t.name j }) := by
  obtain ⟨p, q, hq⟩ := indexQuery_stmt i n f
  have hp : s.catalog.prepare (indexQuery i n f).stmt =
      .ok (if (s.catalog.index? i).isSome then .noop
        else .createIndex ⟨i, t.name, [j], false, false, false⟩
          ("CREATE " ++ "" ++ "INDEX " ++ quoted i)) := by
    rw [hq]
    simp only [Catalog.prepare]
    unfold Catalog.prepareIndex
    simp only [quotedName, isSchemaName_eq_false hn, Bool.false_eq_true, ↓reduceIte, ht,
      pure_bind, htn, hi, hrel, Option.isSome_none]
    cases (s.catalog.index? i).isSome
    · simp only [Bool.false_eq_true, ↓reduceIte, List.mapM_cons, List.mapM_nil, hj, pure_bind]
      rfl
    · rfl
  have hsql : "CREATE " ++ "" ++ "INDEX " ++ quoted i = "CREATE INDEX " ++ quoted i := by
    rw [String.append_empty]
    congr 1
  simp only [execQuery, on_bind, on_get, hp, Catalog.withIndex]
  cases (s.catalog.index? i).isSome
  · simp only [Bool.false_eq_true, ↓reduceIte, hsql, Catalog.run_createIndex_of_not_unique]
    rfl
  · rfl

theorem indexQuery_of_taken {s : Store} {i n f : String} {t : Table} {sql : String}
    (ht : s.catalog.relation? n = some (.table t sql)) (hn : isReservedName n = false)
    (htn : isReservedName t.name = false)
    (h : ¬ (isReservedName i = false ∧ s.catalog.relation? i = none)) :
    ∃ e, (execQuery (indexQuery i n f) []).on s = (.error (.sqlite e), s) := by
  obtain ⟨p, q, hq⟩ := indexQuery_stmt i n f
  have hp : ∃ e, s.catalog.prepare (indexQuery i n f).stmt = .error e := by
    rw [hq]
    simp only [Catalog.prepare]
    unfold Catalog.prepareIndex
    simp only [quotedName, isSchemaName_eq_false hn, Bool.false_eq_true, ↓reduceIte, ht,
      pure_bind, htn]
    cases hi : isReservedName i
    · cases hrel : s.catalog.relation? i with
      | none => exact absurd ⟨hi, hrel⟩ h
      | some o => exact ⟨_, rfl⟩
    · exact ⟨_, rfl⟩
  obtain ⟨e, he⟩ := hp
  simp only [execQuery, on_bind, on_get, he]
  exact ⟨_, rfl⟩

end StoreM

namespace ContainerKind

theorem column?_columnNames (k : ContainerKind) :
    k.columnNames.map (k.table "").column? = (List.range k.columnDefs.length).map some := by
  cases k <;> decide +kernel

theorem columnNames_length (k : ContainerKind) : k.columnNames.length = k.columnDefs.length := by
  simp [columnNames]

theorem exists_missing_column {k k' : ContainerKind} (hk : k' ≠ k) :
    ∃ col ∈ k.columnNames, (k'.table "").column? col = none ∧ isRowidName col = false := by
  cases k <;> cases k'
  · exact absurd rfl hk
  · exact ⟨"title", by decide +kernel, by decide +kernel, by decide +kernel⟩
  · exact ⟨"message_created_at", by decide +kernel, by decide +kernel, by decide +kernel⟩
  · exact absurd rfl hk

end ContainerKind

namespace Sql

theorem resolveList_params (f : Frame) (l : List Nat) :
    resolveList f (l.map fun i => .param (i + 1)) = .ok (l.map fun i => .param (i + 1)) := by
  induction l with
  | nil => rfl
  | cons i l ih =>
    simp only [List.map_cons, resolveList, ih]
    rfl

theorem eval_param (s : Scope) (i : Nat) : eval s (.param (i + 1)) = s.params.getD i .null := by
  simp [eval]

def Table.rowOf (t : Table) (ps : List Datum) : Row :=
  ⟨t.nextRowid, (t.columns.zip (List.range t.columns.length)).map fun (col, i) =>
    (ps.getD i .null).withAffinity col.affinity⟩

theorem Table.rowOf_getD_isNull (t : Table) {ps : List Datum}
    (hps : ∀ i < t.columns.length, (ps.getD i .null).isNull = false) :
    ∀ i < t.columns.length, ((t.rowOf ps).values.getD i .null).isNull = false := by
  intro i hi
  have hget : (t.rowOf ps).values.getD i .null =
      (ps.getD i .null).withAffinity t.columns[i].affinity := by
    simp [Table.rowOf, List.getD_eq_getElem?_getD, hi]
  rw [hget]
  exact Datum.isNull_withAffinity _ (hps i hi)

theorem Table.rowid_lt_nextRowid (t : Table) {r : Row} (hr : r ∈ t.rows) :
    r.rowid < t.nextRowid := by
  -- the running maximum never falls below its start nor below a row it has passed
  have key : ∀ (rows : List Row) (m : Int), m ≤ rows.foldl (fun m r => max m r.rowid) m ∧
      ∀ r ∈ rows, r.rowid ≤ rows.foldl (fun m r => max m r.rowid) m := by
    intro rows
    induction rows with
    | nil => simp
    | cons x xs ih =>
      intro m
      obtain ⟨hstart, hrows⟩ := ih (max m x.rowid)
      refine ⟨le_trans (le_max_left _ _) hstart, fun r hr => ?_⟩
      rcases List.mem_cons.mp hr with rfl | hr
      · exact le_trans (le_max_right _ _) hstart
      · exact hrows r hr
  have := (key t.rows 0).2 r hr
  simp only [Table.nextRowid]
  omega

theorem find?_given (m j : Nat) (d : Nat → Datum) :
    ((List.range m).map fun i => (some i, d i)).find? (·.1 == some j) =
      if j < m then some (some j, d j) else none := by
  rw [List.find?_map]
  split
  · next hj =>
    have : (List.range m).find? ((fun x : Option Nat × Datum => x.1 == some j) ∘
        fun i => (some i, d i)) = some j := by
      rw [List.find?_range_eq_some]
      refine ⟨by simp, List.mem_range.mpr hj, fun i hi => ?_⟩
      simp [Nat.ne_of_lt hi]
    rw [this]
    rfl
  · next hj =>
    rw [Option.map_eq_none_iff, List.find?_range_eq_none]
    intro i hi
    have : i ≠ j := by omega
    simp [this]

theorem find?_given_none (m : Nat) (d : Nat → Datum) :
    ((List.range m).map fun i => (some i, d i)).find? (·.1 == none) = none := by
  rw [List.find?_map, Option.map_eq_none_iff, List.find?_range_eq_none]
  intro i _
  simp

theorem runInsert_params (t : Table) (indexes : List Index) (ps : List Datum)
    (hrowid : t.rowidColumn = none) :
    runInsert t indexes ((List.range t.columns.length).map some)
        [(List.range t.columns.length).map fun i => .param (i + 1)] ps =
      (checkRow t indexes t.rows (t.rowOf ps) fun _ => true).map
        fun _ => { t with rows := insertRow (t.rowOf ps) t.rows } := by
  simp only [runInsert, List.forIn_cons, List.forIn_nil, List.zip_map', List.map_map,
    Function.comp_def, eval_param, find?_given, find?_given_none, Option.map_none, hrowid]
  rw [List.map_zip_range_congr t.columns _
    (fun x => (ps.getD x.2 .null).withAffinity x.1.affinity) ?_]
  · simp only [Table.rowOf, pure_bind]
    rcases checkRow t indexes t.rows _ (fun _ => true) with _ | _ <;> rfl
  · intro a i hi
    simp [hi]

def collides (others : List Row) (values : List Datum) (idx : Index) : Bool :=
  idx.unique && !((keyOf values idx.columns).any (·.isNull)) &&
    others.any fun r => sameKey (keyOf r.values idx.columns) (keyOf values idx.columns)

theorem forIn_checks {α ε : Type} (l : List α) (f : α → PUnit → Except ε (ForInStep PUnit))
    (p : α → Bool) (e : α → ε) (hf : ∀ x, f x ⟨⟩ = if p x then .error (e x) else .ok (.yield ⟨⟩)) :
    forIn l ⟨⟩ f = match l.find? p with
      | some x => .error (e x)
      | none => .ok ⟨⟩ := by
  induction l with
  | nil => rfl
  | cons x l ih =>
    rw [List.forIn_cons, hf x, List.find?_cons]
    cases p x
    · simp only [Bool.false_eq_true, ↓reduceIte]
      exact ih
    · rfl

theorem checkRow_eq (t : Table) (indexes : List Index) (others : List Row) (row : Row)
    (changed : Nat → Bool) (hnull : ∀ i < t.columns.length, (row.values.getD i .null).isNull = false)
    (hfresh : others.any (·.rowid == row.rowid) = false) :
    checkRow t indexes others row changed =
      match indexes.find? (collides others row.values) with
      | some idx =>
        .error ⟨if idx.primary then .primaryKey else .unique, uniqueMessage t idx.columns, none⟩
      | none => .ok () := by
  simp only [checkRow]
  rw [forIn_checks _ _ (fun x => x.1.notNull && changed x.2 && (row.values.getD x.2 .null).isNull)
    (fun x => ⟨.notNull, "NOT NULL constraint failed: " ++ t.name ++ "." ++ x.1.name, none⟩) ?_,
    forIn_checks _ _ (collides others row.values)
    (fun idx => ⟨if idx.primary then .primaryKey else .unique, uniqueMessage t idx.columns, none⟩) ?_]
  · have hnone : (t.columns.zip (List.range t.columns.length)).find?
        (fun x => x.1.notNull && changed x.2 && (row.values.getD x.2 .null).isNull) = none := by
      rw [List.find?_eq_none]
      rintro ⟨col, i⟩ hx
      have := hnull i (List.mem_range.mp (List.of_mem_zip hx).2)
      simp only [this, Bool.and_false, Bool.false_eq_true, not_false_eq_true]
    simp only [hnone, hfresh, Bool.false_eq_true, ↓reduceIte]
    cases List.find? (collides others row.values) indexes <;> rfl
  · intro idx
    simp only [collides]
    rcases Bool.eq_false_or_eq_true idx.unique with hu | hu
    · simp only [hu, Bool.true_and, ↓reduceIte]
      split <;> rfl
    · simp only [hu, Bool.false_and, Bool.false_eq_true, ↓reduceIte]
      rfl
  · intro x
    split <;> rfl

end Sql

namespace StoreM

theorem insertQuery_stmt (n : String) (k : ContainerKind) :
    (insertQuery n k).stmt = .insert (quotedName n 12) (some k.columnNames)
      [(List.range k.columnDefs.length).map fun i => .param (i + 1)] := rfl

theorem prepare_insertQuery {c : Catalog} {n : String} {k : ContainerKind} {t : Table}
    {sql : String} (ht : c.relation? n = some (.table t sql)) (hn : isReservedName n = false)
    (hcols : t.columns = k.tableColumns) :
    c.prepare (insertQuery n k).stmt =
      .ok (.insert t.name ((List.range k.columnDefs.length).map some)
        [(List.range k.columnDefs.length).map fun i => .param (i + 1)]) := by
  have hlen : k.columnDefs.length ≠ 0 := by cases k <;> decide
  rw [insertQuery_stmt]
  simp only [Catalog.prepare, Catalog.prepareInsert, quotedName, Catalog.writable,
    isSchemaName_eq_false hn, ht, List.head?_cons, Option.map_some, Option.getD_some,
    List.length_map, List.length_range, List.any_cons, List.any_nil, bne_self_eq_false,
    Bool.or_false, Bool.false_eq_true, ↓reduceIte, k.columnNames_length, Option.isSome_some,
    Bool.or_true, List.mapM_cons, List.mapM_nil, resolveList_params, beq_iff_eq, hlen, ok_bind]
  -- every column the insert names is a column of the container
  rw [List.mapM_except_ok _ (k.table "").column? _ ?_, k.column?_columnNames]
  · rfl
  · intro col hcol
    have hmem : (k.table "").column? col ∈ (List.range k.columnDefs.length).map some := by
      rw [← k.column?_columnNames]
      exact List.mem_map_of_mem hcol
    obtain ⟨i, -, hi⟩ := List.mem_map.mp hmem
    rw [Table.column?_congr (k.table "") hcols, ← hi]
    rfl

theorem insertQuery_on {s : Store} {n : String} {k : ContainerKind} {t : Table} {sql : String}
    {ps : List Datum} (ht : s.catalog.relation? n = some (.table t sql))
    (hn : isReservedName n = false) (hcols : t.columns = k.tableColumns)
    (hrowid : t.rowidColumn = none)
    (hps : ∀ i < k.columnDefs.length, (ps.getD i .null).isNull = false) :
    (execQuery (insertQuery n k) ps).on s =
      match (s.catalog.indexesOf t.name).find? (collides t.rows (t.rowOf ps).values) with
      | some idx => (.error (.sqlite (.failure (if idx.primary then .primaryKey else .unique)
          (uniqueMessage t idx.columns))), s)
      | none => (.ok ⟨[], [], 1⟩,
          { s with catalog := s.catalog.putTable { t with rows := insertRow (t.rowOf ps) t.rows } }) := by
  have hlen : t.columns.length = k.columnDefs.length := by
    rw [hcols, ContainerKind.tableColumns, List.length_map]
  have hnull := t.rowOf_getD_isNull (hlen ▸ hps)
  have hfresh : t.rows.any (·.rowid == (t.rowOf ps).rowid) = false := by
    rw [List.any_eq_false]
    intro r hr
    have := t.rowid_lt_nextRowid hr
    simp only [Table.rowOf, beq_iff_eq]
    omega
  simp only [execQuery, on_bind, on_get, prepare_insertQuery ht hn hcols, Catalog.run,
    Catalog.table?_of_relation? ht, ← hlen, runInsert_params t _ ps hrowid,
    checkRow_eq t _ t.rows _ _ hnull hfresh]
  cases (s.catalog.indexesOf t.name).find? (collides t.rows (t.rowOf ps).values) <;> rfl

theorem insertQuery_of_other_kind {s : Store} {n : String} {k k' : ContainerKind} {t : Table}
    {sql : String} (ps : List Datum) (ht : s.catalog.relation? n = some (.table t sql))
    (hn : isReservedName n = false) (hcols : t.columns = k'.tableColumns) (hk : k' ≠ k) :
    ∃ e, (execQuery (insertQuery n k) ps).on s = (.error e, s) ∧ e.isDuplicateKey = false := by
  obtain ⟨col, hcol, hnone, hrow⟩ := ContainerKind.exists_missing_column hk
  have htcol : t.column? col = none := by
    rw [Table.column?_congr (k'.table "") hcols]
    exact hnone
  -- the insert's columns are looked up in order, and the missing one stops it
  have hp : ∃ f, s.catalog.prepare (insertQuery n k).stmt = .error f ∧ f.code = .error := by
    rw [insertQuery_stmt]
    simp only [Catalog.prepare, Catalog.prepareInsert, quotedName, Catalog.writable,
      isSchemaName_eq_false hn, ht, List.head?_cons, Option.map_some, Option.getD_some,
      List.length_map, List.length_range, List.any_cons, List.any_nil, bne_self_eq_false,
      Bool.or_false, Bool.false_eq_true, ↓reduceIte, ok_bind]
    apply List.mapM_bind_except_error _ _ _ hcol
    · simp only [htcol, hrow, Bool.false_eq_true, ↓reduceIte]
      exact ⟨_, rfl⟩
    · intro y _ e hy
      split at hy
      · cases hy
      · split at hy
        · cases hy
        · cases hy
          rfl
  obtain ⟨f, hf, hcode⟩ := hp
  simp only [execQuery, on_bind, on_get, hf]
  refine ⟨_, rfl, ?_⟩
  simp only [SqlError.ofPrepare, hcode]
  split <;> rfl

end StoreM

end ChatArchive
