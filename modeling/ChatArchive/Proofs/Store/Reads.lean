import Mathlib
import ChatArchive.Proofs.Store.Order
import ChatArchive.Proofs.Store.Ensure

namespace ChatArchive

open Sql StoreM

theorem error_bind {ε α β : Type} (e : ε) (f : α → Except ε β) :
    (Except.error e >>= f) = .error e :=
  rfl

namespace ContainerKind

def snapshotAt : ContainerKind → Nat
  | .sources => 6
  | .messages => 8

theorem lookup_id (k : ContainerKind) :
    (Frame.ofTable (k.table "") none).lookup none "id" = some (.slot 0 .text) := by
  cases k <;> rfl

theorem lookup_snapshot (k : ContainerKind) :
    (Frame.ofTable (k.table "") none).lookup none "snapshot" =
      some (.slot k.snapshotAt .none) := by
  cases k <;> rfl

theorem lookup_rowid (k : ContainerKind) :
    (Frame.ofTable (k.table "") none).lookup none "rowid" = some .rowid := by
  cases k <;> rfl

theorem lookup_created_at (k : ContainerKind) :
    (Frame.ofTable (k.table "") none).lookup none "created_at" = some (.slot 1 .integer) := by
  cases k <;> rfl

theorem lookup_message_created_at :
    (Frame.ofTable (ContainerKind.messages.table "") none).lookup none "message_created_at" =
      some (.slot 2 .integer) := rfl

theorem lookup_message_created_at_of_sources :
    (Frame.ofTable (ContainerKind.sources.table "") none).lookup none "message_created_at" =
      none := rfl

theorem name_id (k : ContainerKind) : (k.tableColumns[0]?).map (·.name) = some "id" := by
  cases k <;> rfl

theorem name_snapshot (k : ContainerKind) :
    (k.tableColumns[k.snapshotAt]?).map (·.name) = some "snapshot" := by
  cases k <;> rfl

end ContainerKind

namespace Sql

theorem lookup_of_columns {t : Table} {k : ContainerKind} (hcols : t.columns = k.tableColumns)
    (x : String) :
    (Frame.ofTable t none).lookup none x = (Frame.ofTable (k.table "") none).lookup none x := by
  simp only [Frame.lookup, Frame.ofTable, hcols]
  rfl

theorem resultName_of_columns {t : Table} {k : ContainerKind} (hcols : t.columns = k.tableColumns)
    {j : Nat} {x : String} (hx : (k.tableColumns[j]?).map (·.name) = some x) (aff : Affinity)
    (m : Nat) : resultName (Frame.ofTable t none) (.slot j aff) none m = x := by
  simp only [resultName, Frame.ofTable, hcols, hx, Option.getD_some]

theorem run_select_table {c : Catalog} {t : Table} (ht : c.table? t.name = some t)
    (hs : isSchemaName t.name = false) (names : List String) (cols : List Expr)
    (f : Option Expr) (order : List (Expr × Bool)) (lim : Option Expr) (ps : List Datum) :
    c.run (.select (.rows t) names cols f order lim) ps =
      .ok (c, runSelect (.rows t) names cols f order lim ps) := by
  simp only [Catalog.run, hs, ht]
  rfl

theorem compareKeys_row (i : Nat) (a b : Row) :
    compareKeys [a.values.getD i .null, .integer a.rowid] [b.values.getD i .null, .integer b.rowid]
      [false, false] = Row.orderBy i a b := by
  simp only [compareKeys, Row.orderBy, compareLex, compareOn, Datum.compare_integer]
  show _ = ((a.values.getD i .null).compare (b.values.getD i .null)).then _
  cases (a.values.getD i .null).compare (b.values.getD i .null) <;>
    cases Ord.compare a.rowid b.rowid <;> rfl

theorem runSelect_rows_read (t : Table) (names : List String) (i j : Nat) (a aff : Affinity)
    (f : Option Expr) (ps : List Datum) :
    (runSelect (.rows t) names [.slot 0 .text, .slot j aff] f [(.slot i a, false), (.rowid, false)]
      none ps).rows = ((passing f ps t.rows).mergeSort fun x y => (Row.orderBy i x y).isLE).map
        fun r => [r.values.getD 0 .null, r.values.getD j .null] := by
  simp only [runSelect]
  rw [← List.map_mergeSort (fun x _ y _ => ?_), List.map_map]
  · rfl
  · simp only [List.map_cons, List.map_nil, eval, compareKeys_row]
    cases Row.orderBy i x y <;> rfl

namespace Row

def decoded {α : Type} (decode : ByteArray → Except SnapshotError α) (snap : Nat) (r : Row) :
    Option α :=
  match r.values.getD 0 .null, r.values.getD snap .null with
  | .text _, .blob b => (decode b).toOption
  | _, _ => none

def textId (r : Row) : Bool :=
  match r.values.getD 0 .null with
  | .text _ => true
  | _ => false

def asked (uids : List String) (r : Row) : Bool :=
  uids.isEmpty ||
    match r.values.getD 0 .null with
    | .text x => uids.contains x
    | _ => false

theorem decoded_of_textId {α : Type} {decode : ByteArray → Except SnapshotError α} {snap : Nat}
    {r : Row} (h : r.textId = false) : r.decoded decode snap = none := by
  unfold textId at h
  unfold decoded
  revert h
  cases r.values.getD 0 .null <;> simp

theorem filterMap_decoded_of_values {α : Type} {decode : ByteArray → Except SnapshotError α}
    {snap : Nat} {rows : List Row} {vs : List (List Datum)} (h : rows.map Row.values = vs) :
    rows.filterMap (decoded decode snap) = vs.filterMap fun v => decoded decode snap ⟨0, v⟩ := by
  subst h
  rw [List.filterMap_map]
  rfl

theorem filter_asked_nil (rows : List Row) : rows.filter (asked []) = rows :=
  List.filter_eq_self.mpr fun _ _ => rfl

end Row

theorem filterMap_filter_of_none {α β : Type} {f : α → Option β} {p : α → Bool}
    (h : ∀ x, p x = false → f x = none) (l : List α) : (l.filter p).filterMap f = l.filterMap f := by
  induction l with
  | nil => rfl
  | cons x l ih =>
    cases hp : p x
    · simp [hp, ih, h x hp]
    · rw [List.filter_cons_of_pos hp, List.filterMap_cons, List.filterMap_cons, ih]

def idFilter (count : Nat) : Option Expr :=
  if count = 0 then none else
    some (.inList (.slot 0 .text) ((List.range count).map fun i => .param (i + 1)) false)

theorem comparison_text (x u : String) :
    comparison (leaning (some .text) none) (.text x) (.text u) =
      some ((Datum.text x).compare (.text u)) := rfl

theorem evalIn_params {uids : List String} {rowid : Int} {vals : List Datum} {x : String}
    (L : List Nat) (hL : ∀ i ∈ L, i < uids.length) :
    evalIn ⟨rowid, vals, uids.map .text⟩ (.slot 0 .text) (.text x)
      (L.map fun i => .param (i + 1)) = some (L.any fun i => uids.getD i "" == x) := by
  induction L with
  | nil => rfl
  | cons i L ih =>
    have hi : (uids.map Datum.text).getD i .null = .text (uids.getD i "") := by
      rw [List.getD_eq_getElem _ _ (by simpa using hL i List.mem_cons_self),
        List.getD_eq_getElem _ _ (hL i List.mem_cons_self)]
      simp
    specialize ih fun j hj => hL j (List.mem_cons_of_mem i hj)
    simp only [List.map_cons, evalIn, eval_param, hi, Expr.affinity?, comparison_text,
      List.any_cons]
    -- the first asked id equal to the row's id settles the filter
    have hbeq := Datum.compare_text_beq x (uids.getD i "")
    cases hc : (Datum.text x).compare (.text (uids.getD i "")) <;>
      simp only [hc, beq_self_eq_true] at hbeq ⊢
    · rw [ih, beq_eq_false_iff_ne.mpr (Ne.symm (by simpa using hbeq)), Bool.false_or]
    · rw [(beq_iff_eq.mp hbeq.symm), beq_self_eq_true, Bool.true_or]
    · rw [ih, beq_eq_false_iff_ne.mpr (Ne.symm (by simpa using hbeq)), Bool.false_or]

theorem any_range_getD (uids : List String) (x : String) :
    ((List.range uids.length).any fun i => uids.getD i "" == x) = uids.contains x := by
  rw [Bool.eq_iff_iff, List.any_eq_true, List.contains_iff_mem, List.mem_iff_getElem]
  constructor
  · rintro ⟨i, hi, hx⟩
    rw [List.mem_range] at hi
    rw [beq_iff_eq, List.getD_eq_getElem _ _ hi] at hx
    exact ⟨i, hi, hx⟩
  · rintro ⟨i, hi, hx⟩
    exact ⟨i, List.mem_range.mpr hi, by rw [beq_iff_eq, List.getD_eq_getElem _ _ hi, hx]⟩

theorem passes_idFilter {uids : List String} (hu : uids ≠ []) {r : Row} (hr : r.textId = true) :
    (truth (eval ⟨r.rowid, r.values, uids.map .text⟩
      (.inList (.slot 0 .text) ((List.range uids.length).map fun i => .param (i + 1)) false))
        == some true) = r.asked uids := by
  simp only [Row.textId] at hr
  split at hr
  · next x hx =>
    have hall : ∀ i ∈ List.range uids.length, i < uids.length := fun i hi => List.mem_range.mp hi
    have hempty : uids.isEmpty = false := List.isEmpty_eq_false_iff.mpr hu
    simp only [eval, hx, evalIn_params _ hall, any_range_getD, Row.asked, hempty, Bool.false_or,
      Bool.false_eq_true, ↓reduceIte]
    cases uids.contains x <;> rfl
  · cases hr

theorem passing_idFilter (uids : List String) (rows : List Row) :
    (passing (idFilter uids.length) (uids.map .text) rows).filter Row.textId =
      (rows.filter (Row.asked uids)).filter Row.textId := by
  by_cases hu : uids = []
  · subst hu
    simp [idFilter, passing, Row.asked]
  · have hlen : uids.length ≠ 0 := by simpa using hu
    simp only [idFilter, hlen, ↓reduceIte, passing, List.filter_filter]
    apply List.filter_congr
    intro r _
    cases ht : r.textId
    · simp
    · simp [passes_idFilter hu ht]

theorem decoded_sorted_all {α : Type} {rows sorted : List Row} {i : Nat}
    (hnd : (rows.map Row.rowid).Nodup) (hs : Row.OrderedBy i rows sorted) (ps : List Datum)
    (decode : ByteArray → Except SnapshotError α) (snap : Nat) :
    ((passing (idFilter 0) ps rows).mergeSort fun x y => (Row.orderBy i x y).isLE).filterMap
      (Row.decoded decode snap) = sorted.filterMap (Row.decoded decode snap) := by
  have hall : passing (idFilter 0) ps rows = rows := rfl
  rw [hall, (Row.orderedBy_mergeSort i rows).unique hnd hs]

theorem decoded_sorted_passing {α : Type} {rows sorted : List Row} {i : Nat}
    (hnd : (rows.map Row.rowid).Nodup) (hs : Row.OrderedBy i rows sorted) (uids : List String)
    (decode : ByteArray → Except SnapshotError α) (snap : Nat) :
    ((passing (idFilter uids.length) (uids.map .text) rows).mergeSort
        fun x y => (Row.orderBy i x y).isLE).filterMap (Row.decoded decode snap) =
      (sorted.filter (Row.asked uids)).filterMap (Row.decoded decode snap) := by
  have hnone : ∀ r : Row, r.textId = false → r.decoded decode snap = none :=
    fun r h => Row.decoded_of_textId h
  -- both sides read only rows with a text id, and those rows are sorted in one way only
  rw [← filterMap_filter_of_none hnone, ← filterMap_filter_of_none hnone (sorted.filter _)]
  congr 1
  have hkept := (Row.orderedBy_mergeSort i (passing (idFilter uids.length) (uids.map .text) rows)).filter
    Row.textId
  rw [passing_idFilter] at hkept
  have hwanted := (hs.filter (Row.asked uids)).filter Row.textId
  refine hkept.unique ?_ hwanted
  exact hnd.sublist ((List.filter_sublist.trans List.filter_sublist).map _)

end Sql

namespace StoreM

theorem readQuery_stmt (n field : String) (asc : Bool) (count : Nat) : ∃ pid p q,
    (readQuery n field asc count).stmt = .select ⟨[.expr (.column none "id" false 7) none,
      .expr (.column none "snapshot" false 11) none], some (quotedName n 25),
      if count = 0 then none else some (.inList (.column none "id" false pid)
        ((List.range count).map fun i => .param (i + 1)) false),
      [⟨.column none field false p, false⟩, ⟨.column none "rowid" false q, false⟩], none⟩ :=
  ⟨_, _, _, rfl⟩

theorem readQuery_all_stmt (n field : String) (asc : Bool) : ∃ q,
    (readQuery n field asc 0).stmt = .select ⟨[.expr (.column none "id" false 7) none,
      .expr (.column none "snapshot" false 11) none], some (quotedName n 25), none,
      [⟨.column none field false (25 + (quoted n).utf8ByteSize + 10), false⟩,
        ⟨.column none "rowid" false q, false⟩], none⟩ :=
  ⟨_, rfl⟩

theorem resolveOpt_idFilter {t : Table} {k : ContainerKind} (hcols : t.columns = k.tableColumns)
    (pid count : Nat) :
    resolveOpt (Frame.ofTable t none) (if count = 0 then none else some (.inList
      (.column none "id" false pid) ((List.range count).map fun i => .param (i + 1)) false)) =
      .ok (idFilter count) := by
  by_cases h : count = 0
  · simp [h, resolveOpt, idFilter]
  · simp only [h, ↓reduceIte, resolveOpt, resolve, lookup_of_columns hcols, k.lookup_id,
      resolveList_params, idFilter]
    rfl

theorem prepare_readQuery {c : Catalog} {n field : String} {asc : Bool} {count : Nat}
    {k : ContainerKind} {t : Table} {sql : String} {i : Nat} {a : Affinity}
    (ht : c.relation? n = some (.table t sql)) (hn : isReservedName n = false)
    (hcols : t.columns = k.tableColumns)
    (hfield : (Frame.ofTable (k.table "") none).lookup none field = some (.slot i a)) :
    c.prepare (readQuery n field asc count).stmt =
      .ok (.select (.rows t) ["id", "snapshot"] [.slot 0 .text, .slot k.snapshotAt .none]
        (idFilter count) [(.slot i a, false), (.rowid, false)] none) := by
  obtain ⟨pid, p, q, hq⟩ := readQuery_stmt n field asc count
  rw [hq]
  simp only [Catalog.prepare, Catalog.prepareSelect, quotedName, isSchemaName_eq_false hn, ht,
    Bool.false_eq_true, ↓reduceIte, pure, Except.pure, ok_bind, Bool.not_true, List.flatMap_cons,
    List.flatMap_nil, List.append_nil, List.mapM_cons, List.mapM_nil, resolve,
    lookup_of_columns hcols, k.lookup_id, k.lookup_snapshot, k.lookup_rowid, hfield,
    resolveOpt_idFilter hcols, List.zip_cons_cons, List.zip_nil_left, List.find?_cons,
    List.find?_nil, Option.map_none, Option.getD_none, resolveOpt.eq_2, List.map_cons, List.map_nil,
    List.length_cons, List.length_nil, List.range_succ, List.range_zero, List.nil_append,
    List.cons_append, resultName_of_columns hcols k.name_id,
    resultName_of_columns hcols k.name_snapshot]

theorem prepare_readQuery_of_missing {c : Catalog} {n field : String} {asc : Bool}
    {k : ContainerKind} {t : Table} {sql : String}
    (ht : c.relation? n = some (.table t sql)) (hn : isReservedName n = false)
    (hcols : t.columns = k.tableColumns)
    (hfield : (Frame.ofTable (k.table "") none).lookup none field = none)
    (htrue : sameName field "true" = false) (hfalse : sameName field "false" = false) :
    c.prepare (readQuery n field asc 0).stmt =
      .error ⟨.error, "no such column: " ++ field, some (25 + (quoted n).utf8ByteSize + 10)⟩ := by
  obtain ⟨q, hq⟩ := readQuery_all_stmt n field asc
  rw [hq]
  simp only [Catalog.prepare, Catalog.prepareSelect, quotedName, isSchemaName_eq_false hn, ht,
    Bool.false_eq_true, ↓reduceIte, pure, Except.pure, ok_bind, Bool.not_true, List.flatMap_cons,
    List.flatMap_nil, List.append_nil, List.mapM_cons, List.mapM_nil, resolve,
    lookup_of_columns hcols, k.lookup_id, k.lookup_snapshot, hfield, htrue, hfalse,
    List.zip_cons_cons, List.zip_nil_left, List.find?_cons, List.find?_nil, Option.map_none,
    Option.getD_none, resolveOpt.eq_2, Bool.and_false, Bool.false_and, Option.isNone_none,
    Bool.not_false, Bool.true_and, List.singleton_append, error_bind]

theorem readQuery_on (s : Store) {n field : String} {asc : Bool} {count : Nat}
    {k : ContainerKind} {t : Table} {sql : String} {i : Nat} {a : Affinity}
    (hc : s.catalog.Shaped) (ht : .table t sql ∈ s.catalog.objects) (hn : t.name = n)
    (hcols : t.columns = k.tableColumns)
    (hfield : (Frame.ofTable (k.table "") none).lookup none field = some (.slot i a))
    (ps : List Datum) :
    (execQuery (readQuery n field asc count) ps).on s =
      (.ok (runSelect (.rows t) ["id", "snapshot"] [.slot 0 .text, .slot k.snapshotAt .none]
        (idFilter count) [(.slot i a, false), (.rowid, false)] none ps), s) := by
  subst hn
  have hrel := hc.relation?_of_mem ht
  obtain ⟨-, hreserved, -⟩ := hc.tables t sql ht
  simp only [execQuery, on_bind, on_get, prepare_readQuery hrel hreserved hcols hfield,
    run_select_table (Catalog.table?_of_relation? hrel) (isSchemaName_eq_false hreserved)]
  rfl

def readPair {α : Type} (decode : ByteArray → Except SnapshotError α) (row : List Datum) :
    Option α :=
  match row.getD 0 .null, row.getD 1 .null with
  | .text _, .blob b => (decode b).toOption
  | _, _ => none

theorem Leaves.forIn {α β : Type} (xs : List α) (body : α → β → StoreM (ForInStep β))
    (g : β → α → β)
    (h : ∀ x ∈ xs, ∀ acc s, Leaves (body x acc) s (.ok (.yield (g acc x))) s.catalog) :
    ∀ acc s, Leaves (forIn xs acc body) s (.ok (xs.foldl g acc)) s.catalog := by
  induction xs with
  | nil => exact fun acc s => ⟨s.logs, rfl⟩
  | cons x xs ih =>
    intro acc s
    rw [List.forIn_cons, List.foldl_cons]
    exact (h x List.mem_cons_self acc s).bind fun logs =>
      ih (fun y hy => h y (List.mem_cons_of_mem x hy)) (g acc x) _

theorem foldl_append_toList {α β : Type} (f : α → Option β) (xs : List α) (acc : List β) :
    xs.foldl (fun acc x => acc ++ (f x).toList) acc = acc ++ xs.filterMap f := by
  induction xs generalizing acc with
  | nil => simp
  | cons x xs ih => cases h : f x <;> simp [ih, h]

theorem decodeRows_leaves {α : Type} (l : Logger) (n : String) (q : Query) (ps : List Datum)
    (decode : ByteArray → Except SnapshotError α) {s : Store} {out : Outcome}
    (hq : (execQuery q ps).on s = (.ok out, s)) :
    Leaves (decodeRows l n q ps decode) s (.ok (out.rows.filterMap (readPair decode))) s.catalog := by
  unfold decodeRows
  refine Leaves.bind ⟨s.logs, hq⟩ fun logs => ?_
  refine Leaves.bind (Leaves.forIn out.rows _ (fun acc row => acc ++ (readPair decode row).toList)
    ?_ [] _) fun logs' => ⟨logs', by rw [foldl_append_toList, List.nil_append]; rfl⟩
  -- each row either adds its record or is skipped, which only logs
  intro row _ acc s'
  simp only [readPair]
  cases row.getD 0 .null <;> cases row.getD 1 .null
  case text.blob id bytes =>
    dsimp only
    split
    · next r hr => exact ⟨s'.logs, by simp [hr, Except.toOption]; rfl⟩
    · next e he => exact ⟨_, by simp [he, Except.toOption]; rfl⟩
  all_goals exact ⟨_, by simp only [Option.toList_none, List.append_nil]; rfl⟩

end StoreM

namespace Sql

theorem insertRow_of_lt {row : Row} {rows : List Row} (h : ∀ r ∈ rows, r.rowid < row.rowid) :
    insertRow row rows = rows ++ [row] := by
  induction rows with
  | nil => rfl
  | cons r rest ih =>
    have hr : ¬ row.rowid < r.rowid := Int.not_lt.mpr (Int.le_of_lt (h r List.mem_cons_self))
    simp only [insertRow, hr, ↓reduceIte, List.cons_append,
      ih fun r' hr' => h r' (List.mem_cons_of_mem r hr')]

namespace Catalog

def Numbered (c : Catalog) : Prop :=
  ∀ t sql, .table t sql ∈ c.objects → (t.rows.map Row.rowid).Pairwise (· < ·)

theorem Numbered.empty : Catalog.empty.Numbered := fun _ _ h => absurd h List.not_mem_nil

theorem Numbered.nodup {c : Catalog} (hn : c.Numbered) {t : Table} {sql : String}
    (ht : .table t sql ∈ c.objects) : (t.rows.map Row.rowid).Nodup :=
  (hn t sql ht).imp Int.ne_of_lt

theorem mem_withIndex_table {c : Catalog} {i table : String} {j : Nat} {t : Table} {sql : String}
    (h : .table t sql ∈ (c.withIndex i table j).objects) : .table t sql ∈ c.objects := by
  unfold Catalog.withIndex at h
  split at h
  · exact h
  · simpa only [add, List.mem_append, List.mem_singleton, reduceCtorEq, or_false] using h

theorem mem_withIndex_of_mem {c : Catalog} {o : Object} (i table : String) (j : Nat)
    (h : o ∈ c.objects) : o ∈ (c.withIndex i table j).objects := by
  unfold Catalog.withIndex
  split
  · exact h
  · exact List.mem_append_left _ h

theorem Numbered.withContainer {c : Catalog} (hn : c.Numbered) (n : String) (k : ContainerKind) :
    (c.withContainer n k).Numbered := by
  intro t sql ht
  rcases mem_withContainer_table ht with ht | rfl
  · exact hn t sql ht
  · exact List.Pairwise.nil

theorem Numbered.withIndex {c : Catalog} (hn : c.Numbered) (i table : String) (j : Nat) :
    (c.withIndex i table j).Numbered :=
  fun t sql ht => hn t sql (mem_withIndex_table ht)

theorem Numbered.insertInto {c : Catalog} (hn : c.Numbered) {t : Table} {sql : String}
    (ht : .table t sql ∈ c.objects) (ps : List Datum) : (c.insertInto t ps).Numbered := by
  unfold Catalog.insertInto
  split
  · exact hn
  · intro u sqlu hu
    rcases mem_putTable hu with hu | ⟨v, sqlv, -, -, he⟩
    · exact hn u sqlu hu
    · simp only [Object.table.injEq] at he
      obtain ⟨rfl, -⟩ := he
      have hlast : ∀ r ∈ t.rows, r.rowid < (t.rowOf ps).rowid := fun r hr => t.rowid_lt_nextRowid hr
      rw [insertRow_of_lt hlast, List.map_append, List.pairwise_append]
      refine ⟨hn t sql ht, List.pairwise_singleton _ _, ?_⟩
      simp only [List.map_cons, List.map_nil, List.mem_singleton, List.mem_map]
      rintro _ ⟨r, hr, rfl⟩ _ rfl
      exact hlast r hr

theorem Numbered.change {c c' : Catalog} (hn : c.Numbered) (h : Change c c') : c'.Numbered := by
  cases h with
  | container k hfree => exact hn.withContainer _ k
  | index j ht hf hi hrel => exact hn.withIndex _ _ j
  | insert ht ps => exact hn.insertInto ht ps

theorem Numbered.changes {c c' : Catalog} (hn : c.Numbered)
    (h : Relation.ReflTransGen Change c c') : c'.Numbered := by
  induction h with
  | refl => exact hn
  | tail _ hstep ih => exact ih.change hstep

end Catalog

end Sql

theorem Reached.numbered {s : Store} (h : Reached s) : s.catalog.Numbered := by
  induction h with
  | fresh clock => exact Catalog.Numbered.empty
  | tick clock _ ih => exact ih
  | write l w hs ih => exact ih.changes (w.run_changes l hs.sound.shaped)
  | ensure l n k f _ ih => exact ih.changes (ensureContainer_changes l n k f _)

namespace StoreM

theorem containerExists_leaves (n : String) (s : Store) :
    Leaves (containerExists n) s (.ok (s.catalog.hasTable n)) s.catalog :=
  ⟨s.logs, containerExists_on n s⟩

theorem readSources_of_absent (l : Logger) (uids : List String) {s : Store}
    (h : s.catalog.hasTable sourcesContainer = false) :
    Leaves (readSources l uids) s (.ok []) s.catalog := by
  unfold readSources
  refine (containerExists_leaves _ s).bind fun logs => ?_
  rw [h]
  exact ⟨_, rfl⟩

theorem readSources_of_container {s : Store} (hc : s.catalog.Shaped) (hn : s.catalog.Numbered)
    (l : Logger) (uids : List String) {t : Table} {sql : String} {k : ContainerKind}
    (ht : .table t sql ∈ s.catalog.objects) (hname : t.name = sourcesContainer)
    (hcols : t.columns = k.tableColumns) {sorted : List Row} (hs : Row.OrderedBy 1 t.rows sorted)
    (hlen : uids.length ≤ maxParameter) :
    Leaves (readSources l uids) s
      (.ok ((sorted.filter (Row.asked uids)).filterMap (Row.decoded Snapshot.decodeSource k.snapshotAt)))
      s.catalog := by
  unfold readSources
  refine (containerExists_leaves _ s).bind fun logs => ?_
  rw [Catalog.hasTable_iff.mpr ⟨t, sql, ht, hname⟩, if_pos rfl]
  simp only [if_neg (Nat.not_lt.mpr hlen)]
  have hrows := decodeRows_leaves l sourcesContainer
    (readQuery sourcesContainer "created_at" false uids.length) _ Snapshot.decodeSource
    (readQuery_on { s with logs := logs } hc ht hname hcols k.lookup_created_at (uids.map .text))
  have hread : readPair Snapshot.decodeSource ∘ (fun r : Row => [r.values.getD 0 .null,
      r.values.getD k.snapshotAt .null]) = Row.decoded Snapshot.decodeSource k.snapshotAt := rfl
  rw [runSelect_rows_read, List.filterMap_map, hread, decoded_sorted_passing (hn.nodup ht) hs]
    at hrows
  refine hrows.bind fun logs' => ?_
  exact ⟨_, rfl⟩

theorem readSources_of_many (l : Logger) (uids : List String) {s : Store}
    (h : s.catalog.hasTable sourcesContainer = true) (hlen : maxParameter < uids.length) :
    Leaves (readSources l uids) s
      (.error (.sqlite (.input ("variable number must be between ?1 and ?" ++ toString maxParameter)
        (readQuery sourcesContainer "created_at" false uids.length).text
        (placeholderStart sourcesContainer (maxParameter + 1))))) s.catalog := by
  unfold readSources
  refine (containerExists_leaves _ s).bind fun logs => ?_
  rw [h, if_pos rfl]
  simp only [if_pos hlen]
  exact ⟨_, rfl⟩

section Messages

variable (l : Logger) (u : String) {s : Store}

theorem readMessages_of_invalid (h : Container.validName (Container.nameFor u) = false) :
    Leaves (readMessages l u) s (.error (.invalidContainerName (Container.nameFor u))) s.catalog := by
  unfold readMessages
  simp only [h, Bool.not_false, ↓reduceIte]
  exact ⟨s.logs, rfl⟩

theorem readMessages_of_absent (hv : Container.validName (Container.nameFor u) = true)
    (h : s.catalog.hasTable (Container.nameFor u) = false) :
    Leaves (readMessages l u) s (.ok []) s.catalog := by
  unfold readMessages
  simp only [hv, Bool.not_true, Bool.false_eq_true, ↓reduceIte]
  refine (containerExists_leaves _ s).bind fun logs => ?_
  rw [h]
  exact ⟨_, rfl⟩

theorem readMessages_of_messages (hc : s.catalog.Shaped) (hn : s.catalog.Numbered)
    (hv : Container.validName (Container.nameFor u) = true) {t : Table} {sql : String}
    (ht : .table t sql ∈ s.catalog.objects) (hname : t.name = Container.nameFor u)
    (hcols : t.columns = ContainerKind.messages.tableColumns) {sorted : List Row}
    (hs : Row.OrderedBy 2 t.rows sorted) :
    Leaves (readMessages l u) s
      (.ok (sorted.filterMap (Row.decoded Snapshot.decodeMessage ContainerKind.messages.snapshotAt)))
      s.catalog := by
  unfold readMessages
  simp only [hv, Bool.not_true, Bool.false_eq_true, ↓reduceIte]
  refine (containerExists_leaves _ s).bind fun logs => ?_
  rw [Catalog.hasTable_iff.mpr ⟨t, sql, ht, hname⟩, if_pos rfl]
  have hrows := decodeRows_leaves l (Container.nameFor u)
    (readQuery (Container.nameFor u) "message_created_at" true 0) [] Snapshot.decodeMessage
    (readQuery_on { s with logs := logs } hc ht hname hcols
      ContainerKind.lookup_message_created_at [])
  have hread : readPair Snapshot.decodeMessage ∘ (fun r : Row => [r.values.getD 0 .null,
      r.values.getD ContainerKind.messages.snapshotAt .null]) =
      Row.decoded Snapshot.decodeMessage ContainerKind.messages.snapshotAt := rfl
  rw [runSelect_rows_read, List.filterMap_map, hread, decoded_sorted_all (hn.nodup ht) hs] at hrows
  refine hrows.bind fun logs' => ?_
  exact ⟨_, rfl⟩

theorem readMessages_of_sources (hc : s.catalog.Shaped)
    (hv : Container.validName (Container.nameFor u) = true) {t : Table} {sql : String}
    (ht : .table t sql ∈ s.catalog.objects) (hname : t.name = Container.nameFor u)
    (hcols : t.columns = ContainerKind.sources.tableColumns) :
    Leaves (readMessages l u) s (.error (.sqlite (.input "no such column: message_created_at"
      (readQuery (Container.nameFor u) "message_created_at" true 0).text
      (25 + (quoted (Container.nameFor u)).utf8ByteSize + 10)))) s.catalog := by
  have hrel := hc.relation?_of_mem ht
  obtain ⟨-, hreserved, -⟩ := hc.tables t sql ht
  rw [hname] at hrel hreserved
  have hprep : s.catalog.prepare
      (readQuery (Container.nameFor u) "message_created_at" true 0).stmt = _ :=
    prepare_readQuery_of_missing hrel hreserved hcols
      ContainerKind.lookup_message_created_at_of_sources (by decide) (by decide)
  unfold readMessages
  simp only [hv, Bool.not_true, Bool.false_eq_true, ↓reduceIte]
  refine (containerExists_leaves _ s).bind fun logs => ?_
  rw [Catalog.hasTable_iff.mpr ⟨t, sql, ht, hname⟩, if_pos rfl]
  refine Leaves.bind_error (Leaves.bind_error ⟨logs, ?_⟩)
  simp only [execQuery, on_bind, on_get, hprep]
  rfl

end Messages

end StoreM

end ChatArchive
