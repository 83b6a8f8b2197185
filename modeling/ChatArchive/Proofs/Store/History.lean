import Mathlib
import ChatArchive.Proofs.Store.Reads
import ChatArchive.Proofs.Store.Rows
import ChatArchive.Proofs.Snapshot.RoundTrip

namespace ChatArchive

open Sql StoreM

theorem ContainerKind.tableColumns_injective : Function.Injective ContainerKind.tableColumns := by
  intro k k' h
  have hlen := congrArg List.length h
  cases k <;> cases k' <;> simp_all [ContainerKind.tableColumns, ContainerKind.columnDefs]

namespace Write

theorem run_cases (l : Logger) (w : Write) (s : Store) (hc : s.catalog.Shaped) :
    (∃ e, Leaves (w.run l) s (.error e) s.catalog) ∨
    (s.catalog.Free w.container ∧
      ∃ e, Leaves (w.run l) s (.error (.sqlite e)) (s.catalog.withContainer w.container w.kind)) ∨
    (∃ t sql, .table t sql ∈ s.catalog.objects ∧ t.name = w.container ∧
      t.columns = w.kind.tableColumns ∧
      Leaves (w.run l) s (.ok w.uid) (s.catalog.insertInto t (w.values s.clock))) ∨
    (s.catalog.Free w.container ∧ isReservedName (w.container ++ "_by_" ++ w.field) = false ∧
      s.catalog.relation? (w.container ++ "_by_" ++ w.field) = none ∧ ∃ j, Leaves (w.run l) s (.ok w.uid)
      (((s.catalog.withContainer w.container w.kind).withIndex (w.container ++ "_by_" ++ w.field)
        w.container j).insertInto (w.kind.table w.container) (w.values s.clock))) := by
  by_cases hv : w.Valid
  · obtain ⟨child, hrun⟩ := w.run_eq_putRecord l hv
    rw [hrun]
    cases hn : Container.validName w.container
    · have he : ∃ e, Leaves (ensureContainer l w.container w.kind w.field) s (.error e) s.catalog :=
        ensureContainer_of_invalid_name hn
      obtain ⟨e, he⟩ := he
      exact .inl ⟨e, putRecord_of_ensure_error he⟩
    rcases ensureContainer_cases l w.container w.kind w.field s with ⟨e, he⟩ | ⟨hhas, he⟩ |
        ⟨-, hfree, hi, hrel, j, he⟩ | ⟨hfree, hidx, -, -⟩
    · exact .inl ⟨e, putRecord_of_ensure_error he⟩
    · -- the table there is of the write's kind and takes the row, or of the other kind
      obtain ⟨t, sql, ht, hname⟩ := Catalog.hasTable_iff.mp hhas
      obtain ⟨hrowid, hreserved, k', hcols⟩ := hc.tables t sql ht
      have hrel := hc.relation?_of_mem ht
      rw [hname] at hrel hreserved
      obtain ⟨logs, hL⟩ := he
      by_cases hk : k' = w.kind
      · subst hk
        exact .inr (.inr (.inl ⟨t, sql, ht, hname, hcols, putRecord_of_ensure hL
          (insertSettle_of_kind child hrel hreserved hcols hrowid (w.fills_values s.clock))⟩))
      · obtain ⟨e, hins⟩ := insertSettle_of_other_kind { s with logs := logs } child hrel
          hreserved hcols hk
        exact .inl ⟨e, putRecord_of_ensure hL hins⟩
    · obtain ⟨logs, hL⟩ := he
      exact .inr (.inr (.inr ⟨hfree, hi, hrel, j, putRecord_of_ensure hL (insertSettle_of_kind child
        (s.catalog.relation?_made w.kind hfree _ j) hfree.1 rfl rfl (w.fills_values s.clock))⟩))
    · -- the name is valid, so the container is made and the database refuses its index
      obtain ⟨e, he⟩ := ensureContainer_sqlite_of_index_taken (l := l) hn w.orderable_field hfree hidx
      exact .inr (.inl ⟨hfree, e, putRecord_of_ensure_error he⟩)
  · obtain ⟨e, he⟩ := run_of_not_valid l hv
    exact .inl ⟨e, he s⟩

end Write

namespace Sql.Catalog

def Holding (c : Catalog) (n : String) (rows : List Row) : Prop :=
  (∀ t sql, .table t sql ∈ c.objects → t.name = n → t.rows = rows) ∧
    (c.hasTable n = false → rows = [])

theorem Holding.empty (n : String) : Catalog.empty.Holding n [] :=
  ⟨fun _ _ h => absurd h List.not_mem_nil, fun _ => rfl⟩

theorem hasTable_mono {c c' : Catalog} {n : String}
    (hsub : ∀ o ∈ c.objects, o ∈ c'.objects) (h : c'.hasTable n = false) : c.hasTable n = false := by
  rw [hasTable, List.any_eq_false] at h ⊢
  exact fun o ho => h o (hsub o ho)

theorem Holding.withContainer {c : Catalog} {n m : String} {rows : List Row}
    (h : c.Holding n rows) (hfree : c.Free m) (k : ContainerKind) :
    (c.withContainer m k).Holding n rows := by
  refine ⟨fun t sql ht hn => ?_,
    fun hno => h.2 (hasTable_mono (fun _ ho => mem_withContainer_of_mem m k ho) hno)⟩
  rcases mem_withContainer_table ht with ht | rfl
  · exact h.1 t sql ht hn
  · -- the new table has the name only if no table had it before
    rw [show (k.table m).rows = [] from rfl, h.2 (hn ▸ hasTable_eq_false_of_free hfree)]

theorem Holding.withIndex {c : Catalog} {n : String} {rows : List Row} (h : c.Holding n rows)
    (i table : String) (j : Nat) : (c.withIndex i table j).Holding n rows :=
  ⟨fun t sql ht hn => h.1 t sql (mem_withIndex_table ht) hn,
    fun hno => h.2 (hasTable_mono (fun _ ho => mem_withIndex_of_mem i table j ho) hno)⟩

theorem hasTable_putTable {c : Catalog} (hc : c.Shaped) {t : Table} {sql : String}
    (ht : .table t sql ∈ c.objects) (t' : Table) (hname : t'.name = t.name) (n : String) :
    (c.putTable t').hasTable n = c.hasTable n := by
  unfold hasTable putTable
  rw [List.any_map, Bool.eq_iff_iff, List.any_eq_true, List.any_eq_true]
  refine exists_congr fun o => and_congr_right fun ho => ?_
  cases o with
  | table u sqlu =>
    by_cases hs : sameName u.name t'.name = true
    · -- the table replaced is `t`, whose name the new table keeps
      rw [hname] at hs
      have hsame : Object.table u sqlu = .table t sql :=
        List.inj_on_of_nodup_map hc.distinct ho ht (sameName_iff_fold.mp hs)
      simp only [Object.table.injEq] at hsame
      obtain ⟨rfl, rfl⟩ := hsame
      simp [sameName_refl, hname, Object.name, Object.kindName]
    · simp [hs]
  | view v b sqlv => exact Iff.rfl
  | index i sqli => exact Iff.rfl

theorem eq_of_mem_putTable {c : Catalog} {t u : Table} {sql : String}
    (hu : .table u sql ∈ (c.putTable t).objects) (hn : u.name = t.name) : u = t := by
  simp only [putTable, List.mem_map] at hu
  obtain ⟨o, -, he⟩ := hu
  cases o with
  | table v sqlv =>
    by_cases hs : sameName v.name t.name = true
    · simp only [hs, ↓reduceIte, Object.table.injEq] at he
      exact he.1.symm
    · simp only [hs, Bool.false_eq_true, ↓reduceIte, Object.table.injEq] at he
      obtain ⟨rfl, rfl⟩ := he
      exact absurd (hn ▸ sameName_refl _) hs
  | view v b sqlv => cases he
  | index i sqli => cases he

theorem Holding.insertInto_of_ne {c : Catalog} (hc : c.Shaped) {t : Table} {sql : String}
    (ht : .table t sql ∈ c.objects) (ps : List Datum) {n : String} {rows : List Row}
    (hne : t.name ≠ n) (h : c.Holding n rows) : (c.insertInto t ps).Holding n rows := by
  unfold Catalog.insertInto
  split
  · exact h
  · refine ⟨fun u sqlu hu hn => ?_, fun hno => h.2 ?_⟩
    · rcases mem_putTable hu with hu | ⟨v, sqlv, -, -, he⟩
      · exact h.1 u sqlu hu hn
      · simp only [Object.table.injEq] at he
        rw [he.1] at hn
        exact absurd hn hne
    · rwa [hasTable_putTable hc ht { t with rows := insertRow (t.rowOf ps) t.rows } rfl] at hno

theorem Holding.insertInto_new {c : Catalog} (hc : c.Shaped) {t : Table} {sql : String}
    (ht : .table t sql ∈ c.objects) {ps : List Datum} {n : String} {rows : List Row}
    (hn : t.name = n) (hnone : (c.indexesOf t.name).find? (collides t.rows (t.rowOf ps).values) = none)
    (h : c.Holding n rows) : (c.insertInto t ps).Holding n (rows ++ [t.rowOf ps]) := by
  have hrows : t.rows = rows := h.1 t sql ht hn
  have hlast : ∀ r ∈ t.rows, r.rowid < (t.rowOf ps).rowid := fun r hr => t.rowid_lt_nextRowid hr
  simp only [Catalog.insertInto, hnone]
  refine ⟨fun u sqlu hu hun => ?_, fun hno => ?_⟩
  · rw [eq_of_mem_putTable hu (hun.trans hn.symm), insertRow_of_lt hlast, hrows]
  · rw [hasTable_putTable hc ht { t with rows := insertRow (t.rowOf ps) t.rows } rfl, hasTable_iff.mpr ⟨t, sql, ht, hn⟩] at hno
    cases hno

end Sql.Catalog

namespace Write

theorem head?_values (w : Write) (now : Int) : (w.values now).head? = some (.text w.uid) := by
  cases w <;> rfl

theorem rowOf_values (w : Write) {t : Table} (hcols : t.columns = w.kind.tableColumns)
    (now : Int) : (t.rowOf (w.values now)).values = w.values now := by
  cases w with
  | source src =>
    have haff : t.columns.map Column.affinity =
        [.text, .integer, .integer, .text, .text, .integer, .none] := by
      rw [hcols]
      show ContainerKind.sources.tableColumns.map Column.affinity = _
      decide +kernel
    refine Table.rowOf_values haff rfl fun i hi => ?_
    have hi : i < 7 := hi
    interval_cases i <;> rfl
  | message src m =>
    have haff : t.columns.map Column.affinity =
        [.text, .integer, .integer, .integer, .text, .text, .text, .text, .none] := by
      rw [hcols]
      show ContainerKind.messages.tableColumns.map Column.affinity = _
      decide +kernel
    refine Table.rowOf_values haff rfl fun i hi => ?_
    have hi : i < 9 := hi
    interval_cases i <;> rfl

theorem rowOf_head? (w : Write) {t : Table} (hcols : t.columns = w.kind.tableColumns)
    (now : Int) : (t.rowOf (w.values now)).values.head? = some (.text w.uid) := by
  rw [w.rowOf_values hcols, head?_values]

end Write

-- The writes that put a row into the container `n`, each with the time it was made, in the order
-- made, over writes from an empty database in which every write to `n` is of the kind `k`.
inductive Stored (n : String) (k : ContainerKind) : Store → List (Write × Int) → Prop
  | fresh (clock : Int) : Stored n k (Store.fresh clock) []
  | tick {s : Store} {ws : List (Write × Int)} (clock : Int) :
      Stored n k s ws → Stored n k { s with clock := clock } ws
  | first {s : Store} {ws : List (Write × Int)} (l : Logger) (w : Write) (hn : w.container = n)
      (hk : w.kind = k) (hok : ((w.run l).on s).1 = .ok w.uid) (hnew : w.uid ∉ ws.map (·.1.uid)) :
      Stored n k s ws → Stored n k ((w.run l).on s).2 (ws ++ [(w, s.clock)])
  | other {s : Store} {ws : List (Write × Int)} (l : Logger) (w : Write)
      (hk : w.container = n → w.kind = k)
      (h : ¬ (w.container = n ∧ ((w.run l).on s).1 = .ok w.uid ∧ w.uid ∉ ws.map (·.1.uid))) :
      Stored n k s ws → Stored n k ((w.run l).on s).2 ws

namespace Sql.Catalog

-- What a database made by the writes of a history of `n` keeps: the shape, keys and row order
-- of every table, the kind `k` for a table named `n`, and in that table one row of the values of
-- each write of the history, in its order.
structure Tracks (c : Catalog) (n : String) (k : ContainerKind) (ws : List (Write × Int)) :
    Prop where
  shaped : c.Shaped
  keyed : c.Keyed
  numbered : c.Numbered
  kind : ∀ t sql, .table t sql ∈ c.objects → t.name = n → t.columns = k.tableColumns
  rows : ∃ rows, c.Holding n rows ∧ rows.map Row.values = ws.map fun x => x.1.values x.2

def TracksSome (c : Catalog) (n : String) (ws : List (Write × Int)) : Prop :=
  ∃ k, c.Tracks n k ws ∧ ∀ x ∈ ws, x.1.kind = k

theorem mem_insertInto_table {c : Catalog} {t u : Table} {sql : String} {ps : List Datum}
    (h : .table u sql ∈ (c.insertInto t ps).objects) :
    .table u sql ∈ c.objects ∨ u = { t with rows := insertRow (t.rowOf ps) t.rows } := by
  unfold Catalog.insertInto at h
  split at h
  · exact .inl h
  · rcases mem_putTable h with h | ⟨v, sqlv, -, -, he⟩
    · exact .inl h
    · simp only [Object.table.injEq] at he
      exact .inr he.1

namespace Tracks

variable {c : Catalog} {n : String} {k : ContainerKind} {ws : List (Write × Int)}

theorem empty : Catalog.empty.Tracks n k [] where
  shaped := Shaped.empty
  keyed := Keyed.empty
  numbered := Numbered.empty
  kind _ _ h := absurd h List.not_mem_nil
  rows := ⟨[], Holding.empty n, rfl⟩

theorem retype (h : c.Tracks n k []) (hno : c.hasTable n = false) (k' : ContainerKind) :
    c.Tracks n k' [] where
  shaped := h.shaped
  keyed := h.keyed
  numbered := h.numbered
  kind t sql ht hn := by
    rw [hasTable_iff.mpr ⟨t, sql, ht, hn⟩] at hno
    cases hno
  rows := h.rows

theorem key_of_mem (h : c.Tracks n k ws) {t : Table} {sql : String}
    (ht : .table t sql ∈ c.objects) (hn : t.name = n) {r : Row} (hr : r ∈ t.rows) :
    ∃ x ∈ ws, r.key = some (.text x.1.uid) := by
  obtain ⟨rows, hh, hv⟩ := h.rows
  have hmem : r.values ∈ ws.map fun x => x.1.values x.2 := by
    rw [← hv]
    exact List.mem_map_of_mem (hh.1 t sql ht hn ▸ hr)
  obtain ⟨x, hx, he⟩ := List.mem_map.mp hmem
  exact ⟨x, hx, by rw [Row.key, ← he, Write.head?_values]⟩

theorem withContainer (h : c.Tracks n k ws) {m : String} (hfree : c.Free m) (k' : ContainerKind)
    (hk : m = n → k' = k) : (c.withContainer m k').Tracks n k ws where
  shaped := h.shaped.withContainer k' hfree
  keyed := h.keyed.withContainer m k'
  numbered := h.numbered.withContainer m k'
  kind t sql ht hn := by
    rcases mem_withContainer_table ht with ht | rfl
    · exact h.kind t sql ht hn
    · rw [← hk hn]
      rfl
  rows := by
    obtain ⟨rows, hh, hv⟩ := h.rows
    exact ⟨rows, hh.withContainer hfree k', hv⟩

theorem withIndex (h : c.Tracks n k ws) {i : String} (table : String) (j : Nat)
    (hi : isReservedName i = false) (hrel : c.relation? i = none) :
    (c.withIndex i table j).Tracks n k ws where
  shaped := h.shaped.withIndex table j hi hrel
  keyed := h.keyed.withIndex i table j
  numbered := h.numbered.withIndex i table j
  kind t sql ht hn := h.kind t sql (mem_withIndex_table ht) hn
  rows := by
    obtain ⟨rows, hh, hv⟩ := h.rows
    exact ⟨rows, hh.withIndex i table j, hv⟩

section Insert

variable {t : Table} {sql : String} {w : Write} {now : Int}

theorem insertInto_rest (h : c.Tracks n k ws) (ht : .table t sql ∈ c.objects)
    (hcols : t.columns = w.kind.tableColumns) (ws' : List (Write × Int))
    (hrows : ∃ rows, (c.insertInto t (w.values now)).Holding n rows ∧
      rows.map Row.values = ws'.map fun x => x.1.values x.2) :
    (c.insertInto t (w.values now)).Tracks n k ws' where
  shaped := h.shaped.insertInto ht _
  keyed := h.keyed.insertInto ht (w.rowOf_head? hcols now)
  numbered := h.numbered.insertInto ht _
  kind u sqlu hu hn := by
    rcases mem_insertInto_table hu with hu | rfl
    · exact h.kind u sqlu hu hn
    · exact h.kind t sql ht hn
  rows := hrows

theorem insertInto_of_ne (h : c.Tracks n k ws) (ht : .table t sql ∈ c.objects)
    (hcols : t.columns = w.kind.tableColumns) (hne : t.name ≠ n) :
    (c.insertInto t (w.values now)).Tracks n k ws := by
  obtain ⟨rows, hh, hv⟩ := h.rows
  exact h.insertInto_rest ht hcols ws ⟨rows, hh.insertInto_of_ne h.shaped ht _ hne, hv⟩

theorem insertInto_new (h : c.Tracks n k ws) (ht : .table t sql ∈ c.objects)
    (hcols : t.columns = w.kind.tableColumns) (hn : t.name = n) (hnew : w.uid ∉ ws.map (·.1.uid)) :
    (c.insertInto t (w.values now)).Tracks n k (ws ++ [(w, now)]) := by
  obtain ⟨rows, hh, hv⟩ := h.rows
  have hnone : (c.indexesOf t.name).find? (collides t.rows (t.rowOf (w.values now)).values) =
      none := by
    rw [find?_collides_eq_none_iff h.keyed ht (w.rowOf_head? hcols now)]
    intro r hr hkey
    obtain ⟨x, hx, hkx⟩ := h.key_of_mem ht hn hr
    rw [hkey, Option.some.injEq, Datum.text.injEq] at hkx
    exact hnew (List.mem_map.mpr ⟨x, hx, hkx.symm⟩)
  refine h.insertInto_rest ht hcols _ ⟨_, hh.insertInto_new h.shaped ht hn hnone, ?_⟩
  rw [List.map_append, List.map_append, hv, List.map_singleton, List.map_singleton,
    w.rowOf_values hcols]

theorem insertInto_of_mem (h : c.Tracks n k ws) (ht : .table t sql ∈ c.objects)
    (hcols : t.columns = w.kind.tableColumns) (hn : t.name = n) (hold : w.uid ∈ ws.map (·.1.uid)) :
    c.insertInto t (w.values now) = c := by
  obtain ⟨rows, hh, hv⟩ := h.rows
  obtain ⟨x, hx, hxu⟩ := List.mem_map.mp hold
  have hmem : x.1.values x.2 ∈ t.rows.map Row.values := by
    rw [hh.1 t sql ht hn, hv]
    exact List.mem_map_of_mem hx
  obtain ⟨r, hr, he⟩ := List.mem_map.mp hmem
  refine insertInto_of_key h.keyed ht (w.rowOf_head? hcols now) hr ?_
  rw [Row.key, he, Write.head?_values, hxu]

end Insert

end Tracks

end Sql.Catalog

namespace Write

open Catalog

variable {n : String} {k : ContainerKind} {ws : List (Write × Int)} {s : Store}

theorem tracks_run (h : s.catalog.Tracks n k ws) (l : Logger) (w : Write)
    (hk : w.container = n → w.kind = k) :
    (w.container = n ∧ ((w.run l).on s).1 = .ok w.uid ∧ w.uid ∉ ws.map (·.1.uid) →
      ((w.run l).on s).2.catalog.Tracks n k (ws ++ [(w, s.clock)])) ∧
    (¬ (w.container = n ∧ ((w.run l).on s).1 = .ok w.uid ∧ w.uid ∉ ws.map (·.1.uid)) →
      ((w.run l).on s).2.catalog.Tracks n k ws) := by
  rcases w.run_cases l s h.shaped with ⟨e, hrun⟩ | ⟨hfree, e, hrun⟩ |
      ⟨t, sql, ht, htn, hcols, hrun⟩ | ⟨hfree, hi, hrel, j, hrun⟩
  · -- a failure that changes nothing
    rw [hrun.answer, hrun.catalog]
    exact ⟨fun hc => absurd hc.2.1 (by simp), fun _ => h⟩
  · rw [hrun.answer, hrun.catalog]
    exact ⟨fun hc => absurd hc.2.1 (by simp), fun _ => h.withContainer hfree w.kind hk⟩
  · rw [hrun.answer, hrun.catalog]
    by_cases hn : w.container = n
    · by_cases hnew : w.uid ∈ ws.map (·.1.uid)
      · refine ⟨fun hc => absurd hnew hc.2.2, fun _ => ?_⟩
        rw [h.insertInto_of_mem ht hcols (htn.trans hn) hnew]
        exact h
      · exact ⟨fun _ => h.insertInto_new ht hcols (htn.trans hn) hnew,
          fun hc => absurd ⟨hn, rfl, hnew⟩ hc⟩
    · exact ⟨fun hc => absurd hc.1 hn,
        fun _ => h.insertInto_of_ne ht hcols fun he => hn (htn.symm.trans he)⟩
  · -- the container is made with its index, and the row goes into it
    rw [hrun.answer, hrun.catalog]
    have hmade := (h.withContainer hfree w.kind hk).withIndex w.container j hi
      (by rw [relation?_withContainer_of_ne _ _ (sameName_indexName _ _)]; exact hrel)
    have ht := List.mem_of_find?_eq_some
      (s.catalog.relation?_made w.kind hfree (w.container ++ "_by_" ++ w.field) j)
    by_cases hn : w.container = n
    · -- no table had the name, so the history had no write to it
      have hnil : ws = [] := by
        obtain ⟨rows, hh, hv⟩ := h.rows
        rw [hh.2 (hn ▸ hasTable_eq_false_of_free hfree), List.map_nil] at hv
        exact List.map_eq_nil_iff.mp hv.symm
      subst hnil
      exact ⟨fun _ => hmade.insertInto_new ht rfl hn List.not_mem_nil,
        fun hc => absurd ⟨hn, rfl, List.not_mem_nil⟩ hc⟩
    · exact ⟨fun hc => absurd hc.1 hn, fun _ => hmade.insertInto_of_ne ht rfl hn⟩

end Write

theorem Stored.tracks {n : String} {k : ContainerKind} {s : Store} {ws : List (Write × Int)}
    (h : Stored n k s ws) : s.catalog.Tracks n k ws := by
  induction h with
  | fresh clock => exact Catalog.Tracks.empty
  | tick clock _ ih => exact ih
  | first l w hn hk hok hnew _ ih => exact (w.tracks_run ih l fun _ => hk).1 ⟨hn, hok, hnew⟩
  | other l w hk hnot _ ih => exact (w.tracks_run ih l hk).2 hnot

theorem Stored.writes {n : String} {k : ContainerKind} {s : Store} {ws : List (Write × Int)}
    (h : Stored n k s ws) :
    (∀ x ∈ ws, x.1.container = n ∧ x.1.kind = k ∧ x.1.Valid) ∧ (ws.map (·.1.uid)).Nodup := by
  induction h with
  | fresh clock => exact ⟨fun _ h => absurd h List.not_mem_nil, List.nodup_nil⟩
  | tick clock _ ih => exact ih
  | first l w hn hk hok hnew _ ih =>
    have hv : w.Valid := by
      by_contra hv
      obtain ⟨e, he⟩ := w.run_of_not_valid l hv
      rw [(he _).answer] at hok
      cases hok
    refine ⟨fun x hx => ?_, ?_⟩
    · rcases List.mem_append.mp hx with hx | hx
      · exact ih.1 x hx
      · rw [List.mem_singleton.mp hx]
        exact ⟨hn, hk, hv⟩
    · rw [List.map_append, List.nodup_append]
      exact ⟨ih.2, List.nodup_singleton _, fun a ha b hb => by
        rw [List.map_singleton, List.mem_singleton] at hb
        rintro rfl
        exact hnew (hb ▸ ha)⟩
  | other l w hk hnot _ ih => exact ih

namespace Sql.Catalog.Tracks

variable {c : Catalog} {n : String} {k : ContainerKind} {ws : List (Write × Int)}

theorem table (htr : c.Tracks n k ws) :
    (c.hasTable n = false ∧ ws = []) ∨
      ∃ t sql, .table t sql ∈ c.objects ∧ t.name = n ∧ t.columns = k.tableColumns ∧
        t.rows.map Row.values = ws.map fun x => x.1.values x.2 := by
  obtain ⟨rows, hh, hv⟩ := htr.rows
  cases hhas : c.hasTable n
  · rw [hh.2 hhas, List.map_nil] at hv
    exact .inl ⟨rfl, List.map_eq_nil_iff.mp hv.symm⟩
  · obtain ⟨t, sql, ht, hn⟩ := Catalog.hasTable_iff.mp hhas
    exact .inr ⟨t, sql, ht, hn, htr.kind t sql ht hn, by rw [hh.1 t sql ht hn, hv]⟩

end Sql.Catalog.Tracks

namespace Write

variable {n : String} {k : ContainerKind} {ws : List (Write × Int)} {s : Store}

theorem run_of_other_kind (l : Logger) (w : Write) (hc : s.catalog.Shaped) {t : Table}
    {sql : String} (ht : .table t sql ∈ s.catalog.objects) (hname : t.name = w.container)
    (hcols : t.columns = k.tableColumns) (hk : k ≠ w.kind) :
    ∃ e, Leaves (w.run l) s (.error e) s.catalog := by
  have hhas : s.catalog.hasTable w.container = true := Catalog.hasTable_iff.mpr ⟨t, sql, ht, hname⟩
  rcases w.run_cases l s hc with he | ⟨hfree, -⟩ | ⟨t', sql', ht', htn', hcols', -⟩ | ⟨hfree, -⟩
  · exact he
  · rw [Catalog.hasTable_eq_false_of_free hfree] at hhas
    cases hhas
  · -- the table of that name is `t`, whose columns are those of `k`
    obtain rfl := hc.table_eq ht ht' (hname.trans htn'.symm)
    exact absurd (ContainerKind.tableColumns_injective (hcols.symm.trans hcols')) hk
  · rw [Catalog.hasTable_eq_false_of_free hfree] at hhas
    cases hhas

theorem tracksSome_run (h : s.catalog.TracksSome n ws) (l : Logger) (w : Write) :
    (w.container = n ∧ ((w.run l).on s).1 = .ok w.uid ∧ w.uid ∉ ws.map (·.1.uid) →
      ((w.run l).on s).2.catalog.TracksSome n (ws ++ [(w, s.clock)])) ∧
    (¬ (w.container = n ∧ ((w.run l).on s).1 = .ok w.uid ∧ w.uid ∉ ws.map (·.1.uid)) →
      ((w.run l).on s).2.catalog.TracksSome n ws) := by
  obtain ⟨k, htr, hks⟩ := h
  by_cases hk : w.container = n → w.kind = k
  · have hrun := w.tracks_run htr l hk
    refine ⟨fun hc => ⟨k, hrun.1 hc, fun x hx => ?_⟩, fun hc => ⟨k, hrun.2 hc, hks⟩⟩
    rcases List.mem_append.mp hx with hx | hx
    · exact hks x hx
    · rw [List.mem_singleton.mp hx]
      exact hk hc.1
  · push Not at hk
    rcases htr.table with ⟨hno, rfl⟩ | ⟨t, sql, ht, hn, hcols, -⟩
    · -- no write to `n` yet and no table of it: the history is as well one of the write's kind
      have hrun := w.tracks_run (htr.retype hno w.kind) l fun _ => rfl
      exact ⟨fun hc => ⟨w.kind, hrun.1 hc, by simp⟩, fun hc => ⟨w.kind, hrun.2 hc, by simp⟩⟩
    · -- the table of `n` was made for `k`, and refuses the write
      obtain ⟨e, he⟩ := w.run_of_other_kind l htr.shaped ht (hn.trans hk.1.symm) hcols
        (Ne.symm hk.2)
      rw [he.answer, he.catalog]
      exact ⟨fun hc => absurd hc.2.1 (by simp), fun _ => ⟨k, htr, hks⟩⟩

end Write

namespace Write

def InRange : Write → Prop
  | .source s => s.InRange
  | .message _ m => m.InRange

theorem values_getD_created (w : Write) (now : Int) : (w.values now).getD 1 .null = .integer now := by
  cases w <;> rfl

theorem eq_map_message {ws : List (Write × Int)} (h : ∀ x ∈ ws, x.1.kind = .messages) :
    ∃ ps : List ((Source × Message) × Int), ws = ps.map fun p => (.message p.1.1 p.1.2, p.2) := by
  induction ws with
  | nil => exact ⟨[], rfl⟩
  | cons x ws ih =>
    obtain ⟨ps, rfl⟩ := ih fun y hy => h y (List.mem_cons_of_mem x hy)
    obtain ⟨w, now⟩ := x
    cases w with
    | source src => cases h _ List.mem_cons_self
    | message src m => exact ⟨((src, m), now) :: ps, rfl⟩

end Write

namespace Sql.Catalog.Tracks

variable {s : Store} {k : ContainerKind} {ws : List (Write × Int)}

theorem readSources_rows (h : s.catalog.Tracks sourcesContainer k ws)
    (hclock : (ws.map (·.2)).Pairwise (· ≤ ·)) (l : Logger) :
    Leaves (readSources l []) s (.ok (ws.filterMap fun x =>
      Row.decoded Snapshot.decodeSource k.snapshotAt ⟨0, x.1.values x.2⟩)) s.catalog := by
  rcases h.table with ⟨hno, rfl⟩ | ⟨t, sql, ht, hname, hcols, hvals⟩
  · exact readSources_of_absent l [] hno
  · -- the rows are in the order of their times already
    have htimes : (t.rows.map fun r => r.values.getD 1 .null) = ws.map fun x => .integer x.2 := by
      have hmap := congrArg (List.map fun v : List Datum => v.getD 1 .null) hvals
      simp only [List.map_map, Function.comp_def] at hmap
      rw [hmap]
      exact List.map_congr_left fun x _ => Write.values_getD_created _ _
    have hle : (t.rows.map fun r => r.values.getD 1 .null).Pairwise
        fun a b => (a.compare b).isLE := by
      rw [htimes, List.pairwise_map]
      rw [List.pairwise_map] at hclock
      exact hclock.imp fun hab => by rw [Datum.isLE_compare_integer]; exact decide_eq_true hab
    have hread := readSources_of_container h.shaped h.numbered l [] ht hname hcols
      (Row.orderedBy_self (h.numbered t sql ht) hle) (Nat.zero_le _)
    rwa [Row.filter_asked_nil, Row.filterMap_decoded_of_values hvals, List.filterMap_map] at hread

theorem readMessages_all {u : String} {ps : List ((ChatArchive.Source × Message) × Int)}
    (h : s.catalog.Tracks (Container.nameFor u) .messages
      (ps.map fun p => (.message p.1.1 p.1.2, p.2)))
    (hv : Container.validName (Container.nameFor u) = true) (l : Logger) :
    Leaves (readMessages l u) s
      (.ok (((ps.map (·.1.2)).mergeSort fun a b => a.createdAt.millis ≤ b.createdAt.millis).filterMap
        fun m => (Snapshot.decodeMessage (Snapshot.encodeMessage m)).toOption)) s.catalog := by
  rcases h.table with ⟨hno, hnil⟩ | ⟨t, sql, ht, hname, hcols, hvals⟩
  · obtain rfl : ps = [] := List.map_eq_nil_iff.mp hnil
    rw [List.map_nil, List.mergeSort_nil, List.filterMap_nil]
    exact readMessages_of_absent l u hv hno
  · have hread := readMessages_of_messages l u h.shaped h.numbered hv ht hname hcols
      (Row.orderedBy_mergeSort_values 2 (h.numbered t sql ht))
    -- sorting the rows by their message times is sorting the writes, then the messages, by them
    let key : List Datum → Datum := fun v => v.getD 2 .null
    let row : (ChatArchive.Source × Message) × Int → List Datum := fun p => messageRow p.1.2 p.2
    let read : List Datum → Option Message := fun v =>
      Row.decoded Snapshot.decodeMessage ContainerKind.messages.snapshotAt ⟨0, v⟩
    have hsorted : (t.rows.mergeSort fun a b => ((key a.values).compare (key b.values)).isLE).map
        Row.values = (ps.mergeSort fun p q => p.1.2.createdAt.millis ≤ q.1.2.createdAt.millis).map row := by
      calc _ = (t.rows.map Row.values).mergeSort fun v v' => ((key v).compare (key v')).isLE :=
            List.map_mergeSort fun _ _ _ _ => rfl
        _ = (ps.map row).mergeSort fun v v' => ((key v).compare (key v')).isLE := by
            rw [hvals, List.map_map]
            rfl
        _ = _ := (List.map_mergeSort fun p _ q _ => (Datum.isLE_compare_integer _ _).symm).symm
    have hmessages : (ps.mergeSort fun p q => p.1.2.createdAt.millis ≤ q.1.2.createdAt.millis).map
        (·.1.2) = (ps.map (·.1.2)).mergeSort fun a b => a.createdAt.millis ≤ b.createdAt.millis :=
      List.map_mergeSort fun _ _ _ _ => rfl
    have hfun : read ∘ row = (fun m => (Snapshot.decodeMessage (Snapshot.encodeMessage m)).toOption) ∘
        (·.1.2) := by
      funext p
      rfl
    rwa [Row.filterMap_decoded_of_values hsorted, List.filterMap_map, hfun, ← List.filterMap_map,
      hmessages] at hread

end Sql.Catalog.Tracks

namespace Stored

variable {s : Store} {ws : List (Write × Int)}

theorem readMessages_all {u : String} (h : Stored (Container.nameFor u) .messages s ws)
    (hv : Container.validName (Container.nameFor u) = true) (l : Logger) :
    ∃ ps : List ((Source × Message) × Int), ws = ps.map (fun p => (.message p.1.1 p.1.2, p.2)) ∧
      Leaves (readMessages l u) s
        (.ok (((ps.map (·.1.2)).mergeSort fun a b => a.createdAt.millis ≤ b.createdAt.millis).filterMap
          fun m => (Snapshot.decodeMessage (Snapshot.encodeMessage m)).toOption)) s.catalog := by
  obtain ⟨ps, rfl⟩ := Write.eq_map_message fun x hx => (h.writes.1 x hx).2.1
  exact ⟨ps, rfl, h.tracks.readMessages_all hv l⟩

end Stored

-- The writes that put a row into the container `n`, each with the time it was made, over any
-- writes from an empty database: those that went to `n`, answered their key, and had a key no
-- earlier one had.
inductive Accepted (n : String) : Store → List (Write × Int) → Prop
  | fresh (clock : Int) : Accepted n (Store.fresh clock) []
  | tick {s : Store} {ws : List (Write × Int)} (clock : Int) :
      Accepted n s ws → Accepted n { s with clock := clock } ws
  | first {s : Store} {ws : List (Write × Int)} (l : Logger) (w : Write) (hn : w.container = n)
      (hok : ((w.run l).on s).1 = .ok w.uid) (hnew : w.uid ∉ ws.map (·.1.uid)) :
      Accepted n s ws → Accepted n ((w.run l).on s).2 (ws ++ [(w, s.clock)])
  | other {s : Store} {ws : List (Write × Int)} (l : Logger) (w : Write)
      (h : ¬ (w.container = n ∧ ((w.run l).on s).1 = .ok w.uid ∧ w.uid ∉ ws.map (·.1.uid))) :
      Accepted n s ws → Accepted n ((w.run l).on s).2 ws

theorem Written.accepted {s : Store} (h : Written s) (n : String) : ∃ ws, Accepted n s ws := by
  induction h with
  | fresh clock => exact ⟨[], .fresh clock⟩
  | tick clock _ ih =>
    obtain ⟨ws, hws⟩ := ih
    exact ⟨ws, .tick clock hws⟩
  | @write s l w _ ih =>
    obtain ⟨ws, hws⟩ := ih
    by_cases hc : w.container = n ∧ ((w.run l).on s).1 = .ok w.uid ∧ w.uid ∉ ws.map (·.1.uid)
    · exact ⟨_, .first l w hc.1 hc.2.1 hc.2.2 hws⟩
    · exact ⟨ws, .other l w hc hws⟩

def Write.source? : Write → Option Source
  | .source p => some p
  | .message _ _ => none

namespace Accepted

variable {n : String} {s : Store} {ws : List (Write × Int)}

theorem tracksSome (h : Accepted n s ws) : s.catalog.TracksSome n ws := by
  induction h with
  | fresh clock => exact ⟨.sources, Catalog.Tracks.empty, fun _ h => absurd h List.not_mem_nil⟩
  | tick clock _ ih => exact ih
  | first l w hn hok hnew _ ih => exact (Write.tracksSome_run ih l w).1 ⟨hn, hok, hnew⟩
  | other l w hnot _ ih => exact (Write.tracksSome_run ih l w).2 hnot

theorem valid (h : Accepted n s ws) : ∀ x ∈ ws, x.1.Valid := by
  induction h with
  | fresh clock => exact fun _ h => absurd h List.not_mem_nil
  | tick clock _ ih => exact ih
  | first l w hn hok hnew _ ih =>
    intro x hx
    rcases List.mem_append.mp hx with hx | hx
    · exact ih x hx
    · rw [List.mem_singleton.mp hx]
      by_contra hv
      obtain ⟨e, he⟩ := w.run_of_not_valid l hv
      rw [(he _).answer] at hok
      cases hok
  | other l w hnot _ ih => exact ih

theorem readSources_all (h : Accepted sourcesContainer s ws)
    (hclock : (ws.map (·.2)).Pairwise (· ≤ ·)) (hrange : ∀ x ∈ ws, x.1.InRange) (l : Logger) :
    Leaves (readSources l []) s (.ok (ws.filterMap (·.1.source?))) s.catalog := by
  obtain ⟨k, htr, hks⟩ := h.tracksSome
  have hsame : ∀ x ∈ ws, Row.decoded Snapshot.decodeSource k.snapshotAt ⟨0, x.1.values x.2⟩ =
      x.1.source? := by
    rintro ⟨w, now⟩ hx
    have hv := h.valid _ hx
    have hr := hrange _ hx
    have hk := hks _ hx
    cases w with
    | source p =>
      obtain rfl : ContainerKind.sources = k := hk
      show (Snapshot.decodeSource (Snapshot.encodeSource p)).toOption = some p
      rw [Snapshot.decodeSource_encodeSource p hr fun he => by simp [Write.Valid, he] at hv]
      rfl
    | message src m =>
      obtain rfl : ContainerKind.messages = k := hk
      show (Snapshot.decodeSource (Snapshot.encodeMessage m)).toOption = none
      obtain ⟨e, he⟩ := Snapshot.decodeSource_encodeMessage m hr fun hu => by
        simp [Write.Valid, hu] at hv
      rw [he]
      rfl
  have hread := htr.readSources_rows hclock l
  rwa [List.filterMap_congr hsame] at hread

end Accepted

end ChatArchive
