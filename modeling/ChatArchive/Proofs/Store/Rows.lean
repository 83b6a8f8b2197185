import Mathlib
import ChatArchive.Proofs.Store.Containers

namespace ChatArchive

open Sql StoreM

namespace Sql

def Row.key (r : Row) : Option Datum := r.values.head?

theorem perm_insertRow (row : Row) (rows : List Row) : (insertRow row rows).Perm (row :: rows) := by
  induction rows with
  | nil => rfl
  | cons r rest ih =>
    unfold insertRow
    split
    · exact List.Perm.refl _
    · exact (ih.cons r).trans (List.Perm.swap row r rest)

theorem mem_insertRow {row x : Row} {rows : List Row} :
    x ∈ insertRow row rows ↔ x = row ∨ x ∈ rows := by
  rw [(perm_insertRow row rows).mem_iff, List.mem_cons]

theorem keyOf_zero (values : List Datum) : keyOf values [0] = [values.head?.getD .null] := by
  cases values <;> rfl

theorem sameKey_singleton (a b : Datum) : sameKey [a] [b] = (a.compare b == .eq) := by
  simp [sameKey]

theorem Table.rowOf_values {t : Table} {ps : List Datum} {affs : List Affinity}
    (haff : t.columns.map Column.affinity = affs) (hlen : ps.length = affs.length)
    (h : ∀ i < affs.length, (ps.getD i .null).withAffinity (affs.getD i .none) = ps.getD i .null) :
    (t.rowOf ps).values = ps := by
  have hcols : t.columns.length = affs.length := by rw [← haff, List.length_map]
  apply List.ext_getElem
  · simp [Table.rowOf, hlen, hcols]
  · intro i h1 h2
    have hi : i < t.columns.length := by simpa [Table.rowOf] using h1
    have hai : t.columns[i].affinity = affs.getD i .none := by
      rw [List.getD_eq_getElem _ _ (hcols ▸ hi)]
      simp only [← haff, List.getElem_map]
    simp only [Table.rowOf, List.getElem_map, List.getElem_zip, List.getElem_range]
    rw [hai, h i (hcols ▸ hi), List.getD_eq_getElem _ _ h2]

structure Table.Keyed (t : Table) : Prop where
  text : ∀ r ∈ t.rows, ∃ k, r.key = some (.text k)
  distinct : (t.rows.map Row.key).Nodup

theorem collides_key {rows : List Row} {values : List Datum} {uid : String} {i : Index}
    (hv : values.head? = some (.text uid)) (hrows : ∀ r ∈ rows, ∃ k, r.key = some (.text k))
    (hu : i.unique = true) (hcols : i.columns = [0]) :
    collides rows values i = true ↔ ∃ r ∈ rows, r.key = some (.text uid) := by
  have hnull : (Datum.text uid).isNull = false := rfl
  simp only [collides, hu, hcols, keyOf_zero, hv, Option.getD_some, List.any_cons, hnull,
    List.any_nil, Bool.or_false, Bool.not_false, Bool.true_and, List.any_eq_true]
  constructor
  · rintro ⟨r, hr, hkey⟩
    obtain ⟨k, hk⟩ := hrows r hr
    rw [Row.key] at hk
    rw [hk, Option.getD_some, sameKey_singleton, Datum.compare_text_beq, beq_iff_eq] at hkey
    exact ⟨r, hr, by rw [Row.key, hk, hkey]⟩
  · rintro ⟨r, hr, hkey⟩
    rw [Row.key] at hkey
    refine ⟨r, hr, ?_⟩
    rw [hkey, Option.getD_some, sameKey_singleton, Datum.compare_text_beq, beq_self_eq_true]

theorem Table.Keyed.insertRow {t : Table} (ht : t.Keyed) {row : Row} {uid : String}
    (hkey : row.key = some (.text uid)) (hnew : ∀ r ∈ t.rows, r.key ≠ some (.text uid)) :
    ({ t with rows := Sql.insertRow row t.rows } : Table).Keyed where
  text r hr := by
    rcases mem_insertRow.mp hr with rfl | hr
    · exact ⟨uid, hkey⟩
    · exact ht.text r hr
  distinct := by
    rw [((perm_insertRow row t.rows).map Row.key).nodup_iff, List.map_cons, List.nodup_cons]
    refine ⟨?_, ht.distinct⟩
    rw [hkey, List.mem_map]
    rintro ⟨r, hr, he⟩
    exact hnew r hr he

namespace Catalog

def Holds (c : Catalog) (n : String) (row : Row) : Prop :=
  ∃ t sql, .table t sql ∈ c.objects ∧ t.name = n ∧ row ∈ t.rows

structure Keyed (c : Catalog) : Prop where
  keyIndex : ∀ t sql, .table t sql ∈ c.objects → .index (keyIndex t.name) none ∈ c.objects
  unique : ∀ i sql, .index i sql ∈ c.objects → i.unique = true → i.columns = [0]
  tables : ∀ t sql, .table t sql ∈ c.objects → t.Keyed

theorem mem_indexesOf {c : Catalog} {n : String} {i : Index} :
    i ∈ c.indexesOf n ↔ ∃ sql, .index i sql ∈ c.objects ∧ sameName i.table n = true := by
  simp only [indexesOf, List.mem_append, List.mem_filter, List.mem_filterMap]
  constructor
  · rintro (⟨⟨o, ho, he⟩, -⟩ | ⟨⟨o, ho, he⟩, -⟩) <;>
    · cases o with
      | index i' sql =>
        by_cases hs : sameName i'.table n = true
        · simp only [hs, ↓reduceIte, Option.some.injEq] at he
          exact ⟨sql, he ▸ ho, he ▸ hs⟩
        · simp [hs] at he
      | table t sql => cases he
      | view v b sql => cases he
  · rintro ⟨sql, hi, hs⟩
    cases i.primary
    · exact .inr ⟨⟨_, hi, by simp [hs]⟩, rfl⟩
    · exact .inl ⟨⟨_, hi, by simp [hs]⟩, rfl⟩

theorem find?_collides_eq_none_iff {c : Catalog} (hk : c.Keyed) {t : Table} {sql : String}
    (ht : .table t sql ∈ c.objects) {values : List Datum} {uid : String}
    (hv : values.head? = some (.text uid)) :
    (c.indexesOf t.name).find? (collides t.rows values) = none ↔
      ∀ r ∈ t.rows, r.key ≠ some (.text uid) := by
  have htext := (hk.tables t sql ht).text
  rw [List.find?_eq_none]
  constructor
  · -- the key index is one of the table's indexes, and it would collide
    intro h r hr hkey
    have hmem : keyIndex t.name ∈ c.indexesOf t.name :=
      mem_indexesOf.mpr ⟨none, hk.keyIndex t sql ht, sameName_refl _⟩
    exact h _ hmem ((collides_key hv htext rfl rfl).mpr ⟨r, hr, hkey⟩)
  · intro h i hi hcol
    obtain ⟨sql', hmem, -⟩ := mem_indexesOf.mp hi
    cases hu : i.unique
    · simp [collides, hu] at hcol
    · obtain ⟨r, hr, hkey⟩ :=
        (collides_key hv htext hu (hk.unique i sql' hmem hu)).mp (by simpa using hcol)
      exact h r hr hkey

theorem Shaped.table_eq {c : Catalog} (hc : c.Shaped) {t u : Table} {sqlt sqlu : String}
    (ht : .table t sqlt ∈ c.objects) (hu : .table u sqlu ∈ c.objects) (h : t.name = u.name) :
    t = u := by
  have hsame : Object.table t sqlt = .table u sqlu :=
    List.inj_on_of_nodup_map hc.distinct ht hu (by simp only [Object.name, h])
  simp only [Object.table.injEq] at hsame
  exact hsame.1

theorem holds_key_insertInto {c : Catalog} (hk : c.Keyed) {t : Table} {sql : String}
    (ht : .table t sql ∈ c.objects) {ps : List Datum} {uid : String}
    (hv : (t.rowOf ps).values.head? = some (.text uid)) :
    ∃ row, (c.insertInto t ps).Holds t.name row ∧ row.key = some (.text uid) := by
  unfold insertInto
  split
  · next idx hsome =>
    have hany : ¬ ∀ r ∈ t.rows, r.key ≠ some (.text uid) := by
      rw [← find?_collides_eq_none_iff hk ht hv, hsome]
      exact Option.some_ne_none idx
    push Not at hany
    obtain ⟨r, hr, hkey⟩ := hany
    exact ⟨r, ⟨t, sql, ht, rfl, hr⟩, hkey⟩
  · refine ⟨t.rowOf ps, ⟨{ t with rows := insertRow (t.rowOf ps) t.rows }, sql, ?_, rfl,
      mem_insertRow.mpr (.inl rfl)⟩, hv⟩
    simp only [putTable, List.mem_map]
    exact ⟨_, ht, by simp [sameName_refl]⟩

theorem insertInto_of_key {c : Catalog} (hk : c.Keyed) {t : Table} {sql : String}
    (ht : .table t sql ∈ c.objects) {ps : List Datum} {uid : String}
    (hv : (t.rowOf ps).values.head? = some (.text uid)) {r : Row} (hr : r ∈ t.rows)
    (hkey : r.key = some (.text uid)) : c.insertInto t ps = c := by
  unfold insertInto
  split
  · rfl
  · next hnone => exact absurd hkey ((find?_collides_eq_none_iff hk ht hv).mp hnone r hr)

theorem holds_add {c : Catalog} {o : Object} {n : String} {row : Row} :
    (c.add o).Holds n row ↔
      c.Holds n row ∨ ∃ t sql, o = .table t sql ∧ t.name = n ∧ row ∈ t.rows := by
  simp only [Holds, add, List.mem_append, List.mem_singleton]
  constructor
  · rintro ⟨t, sql, ht | ht, hn, hr⟩
    · exact .inl ⟨t, sql, ht, hn, hr⟩
    · exact .inr ⟨t, sql, ht.symm, hn, hr⟩
  · rintro (⟨t, sql, ht, hn, hr⟩ | ⟨t, sql, rfl, hn, hr⟩)
    · exact ⟨t, sql, .inl ht, hn, hr⟩
    · exact ⟨t, sql, .inr rfl, hn, hr⟩

theorem holds_withContainer {c : Catalog} {m n : String} {k : ContainerKind} {row : Row} :
    (c.withContainer m k).Holds n row ↔ c.Holds n row := by
  simp only [withContainer, holds_add, Object.table.injEq, reduceCtorEq, false_and,
    exists_false, or_false]
  constructor
  · rintro (h | ⟨t, sql, ⟨rfl, -⟩, -, hr⟩)
    · exact h
    · cases hr
  · exact .inl

theorem holds_withIndex {c : Catalog} {i table : String} {j : Nat} {n : String} {row : Row} :
    (c.withIndex i table j).Holds n row ↔ c.Holds n row := by
  unfold withIndex
  split
  · rfl
  · simp [holds_add]

theorem Holds.insertInto {c : Catalog} (hc : c.Shaped) {t : Table} {sql : String}
    (ht : .table t sql ∈ c.objects) (ps : List Datum) {n : String} {row : Row}
    (h : c.Holds n row) : (c.insertInto t ps).Holds n row := by
  unfold Catalog.insertInto
  split
  · exact h
  · obtain ⟨u, sqlu, hu, hn, hr⟩ := h
    by_cases hs : sameName u.name t.name = true
    · -- the table is `t` itself, which keeps its rows among the new ones
      have hsame : Object.table u sqlu = .table t sql :=
        List.inj_on_of_nodup_map hc.distinct hu ht (sameName_iff_fold.mp hs)
      simp only [Object.table.injEq] at hsame
      obtain ⟨rfl, rfl⟩ := hsame
      refine ⟨{ u with rows := insertRow (u.rowOf ps) u.rows }, sqlu, ?_, hn,
        mem_insertRow.mpr (.inr hr)⟩
      simp only [putTable, List.mem_map]
      exact ⟨_, hu, by simp [sameName_refl]⟩
    · refine ⟨u, sqlu, ?_, hn, hr⟩
      simp only [putTable, List.mem_map]
      exact ⟨_, hu, by simp [hs]⟩

theorem Keyed.empty : Catalog.empty.Keyed where
  keyIndex _ _ h := absurd h List.not_mem_nil
  unique _ _ h := absurd h List.not_mem_nil
  tables _ _ h := absurd h List.not_mem_nil

theorem Keyed.withContainer {c : Catalog} (hk : c.Keyed) (n : String) (k : ContainerKind) :
    (c.withContainer n k).Keyed where
  keyIndex t sql ht := by
    rcases mem_withContainer_table ht with ht | rfl
    · exact mem_withContainer_of_mem n k (hk.keyIndex t sql ht)
    · exact List.mem_append_right _ (List.mem_singleton_self _)
  unique i sql hi hu := by
    rcases mem_withContainer_index hi with hi | rfl
    · exact hk.unique i sql hi hu
    · rfl
  tables t sql ht := by
    rcases mem_withContainer_table ht with ht | rfl
    · exact hk.tables t sql ht
    · exact ⟨fun r hr => absurd hr List.not_mem_nil, List.nodup_nil⟩

theorem Keyed.withIndex {c : Catalog} (hk : c.Keyed) (i table : String) (j : Nat) :
    (c.withIndex i table j).Keyed := by
  unfold Catalog.withIndex
  split
  · exact hk
  · constructor
    · intro t sql ht
      simp only [add, List.mem_append, List.mem_singleton, reduceCtorEq, or_false] at ht
      exact List.mem_append_left _ (hk.keyIndex t sql ht)
    · intro i' sql hi hu
      simp only [add, List.mem_append, List.mem_singleton, Object.index.injEq] at hi
      rcases hi with hi | ⟨rfl, -⟩
      · exact hk.unique i' sql hi hu
      · cases hu
    · intro t sql ht
      simp only [add, List.mem_append, List.mem_singleton, reduceCtorEq, or_false] at ht
      exact hk.tables t sql ht

theorem mem_putTable_of_index {c : Catalog} (t : Table) {i : Index} {sql : Option String}
    (h : .index i sql ∈ c.objects) : .index i sql ∈ (c.putTable t).objects := by
  simp only [putTable, List.mem_map]
  exact ⟨_, h, rfl⟩

theorem Keyed.insertInto {c : Catalog} (hk : c.Keyed) {t : Table} {sql : String}
    (ht : .table t sql ∈ c.objects) {ps : List Datum} {uid : String}
    (hv : (t.rowOf ps).values.head? = some (.text uid)) : (c.insertInto t ps).Keyed := by
  unfold Catalog.insertInto
  split
  · exact hk
  · next hnone =>
    have hnew := (find?_collides_eq_none_iff hk ht hv).mp hnone
    constructor
    · intro v sqlv hv'
      rcases mem_putTable hv' with hv' | ⟨u, sqlu, -, -, he⟩
      · exact mem_putTable_of_index _ (hk.keyIndex v sqlv hv')
      · simp only [Object.table.injEq] at he
        obtain ⟨rfl, -⟩ := he
        exact mem_putTable_of_index _ (hk.keyIndex t sql ht)
    · intro i sqli hi hu
      rcases mem_putTable hi with hi | ⟨u, sqlu, -, -, he⟩
      · exact hk.unique i sqli hi hu
      · cases he
    · intro v sqlv hv'
      rcases mem_putTable hv' with hv' | ⟨u, sqlu, -, -, he⟩
      · exact hk.tables v sqlv hv'
      · simp only [Object.table.injEq] at he
        obtain ⟨rfl, -⟩ := he
        exact (hk.tables t sql ht).insertRow hv hnew

end Catalog

end Sql

end ChatArchive
