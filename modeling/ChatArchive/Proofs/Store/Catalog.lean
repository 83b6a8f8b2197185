import Mathlib
import ChatArchive.Proofs.Store.Statements

namespace ChatArchive

open Sql StoreM

namespace Sql

def fold (n : String) : List Char := n.toList.map Char.toLower

theorem fold_append (a b : String) : fold (a ++ b) = fold a ++ fold b := by
  simp only [fold, String.toList_append, List.map_append]

theorem sameName_iff_fold {a b : String} : sameName a b = true ↔ fold a = fold b := by
  simp [sameName, fold]

theorem sameName_eq_false_iff_fold {a b : String} : sameName a b = false ↔ fold a ≠ fold b := by
  rw [← Bool.not_eq_true, sameName_iff_fold]

theorem sameName_comm (a b : String) : sameName a b = sameName b a := by
  simp only [sameName, Bool.beq_comm]

theorem sameName_congr {a a' b b' : String} (ha : sameName a a' = true)
    (hb : sameName b b' = true) : sameName a b = sameName a' b' := by
  rw [sameName_iff_fold] at ha hb
  show (fold a == fold b) = (fold a' == fold b')
  rw [ha, hb]

theorem isReservedName_congr {a b : String} (h : sameName a b = true) :
    isReservedName a = isReservedName b := by
  simp only [sameName, beq_iff_eq] at h
  simp only [isReservedName, List.map_take, h]

theorem sameName_append_eq_false (n m : String) (hm : m ≠ "") : sameName n (n ++ m) = false := by
  cases h : sameName n (n ++ m)
  · rfl
  · have := length_eq_of_sameName h
    simp only [String.toList_append, List.length_append, Nat.left_eq_add] at this
    exact absurd (String.toList_eq_nil_iff.mp (List.eq_nil_of_length_eq_zero this)) hm

theorem isReservedName_keyIndex (n : String) : isReservedName (keyIndex n).name = true := by
  have hlen : 7 ≤ "sqlite_autoindex_".toList.length := by decide +kernel
  have hpre : ("sqlite_autoindex_".toList.take 7).map Char.toLower = "sqlite_".toList := by
    decide +kernel
  unfold isReservedName keyIndex
  dsimp only
  rw [String.toList_append, String.toList_append, List.append_assoc,
    List.take_append_of_le_length hlen, hpre]
  exact beq_self_eq_true _

theorem sameName_keyIndex (a b : String) :
    sameName (keyIndex a).name (keyIndex b).name = sameName a b := by
  unfold keyIndex
  dsimp only
  rw [Bool.eq_iff_iff, sameName_iff_fold, sameName_iff_fold]
  simp only [fold, String.toList_append, List.map_append, List.append_cancel_left_eq,
    List.append_cancel_right_eq]

namespace Catalog

theorem hasTable_iff {c : Catalog} {n : String} :
    c.hasTable n = true ↔ ∃ t sql, .table t sql ∈ c.objects ∧ t.name = n := by
  simp only [hasTable, List.any_eq_true, Bool.and_eq_true, beq_iff_eq]
  constructor
  · rintro ⟨o, ho, hk, rfl⟩
    cases o with
    | table t sql => exact ⟨t, sql, ho, rfl⟩
    | view v b sql => simp [Object.kindName] at hk
    | index i sql => simp [Object.kindName] at hk
  · rintro ⟨t, sql, ht, rfl⟩
    exact ⟨_, ht, rfl, rfl⟩

theorem hasTable_eq_false_of_free {c : Catalog} {n : String} (h : c.Free n) :
    c.hasTable n = false := by
  rw [hasTable, List.any_eq_false]
  intro o ho hk
  simp only [Bool.and_eq_true, beq_iff_eq] at hk
  have hsame := h.2 o ho
  rw [hk.2, sameName_refl] at hsame
  exact Bool.noConfusion hsame

theorem relation?_add_index (c : Catalog) (i : Index) (sql : Option String) (n : String) :
    (c.add (.index i sql)).relation? n = c.relation? n := by
  simp [relation?, add, List.find?_append]

theorem relation?_add_table_of_ne (c : Catalog) {t : Table} (sql : String) {n : String}
    (h : sameName t.name n = false) : (c.add (.table t sql)).relation? n = c.relation? n := by
  simp [relation?, add, List.find?_append, Object.name, h]

theorem relation?_add_table (c : Catalog) {t : Table} (sql : String) {n : String}
    (hnone : c.relation? n = none) (h : sameName t.name n = true) :
    (c.add (.table t sql)).relation? n = some (.table t sql) := by
  unfold relation? at hnone ⊢
  rw [add, List.find?_append, hnone, Option.none_or]
  simp [Object.name, h]

theorem relation?_withContainer (c : Catalog) (n : String) (k : ContainerKind) (h : c.Free n) :
    (c.withContainer n k).relation? n =
      some (.table (k.table n) ("CREATE TABLE " ++ quoted n)) := by
  rw [withContainer, relation?_add_index]
  exact relation?_add_table c _ (free_iff.mp h).2.1 (sameName_refl n)

theorem relation?_withContainer_of_ne (c : Catalog) {n i : String} (k : ContainerKind)
    (h : sameName n i = false) : (c.withContainer n k).relation? i = c.relation? i := by
  rw [withContainer, relation?_add_index]
  exact relation?_add_table_of_ne c _ h

theorem mem_withContainer_table {c : Catalog} {n : String} {k : ContainerKind} {t : Table}
    {sql : String} (h : .table t sql ∈ (c.withContainer n k).objects) :
    .table t sql ∈ c.objects ∨ t = k.table n := by
  simp only [Catalog.withContainer, add, List.mem_append, List.mem_singleton, Object.table.injEq,
    reduceCtorEq, or_false] at h
  rcases h with h | ⟨rfl, -⟩
  · exact .inl h
  · exact .inr rfl

theorem mem_withContainer_index {c : Catalog} {n : String} {k : ContainerKind} {i : Index}
    {sql : Option String} (h : .index i sql ∈ (c.withContainer n k).objects) :
    .index i sql ∈ c.objects ∨ i = keyIndex n := by
  simp only [Catalog.withContainer, add, List.mem_append, List.mem_singleton, reduceCtorEq,
    or_false, Object.index.injEq] at h
  rcases h with h | ⟨rfl, -⟩
  · exact .inl h
  · exact .inr rfl

theorem mem_withContainer_view {c : Catalog} {n : String} {k : ContainerKind} {v : String}
    {b : Select} {sql : String} (h : .view v b sql ∈ (c.withContainer n k).objects) :
    .view v b sql ∈ c.objects := by
  simpa only [Catalog.withContainer, add, List.mem_append, List.mem_singleton, reduceCtorEq,
    or_false] using h

theorem mem_withContainer_of_mem {c : Catalog} {o : Object} (n : String) (k : ContainerKind)
    (h : o ∈ c.objects) : o ∈ (c.withContainer n k).objects :=
  List.mem_append_left _ (List.mem_append_left _ h)

theorem relation?_withIndex (c : Catalog) (i table : String) (j : Nat) (n : String) :
    (c.withIndex i table j).relation? n = c.relation? n := by
  unfold withIndex
  split
  · rfl
  · exact relation?_add_index c _ _ n

theorem relation?_made (c : Catalog) {n : String} (k : ContainerKind) (h : c.Free n) (i : String)
    (j : Nat) : ((c.withContainer n k).withIndex i n j).relation? n =
      some (.table (k.table n) ("CREATE TABLE " ++ quoted n)) := by
  rw [relation?_withIndex]
  exact c.relation?_withContainer n k h

def folded (c : Catalog) : List (List Char) := c.objects.map fun o => fold o.name

def OwnName (c : Catalog) (x : String) : Prop :=
  isReservedName x = false ∨
    ∃ t sql, .table t sql ∈ c.objects ∧ sameName x (keyIndex t.name).name = true

end Catalog

def Table.IsContainer (t : Table) : Prop :=
  t.rowidColumn = none ∧ isReservedName t.name = false ∧ ∃ k : ContainerKind, t.columns = k.tableColumns

namespace Catalog

structure Shaped (c : Catalog) : Prop where
  distinct : c.folded.Nodup
  tables : ∀ t sql, .table t sql ∈ c.objects → t.IsContainer
  names : ∀ o ∈ c.objects, c.OwnName o.name

theorem Shaped.empty : Catalog.empty.Shaped where
  distinct := List.nodup_nil
  tables _ _ h := absurd h List.not_mem_nil
  names _ h := absurd h List.not_mem_nil

theorem OwnName.mono {c c' : Catalog} {x : String} (h : c.OwnName x)
    (hsub : ∀ t sql, .table t sql ∈ c.objects → .table t sql ∈ c'.objects) : c'.OwnName x := by
  rcases h with h | ⟨t, sql, ht, hx⟩
  · exact .inl h
  · exact .inr ⟨t, sql, hsub t sql ht, hx⟩

theorem fold_not_mem_folded {c : Catalog} {x : String} :
    fold x ∉ c.folded ↔ ∀ o ∈ c.objects, sameName o.name x = false := by
  simp [folded, sameName_eq_false_iff_fold]

theorem Shaped.add {c : Catalog} {o : Object} (hc : c.Shaped)
    (hfresh : ∀ o' ∈ c.objects, sameName o'.name o.name = false)
    (htable : ∀ t sql, o = .table t sql → t.IsContainer)
    (hname : (c.add o).OwnName o.name) : (c.add o).Shaped where
  distinct := by
    rw [folded, Catalog.add, List.map_append, List.nodup_append]
    refine ⟨hc.distinct, List.nodup_singleton _, fun a ha b hb => ?_⟩
    rw [List.map_singleton, List.mem_singleton] at hb
    rintro rfl
    exact fold_not_mem_folded.mpr hfresh (hb ▸ ha)
  tables t sql ht := by
    rcases List.mem_append.mp ht with ht | ht
    · exact hc.tables t sql ht
    · exact htable t sql (List.mem_singleton.mp ht).symm
  names o' ho' := by
    rcases List.mem_append.mp ho' with ho' | ho'
    · exact (hc.names o' ho').mono fun t sql ht => List.mem_append_left _ ht
    · rw [List.mem_singleton.mp ho']
      exact hname

theorem Shaped.withContainer {c : Catalog} {n : String} (k : ContainerKind) (hc : c.Shaped)
    (hfree : c.Free n) : (c.withContainer n k).Shaped := by
  have hcontainer : (k.table n).IsContainer := ⟨rfl, hfree.1, k, rfl⟩
  have htable : (c.add (.table (k.table n) ("CREATE TABLE " ++ quoted n))).Shaped :=
    hc.add hfree.2 (fun t sql h => by cases h; exact hcontainer) (.inl hfree.1)
  refine htable.add ?_ (fun t sql h => Object.noConfusion h) (.inr ⟨k.table n, _,
    List.mem_append_left _ (List.mem_append_right _ (List.mem_singleton_self _)),
    sameName_refl _⟩)
  intro o ho
  show sameName o.name (keyIndex n).name = false
  rcases List.mem_append.mp ho with ho | ho
  · -- an old object has a name not kept, or the key index name of a table other than `n`
    rcases hc.names o ho with hr | ⟨t, sql, ht, hx⟩
    · cases hs : sameName o.name (keyIndex n).name
      · rfl
      · rw [isReservedName_congr hs, isReservedName_keyIndex] at hr
        exact Bool.noConfusion hr
    · rw [sameName_congr hx (sameName_refl _), sameName_keyIndex]
      exact hfree.2 _ ht
  · -- the container itself has a name not kept
    cases List.mem_singleton.mp ho
    show sameName n (keyIndex n).name = false
    cases hs : sameName n (keyIndex n).name
    · rfl
    · have hr := isReservedName_congr hs
      rw [isReservedName_keyIndex] at hr
      exact absurd (hr.symm.trans hfree.1) Bool.noConfusion

theorem Shaped.withIndex {c : Catalog} {i : String} (table : String) (j : Nat) (hc : c.Shaped)
    (hi : isReservedName i = false) (hrel : c.relation? i = none) :
    (c.withIndex i table j).Shaped := by
  unfold Catalog.withIndex
  split
  · exact hc
  · next hidx =>
    have hfree : c.Free i := free_iff.mpr ⟨hi, hrel, by simpa using hidx⟩
    exact hc.add hfree.2 (fun t sql h => Object.noConfusion h) (.inl hi)

theorem mem_putTable {c : Catalog} {t : Table} {o : Object} (h : o ∈ (c.putTable t).objects) :
    o ∈ c.objects ∨
      ∃ u sql, .table u sql ∈ c.objects ∧ sameName u.name t.name = true ∧ o = .table t sql := by
  simp only [putTable, List.mem_map] at h
  obtain ⟨o', ho', rfl⟩ := h
  cases o' with
  | table u sql =>
    by_cases hs : sameName u.name t.name = true
    · simp only [hs, ↓reduceIte]
      exact .inr ⟨u, sql, ho', hs, rfl⟩
    · simp only [hs, Bool.false_eq_true, ↓reduceIte]
      exact .inl ho'
  | view v b sql => exact .inl ho'
  | index i sql => exact .inl ho'

theorem mem_putTable_of_table {c : Catalog} (t : Table) {u : Table} {sql : String}
    (h : .table u sql ∈ c.objects) :
    ∃ u', .table u' sql ∈ (c.putTable t).objects ∧ sameName u'.name u.name = true := by
  by_cases hs : sameName u.name t.name = true
  · refine ⟨t, ?_, sameName_comm _ _ ▸ hs⟩
    simp only [putTable, List.mem_map]
    exact ⟨_, h, by simp only [hs, ↓reduceIte]⟩
  · refine ⟨u, ?_, sameName_refl _⟩
    simp only [putTable, List.mem_map]
    exact ⟨_, h, by simp only [hs, Bool.false_eq_true, ↓reduceIte]⟩

theorem folded_putTable (c : Catalog) (t : Table) : (c.putTable t).folded = c.folded := by
  simp only [folded, putTable, List.map_map]
  apply List.map_congr_left
  intro o _
  cases o with
  | table u sql =>
    by_cases hs : sameName u.name t.name = true
    · simp only [Function.comp_apply, hs, ↓reduceIte]
      exact (sameName_iff_fold.mp hs).symm
    · simp only [Function.comp_apply, hs, Bool.false_eq_true, ↓reduceIte]
  | view v b sql => rfl
  | index i sql => rfl

theorem OwnName.putTable {c : Catalog} {x : String} (t : Table) (h : c.OwnName x) :
    (c.putTable t).OwnName x := by
  rcases h with h | ⟨u, sql, hu, hx⟩
  · exact .inl h
  · obtain ⟨u', hu', hs⟩ := mem_putTable_of_table t hu
    refine .inr ⟨u', sql, hu', ?_⟩
    have hkey : sameName (keyIndex u'.name).name (keyIndex u.name).name = true := by
      rw [sameName_keyIndex]
      exact hs
    rw [sameName_congr (sameName_refl x) hkey, hx]

theorem Shaped.putTable {c : Catalog} {t : Table} {sql : String} (hc : c.Shaped)
    (ht : .table t sql ∈ c.objects) (rows : List Row) :
    (c.putTable { t with rows := rows }).Shaped where
  distinct := by
    rw [folded_putTable]
    exact hc.distinct
  tables u sql' hu := by
    rcases mem_putTable hu with hu | ⟨u', sql'', -, -, he⟩
    · exact hc.tables u sql' hu
    · cases he
      exact hc.tables t sql ht
  names o ho := by
    rcases mem_putTable ho with ho | ⟨u', sql'', -, -, rfl⟩
    · exact (hc.names o ho).putTable _
    · exact (hc.names _ ht).putTable _

theorem Shaped.relation?_of_mem {c : Catalog} {t : Table} {sql : String} (hc : c.Shaped)
    (ht : .table t sql ∈ c.objects) : c.relation? t.name = some (.table t sql) := by
  obtain ⟨o, ho⟩ : ∃ o, c.relation? t.name = some o := by
    apply Option.isSome_iff_exists.mp
    rw [relation?, List.find?_isSome]
    exact ⟨_, ht, by simp [Object.name, sameName_refl]⟩
  have hsame : fold o.name = fold t.name := sameName_iff_fold.mp (sameName_of_relation?_eq_some ho)
  rw [ho, List.inj_on_of_nodup_map hc.distinct (List.mem_of_find?_eq_some ho) ht hsame]

end Catalog

end Sql

end ChatArchive
