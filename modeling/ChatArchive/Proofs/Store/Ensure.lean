import Mathlib
import ChatArchive.Proofs.Store.Containers

namespace ChatArchive

open Sql StoreM

namespace Sql

theorem sameName_append_right {a b : String} (h : sameName a b = true) (x : String) :
    sameName (a ++ x) (b ++ x) = true := by
  rw [sameName_iff_fold, fold_append, fold_append, sameName_iff_fold.mp h]

theorem eq_of_orderable {k : ContainerKind} {f : String} (hf : k.orderable.contains f = true) :
    f = "created_at" ∨ f = "message_created_at" := by
  cases k <;> simp_all [ContainerKind.orderable]

theorem sameName_of_indexName {a b f f' : String} {k k' : ContainerKind}
    (hf : k.orderable.contains f = true) (hf' : k'.orderable.contains f' = true)
    (h : sameName (a ++ "_by_" ++ f) (b ++ "_by_" ++ f') = true) : sameName a b = true := by
  rw [sameName_iff_fold] at h ⊢
  simp only [fold_append, List.append_assoc] at h
  have hx : fold "_by_" ++ fold f <:+ fold a ++ (fold "_by_" ++ fold f) := List.suffix_append _ _
  have hy : fold "_by_" ++ fold f' <:+ fold a ++ (fold "_by_" ++ fold f) := by
    rw [h]
    exact List.suffix_append _ _
  rcases eq_of_orderable hf with rfl | rfl <;> rcases eq_of_orderable hf' with rfl | rfl
  · exact List.append_inj_left' h rfl
  · exact absurd (List.suffix_of_suffix_length_le hx hy (by decide)) (by decide)
  · exact absurd (List.suffix_of_suffix_length_le hy hx (by decide)) (by decide)
  · exact List.append_inj_left' h rfl

namespace Catalog

def Indexed (c : Catalog) : Prop :=
  ∀ i sql, .index i sql ∈ c.objects → isReservedName i.name = true ∨
    ∃ t tsql, ∃ k : ContainerKind, ∃ f, .table t tsql ∈ c.objects ∧ k.orderable.contains f = true ∧
      sameName i.name (t.name ++ "_by_" ++ f) = true

theorem Indexed.empty : Catalog.empty.Indexed := fun _ _ h => absurd h List.not_mem_nil

theorem Indexed.mono {c c' : Catalog} (hc : c.Indexed)
    (hidx : ∀ i sql, .index i sql ∈ c'.objects →
      .index i sql ∈ c.objects ∨ isReservedName i.name = true)
    (htab : ∀ t sql, .table t sql ∈ c.objects →
      ∃ t', .table t' sql ∈ c'.objects ∧ sameName t'.name t.name = true) : c'.Indexed := by
  intro i sql hi
  rcases hidx i sql hi with hi | hr
  · rcases hc i sql hi with hr | ⟨t, tsql, k, f, ht, hf, hs⟩
    · exact .inl hr
    · obtain ⟨t', ht', hsame⟩ := htab t tsql ht
      have hname : sameName (t'.name ++ "_by_" ++ f) (t.name ++ "_by_" ++ f) = true := by
        rw [String.append_assoc, String.append_assoc]
        exact sameName_append_right hsame _
      refine .inr ⟨t', tsql, k, f, ht', hf, ?_⟩
      rwa [sameName_congr (sameName_refl i.name) hname]
  · exact .inl hr

theorem Indexed.withContainer {c : Catalog} (hc : c.Indexed) (n : String) (k : ContainerKind) :
    (c.withContainer n k).Indexed := by
  refine hc.mono (fun i sql hi => ?_)
    (fun t sql ht => ⟨t, List.mem_append_left _ (List.mem_append_left _ ht), sameName_refl _⟩)
  rcases mem_withContainer_index hi with hi | rfl
  · exact .inl hi
  · exact .inr (isReservedName_keyIndex n)

theorem Indexed.withIndex {c : Catalog} (hc : c.Indexed) {t : Table} {sql : String}
    (ht : .table t sql ∈ c.objects) {k : ContainerKind} {f : String}
    (hf : k.orderable.contains f = true) (table : String) (j : Nat) :
    (c.withIndex (t.name ++ "_by_" ++ f) table j).Indexed := by
  unfold Catalog.withIndex
  split
  · exact hc
  · intro i isql hi
    simp only [add, List.mem_append, List.mem_singleton, Object.index.injEq] at hi
    rcases hi with hi | ⟨rfl, -⟩
    · rcases hc i isql hi with hr | ⟨u, usql, k', f', hu, hf', hs⟩
      · exact .inl hr
      · exact .inr ⟨u, usql, k', f', List.mem_append_left _ hu, hf', hs⟩
    · exact .inr ⟨t, sql, k, f, List.mem_append_left _ ht, hf, sameName_refl _⟩

theorem Indexed.putTable {c : Catalog} (hc : c.Indexed) (t : Table) : (c.putTable t).Indexed := by
  refine hc.mono (fun i sql hi => ?_) (fun u sql hu => mem_putTable_of_table t hu)
  rcases mem_putTable hi with hi | ⟨u, usql, -, -, he⟩
  · exact .inl hi
  · exact absurd he (by simp)

theorem Indexed.insertInto {c : Catalog} (hc : c.Indexed) (t : Table) (ps : List Datum) :
    (c.insertInto t ps).Indexed := by
  unfold Catalog.insertInto
  split
  · exact hc
  · exact hc.putTable _

theorem Indexed.index?_withContainer {c : Catalog} (hc : c.Indexed) {n f : String}
    {k : ContainerKind} (hfree : c.Free n) (hf : k.orderable.contains f = true)
    (hi : isReservedName (n ++ "_by_" ++ f) = false) (k' : ContainerKind) :
    (c.withContainer n k').index? (n ++ "_by_" ++ f) = none := by
  rw [index?_eq_none_iff]
  intro o ho hidx
  cases o with
  | table t sql => cases hidx
  | view v b sql => cases hidx
  | index idx sql =>
    show sameName idx.name (n ++ "_by_" ++ f) = false
    -- a name kept for the database is never the same as the index's
    have hkept : isReservedName idx.name = true → sameName idx.name (n ++ "_by_" ++ f) = false := by
      intro hr
      cases hs : sameName idx.name (n ++ "_by_" ++ f)
      · rfl
      · rw [isReservedName_congr hs, hi] at hr
        cases hr
    rcases mem_withContainer_index ho with ho | rfl
    · rcases hc idx sql ho with hr | ⟨t, tsql, k'', f', ht, hf', hs⟩
      · exact hkept hr
      · cases hs' : sameName idx.name (n ++ "_by_" ++ f)
        · rfl
        · have hsame : sameName (t.name ++ "_by_" ++ f') (n ++ "_by_" ++ f) = true := by
            rw [← sameName_congr hs hs', sameName_refl]
          have := hfree.2 _ ht
          rw [Object.name, sameName_of_indexName hf' hf hsame] at this
          cases this
    · exact hkept (isReservedName_keyIndex n)

-- One change a write or the making of a container makes to a database.
inductive Change : Catalog → Catalog → Prop
  -- a container made under a free name, with the index of its key
  | container {c : Catalog} {n : String} (k : ContainerKind) (hfree : c.Free n) :
      Change c (c.withContainer n k)
  -- the index ordering a table by a field a container is ordered by, under a name not kept and
  -- that no table or view has
  | index {c : Catalog} {t : Table} {sql : String} {k : ContainerKind} {f : String} (j : Nat)
      (ht : .table t sql ∈ c.objects) (hf : k.orderable.contains f = true)
      (hi : isReservedName (t.name ++ "_by_" ++ f) = false)
      (hrel : c.relation? (t.name ++ "_by_" ++ f) = none) :
      Change c (c.withIndex (t.name ++ "_by_" ++ f) t.name j)
  -- a row inserted into a table
  | insert {c : Catalog} {t : Table} {sql : String} (ht : .table t sql ∈ c.objects)
      (ps : List Datum) : Change c (c.insertInto t ps)

theorem Shaped.change {c c' : Catalog} (hc : c.Shaped) (h : Change c c') : c'.Shaped := by
  cases h with
  | container k hfree => exact hc.withContainer k hfree
  | index j ht hf hi hrel => exact hc.withIndex _ j hi hrel
  | insert ht ps => exact hc.insertInto ht ps

theorem Shaped.changes {c c' : Catalog} (hc : c.Shaped) (h : Relation.ReflTransGen Change c c') :
    c'.Shaped := by
  induction h with
  | refl => exact hc
  | tail _ hstep ih => exact ih.change hstep

theorem Indexed.change {c c' : Catalog} (hc : c.Indexed) (h : Change c c') : c'.Indexed := by
  cases h with
  | container k hfree => exact hc.withContainer _ k
  | index j ht hf hi hrel => exact hc.withIndex ht hf _ j
  | insert ht ps => exact hc.insertInto _ ps

structure Sound (c : Catalog) : Prop where
  shaped : c.Shaped
  indexed : c.Indexed

theorem Sound.empty : Catalog.empty.Sound := ⟨Shaped.empty, Indexed.empty⟩

theorem Sound.changes {c c' : Catalog} (hc : c.Sound) (h : Relation.ReflTransGen Change c c') :
    c'.Sound := by
  induction h with
  | refl => exact hc
  | tail _ hstep ih => exact ⟨ih.shaped.change hstep, ih.indexed.change hstep⟩

theorem mem_withIndex {c : Catalog} {i table : String} {j : Nat} {o : Object}
    (h : o ∈ (c.withIndex i table j).objects) : o ∈ c.objects ∨ o.name = i := by
  unfold withIndex at h
  split at h
  · exact .inl h
  · rcases List.mem_append.mp h with h | h
    · exact .inl h
    · rw [List.mem_singleton.mp h]
      exact .inr rfl

theorem changes_made {c : Catalog} {n f : String} (k : ContainerKind) (hfree : c.Free n)
    (hf : k.orderable.contains f = true) (hi : isReservedName (n ++ "_by_" ++ f) = false)
    (hrel : c.relation? (n ++ "_by_" ++ f) = none) (j : Nat) :
    Relation.ReflTransGen Change c ((c.withContainer n k).withIndex (n ++ "_by_" ++ f) n j) := by
  have ht : .table (k.table n) ("CREATE TABLE " ++ quoted n) ∈ (c.withContainer n k).objects :=
    List.mem_of_find?_eq_some (c.relation?_withContainer n k hfree)
  have hrel' : (c.withContainer n k).relation? (n ++ "_by_" ++ f) = none := by
    rw [relation?_withContainer_of_ne _ _ (sameName_indexName n f)]
    exact hrel
  have hidx : Change (c.withContainer n k)
      ((c.withContainer n k).withIndex ((k.table n).name ++ "_by_" ++ f) (k.table n).name j) :=
    @Change.index _ (k.table n) _ k f j ht hf hi hrel'
  exact .tail (.single (.container k hfree)) hidx

end Catalog

end Sql

namespace StoreM

section Ensure

variable {l : Logger} {n f : String} {k : ContainerKind} {s : Store}

theorem ensureContainer_of_unknown_field (hv : Container.validName n = true)
    (hf : k.orderable.contains f = false) :
    ∃ e, Leaves (ensureContainer l n k f) s (.error e) s.catalog :=
  ⟨_, s.logs, by simp only [ensureContainer, hv, hf, Bool.not_true, Bool.not_false,
    Bool.false_eq_true, ↓reduceIte]; rfl⟩

end Ensure

theorem ensureContainer_cases (l : Logger) (n : String) (k : ContainerKind) (f : String)
    (s : Store) :
    (∃ e, Leaves (ensureContainer l n k f) s (.error e) s.catalog) ∨
    (s.catalog.hasTable n = true ∧ Leaves (ensureContainer l n k f) s (.ok false) s.catalog) ∨
    (k.orderable.contains f = true ∧ s.catalog.Free n ∧
      isReservedName (n ++ "_by_" ++ f) = false ∧ s.catalog.relation? (n ++ "_by_" ++ f) = none ∧
      ∃ j, Leaves (ensureContainer l n k f) s (.ok true)
        ((s.catalog.withContainer n k).withIndex (n ++ "_by_" ++ f) n j)) ∨
    (s.catalog.Free n ∧
      ¬ (isReservedName (n ++ "_by_" ++ f) = false ∧ s.catalog.relation? (n ++ "_by_" ++ f) = none) ∧
      ∃ e, Leaves (ensureContainer l n k f) s (.error e) (s.catalog.withContainer n k)) := by
  cases hv : Container.validName n
  · exact .inl (ensureContainer_of_invalid_name hv)
  cases hf : k.orderable.contains f
  · exact .inl (ensureContainer_of_unknown_field hv hf)
  cases hhas : s.catalog.hasTable n
  · by_cases hfree : s.catalog.Free n
    · by_cases hidx : isReservedName (n ++ "_by_" ++ f) = false ∧
          s.catalog.relation? (n ++ "_by_" ++ f) = none
      · exact .inr (.inr (.inl ⟨rfl, hfree, hidx.1, hidx.2,
          ensureContainer_of_free hv hf hfree hidx.1 hidx.2⟩))
      · exact .inr (.inr (.inr ⟨hfree, hidx, ensureContainer_of_index_taken hv hf hfree hidx⟩))
    · exact .inl (ensureContainer_of_not_free hv hf hhas hfree)
  · exact .inr (.inl ⟨rfl, ensureContainer_of_hasTable hv hf hhas⟩)

theorem ensureContainer_changes (l : Logger) (n : String) (k : ContainerKind) (f : String)
    (s : Store) :
    Relation.ReflTransGen Catalog.Change s.catalog ((ensureContainer l n k f).on s).2.catalog := by
  rcases ensureContainer_cases l n k f s with ⟨e, he⟩ | ⟨-, he⟩ |
      ⟨hf, hfree, hi, hrel, j, he⟩ | ⟨hfree, -, e, he⟩
  · rw [he.catalog]
  · rw [he.catalog]
  · rw [he.catalog]
    exact Catalog.changes_made k hfree hf hi hrel j
  · rw [he.catalog]
    exact .single (.container k hfree)

theorem insertSettle_changes (child : Logger) (uid : String) (s : Store) (hc : s.catalog.Shaped)
    {t : Table} {sql : String} (ht : .table t sql ∈ s.catalog.objects) {k : ContainerKind}
    {ps : List Datum} (hps : Fills k ps) :
    ∃ r c', Leaves (attempt (execQuery (insertQuery t.name k) ps) >>= fun r => settle child r uid)
      s r c' ∧ Relation.ReflTransGen Catalog.Change s.catalog c' := by
  obtain ⟨hrowid, hreserved, k', hcols⟩ := hc.tables t sql ht
  by_cases hk : k' = k
  · subst hk
    exact ⟨_, _, insertSettle_of_kind child (hc.relation?_of_mem ht) hreserved hcols hrowid hps,
      .single (.insert ht ps)⟩
  · obtain ⟨e, he⟩ := insertSettle_of_other_kind s child (hc.relation?_of_mem ht) hreserved hcols hk
    exact ⟨_, _, he, .refl⟩

theorem putRecord_changes (l child : Logger) (n : String) (k : ContainerKind) (f uid : String)
    {values : Int → List Datum} (hps : ∀ now, Fills k (values now)) {s : Store}
    (hc : s.catalog.Shaped) :
    Relation.ReflTransGen Catalog.Change s.catalog
      ((putRecord l child n k f uid values).on s).2.catalog := by
  rcases ensureContainer_cases l n k f s with ⟨e, he⟩ | ⟨hhas, he⟩ |
      ⟨hf, hfree, hi, hrel, j, he⟩ | ⟨hfree, -, e, he⟩
  · have hput : Leaves (putRecord l child n k f uid values) s (.error e) s.catalog :=
      putRecord_of_ensure_error he
    rw [hput.catalog]
  · -- the table there takes the row, or refuses it
    obtain ⟨t, sql, ht, rfl⟩ := Catalog.hasTable_iff.mp hhas
    obtain ⟨logs, hL⟩ := he
    obtain ⟨r, c', hins, hch⟩ :=
      insertSettle_changes child uid { s with logs := logs } hc ht (hps s.clock)
    rw [(putRecord_of_ensure hL hins).catalog]
    exact hch
  · -- the new table takes the row, or refuses it
    obtain ⟨logs, hL⟩ := he
    have hmade := Catalog.changes_made k hfree hf hi hrel j
    have ht : .table (k.table n) ("CREATE TABLE " ++ quoted n) ∈
        ((s.catalog.withContainer n k).withIndex (n ++ "_by_" ++ f) n j).objects :=
      List.mem_of_find?_eq_some (s.catalog.relation?_made k hfree _ j)
    generalize (s.catalog.withContainer n k).withIndex (n ++ "_by_" ++ f) n j = c₁ at hL hmade ht
    obtain ⟨r, c', hins, hch⟩ :=
      insertSettle_changes child uid { s with catalog := c₁, logs := logs } (hc.changes hmade) ht
        (hps s.clock)
    rw [(putRecord_of_ensure hL hins).catalog]
    exact hmade.trans hch
  · have hput : Leaves (putRecord l child n k f uid values) s (.error e)
        (s.catalog.withContainer n k) := putRecord_of_ensure_error he
    rw [hput.catalog]
    exact .single (.container k hfree)

end StoreM

namespace Write

open StoreM

theorem run_changes (l : Logger) (w : Write) {s : Store} (hc : s.catalog.Shaped) :
    Relation.ReflTransGen Catalog.Change s.catalog ((w.run l).on s).2.catalog := by
  by_cases hv : w.Valid
  · obtain ⟨child, hrun⟩ := w.run_eq_putRecord l hv
    rw [hrun]
    exact putRecord_changes l child w.container w.kind w.field w.uid w.fills_values hc
  · obtain ⟨e, he⟩ := run_of_not_valid l hv
    rw [(he s).catalog]

end Write

-- The stores reached from an empty database by writes and by making containers, at any times.
inductive Reached : Store → Prop
  | fresh (clock : Int) : Reached (Store.fresh clock)
  | tick {s : Store} (clock : Int) : Reached s → Reached { s with clock := clock }
  | write {s : Store} (l : Logger) (w : Write) : Reached s → Reached ((w.run l).on s).2
  | ensure {s : Store} (l : Logger) (n : String) (k : ContainerKind) (f : String) :
      Reached s → Reached ((ensureContainer l n k f).on s).2

theorem Reached.sound {s : Store} (h : Reached s) : s.catalog.Sound := by
  induction h with
  | fresh clock => exact Catalog.Sound.empty
  | tick clock _ ih => exact ih
  | write l w _ ih => exact ih.changes (w.run_changes l ih.shaped)
  | ensure l n k f _ ih => exact ih.changes (ensureContainer_changes l n k f _)

-- Over every store reached by writes and by making containers, the answer of making a container
-- tells what the call did: `true` only when no table had exactly its name, and then exactly the
-- table, the index of its key and the ordering index were added; `false` only when a table had
-- it, and then nothing changed; a failure changed nothing, or, when the ordering index could not
-- be made, added only the new empty table and the index of its key.
theorem ensureContainer_truthful {s : Store} (hs : Reached s) (l : Logger) (n : String)
    (k : ContainerKind) (f : String) :
    (((ensureContainer l n k f).on s).1 = .ok true →
      s.catalog.hasTable n = false ∧ ∃ j, ((ensureContainer l n k f).on s).2.catalog.objects =
        s.catalog.objects ++ [.table (k.table n) ("CREATE TABLE " ++ quoted n),
          .index (keyIndex n) none, .index ⟨n ++ "_by_" ++ f, n, [j], false, false, false⟩
            (some ("CREATE INDEX " ++ quoted (n ++ "_by_" ++ f)))]) ∧
    (((ensureContainer l n k f).on s).1 = .ok false →
      s.catalog.hasTable n = true ∧ ((ensureContainer l n k f).on s).2.catalog = s.catalog) ∧
    (∀ e, ((ensureContainer l n k f).on s).1 = .error e →
      ((ensureContainer l n k f).on s).2.catalog = s.catalog ∨
        (s.catalog.Free n ∧ ¬ (isReservedName (n ++ "_by_" ++ f) = false ∧
          s.catalog.relation? (n ++ "_by_" ++ f) = none) ∧
        ((ensureContainer l n k f).on s).2.catalog = s.catalog.withContainer n k)) := by
  have hc := hs.sound
  rcases ensureContainer_cases l n k f s with ⟨e, he⟩ | ⟨hhas, he⟩ |
      ⟨hf, hfree, hi, -, j, he⟩ | ⟨hfree, hidx, e, he⟩ <;> rw [he.answer, he.catalog]
  · exact ⟨nofun, nofun, fun _ _ => .inl rfl⟩
  · exact ⟨nofun, fun _ => ⟨hhas, rfl⟩, nofun⟩
  · -- the ordering index is new, so it is added after the table and the index of its key
    refine ⟨fun _ => ⟨Catalog.hasTable_eq_false_of_free hfree, j, ?_⟩, nofun, nofun⟩
    rw [Catalog.withIndex, hc.indexed.index?_withContainer hfree hf hi k]
    simp [Catalog.withContainer, Catalog.add]
  · exact ⟨nofun, nofun, fun _ _ => .inr ⟨hfree, hidx, rfl⟩⟩

-- On an empty database, the first container made adds exactly its table, the index of its key
-- and its ordering index.
theorem ensureContainer_fresh_adds_three :
    Reached (Store.fresh 0) ∧ ∃ j,
      ((ensureContainer Logger.root "tg-fromid-42" .messages "message_created_at").on
        (Store.fresh 0)).2.catalog.objects =
      [.table (ContainerKind.messages.table "tg-fromid-42") ("CREATE TABLE " ++ quoted "tg-fromid-42"),
        .index (keyIndex "tg-fromid-42") none,
        .index ⟨"tg-fromid-42" ++ "_by_" ++ "message_created_at", "tg-fromid-42", [j], false, false,
          false⟩ (some ("CREATE INDEX " ++ quoted ("tg-fromid-42" ++ "_by_" ++ "message_created_at")))] := by
  have hfree : Catalog.empty.Free "tg-fromid-42" :=
    ⟨by decide +kernel, fun _ ho => absurd ho List.not_mem_nil⟩
  obtain ⟨j, hmade⟩ : ∃ j, Leaves (ensureContainer Logger.root "tg-fromid-42" .messages
      "message_created_at") (Store.fresh 0) (.ok true)
      ((Catalog.empty.withContainer "tg-fromid-42" .messages).withIndex
        ("tg-fromid-42" ++ "_by_" ++ "message_created_at") "tg-fromid-42" j) :=
    ensureContainer_of_free (by decide +kernel) rfl hfree (by decide +kernel) rfl
  obtain ⟨-, j', hj'⟩ := (ensureContainer_truthful (.fresh 0) Logger.root "tg-fromid-42" .messages
    "message_created_at").1 hmade.answer
  exact ⟨.fresh 0, j', hj'⟩

-- A failure can change the database: after the container `a_by_created_at`, making the container
-- `a` makes its table, then fails on its ordering index, whose name that container has, and the
-- new table stays.
theorem ensureContainer_failure_keeps_table :
    Reached ((ensureContainer Logger.root "a_by_created_at" .sources "created_at").on
      (Store.fresh 0)).2 ∧
    ((ensureContainer Logger.root "a_by_created_at" .sources "created_at").on
      (Store.fresh 0)).2.catalog.hasTable "a" = false ∧
    (∃ e, ((ensureContainer Logger.root "a" .sources "created_at").on
      ((ensureContainer Logger.root "a_by_created_at" .sources "created_at").on
        (Store.fresh 0)).2).1 = .error e) ∧
    ((ensureContainer Logger.root "a" .sources "created_at").on
      ((ensureContainer Logger.root "a_by_created_at" .sources "created_at").on
        (Store.fresh 0)).2).2.catalog.hasTable "a" = true := by
  have hreached := Reached.ensure Logger.root "a_by_created_at" .sources "created_at" (.fresh 0)
  -- the first container and its index are made
  have hfree₀ : Catalog.empty.Free "a_by_created_at" :=
    ⟨by decide +kernel, fun _ ho => absurd ho List.not_mem_nil⟩
  obtain ⟨j, logs, h₁⟩ : ∃ j, Leaves (ensureContainer Logger.root "a_by_created_at" .sources
      "created_at") (Store.fresh 0) (.ok true)
      ((Catalog.empty.withContainer "a_by_created_at" .sources).withIndex
        ("a_by_created_at" ++ "_by_" ++ "created_at") "a_by_created_at" j) :=
    ensureContainer_of_free (by decide +kernel) rfl hfree₀ (by decide +kernel) rfl
  rw [h₁] at hreached ⊢
  dsimp only
  generalize hc₁ : (Catalog.empty.withContainer "a_by_created_at" .sources).withIndex
    ("a_by_created_at" ++ "_by_" ++ "created_at") "a_by_created_at" j = c₁
  -- `a` is free there, but the name of its ordering index is the first container's
  have hfree : c₁.Free "a" := by
    refine ⟨by decide +kernel, fun o ho => ?_⟩
    rw [← hc₁] at ho
    rcases Catalog.mem_withIndex ho with ho | ho
    · simp only [Catalog.withContainer, Catalog.add, Catalog.empty, List.nil_append,
        List.cons_append, List.mem_cons, List.not_mem_nil, or_false] at ho
      rcases ho with rfl | rfl <;> decide +kernel
    · rw [ho]
      decide +kernel
  have htaken : ¬ (isReservedName ("a" ++ "_by_" ++ "created_at") = false ∧
      c₁.relation? ("a" ++ "_by_" ++ "created_at") = none) := by
    rintro ⟨-, hrel⟩
    rw [show "a" ++ "_by_" ++ "created_at" = "a_by_created_at" by decide, ← hc₁,
      Catalog.empty.relation?_made .sources hfree₀] at hrel
    cases hrel
  obtain ⟨e, logs', h₂⟩ : ∃ e, Leaves (ensureContainer Logger.root "a" .sources "created_at")
      { Store.fresh 0 with catalog := c₁, logs := logs } (.error e)
      (c₁.withContainer "a" .sources) :=
    ensureContainer_of_index_taken (by decide +kernel) rfl hfree htaken
  rw [h₂]
  refine ⟨hc₁ ▸ hreached, Catalog.hasTable_eq_false_of_free hfree, ⟨e, rfl⟩, ?_⟩
  exact Catalog.hasTable_iff.mpr ⟨_, _, List.mem_append_left _ (List.mem_append_right _
    (List.mem_singleton_self _)), rfl⟩

end ChatArchive
