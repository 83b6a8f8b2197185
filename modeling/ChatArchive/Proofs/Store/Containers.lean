import Mathlib
import ChatArchive.Proofs.Store.Catalog

namespace ChatArchive

open Sql StoreM

namespace ContainerKind

theorem column?_orderable (k : ContainerKind) (n : String) {f : String}
    (hf : k.orderable.contains f = true) : ∃ j, (k.table n).column? f = some j := by
  have hall : ∀ f ∈ k.orderable, ((k.table "").column? f).isSome = true := by
    cases k <;> decide +kernel
  obtain ⟨j, hj⟩ := Option.isSome_iff_exists.mp (hall f (List.elem_iff.mp hf))
  have hcols : (k.table n).columns = (k.table "").columns := rfl
  exact ⟨j, by rw [Table.column?_congr _ hcols, hj]⟩

end ContainerKind

namespace StoreM

def Leaves {α : Type} (m : StoreM α) (s : Store) (r : Except StorageError α) (c : Catalog) :
    Prop :=
  ∃ logs, m.on s = (r, { s with catalog := c, logs := logs })

section Leaves

variable {α β : Type} {m : StoreM α} {s : Store} {c c' : Catalog}

theorem Leaves.answer {r : Except StorageError α} (h : Leaves m s r c) : (m.on s).1 = r := by
  obtain ⟨logs, h⟩ := h
  rw [h]

theorem Leaves.catalog {r : Except StorageError α} (h : Leaves m s r c) :
    (m.on s).2.catalog = c := by
  obtain ⟨logs, h⟩ := h
  rw [h]

theorem Leaves.bind {f : α → StoreM β} {a : α} {r : Except StorageError β}
    (h : Leaves m s (.ok a) c) (hf : ∀ logs, Leaves (f a) { s with catalog := c, logs := logs } r c') :
    Leaves (m >>= f) s r c' := by
  obtain ⟨logs, hm⟩ := h
  obtain ⟨logs', hf'⟩ := hf logs
  exact ⟨logs', by rw [on_bind, hm]; exact hf'⟩

theorem Leaves.bind_error {f : α → StoreM β} {e : StorageError} (h : Leaves m s (.error e) c) :
    Leaves (m >>= f) s (.error e) c := by
  obtain ⟨logs, hm⟩ := h
  exact ⟨logs, by rw [on_bind, hm]⟩

end Leaves


theorem sameName_indexName (n f : String) : sameName n (n ++ "_by_" ++ f) = false := by
  rw [String.append_assoc]
  exact sameName_append_eq_false n _ (by simp)

section Ensure

variable {l : Logger} {n f : String} {k : ContainerKind} {s : Store}

theorem ensureContainer_of_hasTable (hv : Container.validName n = true)
    (hf : k.orderable.contains f = true) (h : s.catalog.hasTable n = true) :
    Leaves (ensureContainer l n k f) s (.ok false) s.catalog := by
  simp only [Leaves, ensureContainer, hv, hf, Bool.not_true, Bool.false_eq_true, ↓reduceIte,
    on_bind, containerExists_on, h, on_note]
  exact ⟨_, rfl⟩

theorem ensureContainer_of_free (hv : Container.validName n = true)
    (hf : k.orderable.contains f = true) (hfree : s.catalog.Free n)
    (hi : isReservedName (n ++ "_by_" ++ f) = false)
    (hrel : s.catalog.relation? (n ++ "_by_" ++ f) = none) :
    ∃ j, Leaves (ensureContainer l n k f) s (.ok true)
      ((s.catalog.withContainer n k).withIndex (n ++ "_by_" ++ f) n j) := by
  have hno : s.catalog.hasTable n = false := Catalog.hasTable_eq_false_of_free hfree
  obtain ⟨j, hj⟩ := k.column?_orderable n hf
  -- the new container is what its name finds, and the index's name finds what it did before
  have hidx : (execQuery (indexQuery (n ++ "_by_" ++ f) n f) []).on
      { s with catalog := s.catalog.withContainer n k } = (.ok ⟨[], [], 0⟩,
        { s with catalog := (s.catalog.withContainer n k).withIndex (n ++ "_by_" ++ f) n j }) :=
    @indexQuery_on { s with catalog := s.catalog.withContainer n k } (n ++ "_by_" ++ f) n f
      (k.table n) _ j (s.catalog.relation?_withContainer n k hfree) hfree.1 hfree.1 hj hi
      (by rw [Catalog.relation?_withContainer_of_ne _ _ (sameName_indexName n f)]; exact hrel)
  refine ⟨j, ?_⟩
  simp only [Leaves, ensureContainer, hv, hf, Bool.not_true, Bool.false_eq_true, ↓reduceIte,
    on_bind, containerExists_on, hno, on_attempt, createQuery_of_free k hfree, hidx, on_note]
  exact ⟨_, rfl⟩

theorem ensureContainer_sqlite_of_index_taken (hv : Container.validName n = true)
    (hf : k.orderable.contains f = true) (hfree : s.catalog.Free n)
    (h : ¬ (isReservedName (n ++ "_by_" ++ f) = false ∧
      s.catalog.relation? (n ++ "_by_" ++ f) = none)) :
    ∃ e, Leaves (ensureContainer l n k f) s (.error (.sqlite e)) (s.catalog.withContainer n k) := by
  have hno : s.catalog.hasTable n = false := Catalog.hasTable_eq_false_of_free hfree
  obtain ⟨e, he⟩ : ∃ e, (execQuery (indexQuery (n ++ "_by_" ++ f) n f) []).on
      { s with catalog := s.catalog.withContainer n k } =
        (.error (.sqlite e), { s with catalog := s.catalog.withContainer n k }) :=
    indexQuery_of_taken (s.catalog.relation?_withContainer n k hfree) hfree.1 hfree.1
      (by rwa [Catalog.relation?_withContainer_of_ne _ _ (sameName_indexName n f)])
  refine ⟨e, ?_⟩
  simp only [Leaves, ensureContainer, hv, hf, Bool.not_true, Bool.false_eq_true, ↓reduceIte,
    on_bind, containerExists_on, hno, on_attempt, createQuery_of_free k hfree, he]
  exact ⟨_, rfl⟩

theorem ensureContainer_of_index_taken (hv : Container.validName n = true)
    (hf : k.orderable.contains f = true) (hfree : s.catalog.Free n)
    (h : ¬ (isReservedName (n ++ "_by_" ++ f) = false ∧
      s.catalog.relation? (n ++ "_by_" ++ f) = none)) :
    ∃ e, Leaves (ensureContainer l n k f) s (.error e) (s.catalog.withContainer n k) :=
  (ensureContainer_sqlite_of_index_taken hv hf hfree h).imp' StorageError.sqlite fun _ he => he

theorem ensureContainer_of_not_free (hv : Container.validName n = true)
    (hf : k.orderable.contains f = true) (hno : s.catalog.hasTable n = false)
    (h : ¬ s.catalog.Free n) : ∃ e, Leaves (ensureContainer l n k f) s (.error e) s.catalog := by
  obtain ⟨e, he⟩ := createQuery_of_not_free k h
  refine ⟨e, ?_⟩
  simp only [Leaves, ensureContainer, hv, hf, Bool.not_true, Bool.false_eq_true, ↓reduceIte,
    on_bind, containerExists_on, hno, on_attempt, he, on_note]
  exact ⟨_, rfl⟩

theorem ensureContainer_of_invalid_name (hv : Container.validName n = false) :
    ∃ e, Leaves (ensureContainer l n k f) s (.error e) s.catalog :=
  ⟨_, s.logs, by simp only [ensureContainer, hv, Bool.not_false, ↓reduceIte]; rfl⟩

end Ensure

end StoreM

namespace Sql.Catalog

def insertInto (c : Catalog) (t : Table) (ps : List Datum) : Catalog :=
  match (c.indexesOf t.name).find? (collides t.rows (t.rowOf ps).values) with
  | some _ => c
  | none => c.putTable { t with rows := insertRow (t.rowOf ps) t.rows }

theorem Shaped.insertInto {c : Catalog} {t : Table} {sql : String} (hc : c.Shaped)
    (ht : .table t sql ∈ c.objects) (ps : List Datum) : (c.insertInto t ps).Shaped := by
  unfold Catalog.insertInto
  split
  · exact hc
  · exact hc.putTable ht _

end Sql.Catalog

namespace StoreM

section Insert

variable {s : Store} {n uid : String} {k : ContainerKind} {t : Table} {sql : String}
  {ps : List Datum}

def Fills (k : ContainerKind) (ps : List Datum) : Prop :=
  ∀ i < k.columnDefs.length, (ps.getD i .null).isNull = false

theorem fills_of_forall (h : ∀ d ∈ ps, d.isNull = false) (hlen : k.columnDefs.length ≤ ps.length) :
    Fills k ps := by
  intro i hi
  rw [List.getD_eq_getElem _ _ (by omega)]
  exact h _ (List.getElem_mem _)

theorem insertSettle_of_kind (child : Logger) (ht : s.catalog.relation? n = some (.table t sql))
    (hn : isReservedName n = false) (hcols : t.columns = k.tableColumns)
    (hrowid : t.rowidColumn = none) (hps : Fills k ps) :
    Leaves (attempt (execQuery (insertQuery n k) ps) >>= fun r => settle child r uid) s (.ok uid)
      (s.catalog.insertInto t ps) := by
  simp only [Leaves, on_bind, on_attempt, insertQuery_on ht hn hcols hrowid hps,
    Catalog.insertInto]
  cases (s.catalog.indexesOf t.name).find? (collides t.rows (t.rowOf ps).values) with
  | none =>
    simp only [settle, on_bind, on_note]
    exact ⟨_, rfl⟩
  | some idx =>
    -- a collision on a unique index is a duplicate key, which settles as stored
    have hdup : (StorageError.sqlite (.failure (if idx.primary then .primaryKey else .unique)
        (uniqueMessage t idx.columns))).isDuplicateKey = true := by
      split <;> rfl
    simp only [settle, hdup, ↓reduceIte, on_bind, on_note]
    exact ⟨_, rfl⟩

theorem insertSettle_of_other_kind (s : Store) {k' : ContainerKind} (child : Logger)
    (ht : s.catalog.relation? n = some (.table t sql)) (hn : isReservedName n = false)
    (hcols : t.columns = k'.tableColumns) (hk : k' ≠ k) :
    ∃ e, Leaves (attempt (execQuery (insertQuery n k) ps) >>= fun r => settle child r uid) s
      (.error e) s.catalog := by
  obtain ⟨e, he, hdup⟩ := insertQuery_of_other_kind ps ht hn hcols hk
  refine ⟨e, ?_⟩
  simp only [Leaves, on_bind, on_attempt, he, settle, hdup, Bool.false_eq_true, ↓reduceIte,
    on_note]
  exact ⟨_, rfl⟩

end Insert

end StoreM

namespace Sql.Catalog

def Accepts (c : Catalog) (n : String) (k : ContainerKind) (f : String) : Prop :=
  (∃ t sql, .table t sql ∈ c.objects ∧ t.name = n ∧ t.columns = k.tableColumns) ∨
    (c.Free n ∧ isReservedName (n ++ "_by_" ++ f) = false ∧ c.relation? (n ++ "_by_" ++ f) = none)

end Sql.Catalog

namespace StoreM

section Put

variable {l child : Logger} {n f uid : String} {k : ContainerKind} {s : Store}
  {values : Int → List Datum}

theorem putRecord_of_ensure {b : Bool} {c c' : Catalog} {logs : List LogRecord}
    {r : Except StorageError String}
    (he : (ensureContainer l n k f).on s = (.ok b, { s with catalog := c, logs := logs }))
    (hi : Leaves (attempt (execQuery (insertQuery n k) (values s.clock)) >>=
      fun r => settle child r uid) { s with catalog := c, logs := logs } r c') :
    Leaves (putRecord l child n k f uid values) s r c' := by
  obtain ⟨logs', hi⟩ := hi
  refine ⟨logs', ?_⟩
  -- after the container, the clock is read and the record inserted
  rw [putRecord, on_bind, he]
  dsimp only
  rw [on_bind, on_get]
  exact hi

theorem putRecord_of_ensure_error {e : StorageError} {c : Catalog}
    (he : Leaves (ensureContainer l n k f) s (.error e) c) :
    Leaves (putRecord l child n k f uid values) s (.error e) c :=
  Leaves.bind_error he

theorem putRecord_of_hasContainer (l child : Logger) (uid : String) (hc : s.catalog.Shaped)
    (hv : Container.validName n = true) (hf : k.orderable.contains f = true)
    (hps : ∀ now, Fills k (values now)) {t : Table} {sql : String}
    (ht : .table t sql ∈ s.catalog.objects) (hn : t.name = n) (hcols : t.columns = k.tableColumns) :
    Leaves (putRecord l child n k f uid values) s (.ok uid)
      (s.catalog.insertInto t (values s.clock)) := by
  subst hn
  obtain ⟨hrowid, hreserved, -⟩ := hc.tables t sql ht
  have hens : Leaves (ensureContainer l t.name k f) s (.ok false) s.catalog :=
    ensureContainer_of_hasTable hv hf (Catalog.hasTable_iff.mpr ⟨t, sql, ht, rfl⟩)
  obtain ⟨logs, hL⟩ := hens
  exact putRecord_of_ensure hL (insertSettle_of_kind child (hc.relation?_of_mem ht) hreserved
    hcols hrowid (hps s.clock))

theorem putRecord_of_free (l child : Logger) (uid : String) (hv : Container.validName n = true)
    (hf : k.orderable.contains f = true) (hps : ∀ now, Fills k (values now))
    (hfree : s.catalog.Free n) (hi : isReservedName (n ++ "_by_" ++ f) = false)
    (hrel : s.catalog.relation? (n ++ "_by_" ++ f) = none) :
    ∃ j, Leaves (putRecord l child n k f uid values) s (.ok uid)
      (((s.catalog.withContainer n k).withIndex (n ++ "_by_" ++ f) n j).insertInto (k.table n)
        (values s.clock)) := by
  obtain ⟨j, hens⟩ : ∃ j, Leaves (ensureContainer l n k f) s (.ok true)
      ((s.catalog.withContainer n k).withIndex (n ++ "_by_" ++ f) n j) :=
    ensureContainer_of_free hv hf hfree hi hrel
  obtain ⟨logs, hL⟩ := hens
  exact ⟨j, putRecord_of_ensure hL (insertSettle_of_kind child
    (s.catalog.relation?_made k hfree _ j) hfree.1 rfl rfl (hps s.clock))⟩

theorem putRecord_of_accepts (l child : Logger) (uid : String) (hc : s.catalog.Shaped)
    (hv : Container.validName n = true) (hf : k.orderable.contains f = true)
    (hps : ∀ now, Fills k (values now)) (h : s.catalog.Accepts n k f) :
    ∃ c', Leaves (putRecord l child n k f uid values) s (.ok uid) c' ∧ c'.Shaped := by
  rcases h with ⟨t, sql, ht, hn, hcols⟩ | ⟨hfree, hi, hrel⟩
  · -- the container is there, and the record goes into it
    exact ⟨_, putRecord_of_hasContainer l child uid hc hv hf hps ht hn hcols, hc.insertInto ht _⟩
  · -- the container and its index are made, and the record goes into the new container
    obtain ⟨j, hput⟩ := putRecord_of_free l child uid hv hf hps hfree hi hrel
    have hc1 : ((s.catalog.withContainer n k).withIndex (n ++ "_by_" ++ f) n j).Shaped :=
      (hc.withContainer k hfree).withIndex n j hi
        (by rw [Catalog.relation?_withContainer_of_ne _ _ (sameName_indexName n f)]; exact hrel)
    exact ⟨_, hput, hc1.insertInto (List.mem_of_find?_eq_some
      (s.catalog.relation?_made k hfree _ j)) _⟩

theorem putRecord_of_refused (l child : Logger) (uid : String) (values : Int → List Datum)
    (hc : s.catalog.Shaped) (hv : Container.validName n = true)
    (hf : k.orderable.contains f = true) (h : ¬ s.catalog.Accepts n k f) :
    ∃ e c', Leaves (putRecord l child n k f uid values) s (.error e) c' ∧ c'.Shaped := by
  cases hhas : s.catalog.hasTable n
  · by_cases hfree : s.catalog.Free n
    · -- the container is made, but not its index
      have hidx : ¬ (isReservedName (n ++ "_by_" ++ f) = false ∧
          s.catalog.relation? (n ++ "_by_" ++ f) = none) := fun hidx => h (.inr ⟨hfree, hidx⟩)
      obtain ⟨e, he⟩ : ∃ e, Leaves (ensureContainer l n k f) s (.error e)
          (s.catalog.withContainer n k) := ensureContainer_of_index_taken hv hf hfree hidx
      exact ⟨e, _, putRecord_of_ensure_error he, hc.withContainer k hfree⟩
    · -- another object has the name, or the name is kept
      obtain ⟨e, he⟩ : ∃ e, Leaves (ensureContainer l n k f) s (.error e) s.catalog :=
        ensureContainer_of_not_free hv hf hhas hfree
      exact ⟨e, _, putRecord_of_ensure_error he, hc⟩
  · -- a container of exactly the name is there, of the other kind
    obtain ⟨t, sql, ht, rfl⟩ := Catalog.hasTable_iff.mp hhas
    obtain ⟨-, hreserved, k', hcols⟩ := hc.tables t sql ht
    have hk : k' ≠ k := by
      rintro rfl
      exact h (.inl ⟨t, sql, ht, rfl, hcols⟩)
    have hens : Leaves (ensureContainer l t.name k f) s (.ok false) s.catalog :=
      ensureContainer_of_hasTable hv hf hhas
    obtain ⟨logs, hL⟩ := hens
    obtain ⟨e, hins⟩ := insertSettle_of_other_kind { s with logs := logs } child
      (hc.relation?_of_mem ht) hreserved hcols hk
    exact ⟨e, _, putRecord_of_ensure hL hins, hc⟩

end Put

end StoreM

inductive Write where
  | source (s : Source)
  | message (source : Source) (m : Message)

namespace Write

open StoreM

def run (l : Logger) : Write → StoreM String
  | .source s => writeSource l s
  | .message s m => writeMessage l s m

def container : Write → String
  | .source _ => sourcesContainer
  | .message s _ => Container.nameFor s.uid

def kind : Write → ContainerKind
  | .source _ => .sources
  | .message _ _ => .messages

def field : Write → String
  | .source _ => "created_at"
  | .message _ _ => "message_created_at"

def uid : Write → String
  | .source s => s.uid
  | .message _ m => m.uid

def Valid : Write → Prop
  | .source s => s.flags.isInvalid = false ∧ s.uid.isEmpty = false
  | .message s m => s.flags.isInvalid = false ∧ m.flags.isInvalid = false ∧
      m.uid.isEmpty = false ∧ m.sourceUid = s.uid

theorem orderable_field (w : Write) : w.kind.orderable.contains w.field = true := by
  cases w <;> rfl

def values : Write → Int → List Datum
  | .source s => sourceRow s
  | .message _ m => messageRow m

theorem fills_values (w : Write) (now : Int) : Fills w.kind (w.values now) := by
  cases w with
  | source src => exact fills_of_forall (by simp [values, sourceRow, Datum.isNull]) (Nat.le_of_eq rfl)
  | message src m =>
    exact fills_of_forall (by simp [values, messageRow, Datum.isNull]) (Nat.le_of_eq rfl)

theorem run_eq_putRecord (l : Logger) {w : Write} (h : w.Valid) :
    ∃ child, w.run l = putRecord l child w.container w.kind w.field w.uid w.values := by
  cases w with
  | source src =>
    obtain ⟨hflags, huid⟩ := h
    refine ⟨l.derive "save-source" [("collection", sourcesContainer), ("source_uid", src.uid)], ?_⟩
    simp only [run, writeSource, hflags, huid, Bool.or_false, Bool.false_eq_true, ↓reduceIte]
    rfl
  | message src m =>
    obtain ⟨hsrc, hflags, huid, hsame⟩ := h
    refine ⟨l.derive "save-message" [("collection", Container.nameFor src.uid),
      ("message_uid", m.uid)], ?_⟩
    simp only [run, writeMessage, hsrc, hflags, huid, hsame, bne_self_eq_false, Bool.or_false,
      Bool.false_eq_true, ↓reduceIte]
    rfl

theorem run_of_not_valid (l : Logger) {w : Write} (h : ¬ w.Valid) :
    ∃ e, ∀ s, Leaves (w.run l) s (.error e) s.catalog := by
  cases w with
  | source src =>
    have hcond : (src.flags.isInvalid || src.uid.isEmpty) = true := by
      simp only [Valid, not_and] at h
      cases h1 : src.flags.isInvalid <;> simp_all
    exact ⟨_, fun s => ⟨s.logs, by simp only [run, writeSource, hcond, ↓reduceIte]; rfl⟩⟩
  | message src m =>
    by_cases h1 : (src.flags.isInvalid || m.flags.isInvalid || m.uid.isEmpty) = true
    · exact ⟨_, fun s => ⟨s.logs, by simp only [run, writeMessage, h1, ↓reduceIte]; rfl⟩⟩
    · have h2 : (m.sourceUid != src.uid) = true := by
        simp only [Bool.or_eq_true, not_or, Bool.not_eq_true] at h1
        simp only [Valid, h1, true_and] at h
        simpa using h
      refine ⟨.invalidRecord (m.uid ++ " does not belong to " ++ src.uid), fun s => ⟨s.logs, ?_⟩⟩
      simp only [run, writeMessage, h1, h2, Bool.false_eq_true, ↓reduceIte]
      rfl

theorem shaped_run (w : Write) (l : Logger) {s : Store} (hc : s.catalog.Shaped) :
    ((w.run l).on s).2.catalog.Shaped := by
  by_cases hv : w.Valid
  · obtain ⟨child, hrun⟩ := w.run_eq_putRecord l hv
    rw [hrun]
    cases hn : Container.validName w.container
    · obtain ⟨e, he⟩ : ∃ e, Leaves (ensureContainer l w.container w.kind w.field) s (.error e)
          s.catalog := ensureContainer_of_invalid_name hn
      have hput : Leaves (putRecord l child w.container w.kind w.field w.uid w.values) s (.error e)
          s.catalog := putRecord_of_ensure_error he
      rw [hput.catalog]
      exact hc
    · by_cases hacc : s.catalog.Accepts w.container w.kind w.field
      · obtain ⟨c', hput, hc'⟩ :=
          putRecord_of_accepts l child w.uid hc hn w.orderable_field w.fills_values hacc
        rw [hput.catalog]
        exact hc'
      · obtain ⟨e, c', hput, hc'⟩ :=
          putRecord_of_refused l child w.uid w.values hc hn w.orderable_field hacc
        rw [hput.catalog]
        exact hc'
  · obtain ⟨e, he⟩ := run_of_not_valid l hv
    rw [(he s).catalog]
    exact hc

end Write

inductive Written : Store → Prop
  | fresh (clock : Int) : Written (Store.fresh clock)
  | tick {s : Store} (clock : Int) : Written s → Written { s with clock := clock }
  | write {s : Store} (l : Logger) (w : Write) : Written s → Written ((w.run l).on s).2

theorem Written.shaped {s : Store} (h : Written s) : s.catalog.Shaped := by
  induction h with
  | fresh clock => exact Catalog.Shaped.empty
  | tick clock _ ih => exact ih
  | write l w _ ih => exact w.shaped_run l ih

-- Over every store the writes reach, a write whose record passes its checks and whose container
-- name is valid answers the record's key when the database accepts it, and fails otherwise.
theorem write_ok_exactly_when_accepted {s : Store} (hs : Written s) (l : Logger) {w : Write}
    (hv : w.Valid) (hn : Container.validName w.container = true) :
    (s.catalog.Accepts w.container w.kind w.field → ((w.run l).on s).1 = .ok w.uid) ∧
      (¬ s.catalog.Accepts w.container w.kind w.field → ∃ e, ((w.run l).on s).1 = .error e) := by
  have hc := hs.shaped
  obtain ⟨child, hrun⟩ := w.run_eq_putRecord l hv
  rw [hrun]
  constructor
  · intro hacc
    obtain ⟨c', hput, -⟩ :=
      putRecord_of_accepts l child w.uid hc hn w.orderable_field w.fills_values hacc
    exact hput.answer
  · intro hacc
    obtain ⟨e, c', hput, -⟩ :=
      putRecord_of_refused l child w.uid w.values hc hn w.orderable_field hacc
    exact ⟨e, hput.answer⟩

-- The first message of a conversation, written to a fresh store, is accepted and answered with
-- its key.
theorem first_message_accepted :
    Written (Store.fresh 0) ∧
      (Write.message ⟨⟨0⟩, "a-fromid-1", "t", 1⟩
        ⟨⟨0⟩, ⟨0, 0⟩, "a-fromid-1", "a-fromid-1-1", "x", []⟩).Valid ∧
      Container.validName "a-fromid-1" = true ∧
      (((Write.message ⟨⟨0⟩, "a-fromid-1", "t", 1⟩
        ⟨⟨0⟩, ⟨0, 0⟩, "a-fromid-1", "a-fromid-1-1", "x", []⟩).run Logger.root).on
          (Store.fresh 0)).1 = .ok "a-fromid-1-1" := by
  have hv : (Write.message ⟨⟨0⟩, "a-fromid-1", "t", 1⟩
      ⟨⟨0⟩, ⟨0, 0⟩, "a-fromid-1", "a-fromid-1-1", "x", []⟩).Valid :=
    ⟨by decide, by decide, by decide, rfl⟩
  have hname : Container.nameFor "a-fromid-1" = "a-fromid-1" := by decide +kernel
  have hn : Container.validName "a-fromid-1" = true := by decide +kernel
  -- the empty database accepts any name that is not kept, with its index
  have hacc : Catalog.empty.Accepts "a-fromid-1" .messages "message_created_at" :=
    .inr ⟨⟨by decide +kernel, fun _ ho => absurd ho List.not_mem_nil⟩, by decide +kernel, rfl⟩
  refine ⟨.fresh 0, hv, hn, ?_⟩
  have h := write_ok_exactly_when_accepted (.fresh 0) Logger.root hv
    (by show Container.validName (Container.nameFor "a-fromid-1") = true; rw [hname]; exact hn)
  exact h.1 (by show Catalog.empty.Accepts (Container.nameFor "a-fromid-1") _ _; rw [hname]; exact hacc)

end ChatArchive
