import Mathlib
import ChatArchive.Proofs.Ingest.Archive

namespace ChatArchive

open Sql StoreM

structure Call where
  logger : Logger
  write : Write
  clock : Int

namespace Call

def run (c : Call) (s : Store) : Except StorageError String × Store :=
  (c.write.run c.logger).on { s with clock := c.clock }

def runAll (s : Store) (calls : List Call) : List (Except StorageError String) × Store :=
  calls.foldl (fun acc c => (acc.1 ++ [(c.run acc.2).1], (c.run acc.2).2)) ([], s)

def keep (kept : List (Write × Int)) (c : Call) (r : Except StorageError String) :
    List (Write × Int) :=
  if r.isOk && !Write.keptIn (kept.map Prod.fst) c.write then kept ++ [(c.write, c.clock)]
  else kept

def firstAccepted (steps : List (Call × Except StorageError String)) : List (Write × Int) :=
  steps.foldl (fun kept x => keep kept x.1 x.2) []

theorem runAll_concat (s : Store) (calls : List Call) (c : Call) :
    runAll s (calls ++ [c]) =
      ((runAll s calls).1 ++ [(c.run (runAll s calls).2).1], (c.run (runAll s calls).2).2) := by
  simp only [runAll, List.foldl_append, List.foldl_cons, List.foldl_nil]

theorem length_runAll (s : Store) (calls : List Call) :
    (runAll s calls).1.length = calls.length := by
  induction calls using List.reverseRecOn with
  | nil => rfl
  | append_singleton calls c ih => simp [runAll_concat, ih]

theorem zip_runAll_concat (s : Store) (calls : List Call) (c : Call) :
    (calls ++ [c]).zip (runAll s (calls ++ [c])).1 =
      calls.zip (runAll s calls).1 ++ [(c, (c.run (runAll s calls).2).1)] := by
  rw [runAll_concat, List.zip_append (length_runAll s calls).symm]
  rfl

theorem firstAccepted_concat (steps : List (Call × Except StorageError String))
    (x : Call × Except StorageError String) :
    firstAccepted (steps ++ [x]) = keep (firstAccepted steps) x.1 x.2 := by
  simp only [firstAccepted, List.foldl_append, List.foldl_cons, List.foldl_nil]

end Call

theorem Write.keptIn_map_fst (kept : List (Write × Int)) (w : Write) :
    keptIn (kept.map Prod.fst) w = true ↔
      w.uid ∈ (kept.filter (·.1.container == w.container)).map (·.1.uid) := by
  rw [keptIn_iff, inContainer, List.filter_map, List.map_map]
  rfl

namespace Call

theorem nodup_firstAccepted (steps : List (Call × Except StorageError String)) (n : String) :
    (((firstAccepted steps).filter (·.1.container == n)).map (·.1.uid)).Nodup := by
  induction steps using List.reverseRecOn with
  | nil => exact List.nodup_nil
  | append_singleton steps x ih =>
    rw [firstAccepted_concat, keep]
    split
    · next hnew =>
      rw [Bool.and_eq_true, Bool.not_eq_true', ← Bool.not_eq_true, Write.keptIn_map_fst] at hnew
      rw [List.filter_append, List.map_append, List.nodup_append]
      refine ⟨ih, ?_, ?_⟩
      · by_cases hn : x.1.write.container = n <;> simp [hn]
      · -- the new key is not among those kept for its container
        intro a ha b hb
        by_cases hn : x.1.write.container = n
        · subst hn
          simp only [beq_self_eq_true, List.filter_cons_of_pos, List.filter_nil, List.map_cons,
            List.map_nil, List.mem_singleton] at hb
          rintro rfl
          exact hnew.2 (hb ▸ ha)
        · simp [hn] at hb
    · exact ih

theorem mem_firstAccepted {steps : List (Call × Except StorageError String)}
    (hok : ∀ x ∈ steps, ∀ v, x.2 = .ok v → v = x.1.write.uid) (n u : String) :
    u ∈ ((firstAccepted steps).filter (·.1.container == n)).map (·.1.uid) ↔
      ∃ x ∈ steps, x.1.write.container = n ∧ x.2 = .ok u := by
  induction steps using List.reverseRecOn with
  | nil => simp [firstAccepted]
  | append_singleton steps x ih =>
    obtain ⟨c, r⟩ := x
    have ih := ih fun y hy => hok y (List.mem_append_left _ hy)
    have hsplit : (∃ y ∈ steps ++ [(c, r)], y.1.write.container = n ∧ y.2 = .ok u) ↔
        (∃ y ∈ steps, y.1.write.container = n ∧ y.2 = .ok u) ∨
          (c.write.container = n ∧ r = .ok u) := by
      simp only [List.mem_append, List.mem_singleton, or_and_right, exists_or, exists_eq_left]
    rw [hsplit, ← ih, firstAccepted_concat]
    cases r with
    | error e => simp [keep, Except.isOk, Except.toBool]
    | ok v =>
      obtain rfl : v = c.write.uid := hok (c, .ok v) (by simp) v rfl
      cases hk : Write.keptIn ((firstAccepted steps).map Prod.fst) c.write
      · -- a new key: the call is kept
        simp only [keep, hk, Except.isOk, Except.toBool, Bool.not_false, Bool.and_self,
          ↓reduceIte, List.filter_append, List.map_append, List.mem_append, Except.ok.injEq]
        by_cases hn : c.write.container = n
        · simp [hn, @eq_comm _ u]
        · simp [hn]
      · -- a key kept already for its container: nothing is added
        simp only [keep, hk, Bool.not_true, Bool.and_false, Bool.false_eq_true, ↓reduceIte,
          Except.ok.injEq]
        rw [Write.keptIn_map_fst] at hk
        refine ⟨.inl, fun h => h.elim id ?_⟩
        rintro ⟨rfl, rfl⟩
        exact hk

end Call

def StorageError.IsRefusal : StorageError → Prop
  | .invalidRecord _ => True
  | .invalidContainerName _ => True
  | .unknownOrderingField _ _ => True
  | _ => False

namespace Write

variable {w : Write} {s : Store}

theorem eq_uid_of_ok (l : Logger) (hc : s.catalog.Shaped) {x : String}
    (h : ((w.run l).on s).1 = .ok x) : x = w.uid := by
  obtain ⟨r, c, hL, -, hx⟩ := w.leaves_shaped l hc
  rw [hL.answer] at h
  exact hx x h

theorem validName_of_ok (l : Logger) {x : String} (h : ((w.run l).on s).1 = .ok x) :
    Container.validName w.container = true := by
  by_cases hv : w.Valid
  · cases hn : Container.validName w.container
    · obtain ⟨e, he⟩ := run_of_invalid_name l (s := s) hv hn
      rw [he.answer] at h
      cases h
    · rfl
  · obtain ⟨e, he⟩ := run_of_not_valid l hv
    rw [(he s).answer] at h
    cases h

theorem catalog_of_refusal (l : Logger) (hc : s.catalog.Shaped) {e : StorageError}
    (he : ((w.run l).on s).1 = .error e) (hr : e.IsRefusal) :
    ((w.run l).on s).2.catalog = s.catalog := by
  rcases w.run_cases l s hc with ⟨e', h⟩ | ⟨-, f, h⟩ | ⟨t, sql, -, -, -, h⟩ |
    ⟨-, -, -, j, h⟩
  · exact h.catalog
  · rw [h.answer, Except.error.injEq] at he
    subst he
    exact absurd hr id
  · rw [h.answer] at he
    cases he
  · rw [h.answer] at he
    cases he

theorem run_fresh (l : Logger) (hv : w.Valid) (hn : Container.validName w.container = true)
    (hr : isReservedName w.container = false)
    (hi : isReservedName (w.container ++ "_by_" ++ w.field) = false) (clock : Int) :
    ((w.run l).on (Store.fresh clock)).1 = .ok w.uid := by
  obtain ⟨child, hrun⟩ := w.run_eq_putRecord l hv
  obtain ⟨j, hput⟩ := putRecord_of_free l child w.uid hn w.orderable_field w.fills_values
    (s := Store.fresh clock) ⟨hr, fun _ h => absurd h List.not_mem_nil⟩ hi rfl
  rw [hrun]
  exact hput.answer

end Write

def ContainerKind.forName (n : String) : ContainerKind :=
  if n = sourcesContainer then .sources else .messages

def Write.KeepsApart : Write → Prop
  | .source _ => True
  | .message s _ => Container.nameFor s.uid ≠ sourcesContainer

theorem Write.KeepsApart.kind_eq {w : Write} (h : w.KeepsApart) {n : String}
    (hn : w.container = n) : w.kind = ContainerKind.forName n := by
  subst hn
  cases w with
  | source src => simp [ContainerKind.forName, container, kind]
  | message src m =>
    have h : Container.nameFor src.uid ≠ sourcesContainer := h
    simp [ContainerKind.forName, container, kind, h]

namespace Sql.Catalog

structure KeepsFirst (c : Catalog) (kept : List (Write × Int)) : Prop where
  tracks : ∀ n, c.Tracks n (ContainerKind.forName n) (kept.filter (·.1.container == n))
  validName : ∀ x ∈ kept, Container.validName x.1.container = true

theorem KeepsFirst.empty : Catalog.empty.KeepsFirst [] where
  tracks _ := Tracks.empty
  validName _ h := absurd h List.not_mem_nil

theorem Holding.holds {c : Catalog} {n : String} {rows : List Row} (h : c.Holding n rows)
    {r : Row} (hr : r ∈ rows) : c.Holds n r := by
  cases hhas : c.hasTable n
  · rw [h.2 hhas] at hr
    cases hr
  · obtain ⟨t, sql, ht, htn⟩ := Catalog.hasTable_iff.mp hhas
    exact ⟨t, sql, ht, htn, (h.1 t sql ht htn) ▸ hr⟩

end Sql.Catalog

namespace Call

theorem keepsFirst_run {s : Store} {kept : List (Write × Int)} (h : s.catalog.KeepsFirst kept)
    (c : Call) (hc : c.write.KeepsApart) :
    (c.run s).2.catalog.KeepsFirst (keep kept c (c.run s).1) := by
  -- the write runs on the store whose clock reads the call's time, with the same database
  have hkf : ({ s with clock := c.clock } : Store).catalog.KeepsFirst kept := h
  have hrun n := Write.tracks_run (hkf.tracks n) c.logger c.write fun hn => hc.kind_eq hn
  unfold run keep
  cases hr : ((c.write.run c.logger).on { s with clock := c.clock }).1 with
  | error e =>
    simp only [Except.isOk, Except.toBool, Bool.false_and, Bool.false_eq_true, ↓reduceIte]
    refine ⟨fun n => (hrun n).2 fun hnew => ?_, h.validName⟩
    rw [hr] at hnew
    cases hnew.2.1
  | ok x =>
    obtain rfl : x = c.write.uid := Write.eq_uid_of_ok c.logger (hkf.tracks "").shaped hr
    cases hk : Write.keptIn (kept.map Prod.fst) c.write
    · -- a new key: the write joins the kept ones of its container
      simp only [Except.isOk, Except.toBool, Bool.not_false, Bool.and_self, ↓reduceIte]
      refine ⟨fun n => ?_, fun y hy => ?_⟩
      · rw [List.filter_append]
        by_cases hn : c.write.container = n
        · subst hn
          have hnew :
              c.write.uid ∉ (kept.filter (·.1.container == c.write.container)).map (·.1.uid) :=
            fun hmem => by rw [← Write.keptIn_map_fst, hk] at hmem; cases hmem
          simpa using (hrun c.write.container).1 ⟨rfl, hr, hnew⟩
        · simpa [hn] using (hrun n).2 fun hnew => hn hnew.1
      · rcases List.mem_append.mp hy with hy | hy
        · exact h.validName y hy
        · rw [List.mem_singleton.mp hy]
          exact Write.validName_of_ok c.logger hr
    · -- a key kept already: nothing joins
      simp only [Except.isOk, Except.toBool, Bool.not_true, Bool.and_false, Bool.false_eq_true,
        ↓reduceIte]
      refine ⟨fun n => (hrun n).2 ?_, h.validName⟩
      rintro ⟨rfl, -, hnew⟩
      rw [Write.keptIn_map_fst] at hk
      exact hnew hk

theorem keepsFirst_runAll (clock : Int) (calls : List Call)
    (hcalls : ∀ c ∈ calls, c.write.KeepsApart) :
    (runAll (Store.fresh clock) calls).2.catalog.KeepsFirst
      (firstAccepted (calls.zip (runAll (Store.fresh clock) calls).1)) := by
  induction calls using List.reverseRecOn with
  | nil => exact Catalog.KeepsFirst.empty
  | append_singleton calls c ih =>
    have ih := ih fun d hd => hcalls d (List.mem_append_left _ hd)
    rw [zip_runAll_concat, firstAccepted_concat, runAll_concat]
    exact keepsFirst_run ih c (hcalls c (by simp))

section Answers

variable (c : Call) {s : Store} (hc : s.catalog.Shaped)
include hc

theorem eq_uid_of_ok {x : String} (h : (c.run s).1 = .ok x) : x = c.write.uid :=
  Write.eq_uid_of_ok c.logger (s := { s with clock := c.clock }) hc h

theorem catalog_of_refusal {e : StorageError} (he : (c.run s).1 = .error e) (hr : e.IsRefusal) :
    (c.run s).2.catalog = s.catalog :=
  Write.catalog_of_refusal c.logger (s := { s with clock := c.clock }) hc he hr

end Answers

theorem written_runAll {s : Store} (hs : Written s) (calls : List Call) :
    Written (runAll s calls).2 := by
  induction calls using List.reverseRecOn with
  | nil => exact hs
  | append_singleton calls c ih =>
    rw [runAll_concat]
    exact .write c.logger c.write (.tick c.clock ih)

theorem eq_uid_of_mem_runAll {s : Store} (hs : Written s) (calls : List Call) :
    ∀ x ∈ calls.zip (runAll s calls).1, ∀ v, x.2 = .ok v → v = x.1.write.uid := by
  induction calls using List.reverseRecOn with
  | nil => exact fun _ h => absurd h List.not_mem_nil
  | append_singleton calls c ih =>
    rw [zip_runAll_concat]
    intro x hx v hv
    rcases List.mem_append.mp hx with hx | hx
    · exact ih x hx v hv
    · rw [List.mem_singleton.mp hx] at hv ⊢
      exact c.eq_uid_of_ok (written_runAll hs calls).shaped hv

end Call

namespace Write

variable {rows : List Row} {ws : List (Write × Int)}

theorem keys_of_values (h : rows.map Row.values = ws.map fun x => x.1.values x.2) :
    rows.map Row.key = ws.map fun x => some (.text x.1.uid) := by
  calc rows.map Row.key = (rows.map Row.values).map List.head? := by rw [List.map_map]; rfl
    _ = ws.map fun x => some (.text x.1.uid) := by
      simp only [h, List.map_map, Function.comp_def, head?_values]

theorem mem_keys_iff (h : rows.map Row.values = ws.map fun x => x.1.values x.2) (u : String) :
    (∃ r ∈ rows, r.key = some (.text u)) ↔ u ∈ ws.map (·.1.uid) := by
  rw [← List.mem_map, keys_of_values h]
  simp

end Write

namespace Call

-- Over every run from an empty database in which no message goes to the sources' container: in
-- the container of each name, the rows are those of the first write answered for each key there,
-- each with that write's columns and snapshot at its time, in the order they came, so one row for
-- each key ever answered there and no other. After such a run, a call is answered only with its
-- record's key; a write that passes its checks, keeps messages apart and whose key its container
-- holds already answers that key and changes nothing; a write refused by its own checks changes
-- nothing.
theorem runAll_keeps_first_writes (clock : Int) (calls : List Call)
    (hcalls : ∀ c ∈ calls, c.write.KeepsApart) :
    let run := runAll (Store.fresh clock) calls
    let kept := firstAccepted (calls.zip run.1)
    (∀ n, ∃ rows, run.2.catalog.Holding n rows ∧
      rows.map Row.values = (kept.filter (·.1.container == n)).map (fun x => x.1.values x.2) ∧
      (rows.map Row.key).Nodup ∧
      ∀ u, (∃ r ∈ rows, r.key = some (.text u)) ↔
        ∃ x ∈ calls.zip run.1, x.1.write.container = n ∧ x.2 = .ok u) ∧
    ∀ c : Call,
      (∀ x, (c.run run.2).1 = .ok x → x = c.write.uid) ∧
      (c.write.KeepsApart → c.write.Valid →
        (∃ row, run.2.catalog.Holds c.write.container row ∧
          row.key = some (.text c.write.uid)) →
        (c.run run.2).1 = .ok c.write.uid ∧ (c.run run.2).2.catalog = run.2.catalog) ∧
      (∀ e, (c.run run.2).1 = .error e → e.IsRefusal →
        (c.run run.2).2.catalog = run.2.catalog) := by
  intro run kept
  have hkf : run.2.catalog.KeepsFirst kept := keepsFirst_runAll clock calls hcalls
  have hsh : run.2.catalog.Shaped := (hkf.tracks "").shaped
  refine ⟨fun n => ?_, fun c => ⟨fun x hx => c.eq_uid_of_ok hsh hx, fun hc hv hrow => ?_,
    fun e he hr => c.catalog_of_refusal hsh he hr⟩⟩
  · obtain ⟨rows, hh, hvals⟩ := (hkf.tracks n).rows
    refine ⟨rows, hh, hvals, ?_, fun u => ?_⟩
    · -- the keys of the rows are those of the writes kept for the container, which are distinct
      have hnd := (nodup_firstAccepted (calls.zip run.1) n).map (f := fun u => some (Datum.text u))
        fun a b hab => by simpa using hab
      rw [List.map_map] at hnd
      rw [Write.keys_of_values hvals]
      exact hnd
    · rw [Write.mem_keys_iff hvals, mem_firstAccepted (eq_uid_of_mem_runAll (.fresh clock) calls)]
  · -- the row of the key is that of a write kept for the container, whose name is valid
    obtain ⟨row, ⟨t, sql, ht, htn, hr⟩, hkey⟩ := hrow
    obtain ⟨x, hx, -⟩ := (hkf.tracks c.write.container).key_of_mem ht htn hr
    rw [List.mem_filter, beq_iff_eq] at hx
    have hn : Container.validName c.write.container = true := hx.2 ▸ hkf.validName x hx.1
    have htr : run.2.catalog.Tracks c.write.container c.write.kind _ :=
      hc.kind_eq rfl ▸ hkf.tracks c.write.container
    have hL := Write.run_of_stored c.logger (s := { run.2 with clock := c.clock }) htr.shaped
      htr.keyed hn hv ht htn (htr.kind t sql ht htn) hr hkey
    exact ⟨hL.answer, hL.catalog⟩

-- A source written again under a new title, after its first write to an empty database, is
-- answered with its key and changes nothing.
theorem source_rewrite_changes_nothing :
    let first : Call := ⟨Logger.root, .source ⟨⟨7⟩, "tg-fromid-42", "News", 42⟩, 0⟩
    let again : Call := ⟨Logger.root, .source ⟨⟨7⟩, "tg-fromid-42", "Renamed", 42⟩, 5⟩
    (∀ c ∈ [first], c.write.KeepsApart) ∧
    (again.run (runAll (Store.fresh 0) [first]).2).1 = .ok "tg-fromid-42" ∧
    (again.run (runAll (Store.fresh 0) [first]).2).2.catalog =
      (runAll (Store.fresh 0) [first]).2.catalog := by
  intro first again
  have happ : ∀ c ∈ [first], c.write.KeepsApart := by
    simp [first, Write.KeepsApart]
  obtain ⟨hrows, hnext⟩ := runAll_keeps_first_writes 0 [first] happ
  -- the first write makes the sources' container and is stored there
  have hfirst : (first.run (Store.fresh 0)).1 = .ok "tg-fromid-42" :=
    Write.run_fresh (w := .source ⟨⟨7⟩, "tg-fromid-42", "News", 42⟩) Logger.root
      ⟨by decide, by decide⟩ (by decide +kernel) (by decide +kernel) (by decide +kernel) 0
  obtain ⟨rows, hh, -, -, hmem⟩ := hrows sourcesContainer
  obtain ⟨row, hrow, hkey⟩ :=
    (hmem "tg-fromid-42").mpr ⟨_, List.mem_singleton_self _, rfl, hfirst⟩
  exact ⟨happ, (hnext again).2.1 trivial ⟨by decide, by decide⟩ ⟨row, hh.holds hrow, hkey⟩⟩

end Call

theorem message_into_sources :
    (((Write.message ⟨⟨7⟩, "tgv1-sources", "t", 0⟩
      ⟨⟨7⟩, ⟨1700000000, 0⟩, "tgv1-sources", "m1", "x", []⟩).run Logger.root).on
        (Store.fresh 0)).1 = .ok "m1" ∧
    (((Write.message ⟨⟨7⟩, "tgv1-sources", "t", 0⟩
      ⟨⟨7⟩, ⟨1700000000, 0⟩, "tgv1-sources", "m1", "x", []⟩).run Logger.root).on
        (Store.fresh 0)).2.catalog.Tracks sourcesContainer .messages
      [(.message ⟨⟨7⟩, "tgv1-sources", "t", 0⟩
        ⟨⟨7⟩, ⟨1700000000, 0⟩, "tgv1-sources", "m1", "x", []⟩, 0)] := by
  have hname : Container.nameFor "tgv1-sources" = sourcesContainer := by decide +kernel
  have hok : (((Write.message ⟨⟨7⟩, "tgv1-sources", "t", 0⟩
      ⟨⟨7⟩, ⟨1700000000, 0⟩, "tgv1-sources", "m1", "x", []⟩).run Logger.root).on
        (Store.fresh 0)).1 = .ok "m1" :=
    Write.run_fresh (w := .message ⟨⟨7⟩, "tgv1-sources", "t", 0⟩
        ⟨⟨7⟩, ⟨1700000000, 0⟩, "tgv1-sources", "m1", "x", []⟩) Logger.root
      ⟨by decide, by decide, by decide, rfl⟩
      (by show Container.validName (Container.nameFor "tgv1-sources") = true; rw [hname]; decide)
      (by
        show isReservedName (Container.nameFor "tgv1-sources") = false
        rw [hname]
        decide +kernel)
      (by show isReservedName (Container.nameFor "tgv1-sources" ++ "_by_" ++ "message_created_at") =
          false; rw [hname]; decide +kernel) 0
  -- the sources' container is made with the columns of messages and takes the message's row
  exact ⟨hok, (Write.tracks_run (Catalog.Tracks.empty (n := sourcesContainer) (k := .messages))
    (s := Store.fresh 0) Logger.root (.message ⟨⟨7⟩, "tgv1-sources", "t", 0⟩
      ⟨⟨7⟩, ⟨1700000000, 0⟩, "tgv1-sources", "m1", "x", []⟩) fun _ => rfl).1
    ⟨hname, hok, List.not_mem_nil⟩⟩

-- A message of the conversation `tgv1-sources` goes to the container of the sources: on an empty
-- database it is answered with its key and stored there, so the sources' container holds a row
-- though no source was ever written.
theorem message_stored_among_sources :
    let c : Call := ⟨Logger.root, .message ⟨⟨7⟩, "tgv1-sources", "t", 0⟩
      ⟨⟨7⟩, ⟨1700000000, 0⟩, "tgv1-sources", "m1", "x", []⟩, 0⟩
    (c.run (Store.fresh 0)).1 = .ok "m1" ∧
      ∃ row, (c.run (Store.fresh 0)).2.catalog.Holds sourcesContainer row ∧
        row.key = some (.text "m1") := by
  intro c
  obtain ⟨hok, htr⟩ := message_into_sources
  obtain ⟨rows, hh, hvals⟩ := htr.rows
  obtain ⟨row, hrow, hkey⟩ := (Write.mem_keys_iff hvals "m1").mpr (List.mem_singleton_self _)
  exact ⟨hok, row, hh.holds hrow, hkey⟩

end ChatArchive
