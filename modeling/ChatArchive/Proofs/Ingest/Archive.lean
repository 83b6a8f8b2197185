import Mathlib
import ChatArchive.Proofs.Store.History
import ChatArchive.Proofs.Ingest.Names

namespace ChatArchive

open Sql StoreM

def Profile.Names (p : Profile) : ContainerKind → String → Prop
  | .sources, n => n = sourcesContainer
  | .messages, n => ∃ id : Int, n = p.stem ++ toString id

namespace Profile

variable {p : Profile} {k k' : ContainerKind} {n n' : String}

theorem Names.length (h : p.Names k n) : 7 ≤ n.toList.length := by
  cases k with
  | sources =>
    rw [show n = sourcesContainer from h]
    decide +kernel
  | messages =>
    obtain ⟨id, rfl⟩ := h
    rw [String.toList_append, List.length_append]
    exact Nat.le_add_right_of_le p.stem_length

theorem Names.getLast? (h : p.Names k n) :
    ∃ d, (fold n).getLast? = some d ∧ (k = .sources ∧ d = 's' ∨ k = .messages ∧ d.isDigit = true) := by
  cases k with
  | sources =>
    rw [show n = sourcesContainer from h]
    exact ⟨'s', by decide +kernel, .inl ⟨rfl, rfl⟩⟩
  | messages =>
    obtain ⟨id, rfl⟩ := h
    obtain ⟨d, hd, hdig⟩ := p.getLast?_fold_container id
    exact ⟨d, hd, .inr ⟨rfl, hdig⟩⟩

theorem Names.getLast?_ne (h : p.Names k n) : (fold n).getLast? ≠ some 't' := by
  obtain ⟨d, hd, (⟨-, rfl⟩ | ⟨-, hdig⟩)⟩ := h.getLast?
  · rw [hd]
    decide
  · rw [hd, Ne, Option.some.injEq]
    rintro rfl
    exact absurd hdig (by decide)

theorem Names.isReservedName (h : p.Names k n) (hp : isReservedName p.stem = false) :
    isReservedName n = false := by
  cases k with
  | sources =>
    rw [show n = sourcesContainer from h]
    decide +kernel
  | messages =>
    obtain ⟨id, rfl⟩ := h
    rw [p.isReservedName_stem_append, hp]

theorem Names.eq_of_sameName (h : p.Names k n) (h' : p.Names k' n') (hs : sameName n n' = true) :
    k = k' ∧ n = n' := by
  have hlast : (fold n).getLast? = (fold n').getLast? :=
    congrArg List.getLast? (sameName_iff_fold.mp hs)
  obtain ⟨d, hd, hk⟩ := h.getLast?
  obtain ⟨d', hd', hk'⟩ := h'.getLast?
  rw [hd, hd', Option.some.injEq] at hlast
  subst hlast
  rcases hk with ⟨rfl, rfl⟩ | ⟨rfl, hdig⟩
  · rcases hk' with ⟨rfl, -⟩ | ⟨rfl, hdig'⟩
    · exact ⟨rfl, h.trans h'.symm⟩
    · exact absurd hdig' (by decide)
  · rcases hk' with ⟨rfl, rfl⟩ | ⟨rfl, -⟩
    · exact absurd hdig (by decide)
    · obtain ⟨a, rfl⟩ := h
      obtain ⟨b, rfl⟩ := h'
      exact ⟨rfl, by rw [p.eq_of_sameName hs]⟩

end Profile

namespace Sql.Catalog

-- What the databases made by the pipeline of `p` look like.
structure Archive (p : Profile) (c : Catalog) : Prop where
  shaped : c.Shaped
  keyed : c.Keyed
  tables : ∀ t sql, .table t sql ∈ c.objects →
    Container.validName t.name = true ∧ ∃ k, t.columns = k.tableColumns ∧ p.Names k t.name
  indexes : ∀ i sql, .index i sql ∈ c.objects →
    isReservedName i.name = true ∨ (fold i.name).getLast? = some 't'
  views : ∀ v b sql, .view v b sql ∉ c.objects

namespace Archive

variable {p : Profile} {c : Catalog} {k : ContainerKind} {n f : String}

theorem empty (p : Profile) : Catalog.empty.Archive p where
  shaped := Shaped.empty
  keyed := Keyed.empty
  tables _ _ h := absurd h List.not_mem_nil
  indexes _ _ h := absurd h List.not_mem_nil
  views _ _ _ h := absurd h List.not_mem_nil

theorem relation?_eq_none (hc : c.Archive p) {x : String} (hx : (fold x).getLast? = some 't') :
    c.relation? x = none := by
  rw [relation?_eq_none_iff]
  intro o ho hidx
  cases o with
  | table t sql =>
    obtain ⟨-, k, -, hn⟩ := hc.tables t sql ho
    exact sameName_eq_false_of_getLast? (by rw [hx]; exact hn.getLast?_ne)
  | view v b sql => exact absurd ho (hc.views v b sql)
  | index i sql => cases hidx

theorem hasTable_or_free (hc : c.Archive p) (hn : p.Names k n) (hr : isReservedName n = false) :
    c.hasTable n = true ∨ c.Free n := by
  by_cases h : ∀ o ∈ c.objects, sameName o.name n = false
  · exact .inr ⟨hr, h⟩
  · push Not at h
    obtain ⟨o, ho, hs⟩ := h
    rw [ne_eq, Bool.not_eq_false] at hs
    left
    cases o with
    | table t sql =>
      obtain ⟨-, k', -, hn'⟩ := hc.tables t sql ho
      exact hasTable_iff.mpr ⟨t, sql, ho, (hn'.eq_of_sameName hn hs).2⟩
    | view v b sql => exact absurd ho (hc.views v b sql)
    | index i sql =>
      have hs : sameName i.name n = true := hs
      rcases hc.indexes i sql ho with hi | hi
      · rw [isReservedName_congr hs, hr] at hi
        cases hi
      · rw [sameName_iff_fold.mp hs] at hi
        exact absurd hi hn.getLast?_ne

theorem indexName (hc : c.Archive p) (hn : p.Names k n) (hf : (fold f).getLast? = some 't')
    (hr : isReservedName n = false) :
    isReservedName (n ++ "_by_" ++ f) = false ∧ c.relation? (n ++ "_by_" ++ f) = none := by
  have hne : f ≠ "" := by
    rintro rfl
    cases hf
  refine ⟨?_, hc.relation?_eq_none ?_⟩
  · rw [String.append_assoc, isReservedName_append hn.length, hr]
  · rw [getLast?_fold_append _ hne, hf]

theorem accepts (hc : c.Archive p) (hn : p.Names k n) (hf : (fold f).getLast? = some 't')
    (h : c.hasTable n = true ∨ c.Free n) : c.Accepts n k f := by
  rcases h with h | hfree
  · obtain ⟨t, sql, ht, rfl⟩ := hasTable_iff.mp h
    obtain ⟨-, k', hcols, hn'⟩ := hc.tables t sql ht
    obtain ⟨rfl, -⟩ := hn'.eq_of_sameName hn (sameName_refl _)
    exact .inl ⟨t, sql, ht, rfl, hcols⟩
  · exact .inr ⟨hfree, hc.indexName hn hf hfree.1⟩

theorem withContainer (hc : c.Archive p) (hn : p.Names k n) (hv : Container.validName n = true)
    (hfree : c.Free n) : (c.withContainer n k).Archive p where
  shaped := hc.shaped.withContainer k hfree
  keyed := hc.keyed.withContainer n k
  tables t sql ht := by
    rcases mem_withContainer_table ht with ht | rfl
    · exact hc.tables t sql ht
    · exact ⟨hv, k, rfl, hn⟩
  indexes i sql hi := by
    rcases mem_withContainer_index hi with hi | rfl
    · exact hc.indexes i sql hi
    · exact .inl (isReservedName_keyIndex n)
  views v b sql hv' := hc.views v b sql (mem_withContainer_view hv')

theorem withIndex (hc : c.Archive p) {i : String} (table : String) (j : Nat)
    (hi : (fold i).getLast? = some 't') (hr : isReservedName i = false)
    (hrel : c.relation? i = none) : (c.withIndex i table j).Archive p := by
  unfold Catalog.withIndex
  split
  · exact hc
  · next hidx =>
    have hshaped : (c.withIndex i table j).Shaped := hc.shaped.withIndex table j hr hrel
    unfold Catalog.withIndex at hshaped
    simp only [hidx, Bool.false_eq_true, ↓reduceIte] at hshaped
    have hkeyed : (c.withIndex i table j).Keyed := hc.keyed.withIndex i table j
    unfold Catalog.withIndex at hkeyed
    simp only [hidx, Bool.false_eq_true, ↓reduceIte] at hkeyed
    refine ⟨hshaped, hkeyed, ?_, ?_, ?_⟩
    · intro t sql ht
      simp only [add, List.mem_append, List.mem_singleton, reduceCtorEq, or_false] at ht
      exact hc.tables t sql ht
    · intro i' sql hi'
      simp only [add, List.mem_append, List.mem_singleton, Object.index.injEq] at hi'
      rcases hi' with hi' | ⟨rfl, -⟩
      · exact hc.indexes i' sql hi'
      · exact .inr hi
    · intro v b sql hv
      simp only [add, List.mem_append, List.mem_singleton, reduceCtorEq, or_false] at hv
      exact hc.views v b sql hv

theorem insertInto (hc : c.Archive p) {t : Table} {sql : String} (ht : .table t sql ∈ c.objects)
    {ps : List Datum} {uid : String} (hv : (t.rowOf ps).values.head? = some (.text uid)) :
    (c.insertInto t ps).Archive p := by
  unfold Catalog.insertInto
  split
  · exact hc
  · next hnone =>
    have hshaped := hc.shaped.insertInto ht ps
    have hkeyed := hc.keyed.insertInto ht hv
    unfold Catalog.insertInto at hshaped hkeyed
    rw [hnone] at hshaped hkeyed
    refine ⟨hshaped, hkeyed, ?_, ?_, ?_⟩
    · intro u sqlu hu
      rcases mem_putTable hu with hu | ⟨u', sql', -, -, he⟩
      · exact hc.tables u sqlu hu
      · simp only [Object.table.injEq] at he
        obtain ⟨rfl, -⟩ := he
        exact hc.tables t sql ht
    · intro i sqli hi
      rcases mem_putTable hi with hi | ⟨u', sql', -, -, he⟩
      · exact hc.indexes i sqli hi
      · cases he
    · intro v b sqlv hv'
      rcases mem_putTable hv' with hv' | ⟨u', sql', -, -, he⟩
      · exact hc.views v b sqlv hv'
      · cases he

end Archive

end Sql.Catalog

namespace Write

variable {p : Profile} {w : Write} {now : Int}

def Fits (p : Profile) (w : Write) : Prop := p.Names w.kind w.container

theorem fits_message {src : Source} {id : Int} (hid : src.uid = p.sourceUid id) (msg : Message) :
    (Write.message src msg).Fits p :=
  ⟨id, by
    show Container.nameFor src.uid = _
    rw [hid]
    exact p.nameFor_sourceUid id⟩

theorem getLast?_fold_field (w : Write) : (fold w.field).getLast? = some 't' := by
  cases w
  · show (fold "created_at").getLast? = some 't'
    decide +kernel
  · show (fold "message_created_at").getLast? = some 't'
    decide +kernel

theorem field_ne_empty (w : Write) : w.field ≠ "" := by
  cases w <;> simp [field]

theorem run_cases_of_fits (l : Logger) {s : Store} (hc : s.catalog.Archive p) (hfit : w.Fits p)
    (hv : w.Valid) (hn : Container.validName w.container = true) :
    (∃ t sql, .table t sql ∈ s.catalog.objects ∧ t.name = w.container ∧
        t.columns = w.kind.tableColumns ∧
        Leaves (w.run l) s (.ok w.uid) (s.catalog.insertInto t (w.values s.clock))) ∨
      (s.catalog.Free w.container ∧ ∃ j, Leaves (w.run l) s (.ok w.uid)
        (((s.catalog.withContainer w.container w.kind).withIndex
          (w.container ++ "_by_" ++ w.field) w.container j).insertInto
            (w.kind.table w.container) (w.values s.clock))) ∨
      (s.catalog.hasTable w.container = false ∧ ¬ s.catalog.Free w.container ∧
        ∃ e, Leaves (w.run l) s (.error e) s.catalog) := by
  obtain ⟨child, hrun⟩ := w.run_eq_putRecord l hv
  rw [hrun]
  cases hhas : s.catalog.hasTable w.container
  · by_cases hfree : s.catalog.Free w.container
    · obtain ⟨hi, hrel⟩ := hc.indexName hfit w.getLast?_fold_field hfree.1
      exact .inr (.inl ⟨hfree,
        putRecord_of_free l child w.uid hn w.orderable_field w.fills_values hfree hi hrel⟩)
    · have he : ∃ e, Leaves (ensureContainer l w.container w.kind w.field) s (.error e)
          s.catalog := ensureContainer_of_not_free hn w.orderable_field hhas hfree
      obtain ⟨e, he⟩ := he
      exact .inr (.inr ⟨rfl, hfree, e, putRecord_of_ensure_error he⟩)
  · -- the table of that name is of the write's kind
    obtain ⟨t, sql, ht, htn⟩ := Catalog.hasTable_iff.mp hhas
    obtain ⟨-, k, hcols, hk⟩ := hc.tables t sql ht
    rw [htn] at hk
    obtain ⟨rfl, -⟩ := hk.eq_of_sameName hfit (sameName_refl _)
    exact .inl ⟨t, sql, ht, htn, hcols, putRecord_of_hasContainer l child w.uid hc.shaped hn
      w.orderable_field w.fills_values ht htn hcols⟩

theorem run_of_invalid_name (l : Logger) {s : Store} (hv : w.Valid)
    (hn : Container.validName w.container = false) :
    ∃ e, Leaves (w.run l) s (.error e) s.catalog := by
  obtain ⟨child, hrun⟩ := w.run_eq_putRecord l hv
  have he : ∃ e, Leaves (ensureContainer l w.container w.kind w.field) s (.error e) s.catalog :=
    ensureContainer_of_invalid_name hn
  obtain ⟨e, he⟩ := he
  exact ⟨e, hrun ▸ putRecord_of_ensure_error he⟩

theorem archive_run (l : Logger) {s : Store} (hc : s.catalog.Archive p) (hfit : w.Fits p) :
    ((w.run l).on s).2.catalog.Archive p := by
  by_cases hv : w.Valid
  · cases hn : Container.validName w.container
    · obtain ⟨e, he⟩ := run_of_invalid_name l (s := s) hv hn
      rw [he.catalog]
      exact hc
    · rcases run_cases_of_fits l hc hfit hv hn with ⟨t, sql, ht, -, hcols, hput⟩ | ⟨hfree, j, hput⟩ |
        ⟨-, -, e, hput⟩
      · rw [hput.catalog]
        exact hc.insertInto ht (w.rowOf_head? hcols s.clock)
      · -- the container and its index are made, then the row goes in
        obtain ⟨hi, hrel⟩ := hc.indexName hfit w.getLast?_fold_field hfree.1
        have hc₁ := (hc.withContainer hfit hn hfree).withIndex w.container j
          (by rw [String.append_assoc, getLast?_fold_append _ (by simp),
            getLast?_fold_append _ w.field_ne_empty, w.getLast?_fold_field])
          hi (by rwa [Catalog.relation?_withContainer_of_ne _ _ (sameName_indexName _ _)])
        rw [hput.catalog]
        exact hc₁.insertInto (List.mem_of_find?_eq_some
          (s.catalog.relation?_made w.kind hfree (w.container ++ "_by_" ++ w.field) j))
          (w.rowOf_head? rfl s.clock)
      · rw [hput.catalog]
        exact hc
  · obtain ⟨e, he⟩ := run_of_not_valid l hv
    rw [(he s).catalog]
    exact hc

theorem run_of_stored (l : Logger) {s : Store} (hc : s.catalog.Shaped) (hk : s.catalog.Keyed)
    (hn : Container.validName w.container = true) (hv : w.Valid) {t : Table} {sql : String}
    (ht : .table t sql ∈ s.catalog.objects) (htn : t.name = w.container)
    (hcols : t.columns = w.kind.tableColumns) {row : Row} (hr : row ∈ t.rows)
    (hkey : row.key = some (.text w.uid)) : Leaves (w.run l) s (.ok w.uid) s.catalog := by
  obtain ⟨child, hrun⟩ := w.run_eq_putRecord l hv
  have hput := putRecord_of_hasContainer l child w.uid hc hn w.orderable_field w.fills_values ht
    htn hcols
  -- the row collides with the one there
  rwa [Catalog.insertInto_of_key hk ht (w.rowOf_head? hcols s.clock) hr hkey, ← hrun] at hput

theorem run_of_names (l : Logger) {s : Store} (hc : s.catalog.Archive p) (hfit : w.Fits p)
    (hv : w.Valid) (hn : Container.validName w.container = true)
    (hr : isReservedName w.container = false) : ((w.run l).on s).1 = .ok w.uid := by
  rcases run_cases_of_fits l hc hfit hv hn with ⟨t, sql, -, -, -, hput⟩ | ⟨-, j, hput⟩ |
    ⟨hno, hfree, -⟩
  · exact hput.answer
  · exact hput.answer
  · rcases hc.hasTable_or_free hfit hr with h | h
    · rw [hno] at h
      cases h
    · exact absurd h hfree

end Write

theorem Write.run_of_reserved (l : Logger) (w : Write) {s : Store} (hc : s.catalog.Shaped)
    (hr : isReservedName w.container = true) : ∃ e, Leaves (w.run l) s (.error e) s.catalog := by
  rcases w.run_cases l s hc with he | ⟨hfree, -⟩ | ⟨t, sql, ht, htn, -⟩ | ⟨hfree, -⟩
  · exact he
  · exact absurd hfree.1 (by rw [hr]; decide)
  · -- no table of the database has a kept name
    have := (hc.tables t sql ht).2.1
    rw [htn, hr] at this
    cases this
  · exact absurd hfree.1 (by rw [hr]; decide)

theorem Write.leaves_shaped (l : Logger) (w : Write) {s : Store} (hc : s.catalog.Shaped) :
    ∃ r c, Leaves (w.run l) s r c ∧ c.Shaped ∧ ∀ x, r = .ok x → x = w.uid := by
  have hsh := w.shaped_run l hc
  rcases w.run_cases l s hc with ⟨e, he⟩ | ⟨-, e, he⟩ | ⟨t, sql, -, -, -, he⟩ | ⟨-, -, -, j, he⟩
  · exact ⟨_, _, he, he.catalog ▸ hsh, fun _ hx => by cases hx⟩
  · exact ⟨_, _, he, he.catalog ▸ hsh, fun _ hx => by cases hx⟩
  · exact ⟨_, _, he, he.catalog ▸ hsh, fun _ hx => (Except.ok.inj hx).symm⟩
  · exact ⟨_, _, he, he.catalog ▸ hsh, fun _ hx => (Except.ok.inj hx).symm⟩

namespace Write

def inContainer (ws : List Write) (n : String) : List Write := ws.filter (·.container == n)

def keptIn (ws : List Write) (w : Write) : Bool :=
  ws.any fun x => x.container == w.container && x.uid == w.uid

def keepFirst (ws : List Write) (w : Write) : List Write :=
  if keptIn ws w then ws else ws ++ [w]

theorem keptIn_iff {ws : List Write} {w : Write} :
    keptIn ws w = true ↔ w.uid ∈ (inContainer ws w.container).map (·.uid) := by
  simp only [keptIn, inContainer, List.any_eq_true, Bool.and_eq_true, beq_iff_eq, List.mem_map,
    List.mem_filter]
  exact ⟨fun ⟨x, hx, hc, hu⟩ => ⟨x, ⟨hx, hc⟩, hu⟩, fun ⟨x, ⟨hx, hc⟩, hu⟩ => ⟨x, hx, hc, hu⟩⟩

theorem keptIn_congr (ws : List Write) {w w' : Write} (hc : w.container = w'.container)
    (hu : w.uid = w'.uid) : keptIn ws w = keptIn ws w' := by
  simp only [keptIn, hc, hu]

theorem keptIn_keepFirst {ws : List Write} {x : Write} (h : keptIn ws x = true) (w : Write) :
    keptIn (keepFirst ws w) x = true := by
  unfold keepFirst
  split
  · exact h
  · simp only [keptIn, List.any_append] at h ⊢
    rw [h, Bool.true_or]

theorem keptIn_keepFirst_self (ws : List Write) (w : Write) : keptIn (keepFirst ws w) w = true := by
  unfold keepFirst
  split
  · assumption
  · simp [keptIn]

theorem mem_keepFirst {ws : List Write} {w x : Write} (h : x ∈ keepFirst ws w) :
    x ∈ ws ∨ x = w := by
  unfold keepFirst at h
  split at h
  · exact .inl h
  · simpa using h

def keepFirstAt (time : Int) (ws : List (Write × Int)) (w : Write) : List (Write × Int) :=
  if keptIn (ws.map Prod.fst) w then ws else ws ++ [(w, time)]

theorem map_fst_keepFirstAt (time : Int) (ws : List (Write × Int)) (w : Write) :
    (keepFirstAt time ws w).map Prod.fst = keepFirst (ws.map Prod.fst) w := by
  unfold keepFirstAt keepFirst
  split <;> simp

theorem map_fst_foldl_keepFirstAt (time : Int) (ws : List (Write × Int)) (xs : List Write) :
    (xs.foldl (keepFirstAt time) ws).map Prod.fst = xs.foldl keepFirst (ws.map Prod.fst) := by
  induction xs generalizing ws with
  | nil => rfl
  | cons x rest ih => rw [List.foldl_cons, List.foldl_cons, ih, map_fst_keepFirstAt]

theorem keepFirstAt_of_keptIn {time : Int} {ws : List (Write × Int)} {w : Write}
    (h : keptIn (ws.map Prod.fst) w = true) : keepFirstAt time ws w = ws := if_pos h

theorem map_fst_filter (ws : List (Write × Int)) (n : String) :
    (ws.filter (·.1.container == n)).map Prod.fst = inContainer (ws.map Prod.fst) n := by
  rw [inContainer, List.filter_map]
  rfl

theorem filter_keepFirstAt (time : Int) (ws : List (Write × Int)) (w : Write) (n : String) :
    (keepFirstAt time ws w).filter (·.1.container == n) =
      if w.container = n ∧ keptIn (ws.map Prod.fst) w = false then
        ws.filter (·.1.container == n) ++ [(w, time)]
      else ws.filter (·.1.container == n) := by
  unfold keepFirstAt
  cases hk : keptIn (ws.map Prod.fst) w
  · by_cases hn : w.container = n <;> simp [List.filter_append, hn]
  · simp

end Write

namespace Sql.Catalog

structure Keeps (p : Profile) (ws : List (Write × Int)) (c : Catalog) : Prop where
  archive : c.Archive p
  tracks : ∀ k n, p.Names k n → c.Tracks n k (ws.filter (·.1.container == n))

theorem Keeps.empty (p : Profile) : Catalog.empty.Keeps p [] where
  archive := Archive.empty p
  tracks _ _ _ := Tracks.empty

end Sql.Catalog

namespace Write

variable {p : Profile} {w : Write} {ws : List (Write × Int)}

theorem uids_filter (ws : List (Write × Int)) (n : String) :
    (ws.filter (·.1.container == n)).map (·.1.uid) = (inContainer (ws.map Prod.fst) n).map (·.uid) := by
  rw [← map_fst_filter, List.map_map]
  rfl

theorem validName_of_keptIn {c : Catalog} (h : c.Keeps p ws) (hfit : w.Fits p)
    (hkept : keptIn (ws.map Prod.fst) w = true) : Container.validName w.container = true := by
  have hmem := keptIn_iff.mp hkept
  rcases (h.tracks w.kind w.container hfit).table with ⟨-, hnil⟩ | ⟨t, sql, ht, hn, -⟩
  · rw [← map_fst_filter, hnil] at hmem
    cases hmem
  · rw [← hn]
    exact (h.archive.tables t sql ht).1

theorem keeps_run (l : Logger) {s : Store} (h : s.catalog.Keeps p ws) (hfit : w.Fits p)
    (hv : w.Valid) (hn : Container.validName w.container = true)
    (hr : isReservedName w.container = false) :
    ∃ c', Leaves (w.run l) s (.ok w.uid) c' ∧ c'.Keeps p (keepFirstAt s.clock ws w) ∧
      (keptIn (ws.map Prod.fst) w = true → c' = s.catalog) := by
  have hok := run_of_names l h.archive hfit hv hn hr
  have htr := h.tracks w.kind w.container hfit
  obtain ⟨c', hc', hsame⟩ : ∃ c', Leaves (w.run l) s (.ok w.uid) c' ∧
      (keptIn (ws.map Prod.fst) w = true → c' = s.catalog) := by
    rcases run_cases_of_fits l h.archive hfit hv hn with ⟨t, sql, ht, htn, hcols, hput⟩ |
      ⟨hfree, j, hput⟩ | ⟨-, -, e, hput⟩
    · refine ⟨_, hput, fun hkept => htr.insertInto_of_mem ht hcols htn ?_⟩
      rw [uids_filter]
      exact keptIn_iff.mp hkept
    · refine ⟨_, hput, fun hkept => ?_⟩
      -- a free name has no table, so no write to it is kept
      obtain ⟨rows, hh, hvals⟩ := htr.rows
      rw [hh.2 (Catalog.hasTable_eq_false_of_free hfree), List.map_nil, eq_comm,
        List.map_eq_nil_iff] at hvals
      have := keptIn_iff.mp hkept
      rw [← map_fst_filter, hvals] at this
      cases this
    · rw [hput.answer] at hok
      cases hok
  refine ⟨c', hc', ⟨?_, fun k n hkn => ?_⟩, hsame⟩
  · rw [← hc'.catalog]
    exact archive_run l h.archive hfit
  · -- the container `n` gains the write exactly when it goes there and its key is new
    have hk : w.container = n → w.kind = k := fun he =>
      (hfit.eq_of_sameName hkn (by rw [he]; exact sameName_refl n)).1
    have hrun := tracks_run (h.tracks k n hkn) l w hk
    rw [hok, hc'.catalog, uids_filter] at hrun
    rw [filter_keepFirstAt]
    split
    · next hnew =>
      refine hrun.1 ⟨hnew.1, rfl, fun hmem => ?_⟩
      rw [← hnew.1, ← keptIn_iff, hnew.2] at hmem
      cases hmem
    · next hold =>
      refine hrun.2 fun hnew => hold ⟨hnew.1, ?_⟩
      have hmem := hnew.2.2
      rw [← hnew.1, ← keptIn_iff, Bool.not_eq_true] at hmem
      exact hmem

end Write

end ChatArchive
