import Mathlib
import ChatArchive.Proofs.Store.History

namespace ChatArchive

open Sql StoreM

namespace Sql.Row

theorem asked_iff {uids : List String} {r : Row} :
    r.asked uids = true ↔ uids = [] ∨ ∃ x, r.values.getD 0 .null = .text x ∧ x ∈ uids := by
  unfold asked
  cases r.values.getD 0 .null <;> simp

theorem asked_congr {uids uids' : List String} (hne : uids ≠ []) (h : ∀ x, x ∈ uids ↔ x ∈ uids') :
    asked uids = asked uids' := by
  have hne' : uids' ≠ [] := by
    obtain ⟨x, hx⟩ := List.exists_mem_of_ne_nil uids hne
    exact List.ne_nil_of_mem ((h x).mp hx)
  funext r
  apply Bool.eq_iff_iff.mpr
  simp only [asked_iff, hne, hne', false_or, h]

end Sql.Row

namespace StoreM

variable {s : Store}

theorem readSources_of_table (hc : s.catalog.Shaped) (hn : s.catalog.Numbered) (l : Logger)
    {t : Table} {sql : String} (ht : .table t sql ∈ s.catalog.objects)
    (hname : t.name = sourcesContainer) :
    ∃ (k : ContainerKind) (sorted : List Row), t.columns = k.tableColumns ∧
      Row.OrderedBy 1 t.rows sorted ∧ sorted.Nodup ∧
      ∀ uids, uids.length ≤ maxParameter → Leaves (readSources l uids) s
        (.ok ((sorted.filter (Row.asked uids)).filterMap
          (Row.decoded Snapshot.decodeSource k.snapshotAt))) s.catalog := by
  obtain ⟨-, -, k, hcols⟩ := hc.tables t sql ht
  have hs := Row.orderedBy_mergeSort 1 t.rows
  refine ⟨k, _, hcols, hs, hs.1.nodup_iff.mpr (hn.nodup ht).of_map, fun uids hlen => ?_⟩
  exact readSources_of_container hc hn l uids ht hname hcols hs hlen

theorem readSources_sublist (hc : s.catalog.Shaped) (hn : s.catalog.Numbered) (l : Logger)
    (uids : List String) (hlen : uids.length ≤ maxParameter) :
    ∃ found all, ((readSources l uids).on s).1 = .ok found ∧ ((readSources l []).on s).1 = .ok all ∧
      found.Sublist all := by
  cases hhas : s.catalog.hasTable sourcesContainer
  · exact ⟨[], [], (readSources_of_absent l uids hhas).answer,
      (readSources_of_absent l [] hhas).answer, List.Sublist.refl []⟩
  · obtain ⟨t, sql, ht, hname⟩ := Catalog.hasTable_iff.mp hhas
    obtain ⟨k, sorted, -, -, -, hread⟩ := readSources_of_table hc hn l ht hname
    refine ⟨_, _, (hread uids hlen).answer, (hread [] (Nat.zero_le _)).answer, ?_⟩
    rw [Row.filter_asked_nil]
    exact (List.filter_sublist).filterMap _

theorem readSources_congr (hc : s.catalog.Shaped) (hn : s.catalog.Numbered) (l : Logger)
    {uids uids' : List String} (hne : uids ≠ []) (hlen : uids.length ≤ maxParameter)
    (hlen' : uids'.length ≤ maxParameter) (h : ∀ x, x ∈ uids ↔ x ∈ uids') :
    ((readSources l uids).on s).1 = ((readSources l uids').on s).1 := by
  cases hhas : s.catalog.hasTable sourcesContainer
  · rw [(readSources_of_absent l uids hhas).answer, (readSources_of_absent l uids' hhas).answer]
  · obtain ⟨t, sql, ht, hname⟩ := Catalog.hasTable_iff.mp hhas
    obtain ⟨k, sorted, -, -, -, hread⟩ := readSources_of_table hc hn l ht hname
    rw [(hread uids hlen).answer, (hread uids' hlen').answer, Row.asked_congr hne h]

theorem readMessages_of_valid (hc : s.catalog.Shaped) (hn : s.catalog.Numbered) (l : Logger)
    (u : String) (hv : Container.validName (Container.nameFor u) = true) :
    ∃ r, Leaves (readMessages l u) s r s.catalog ∧ ∀ x, r ≠ .error (.invalidContainerName x) := by
  cases hhas : s.catalog.hasTable (Container.nameFor u)
  · exact ⟨_, readMessages_of_absent l u hv hhas, fun _ => nofun⟩
  · obtain ⟨t, sql, ht, hname⟩ := Catalog.hasTable_iff.mp hhas
    obtain ⟨-, -, k, hcols⟩ := hc.tables t sql ht
    cases k with
    | sources => exact ⟨_, readMessages_of_sources l u hc hv ht hname hcols, fun _ => nofun⟩
    | messages =>
      exact ⟨_, readMessages_of_messages l u hc hn hv ht hname hcols
        (Row.orderedBy_mergeSort 2 t.rows), fun _ => nofun⟩

theorem readSources_answers (hc : s.catalog.Shaped) (hn : s.catalog.Numbered) (l : Logger)
    {t : Table} {sql : String} (ht : .table t sql ∈ s.catalog.objects)
    (hname : t.name = sourcesContainer) :
    ∃ (k : ContainerKind) (sorted : List Row), t.columns = k.tableColumns ∧
      Row.OrderedBy 1 t.rows sorted ∧ sorted.Nodup ∧ ∀ uids,
        (uids.length ≤ maxParameter → ((readSources l uids).on s).1 =
          .ok ((sorted.filter (Row.asked uids)).filterMap
            (Row.decoded Snapshot.decodeSource k.snapshotAt))) ∧
        (maxParameter < uids.length → ((readSources l uids).on s).1 =
          .error (.sqlite (.input ("variable number must be between ?1 and ?" ++ toString maxParameter)
            (readQuery sourcesContainer "created_at" false uids.length).text
            (placeholderStart sourcesContainer (maxParameter + 1))))) := by
  obtain ⟨k, sorted, hcols, hs, hnd, hread⟩ := readSources_of_table hc hn l ht hname
  have hhas : s.catalog.hasTable sourcesContainer = true := Catalog.hasTable_iff.mpr ⟨t, sql, ht, hname⟩
  exact ⟨k, sorted, hcols, hs, hnd, fun uids => ⟨fun hlen => (hread uids hlen).answer,
    fun hlen => (readSources_of_many l uids hhas hlen).answer⟩⟩

theorem readMessages_refuses (hc : s.catalog.Shaped) (hn : s.catalog.Numbered) (l : Logger)
    (u : String) :
    ((readMessages l u).on s).2.catalog = s.catalog ∧
    ((∃ x, ((readMessages l u).on s).1 = .error (.invalidContainerName x)) ↔
      Container.validName (Container.nameFor u) = false) := by
  have hleaves : ∃ r, Leaves (readMessages l u) s r s.catalog ∧
      (Container.validName (Container.nameFor u) = true → ∀ x, r ≠ .error (.invalidContainerName x)) := by
    cases hv : Container.validName (Container.nameFor u)
    · exact ⟨_, readMessages_of_invalid l u hv, nofun⟩
    · obtain ⟨r, hr, hne⟩ := readMessages_of_valid hc hn l u hv
      exact ⟨r, hr, fun _ => hne⟩
  obtain ⟨r, hr, hne⟩ := hleaves
  refine ⟨hr.catalog, fun ⟨x, hx⟩ => ?_, fun hv => ⟨_, (readMessages_of_invalid l u hv).answer⟩⟩
  -- a refusal of the name happens only under a name that is not valid
  cases hv : Container.validName (Container.nameFor u)
  · rfl
  · rw [hr.answer] at hx
    exact absurd hx (hne hv x)

theorem readMessages_of_valid_name (hc : s.catalog.Shaped) (hn : s.catalog.Numbered) (l : Logger)
    (u : String) (hv : Container.validName (Container.nameFor u) = true) :
    (s.catalog.hasTable (Container.nameFor u) = false → ((readMessages l u).on s).1 = .ok []) ∧
    ∀ t sql, .table t sql ∈ s.catalog.objects → t.name = Container.nameFor u →
      (t.columns = ContainerKind.messages.tableColumns → ∃ sorted, Row.OrderedBy 2 t.rows sorted ∧
        ((readMessages l u).on s).1 = .ok (sorted.filterMap
          (Row.decoded Snapshot.decodeMessage ContainerKind.messages.snapshotAt))) ∧
      (t.columns = ContainerKind.sources.tableColumns → ((readMessages l u).on s).1 =
        .error (.sqlite (.input "no such column: message_created_at"
          (readQuery (Container.nameFor u) "message_created_at" true 0).text
          (25 + (quoted (Container.nameFor u)).utf8ByteSize + 10)))) :=
  ⟨fun hno => (readMessages_of_absent l u hv hno).answer, fun t _ ht hname =>
    ⟨fun hcols => ⟨_, Row.orderedBy_mergeSort 2 t.rows, (readMessages_of_messages l u hc hn hv ht hname
      hcols (Row.orderedBy_mergeSort 2 t.rows)).answer⟩,
    fun hcols => (readMessages_of_sources l u hc hv ht hname hcols).answer⟩⟩

theorem readMessages_of_stored {u : String} {ws : List (Write × Int)}
    (hst : Stored (Container.nameFor u) .messages s ws)
    (hv : Container.validName (Container.nameFor u) = true) (l : Logger) :
    ∃ ps : List ((Source × Message) × Int), ws = ps.map (fun p => (.message p.1.1 p.1.2, p.2)) ∧
      (ps.map (·.1.2.uid)).Nodup ∧ ((readMessages l u).on s).1 =
        .ok (((ps.map (·.1.2)).mergeSort fun a b => a.createdAt.millis ≤ b.createdAt.millis).filterMap
          fun m => (Snapshot.decodeMessage (Snapshot.encodeMessage m)).toOption) := by
  obtain ⟨ps, rfl, hread⟩ := hst.readMessages_all hv l
  have hnd := hst.writes.2
  rw [List.map_map] at hnd
  exact ⟨ps, rfl, hnd, hread.answer⟩

end StoreM

-- Reading the sources from a database of the shape whose tables keep their rows in row id order:
-- nothing without their container; otherwise the rows asked for, in the order of their creation
-- times and then of row ids, each read when it decodes, and a refusal of more ids than one
-- statement can bind; the same for every non-empty list of the same ids; never more than when no
-- id is asked for. Over every history of writes whose first writes to the sources' container
-- never go back in time, reading them all gives the sources first accepted, in that order.
theorem readSources_contents (s : Store) (hc : s.catalog.Shaped) (hn : s.catalog.Numbered)
    (l : Logger) :
    (s.catalog.hasTable sourcesContainer = false →
      ∀ uids, ((readSources l uids).on s).1 = .ok []) ∧
    (∀ t sql, .table t sql ∈ s.catalog.objects → t.name = sourcesContainer →
      ∃ (k : ContainerKind) (sorted : List Row), t.columns = k.tableColumns ∧
        Row.OrderedBy 1 t.rows sorted ∧ sorted.Nodup ∧ ∀ uids,
          (uids.length ≤ maxParameter → ((readSources l uids).on s).1 =
            .ok ((sorted.filter (Row.asked uids)).filterMap
              (Row.decoded Snapshot.decodeSource k.snapshotAt))) ∧
          (maxParameter < uids.length → ((readSources l uids).on s).1 =
            .error (.sqlite (.input ("variable number must be between ?1 and ?" ++ toString maxParameter)
              (readQuery sourcesContainer "created_at" false uids.length).text
              (placeholderStart sourcesContainer (maxParameter + 1)))))) ∧
    (∀ uids uids', uids ≠ [] → uids.length ≤ maxParameter → uids'.length ≤ maxParameter →
      (∀ x, x ∈ uids ↔ x ∈ uids') →
      ((readSources l uids).on s).1 = ((readSources l uids').on s).1) ∧
    (∀ uids, uids.length ≤ maxParameter → ∃ found all, ((readSources l uids).on s).1 = .ok found ∧
      ((readSources l []).on s).1 = .ok all ∧ found.Sublist all) ∧
    (∀ ws, Accepted sourcesContainer s ws → (ws.map (·.2)).Pairwise (· ≤ ·) →
      (∀ x ∈ ws, x.1.InRange) → ((readSources l []).on s).1 = .ok (ws.filterMap (·.1.source?))) :=
  ⟨fun hno uids => (readSources_of_absent l uids hno).answer,
    fun _ _ ht hname => readSources_answers hc hn l ht hname,
    fun _ _ hne hlen hlen' h => readSources_congr hc hn l hne hlen hlen' h,
    readSources_sublist hc hn l,
    fun _ hst hclock hrange => (hst.readSources_all hclock hrange l).answer⟩

-- An empty store has no source to read, whatever is asked for.
theorem fresh_store_reads_no_sources :
    Catalog.empty.Shaped ∧ Catalog.empty.Numbered ∧
      ((readSources Logger.root ["a"]).on (Store.fresh 0)).1 = .ok [] :=
  ⟨Catalog.Shaped.empty, Catalog.Numbered.empty, (readSources_contents (Store.fresh 0)
    Catalog.Shaped.empty Catalog.Numbered.empty Logger.root).1 rfl ["a"]⟩

theorem readSources_of_reached {s : Store} (h : Reached s) (l : Logger) :
    (s.catalog.hasTable sourcesContainer = false →
      ∀ uids, ((readSources l uids).on s).1 = .ok []) ∧
    (∀ t sql, .table t sql ∈ s.catalog.objects → t.name = sourcesContainer →
      ∃ (k : ContainerKind) (sorted : List Row), t.columns = k.tableColumns ∧
        Row.OrderedBy 1 t.rows sorted ∧ sorted.Nodup ∧ ∀ uids,
          (uids.length ≤ maxParameter → ((readSources l uids).on s).1 =
            .ok ((sorted.filter (Row.asked uids)).filterMap
              (Row.decoded Snapshot.decodeSource k.snapshotAt))) ∧
          (maxParameter < uids.length → ((readSources l uids).on s).1 =
            .error (.sqlite (.input ("variable number must be between ?1 and ?" ++ toString maxParameter)
              (readQuery sourcesContainer "created_at" false uids.length).text
              (placeholderStart sourcesContainer (maxParameter + 1)))))) ∧
    (∀ uids uids', uids ≠ [] → uids.length ≤ maxParameter → uids'.length ≤ maxParameter →
      (∀ x, x ∈ uids ↔ x ∈ uids') →
      ((readSources l uids).on s).1 = ((readSources l uids').on s).1) ∧
    (∀ uids, uids.length ≤ maxParameter → ∃ found all, ((readSources l uids).on s).1 = .ok found ∧
      ((readSources l []).on s).1 = .ok all ∧ found.Sublist all) := by
  have hc := h.sound.shaped
  have hn := h.numbered
  exact ⟨fun hno uids => (readSources_of_absent l uids hno).answer,
    fun _ _ ht hname => readSources_answers hc hn l ht hname,
    fun _ _ hne hlen hlen' h => readSources_congr hc hn l hne hlen hlen' h,
    readSources_sublist hc hn l⟩

-- Reading a conversation from a database of the shape whose tables keep their rows in row id
-- order changes nothing. It refuses exactly the conversations whose container name is not valid.
-- Under a valid name it reads nothing without a table of exactly that name; from a container of
-- messages, the rows in the order of their message times and then of row ids, each read when it
-- decodes; from the container of the sources, which has no message time, an error naming the
-- missing column. Over a history of a conversation, it reads the messages first stored there,
-- each once, sorted stably by their time to the millisecond, each as it reads back.
theorem readMessages_contents (s : Store) (hc : s.catalog.Shaped) (hn : s.catalog.Numbered)
    (l : Logger) (u : String) :
    ((readMessages l u).on s).2.catalog = s.catalog ∧
    ((∃ x, ((readMessages l u).on s).1 = .error (.invalidContainerName x)) ↔
      Container.validName (Container.nameFor u) = false) ∧
    (Container.validName (Container.nameFor u) = true →
      (s.catalog.hasTable (Container.nameFor u) = false → ((readMessages l u).on s).1 = .ok []) ∧
      ∀ t sql, .table t sql ∈ s.catalog.objects → t.name = Container.nameFor u →
        (t.columns = ContainerKind.messages.tableColumns → ∃ sorted, Row.OrderedBy 2 t.rows sorted ∧
          ((readMessages l u).on s).1 = .ok (sorted.filterMap
            (Row.decoded Snapshot.decodeMessage ContainerKind.messages.snapshotAt))) ∧
        (t.columns = ContainerKind.sources.tableColumns → ((readMessages l u).on s).1 =
          .error (.sqlite (.input "no such column: message_created_at"
            (readQuery (Container.nameFor u) "message_created_at" true 0).text
            (25 + (quoted (Container.nameFor u)).utf8ByteSize + 10))))) ∧
    (∀ ws, Stored (Container.nameFor u) .messages s ws →
      Container.validName (Container.nameFor u) = true →
      ∃ ps : List ((Source × Message) × Int), ws = ps.map (fun p => (.message p.1.1 p.1.2, p.2)) ∧
        (ps.map (·.1.2.uid)).Nodup ∧ ((readMessages l u).on s).1 =
          .ok (((ps.map (·.1.2)).mergeSort fun a b => a.createdAt.millis ≤ b.createdAt.millis).filterMap
            fun m => (Snapshot.decodeMessage (Snapshot.encodeMessage m)).toOption)) :=
  ⟨(readMessages_refuses hc hn l u).1, (readMessages_refuses hc hn l u).2,
    readMessages_of_valid_name hc hn l u, fun _ hst hv => readMessages_of_stored hst hv l⟩

theorem readMessages_of_reached {s : Store} (h : Reached s) (l : Logger) (u : String) :
    ((readMessages l u).on s).2.catalog = s.catalog ∧
    ((∃ x, ((readMessages l u).on s).1 = .error (.invalidContainerName x)) ↔
      Container.validName (Container.nameFor u) = false) ∧
    (Container.validName (Container.nameFor u) = true →
      (s.catalog.hasTable (Container.nameFor u) = false → ((readMessages l u).on s).1 = .ok []) ∧
      ∀ t sql, .table t sql ∈ s.catalog.objects → t.name = Container.nameFor u →
        (t.columns = ContainerKind.messages.tableColumns → ∃ sorted, Row.OrderedBy 2 t.rows sorted ∧
          ((readMessages l u).on s).1 = .ok (sorted.filterMap
            (Row.decoded Snapshot.decodeMessage ContainerKind.messages.snapshotAt))) ∧
        (t.columns = ContainerKind.sources.tableColumns → ((readMessages l u).on s).1 =
          .error (.sqlite (.input "no such column: message_created_at"
            (readQuery (Container.nameFor u) "message_created_at" true 0).text
            (25 + (quoted (Container.nameFor u)).utf8ByteSize + 10))))) := by
  have hc := h.sound.shaped
  have hn := h.numbered
  exact ⟨(readMessages_refuses hc hn l u).1, (readMessages_refuses hc hn l u).2,
    readMessages_of_valid_name hc hn l u⟩

-- The container of the sources, read as a conversation: the statement orders by a column that
-- container does not have.
theorem sources_container_read_as_conversation :
    (Catalog.empty.withContainer sourcesContainer .sources).Shaped ∧
    (Catalog.empty.withContainer sourcesContainer .sources).Numbered ∧
    ((readMessages Logger.root sourcesContainer).on
        ⟨Catalog.empty.withContainer sourcesContainer .sources, 0, []⟩).1 =
      .error (.sqlite (.input "no such column: message_created_at"
        (readQuery (Container.nameFor sourcesContainer) "message_created_at" true 0).text
        (25 + (quoted (Container.nameFor sourcesContainer)).utf8ByteSize + 10))) := by
  have hfree : Catalog.empty.Free sourcesContainer :=
    ⟨by decide +kernel, fun _ ho => absurd ho List.not_mem_nil⟩
  have hc := Catalog.Shaped.empty.withContainer .sources hfree
  have hn := Catalog.Numbered.empty.withContainer sourcesContainer .sources
  have hname : Container.nameFor sourcesContainer = sourcesContainer := by decide +kernel
  have hv : Container.validName (Container.nameFor sourcesContainer) = true := by decide +kernel
  have ht := List.mem_of_find?_eq_some
    (Catalog.empty.relation?_withContainer sourcesContainer .sources hfree)
  refine ⟨hc, hn, ?_⟩
  exact (((readMessages_contents ⟨_, 0, []⟩ hc hn Logger.root sourcesContainer).2.2.1 hv).2 _ _ ht
    hname.symm).2 rfl

end ChatArchive
