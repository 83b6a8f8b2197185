import Mathlib
import ChatArchive.Proofs.Lane.Replay
import ChatArchive.Proofs.Service.Redelivery
import ChatArchive.Proofs.Store.FirstWrite
import ChatArchive.Proofs.Store.Retrieval
import ChatArchive.Service.Query

namespace ChatArchive

open Sql StoreM

namespace Sql.Catalog

variable {c c' c'' : Catalog} {n key : String}

def HasKey (c : Catalog) (n key : String) : Prop :=
  ∃ row, c.Holds n row ∧ row.key = some (.text key)

structure Orderly (c : Catalog) : Prop where
  shaped : c.Shaped
  keyed : c.Keyed
  numbered : c.Numbered

def Grows (c c' : Catalog) : Prop := ∀ n row, c.Holds n row → c'.Holds n row

theorem Grows.refl (c : Catalog) : Grows c c := fun _ _ h => h

theorem Grows.trans (h : Grows c c') (h' : Grows c' c'') : Grows c c'' :=
  fun n row hr => h' n row (h n row hr)

theorem HasKey.grows (h : c.HasKey n key) (hg : Grows c c') : c'.HasKey n key := by
  obtain ⟨row, hr, hkey⟩ := h
  exact ⟨row, hg n row hr, hkey⟩

theorem grows_of_change (hc : c.Shaped) (h : Change c c') : Grows c c' := by
  intro n row hr
  cases h with
  | container k hfree => exact holds_withContainer.mpr hr
  | index j ht hf hi hrel => exact holds_withIndex.mpr hr
  | insert ht ps => exact hr.insertInto hc ht ps

theorem grows_of_changes (hc : c.Shaped) (h : Relation.ReflTransGen Change c c') : Grows c c' := by
  induction h with
  | refl => exact Grows.refl c
  | tail hab hbc ih => exact ih.trans (grows_of_change (hc.changes hab) hbc)

end Sql.Catalog

theorem Sql.Catalog.Holding.mem_of_holds {c : Catalog} {n : String} {rows : List Row}
    (h : c.Holding n rows) {row : Row} (hr : c.Holds n row) : row ∈ rows := by
  obtain ⟨t, sql, ht, hn, hrow⟩ := hr
  rw [← h.1 t sql ht hn]
  exact hrow

namespace Write

variable (l : Logger) (w : Write) {s : Store}

theorem keyed_run (hc : s.catalog.Shaped) (hk : s.catalog.Keyed) :
    ((w.run l).on s).2.catalog.Keyed := by
  rcases w.run_cases l s hc with ⟨e, hrun⟩ | ⟨-, e, hrun⟩ | ⟨t, sql, ht, -, hcols, hrun⟩ |
      ⟨hfree, -, -, j, hrun⟩ <;> rw [hrun.catalog]
  · exact hk
  · exact hk.withContainer _ _
  · exact hk.insertInto ht (w.rowOf_head? hcols s.clock)
  · exact ((hk.withContainer _ _).withIndex _ _ j).insertInto
      (List.mem_of_find?_eq_some (s.catalog.relation?_made w.kind hfree _ j))
      (w.rowOf_head? rfl s.clock)

theorem hasKey_of_ok (hc : s.catalog.Shaped) (hk : s.catalog.Keyed) {x : String}
    (h : ((w.run l).on s).1 = .ok x) : ((w.run l).on s).2.catalog.HasKey w.container w.uid := by
  rcases w.run_cases l s hc with ⟨e, hrun⟩ | ⟨-, e, hrun⟩ | ⟨t, sql, ht, htn, hcols, hrun⟩ |
      ⟨hfree, -, -, j, hrun⟩
  · rw [hrun.answer] at h
    cases h
  · rw [hrun.answer] at h
    cases h
  · rw [hrun.catalog, ← htn]
    exact Catalog.holds_key_insertInto hk ht (w.rowOf_head? hcols s.clock)
  · rw [hrun.catalog]
    exact Catalog.holds_key_insertInto ((hk.withContainer _ _).withIndex _ _ j)
      (List.mem_of_find?_eq_some (s.catalog.relation?_made w.kind hfree _ j))
      (w.rowOf_head? rfl s.clock)

theorem leaves_orderly (hs : s.catalog.Orderly) :
    ∃ r c, Leaves (w.run l) s r c ∧ c.Orderly ∧ Catalog.Grows s.catalog c ∧
      ∀ x, r = .ok x → x = w.uid ∧ c.HasKey w.container w.uid := by
  obtain ⟨r, c, hL, hsh, huid⟩ := w.leaves_shaped l hs.shaped
  have hchanges := w.run_changes l hs.shaped
  rw [hL.catalog] at hchanges
  refine ⟨r, c, hL, ⟨hsh, ?_, hs.numbered.changes hchanges⟩,
    Catalog.grows_of_changes hs.shaped hchanges, fun x hx => ⟨huid x hx, ?_⟩⟩
  · rw [← hL.catalog]
    exact w.keyed_run l hs.shaped hs.keyed
  · rw [← hL.catalog]
    exact w.hasKey_of_ok l hs.shaped hs.keyed (hL.answer.trans hx)

end Write

namespace Ingest

variable (l : Logger) (src : Source) (msg : Message) {s : Store}

theorem store_visible (hs : s.catalog.Orderly) :
    ∃ o c, Leaves (store l src msg) s (.ok o) c ∧ c.Orderly ∧ Catalog.Grows s.catalog c ∧
      (∀ x, o.source = .ok x → c.HasKey sourcesContainer src.uid) ∧
      (∀ x, o.message = some (.ok x) → c.HasKey (Container.nameFor src.uid) msg.uid) ∧
      (∀ e, o.source = .error e → o.message = none) := by
  obtain ⟨r, c₁, hs₁, ho₁, hg₁, hkey₁⟩ := (Write.source src).leaves_orderly l hs
  cases r with
  | error e =>
    refine ⟨_, c₁, store_of_source_error hs₁, ho₁, hg₁, fun x hx => ?_, fun x hx => ?_,
      fun _ _ => rfl⟩
    · cases hx
    · cases hx
  | ok x =>
    obtain ⟨rfl, hsrc⟩ := hkey₁ x rfl
    obtain ⟨r, c₂, hst, ho₂, hg₂, hmsg⟩ := store_leaves
      (P := fun r c₂ => c₂.Orderly ∧ Catalog.Grows c₁ c₂ ∧
        ∀ x, r = .ok x → c₂.HasKey (Container.nameFor src.uid) msg.uid) hs₁ fun logs => by
          obtain ⟨r, c₂, hL, ho, hg, hkey⟩ :=
            (Write.message src msg).leaves_orderly l (s := { s with catalog := c₁, logs := logs }) ho₁
          exact ⟨r, c₂, hL, ho, hg, fun x hx => (hkey x hx).2⟩
    refine ⟨_, c₂, hst, ho₂, hg₁.trans hg₂, fun _ _ => hsrc.grows hg₂,
      fun x hx => hmsg x (Option.some.inj hx), fun e he => ?_⟩
    cases he

theorem storeInLane_cancelled :
    Leaves (storeInLane l true src msg) s (.ok (.error .cancelled)) s.catalog := ⟨_, rfl⟩

end Ingest

namespace Lane.Work

def Grows {ρ : Type} (wk : Work Store ρ) : Prop :=
  ∀ cancelled (st : Store), st.catalog.Orderly →
    (wk.run cancelled st).2.catalog.Orderly ∧ Catalog.Grows st.catalog (wk.run cancelled st).2.catalog

end Lane.Work

namespace Service

open Ingest

inductive Queued : Lane.Work Store Reply → Prop
  | store (l : Logger) (stamp : Int) (src : Source) (msg : Message) :
      Queued (storeWork l stamp src msg)
  | sources (l : Logger) (uids : List String) : Queued (sourcesWork l uids)
  | messages (l : Logger) (uid : String) : Queued (messagesWork l uid)

variable (l : Logger) {st : Store}

theorem grows_of_step {α : Type} {m : StoreM α} {r : Except StorageError α}
    (h : Leaves m { st with logs := [] } r st.catalog) (hst : st.catalog.Orderly) :
    (st.step m).2.catalog.Orderly ∧ Catalog.Grows st.catalog (st.step m).2.catalog := by
  rw [(Store.step_of_leaves h).2]
  exact ⟨hst, Catalog.Grows.refl _⟩

theorem sourcesWork_grows (uids : List String) : (sourcesWork l uids).Grows := by
  intro _ st hst
  obtain ⟨r, hr⟩ : ∃ r, Leaves (StoreM.readSources l uids) { st with logs := [] } r st.catalog := by
    cases hhas : st.catalog.hasTable sourcesContainer
    · exact ⟨_, readSources_of_absent l uids hhas⟩
    · by_cases hlen : maxParameter < uids.length
      · exact ⟨_, readSources_of_many l uids hhas hlen⟩
      · obtain ⟨t, sql, ht, hname⟩ := Catalog.hasTable_iff.mp hhas
        obtain ⟨k, sorted, -, -, -, hread⟩ :=
          readSources_of_table (s := { st with logs := [] }) hst.shaped hst.numbered l ht hname
        exact ⟨_, hread uids (Nat.le_of_not_lt hlen)⟩
  exact grows_of_step hr hst

theorem messagesWork_grows (uid : String) : (messagesWork l uid).Grows := by
  intro _ st hst
  obtain ⟨r, hr⟩ : ∃ r, Leaves (StoreM.readMessages l uid) { st with logs := [] } r st.catalog := by
    cases hv : Container.validName (Container.nameFor uid)
    · exact ⟨_, readMessages_of_invalid l uid hv⟩
    · obtain ⟨r, hr, -⟩ :=
        readMessages_of_valid (s := { st with logs := [] }) hst.shaped hst.numbered l uid hv
      exact ⟨r, hr⟩
  exact grows_of_step hr hst

variable (stamp : Int) (src : Source) (msg : Message)

theorem storeWork_world (cancelled : Bool) (st : Store) :
    ((storeWork l stamp src msg).run cancelled st).2 =
      ({ st with clock := stamp }.step (storeInLane l cancelled src msg)).2 := rfl

theorem storeWork_grows : (storeWork l stamp src msg).Grows := by
  intro cancelled st hst
  obtain ⟨r, c, hL, ho, hg⟩ : ∃ r c, Leaves (storeInLane l cancelled src msg)
      { st with clock := stamp, logs := [] } r c ∧ c.Orderly ∧ Catalog.Grows st.catalog c := by
    cases cancelled
    · obtain ⟨o, c, hL, ho, hg, -⟩ := store_visible l src msg (s := { st with clock := stamp, logs := [] }) hst
      exact ⟨_, c, storeInLane_leaves hL, ho, hg⟩
    · exact ⟨_, _, storeInLane_cancelled l src msg, hst, Catalog.Grows.refl _⟩
  rw [storeWork_world, (Store.step_of_leaves (w := { st with clock := stamp }) hL).2]
  exact ⟨ho, hg⟩

theorem storeWork_visible {x : Store} (hx : x.catalog.Orderly) :
    ∃ o, ((storeWork l stamp src msg).run false x).1.1 = .ok (.stored (.ok o)) ∧
      (∀ v, o.source = .ok v →
        ((storeWork l stamp src msg).run false x).2.catalog.HasKey sourcesContainer src.uid) ∧
      (∀ v, o.message = some (.ok v) → ((storeWork l stamp src msg).run false x).2.catalog.HasKey
        (Container.nameFor src.uid) msg.uid) ∧
      (∀ e, o.source = .error e → o.message = none) := by
  obtain ⟨o, c, hL, -, -, hsrc, hmsg, hskip⟩ :=
    store_visible l src msg (s := { x with clock := stamp, logs := [] }) hx
  obtain ⟨hans, hworld⟩ := Store.step_of_leaves (w := { x with clock := stamp }) (storeInLane_leaves hL)
  have hrun : ((storeWork l stamp src msg).run false x).1.1 = .ok (.stored (outcomeOf (.ok (.ok o)))) := by
    rw [← hans]
    rfl
  refine ⟨o, hrun, fun v hv => ?_, fun v hv => ?_, hskip⟩
  · rw [storeWork_world, hworld]
    exact hsrc v hv
  · rw [storeWork_world, hworld]
    exact hmsg v hv

theorem Queued.grows {wk : Lane.Work Store Reply} (h : Queued wk) : wk.Grows := by
  cases h with
  | store l stamp src msg => exact storeWork_grows l stamp src msg
  | sources l uids => exact sourcesWork_grows l uids
  | messages l uid => exact messagesWork_grows l uid

end Service

theorem Sql.Catalog.Keyed.ensureContainer {s : Store} (hk : s.catalog.Keyed) (l : Logger) (n : String)
    (k : ContainerKind) (f : String) : ((ensureContainer l n k f).on s).2.catalog.Keyed := by
  rcases ensureContainer_cases l n k f s with ⟨e, he⟩ | ⟨-, he⟩ | ⟨-, -, -, -, j, he⟩ |
      ⟨-, -, e, he⟩ <;> rw [he.catalog]
  · exact hk
  · exact hk
  · exact (hk.withContainer n k).withIndex _ n j
  · exact hk.withContainer n k

theorem Reached.orderly {s : Store} (h : Reached s) : s.catalog.Orderly := by
  induction h with
  | fresh clock => exact ⟨Catalog.Shaped.empty, Catalog.Keyed.empty, Catalog.Numbered.empty⟩
  | tick clock _ ih => exact ih
  | write l w _ ih =>
    exact ⟨w.shaped_run l ih.shaped, w.keyed_run l ih.shaped ih.keyed,
      ih.numbered.changes (w.run_changes l ih.shaped)⟩
  | ensure l n k f _ ih =>
    exact ⟨ih.shaped.changes (ensureContainer_changes l n k f _), ih.keyed.ensureContainer l n k f,
      ih.numbered.changes (ensureContainer_changes l n k f _)⟩

namespace Lane.System

variable {calls : Nat → Call Store Reply}

theorem replay_grows {xs : List (Nat × Bool)} (h : ∀ p ∈ xs, (calls p.1).work.Grows) {w : Store}
    (hw : w.catalog.Orderly) :
    (replay calls xs w).catalog.Orderly ∧ Catalog.Grows w.catalog (replay calls xs w).catalog := by
  induction xs generalizing w with
  | nil => exact ⟨hw, Catalog.Grows.refl _⟩
  | cons p rest ih =>
    obtain ⟨ho, hg⟩ := h p List.mem_cons_self p.2 w hw
    obtain ⟨ho', hg'⟩ := ih (fun q hq => h q (List.mem_cons_of_mem _ hq)) ho
    exact ⟨ho', hg.trans hg'⟩

-- Over every run of a lane over a store reached by the store's operations, in which every unit
-- the worker starts is one the service queues: when the writes of an update were queued before
-- a read began and the read answers `r`, the writes ran before the read with their context
-- intact, and `r` is what the read gives on the store `y` the writes and the units between left.
-- That store holds the update's source whenever its write was answered, and its message whenever
-- its write was; a refused source ends the writes before the message.
theorem queued_writes_visible {b : Nat} {w : Store} {s₁ s : System Store Reply} (hw : Reached w)
    (h₁ : Steps (init b w) s₁) (h : Steps s₁ s)
    (hunits : ∀ p ∈ s.started, Service.Queued (s.calls p.1).work)
    {j i : Nat} {r : Reply} {l : Logger} {stamp : Int} {src : Source} {msg : Message}
    (hj : (s₁.calls j).caller = .returned .queued)
    (hwork : (s.calls j).work = Service.storeWork l stamp src msg)
    (hi : s₁.count ≤ i) (hk : (s.calls i).kind = .submit)
    (hr : (s.calls i).caller = .returned (.value r)) :
    ∃ pre mid post c o y, s.started = pre ++ (j, false) :: mid ++ (i, c) :: post ∧
      (∀ p ∈ mid, p.2 = false) ∧
      ((s.calls j).work.run false (replay s.calls pre w)).1.1 = .ok (.stored (.ok o)) ∧
      y = replay s.calls mid ((s.calls j).work.run false (replay s.calls pre w)).2 ∧
      Except.ok r = ((s.calls i).work.run c y).1.1 ∧
      (∀ v, o.source = .ok v → y.catalog.HasKey sourcesContainer src.uid) ∧
      (∀ v, o.message = some (.ok v) → y.catalog.HasKey (Container.nameFor src.uid) msg.uid) ∧
      (∀ e, o.source = .error e → o.message = none) := by
  obtain ⟨pre, mid, post, c, he, hmid, hread⟩ := (read_your_writes h₁ h).2.2 hj hi hk hr
  have hgrows : ∀ p ∈ s.started, (s.calls p.1).work.Grows := fun p hp => (hunits p hp).grows
  -- the units before the writes leave the store orderly, and those after them keep its rows
  have hpre := replay_grows (fun p (hp : p ∈ pre) => hgrows p (by simp [he, hp])) hw.orderly
  rw [hwork] at hread ⊢
  obtain ⟨o, hans, hsrc, hmsg, hskip⟩ := Service.storeWork_visible l stamp src msg hpre.1
  have hpost := replay_grows (fun p (hp : p ∈ mid) => hgrows p (by simp [he, hp]))
    ((Service.storeWork_grows l stamp src msg) false _ hpre.1).1
  exact ⟨pre, mid, post, c, o, _, he, hmid, hans, rfl, hread,
    fun v hv => (hsrc v hv).grows hpost.2, fun v hv => (hmsg v hv).grows hpost.2, hskip⟩

end Lane.System

def newsSource : Source := ⟨⟨7⟩, "tg-fromid-42", "News", 42⟩

def newsPost : Message := ⟨⟨7⟩, ⟨1700000007, 0⟩, "tg-fromid-42", "tg-fromid-42-7", "hi", []⟩

namespace Lane.System

def postRun : List (Move Store Reply) :=
  [.bindContext, .run, .begin .enqueue (Service.storeWork Logger.root 0 newsSource newsPost) 0,
    .reserve 0, .send 0]

def readRun : List (Move Store Reply) :=
  [.begin .submit (Service.sourcesWork Logger.root []) 100, .reserve 1, .send 1, .dequeue, .start,
    .finish, .resume, .dequeue, .check, .claim, .start, .finish, .collect 1]

def posted : System Store Reply :=
  ((init 2 (Store.fresh 0)).run postRun).getD (init 2 (Store.fresh 0))

def readAfterPost : System Store Reply := (posted.run readRun).getD posted

theorem post_then_read_sees_it :
    ∃ r, (readAfterPost.calls 1).caller = .returned (.value r) ∧
      ∃ pre mid post c o y, readAfterPost.started = pre ++ (0, false) :: mid ++ (1, c) :: post ∧
        (∀ p ∈ mid, p.2 = false) ∧
        ((readAfterPost.calls 0).work.run false
          (replay readAfterPost.calls pre (Store.fresh 0))).1.1 = .ok (.stored (.ok o)) ∧
        y = replay readAfterPost.calls mid ((readAfterPost.calls 0).work.run false
          (replay readAfterPost.calls pre (Store.fresh 0))).2 ∧
        Except.ok r = ((readAfterPost.calls 1).work.run c y).1.1 ∧
        (∀ v, o.source = .ok v → y.catalog.HasKey sourcesContainer newsSource.uid) ∧
        (∀ v, o.message = some (.ok v) →
          y.catalog.HasKey (Container.nameFor newsSource.uid) newsPost.uid) ∧
        (∀ e, o.source = .error e → o.message = none) := by
  have h₁ : Steps (init 2 (Store.fresh 0)) posted :=
    Steps.of_run (show (init 2 (Store.fresh 0)).run postRun = some posted from rfl)
  have h : Steps posted readAfterPost :=
    Steps.of_run (show posted.run readRun = some readAfterPost from rfl)
  have hunits : ∀ p ∈ readAfterPost.started, Service.Queued (readAfterPost.calls p.1).work := by
    rw [show readAfterPost.started = [(0, false), (1, false)] from rfl]
    intro p hp
    rcases List.mem_pair.mp hp with rfl | rfl
    · exact .store _ _ _ _
    · exact .sources _ _
  exact ⟨_, rfl, queued_writes_visible (.fresh 0) h₁ h hunits rfl rfl
    (show posted.count ≤ 1 by decide) rfl rfl⟩

end Lane.System

def messageAmongSources : Store :=
  (((Write.message ⟨⟨7⟩, "tgv1-sources", "t", 0⟩
    ⟨⟨7⟩, ⟨1700000000, 0⟩, "tgv1-sources", "m1", "x", []⟩).run Logger.root).on (Store.fresh 0)).2

-- There the writes of a channel's post are refused their source and skip the message, and the
-- store they leave has no row of the source's key.
theorem refused_source_not_stored :
    Reached messageAmongSources ∧
    ∃ e, ((Service.storeWork Logger.root 0 newsSource newsPost).run false
        messageAmongSources).1.1 = .ok (.stored (.ok ⟨.error e, none⟩)) ∧
      ¬ ((Service.storeWork Logger.root 0 newsSource newsPost).run false
        messageAmongSources).2.catalog.HasKey sourcesContainer newsSource.uid := by
  obtain ⟨-, htr⟩ := message_into_sources
  refine ⟨.write _ _ (.fresh 0), ?_⟩
  -- the sources' container holds messages, so the source write is refused and changes nothing
  obtain ⟨t, sql, ht, hname, hcols, -⟩ := (htr.table.resolve_left fun h => nomatch h.2)
  obtain ⟨e, hsrc⟩ := (Write.source newsSource).run_of_other_kind Logger.root
    (s := { messageAmongSources with clock := 0, logs := [] }) htr.shaped ht hname hcols
    (by decide)
  have hstore : Leaves (Ingest.store Logger.root newsSource newsPost) _ _ _ :=
    Ingest.store_of_source_error hsrc
  obtain ⟨hans, hworld⟩ := Store.step_of_leaves (w := { messageAmongSources with clock := 0 })
    (Ingest.storeInLane_leaves hstore)
  refine ⟨e, ?_, ?_⟩
  · show _ = Except.ok (Reply.stored (Service.outcomeOf (.ok (.ok ⟨.error e, none⟩))))
    rw [← hans]
    rfl
  · rw [Service.storeWork_world, hworld]
    -- the one row there is the message's, whose key is not the source's
    rintro ⟨row, hrow, hkey⟩
    obtain ⟨rows, hh, hvals⟩ := htr.rows
    have hmem := (Write.mem_keys_iff hvals newsSource.uid).mp ⟨row, hh.mem_of_holds hrow, hkey⟩
    simp [Write.uid, newsSource] at hmem

end ChatArchive
