import Mathlib
import ChatArchive.Proofs.Ingest.Archive
import ChatArchive.Proofs.Ingest.Records
import ChatArchive.Proofs.Service.Ingest

namespace ChatArchive

open Sql StoreM

namespace StoreM

variable {α β : Type} {m : StoreM α} {s : Store} {c : Catalog}

theorem Leaves.attempt {r : Except StorageError α} (h : Leaves m s r c) :
    Leaves (StoreM.attempt m) s (.ok r) c := by
  obtain ⟨logs, h⟩ := h
  refine ⟨logs, ?_⟩
  rw [on_attempt, h]
  cases r <;> rfl

theorem Leaves.bind_exists {f : α → StoreM β} {a : α}
    {P : Except StorageError β → Catalog → Prop} (h : Leaves m s (.ok a) c)
    (hf : ∀ logs, ∃ r c', Leaves (f a) { s with catalog := c, logs := logs } r c' ∧ P r c') :
    ∃ r c', Leaves (m >>= f) s r c' ∧ P r c' := by
  obtain ⟨logs, hm⟩ := h
  obtain ⟨r, c', ⟨logs', hf'⟩, hp⟩ := hf logs
  exact ⟨r, c', ⟨logs', by rw [on_bind, hm]; exact hf'⟩, hp⟩

theorem leaves_note (l : Logger) (level : Level) (kind message : String) (fields : List Field) :
    Leaves (note l level kind message fields) s (.ok ()) s.catalog := ⟨_, rfl⟩

theorem leaves_pure (a : α) : Leaves (pure a : StoreM α) s (.ok a) s.catalog := ⟨s.logs, rfl⟩

end StoreM

theorem Store.step_of_leaves {α : Type} {m : StoreM α} {w : Store} {r : Except StorageError α}
    {c : Catalog} (h : Leaves m { w with logs := [] } r c) :
    (w.step m).1.1 = r ∧ (w.step m).2 = { w with catalog := c, logs := [] } := by
  obtain ⟨logs, h⟩ := h
  simp only [Store.step]
  rw [show (m.run).run { w with logs := [] } = _ from h]
  exact ⟨rfl, rfl⟩

theorem StoreOutcome.isStored_iff (a : Except StorageError String)
    (r : Except StorageError String) :
    (⟨a, some r⟩ : StoreOutcome).isStored = true ↔ (∃ x, a = .ok x) ∧ ∃ x, r = .ok x := by
  cases a <;> cases r <;> simp [isStored]

namespace Ingest

def messageWrite (src : Source) (msg : Message) : List Write :=
  if !msg.flags.isInvalid && Container.validName (Container.nameFor src.uid) then
    [.message src msg]
  else []

-- The writes an update asks the store for, with the directory `d`: for a message of a
-- conversation in the directory whose source is not marked invalid, the source and then the
-- message's write. Other updates ask for none.
def writesOf (p : Profile) (d : Directory) : Update → List Write
  | .message m =>
    match d.resolve m.peer with
    | .ok peer =>
      if (p.sourceOf peer).flags.isInvalid then []
      else .source (p.sourceOf peer) ::
        messageWrite (p.sourceOf peer) (p.messageOf m (p.sourceOf peer))
    | .error _ => []
  | .service _ => []
  | .unsupported _ => []

structure Ledger where
  directory : Directory
  kept : List (Write × Int)
  readings : Nat

-- The ledger after one more line, with `clock` the clock's successive readings. An update that
-- asks for writes reads the clock once, and its writes are made at that time.
def Ledger.take (p : Profile) (clock : Nat → Int) (g : Ledger) : FeedLine → Ledger
  | .peer peer => { g with directory := (g.directory.insert peer).2 }
  | .event u =>
    if writesOf p g.directory u = [] then g
    else { g with kept := (writesOf p g.directory u).foldl (Write.keepFirstAt (clock g.readings)) g.kept,
                  readings := g.readings + 1 }

def Paired (p : Profile) (ws : List Write) : Prop :=
  ∀ src msg, Write.message src msg ∈ ws →
    (∃ a b : Int, src.uid = p.sourceUid a ∧ msg.uid = src.uid ++ "-" ++ toString b) ∧
      Write.keptIn ws (.source src) = true

variable {p : Profile} {d : Directory} {u : Update} {m : TextMessage} {peer : Peer}

theorem Paired.keepFirst_source {ws : List Write} (h : Paired p ws) (src : Source) :
    Paired p (Write.keepFirst ws (.source src)) := by
  intro src' msg' hmem
  rcases Write.mem_keepFirst hmem with hmem | hne
  · exact ⟨(h src' msg' hmem).1, Write.keptIn_keepFirst (h src' msg' hmem).2 _⟩
  · cases hne

theorem Paired.keepFirst_message {ws : List Write} (h : Paired p ws) {src : Source} {msg : Message}
    (hshape : ∃ a b : Int, src.uid = p.sourceUid a ∧ msg.uid = src.uid ++ "-" ++ toString b)
    (hsrc : Write.keptIn ws (.source src) = true) :
    Paired p (Write.keepFirst ws (.message src msg)) := by
  intro src' msg' hmem
  rcases Write.mem_keepFirst hmem with hmem | heq
  · exact ⟨(h src' msg' hmem).1, Write.keptIn_keepFirst (h src' msg' hmem).2 _⟩
  · cases heq
    exact ⟨hshape, Write.keptIn_keepFirst hsrc _⟩

theorem writesOf_of_resolve (hres : d.resolve m.peer = .ok peer)
    (hsv : (p.sourceOf peer).flags.isInvalid = false) :
    writesOf p d (.message m) = .source (p.sourceOf peer) ::
      messageWrite (p.sourceOf peer) (p.messageOf m (p.sourceOf peer)) := by
  simp [writesOf, hres, hsv]

theorem exists_of_writesOf_ne_nil (h : writesOf p d u ≠ []) :
    ∃ m peer, u = .message m ∧ d.resolve m.peer = .ok peer ∧
      (p.sourceOf peer).flags.isInvalid = false := by
  cases u with
  | message m =>
    cases hres : d.resolve m.peer with
    | error e => simp [writesOf, hres] at h
    | ok peer =>
      cases hsv : (p.sourceOf peer).flags.isInvalid
      · exact ⟨m, peer, rfl, hres, hsv⟩
      · simp [writesOf, hres, hsv] at h
  | service _ => exact absurd rfl h
  | unsupported _ => exact absurd rfl h

theorem prepare_of_writesOf_nil (h : writesOf p d u = []) (l : Logger) :
    ∃ e, (prepare p d l u).1 = .error e := by
  cases u with
  | message m =>
    cases hres : d.resolve m.peer with
    | error e => exact ⟨.resolve e, by simp [prepare, hres]⟩
    | ok peer =>
      cases hsv : (p.sourceOf peer).flags.isInvalid
      · simp [writesOf, hres, hsv] at h
      · exact ⟨.invalidSource m.peer, by simp [prepare, hres, hsv]⟩
  | service _ => exact ⟨_, rfl⟩
  | unsupported _ => exact ⟨_, rfl⟩

theorem source_valid_of_message (p : Profile) {m : TextMessage} {src : Source}
    (h : (p.messageOf m src).flags.isInvalid = false) : src.flags.isInvalid = false := by
  rw [p.messageOf_flags] at h
  split at h
  · exact h
  · simp at h

theorem prepare_of_resolve (hres : d.resolve m.peer = .ok peer)
    (hsv : (p.sourceOf peer).flags.isInvalid = false) (l : Logger) :
    (prepare p d l (.message m)).1 = .ok (p.sourceOf peer, p.messageOf m (p.sourceOf peer)) := by
  simp [prepare, hres, hsv]

theorem Paired.foldl_writesOf {ws : List Write} (h : Paired p ws) (d : Directory) (u : Update) :
    Paired p ((writesOf p d u).foldl Write.keepFirst ws) := by
  by_cases hnil : writesOf p d u = []
  · rw [hnil]
    exact h
  · obtain ⟨m, peer, rfl, hres, hsv⟩ := exists_of_writesOf_ne_nil hnil
    obtain ⟨id, hid⟩ := p.sourceOf_uid hsv
    rw [writesOf_of_resolve hres hsv, List.foldl_cons]
    have h₁ := h.keepFirst_source (p.sourceOf peer)
    unfold messageWrite
    split
    · exact h₁.keepFirst_message ⟨id, m.id, hid, rfl⟩ (Write.keptIn_keepFirst_self _ _)
    · exact h₁

theorem Ledger.take_of_writesOf (clock : Nat → Int) (g : Ledger) (hne : writesOf p g.directory u ≠ []) :
    g.take p clock (.event u) = { g with
      kept := (writesOf p g.directory u).foldl (Write.keepFirstAt (clock g.readings)) g.kept,
      readings := g.readings + 1 } := if_neg hne

theorem Paired.take {g : Ledger} (h : Paired p (g.kept.map Prod.fst)) (clock : Nat → Int)
    (x : FeedLine) : Paired p ((g.take p clock x).kept.map Prod.fst) := by
  cases x with
  | peer peer => exact h
  | event u =>
    by_cases hnil : writesOf p g.directory u = []
    · rw [show g.take p clock (.event u) = g from if_pos hnil]
      exact h
    · rw [Ledger.take_of_writesOf clock g hnil, Write.map_fst_foldl_keepFirstAt]
      exact h.foldl_writesOf g.directory u

section Writes

variable {l : Logger} {src : Source} {msg : Message} {s : Store} {c₁ : Catalog}
  {ws : List (Write × Int)}

theorem store_leaves {P : Except StorageError String → Catalog → Prop}
    (hs : Leaves ((Write.source src).run l) s (.ok src.uid) c₁)
    (hm : ∀ logs, ∃ r c₂, Leaves ((Write.message src msg).run l)
      { s with catalog := c₁, logs := logs } r c₂ ∧ P r c₂) :
    ∃ r c₂, Leaves (store l src msg) s (.ok ⟨.ok src.uid, some r⟩) c₂ ∧ P r c₂ := by
  obtain ⟨R, c₂, hR, r, rfl, hP⟩ : ∃ R c₂, Leaves (store l src msg) s R c₂ ∧
      ∃ r, R = .ok ⟨.ok src.uid, some r⟩ ∧ P r c₂ := by
    unfold store
    refine hs.attempt.bind_exists fun logs => (leaves_note _ _ _ _ _).bind_exists fun logs' => ?_
    obtain ⟨r, c₂, hr, hP⟩ := hm logs'
    refine ⟨_, c₂, hr.attempt.bind fun _ => ?_, r, rfl, hP⟩
    cases r <;> exact (leaves_note _ _ _ _ _).bind fun _ => leaves_pure _
  exact ⟨r, c₂, hR, hP⟩

theorem storeInLane_leaves {o : StoreOutcome} {c : Catalog}
    (h : Leaves (store l src msg) s (.ok o) c) :
    Leaves (storeInLane l false src msg) s (.ok (.ok o)) c := by
  unfold storeInLane
  simp only [Bool.false_eq_true, ↓reduceIte]
  refine h.bind fun logs => ?_
  cases o.isStored
  · exact (leaves_note _ _ _ _ _).bind fun _ => leaves_pure _
  · exact leaves_pure _

theorem store_of_source_error {e : StorageError}
    (hs : Leaves ((Write.source src).run l) s (.error e) c₁) :
    Leaves (store l src msg) s (.ok ⟨.error e, none⟩) c₁ := by
  unfold store
  exact hs.attempt.bind fun _ => (leaves_note _ _ _ _ _).bind fun _ => leaves_pure _

theorem store_of_reserved (l : Logger) (hc : s.catalog.Shaped)
    (hr : isReservedName (Container.nameFor src.uid) = true) :
    ∃ o c, Leaves (store l src msg) s (.ok o) c ∧ o.isStored = false ∧ c.Shaped := by
  obtain ⟨r, c₁, hs, hsh, huid⟩ := (Write.source src).leaves_shaped l hc
  cases r with
  | error e => exact ⟨_, _, store_of_source_error hs, rfl, hsh⟩
  | ok x =>
    obtain rfl := huid x rfl
    obtain ⟨r, c₂, hst, ⟨e, rfl⟩, hsh₂⟩ := store_leaves
      (P := fun r c => (∃ e, r = .error e) ∧ c.Shaped) hs fun logs => by
        obtain ⟨e, he⟩ := Write.run_of_reserved l (Write.message src msg)
          (s := { s with catalog := c₁, logs := logs }) hsh hr
        exact ⟨_, _, he, ⟨e, rfl⟩, hsh⟩
    exact ⟨_, c₂, hst, rfl, hsh₂⟩

variable (hstem : isReservedName p.stem = false)
include hstem

theorem message_keeps (l : Logger) (h : s.catalog.Keeps p ws)
    (hsrc : ∃ id, src.uid = p.sourceUid id) (hsv : src.flags.isInvalid = false)
    (hsu : msg.sourceUid = src.uid) (hmu : msg.uid.isEmpty = false) :
    ∃ r c₂, Leaves ((Write.message src msg).run l) s r c₂ ∧
      c₂.Keeps p ((messageWrite src msg).foldl (Write.keepFirstAt s.clock) ws) ∧
      ((∃ x, r = .ok x) ↔ messageWrite src msg ≠ []) ∧
      ((∀ x ∈ messageWrite src msg, Write.keptIn (ws.map Prod.fst) x = true) →
        c₂ = s.catalog) := by
  obtain ⟨id, hid⟩ := hsrc
  have hfit := Write.fits_message hid msg
  unfold messageWrite
  by_cases hc : (!msg.flags.isInvalid && Container.validName (Container.nameFor src.uid)) = true
  · rw [if_pos hc]
    simp only [Bool.and_eq_true, Bool.not_eq_true'] at hc
    obtain ⟨c₂, hw, hk, hsame⟩ := Write.keeps_run l h hfit ⟨hsv, hc.1, hmu, hsu⟩ hc.2
      (Profile.Names.isReservedName hfit hstem)
    exact ⟨_, c₂, hw, hk, ⟨fun _ => List.cons_ne_nil _ _, fun _ => ⟨_, rfl⟩⟩,
      fun hall => hsame (hall _ List.mem_cons_self)⟩
  · rw [if_neg hc]
    -- a message marked invalid, or without a valid container name, changes nothing
    obtain ⟨e, he⟩ : ∃ e, Leaves ((Write.message src msg).run l) s (.error e) s.catalog := by
      by_cases hv : (Write.message src msg).Valid
      · refine Write.run_of_invalid_name l hv ?_
        show Container.validName (Container.nameFor src.uid) = false
        simpa [hv.2.1] using hc
      · obtain ⟨e, he⟩ := Write.run_of_not_valid l hv
        exact ⟨e, he s⟩
    refine ⟨_, _, he, h, ⟨fun hx => ?_, fun hne => absurd rfl hne⟩, fun _ => rfl⟩
    obtain ⟨x, hx⟩ := hx
    cases hx

theorem storeInLane_keeps (l : Logger) (h : s.catalog.Keeps p ws)
    (hsrc : ∃ id, src.uid = p.sourceUid id) (hsv : src.flags.isInvalid = false)
    (hsu : msg.sourceUid = src.uid) (hmu : msg.uid.isEmpty = false) :
    ∃ o c₂, Leaves (storeInLane l false src msg) s (.ok (.ok o)) c₂ ∧
      c₂.Keeps p ((.source src :: messageWrite src msg).foldl (Write.keepFirstAt s.clock) ws) ∧
      (o.isStored = true ↔ messageWrite src msg ≠ []) ∧
      ((∀ x ∈ Write.source src :: messageWrite src msg, Write.keptIn (ws.map Prod.fst) x = true) →
        c₂ = s.catalog) := by
  obtain ⟨id, hid⟩ := hsrc
  have hvalid : (Write.source src).Valid := ⟨hsv, by rw [hid]; exact p.sourceUid_isEmpty id⟩
  obtain ⟨c₁, hs, hk₁, hsame₁⟩ := Write.keeps_run (w := .source src) l h rfl hvalid
    (show Container.validName sourcesContainer = true by decide)
    (show isReservedName sourcesContainer = false by decide)
  obtain ⟨r, c₂, hst, hk₂, hok, hsame₂⟩ := store_leaves
    (P := fun r c₂ => c₂.Keeps p ((messageWrite src msg).foldl (Write.keepFirstAt s.clock)
        (Write.keepFirstAt s.clock ws (.source src))) ∧
      ((∃ x, r = .ok x) ↔ messageWrite src msg ≠ []) ∧
      ((∀ x ∈ messageWrite src msg,
        Write.keptIn ((Write.keepFirstAt s.clock ws (.source src)).map Prod.fst) x = true) →
        c₂ = c₁)) hs
    fun logs => message_keeps hstem l (s := { s with catalog := c₁, logs := logs }) hk₁
      ⟨id, hid⟩ hsv hsu hmu
  refine ⟨_, c₂, storeInLane_leaves hst, hk₂, ?_, fun hall => ?_⟩
  · rw [StoreOutcome.isStored_iff, ← hok]
    exact ⟨fun h => h.2, fun h => ⟨⟨_, rfl⟩, h⟩⟩
  · -- the source is kept, so its write changed nothing, and then neither did the message's
    have hkept := hall _ List.mem_cons_self
    rw [Write.keepFirstAt_of_keptIn hkept] at hsame₂
    rw [hsame₂ fun x hx => hall x (List.mem_cons_of_mem _ hx), hsame₁ hkept]

end Writes

end Ingest

namespace Service

open Ingest

def take (s : Service) : FeedLine → Service
  | .peer peer => (s.remember peer).2
  | .event u => (s.ingest u none).2

-- The service holds what the ledger `g` asks of the archive of `p`, with `clock` its clock's
-- readings: its lane is idle, its directory and its count of readings are the ledger's, and its
-- database keeps the ledger's writes.
structure Follows (p : Profile) (clock : Nat → Int) (g : Ledger) (s : Service) : Prop where
  idle : s.lane.Idle
  profile : s.setup.profile = p
  clock : s.setup.clock = clock
  directory : s.directory = g.directory
  readings : s.readings = g.readings
  keeps : s.lane.world.catalog.Keeps p g.kept
  paired : Paired p (g.kept.map Prod.fst)

variable {p : Profile} {clock : Nat → Int} {g : Ledger} {s : Service} {u : Update}

theorem prepare_eq (s : Service) (u : Update) :
    ∃ l t, s.prepare u = (((Ingest.prepare s.setup.profile s.directory l u).1, l), t) ∧
      t.setup = s.setup ∧ t.directory = s.directory ∧ t.readings = s.readings ∧
      ∃ records, t.lane = s.lane.report records :=
  ⟨_, _, rfl, rfl, rfl, rfl, _, rfl⟩

theorem ingest_of_prepare_error (h : s.lane.Idle)
    (he : ∀ l, ∃ e, (Ingest.prepare s.setup.profile s.directory l u).1 = .error e) :
    (∃ e, (s.ingest u none).1 = .error e) ∧ (s.ingest u none).2.lane.world = s.lane.world ∧
      (s.ingest u none).2.setup = s.setup ∧ (s.ingest u none).2.directory = s.directory ∧
      (s.ingest u none).2.readings = s.readings ∧ (s.ingest u none).2.lane.Idle := by
  obtain ⟨n, hl⟩ := h.loop
  obtain ⟨l, t, hp, hset, hdir, hread, records, hlane⟩ := prepare_eq s u
  obtain ⟨e, he⟩ := he l
  rw [ingest_of_idle h hl, hp, he]
  refine ⟨⟨e, rfl⟩, ?_, hset, hdir, hread, ?_⟩
  · show t.lane.world = s.lane.world
    rw [hlane]
    rfl
  · show t.lane.Idle
    rw [hlane]
    exact h.report records

theorem ingest_of_prepare_ok (h : s.lane.Idle) {src : Source} {msg : Message}
    {P : StoreOutcome → Catalog → Prop}
    (hp : ∀ l, (Ingest.prepare s.setup.profile s.directory l u).1 = .ok (src, msg))
    (hw : ∀ l, ∃ o c, Leaves (Ingest.storeInLane l false src msg)
      { s.lane.world with clock := s.setup.clock s.readings, logs := [] } (.ok (.ok o)) c ∧
        P o c) :
    ∃ o c, (s.ingest u none).1 = .ok o ∧
      (s.ingest u none).2.lane.world =
        { s.lane.world with catalog := c, clock := s.setup.clock s.readings, logs := [] } ∧
      P o c ∧ (s.ingest u none).2.setup = s.setup ∧
      (s.ingest u none).2.directory = s.directory ∧
      (s.ingest u none).2.readings = s.readings + 1 ∧ (s.ingest u none).2.lane.Idle := by
  obtain ⟨n, hl⟩ := h.loop
  obtain ⟨l, t, hpr, hset, hdir, hread, records, hlane⟩ := prepare_eq s u
  have hworld : ({ t.lane.world with clock := t.setup.clock t.readings } : Store) =
      { s.lane.world with clock := s.setup.clock s.readings } := by
    rw [hlane, hset, hread]
    rfl
  obtain ⟨o, c, hwl, hP⟩ := hw l
  have hwl' : Leaves (Ingest.storeInLane l false src msg)
      { ({ t.lane.world with clock := t.setup.clock t.readings } : Store) with logs := [] }
      (.ok (.ok o)) c := by
    rw [hworld]
    exact hwl
  obtain ⟨hr, hs⟩ := Store.step_of_leaves hwl'
  rw [ingest_of_idle h hl, hpr, hp l]
  rcases hX : ({ t.lane.world with clock := t.setup.clock t.readings } : Store).step
    (Ingest.storeInLane l false src msg) with ⟨⟨r, recs⟩, world⟩
  rw [hX] at hr hs
  simp only at hr hs
  subst hr hs
  simp only [settleUpdate, readClock, hX]
  refine ⟨o, c, rfl, ?_, hP, hset, hdir, by rw [← hread], (hlane ▸ h.report records).served _ _ _ _⟩
  show ({ ({ t.lane.world with clock := t.setup.clock t.readings } : Store) with
    catalog := c, logs := [] } : Store) = _
  rw [hworld]

namespace Follows

variable (h : Follows p clock g s)
include h

theorem step {g' : Ledger} {t : Service} (hidle : t.lane.Idle) (hset : t.setup = s.setup)
    (hdir : t.directory = s.directory) (hg : g'.directory = g.directory)
    (hread : t.readings = g'.readings) (hk : t.lane.world.catalog.Keeps p g'.kept)
    (hp : Paired p (g'.kept.map Prod.fst)) : Follows p clock g' t :=
  ⟨hidle, hset ▸ h.profile, hset ▸ h.clock, by rw [hdir, h.directory, hg], hread, hk, hp⟩

theorem remember (peer : Peer) :
    Follows p clock (g.take p clock (.peer peer)) (s.take (.peer peer)) where
  idle := remember_idle h.idle peer
  profile := h.profile
  clock := h.clock
  directory := by
    show (s.directory.insert peer).2 = (g.directory.insert peer).2
    rw [h.directory]
  readings := h.readings
  keeps := h.keeps
  paired := h.paired

theorem ingest_ignored (hnil : writesOf p g.directory u = []) :
    Follows p clock (g.take p clock (.event u)) (s.take (.event u)) ∧
      (s.ingest u none).2.lane.world = s.lane.world ∧
      (s.ingest u none).2.directory = s.directory := by
  have he : ∀ l, ∃ e, (Ingest.prepare s.setup.profile s.directory l u).1 = .error e := by
    rw [h.profile, h.directory]
    exact prepare_of_writesOf_nil hnil
  obtain ⟨-, hworld, hset, hdir, hread, hidle⟩ := ingest_of_prepare_error h.idle he
  have hg : g.take p clock (.event u) = g := if_pos hnil
  have hk : (s.ingest u none).2.lane.world.catalog.Keeps p g.kept := by
    rw [hworld]
    exact h.keeps
  refine ⟨?_, hworld, hdir⟩
  rw [hg]
  exact h.step hidle hset hdir rfl (hread.trans h.readings) hk h.paired

theorem source_kept {src : Source} {msg : Message} {id b : Int} (hid : src.uid = p.sourceUid id)
    (hmu : msg.uid = src.uid ++ "-" ++ toString b)
    (hkept : Write.keptIn (g.kept.map Prod.fst) (.message src msg) = true) :
    Write.keptIn (g.kept.map Prod.fst) (.source src) = true := by
  obtain ⟨y, hy, hyc, hyu⟩ : ∃ y ∈ g.kept.map Prod.fst, y.container = Container.nameFor src.uid ∧
      y.uid = msg.uid := by
    simpa [Write.keptIn, Write.container, Write.uid] using hkept
  cases y with
  | source src' =>
    -- the sources are not the container of a conversation
    have hsame := Profile.Names.eq_of_sameName (show p.Names .sources sourcesContainer from rfl)
      (Write.fits_message hid msg)
      (by rw [show sourcesContainer = _ from hyc]; exact sameName_refl _)
    cases hsame.1
  | message src' msg' =>
    obtain ⟨⟨a, b', ha, hb'⟩, hks⟩ := h.paired src' msg' hy
    have huid : src'.uid = src.uid := by
      have hkey : msg'.uid = msg.uid := hyu
      rw [hb', hmu, ha, hid] at hkey
      rw [ha, hid]
      exact p.sourceUid_eq_of_message_uid hkey
    have hcongr : Write.keptIn (g.kept.map Prod.fst) (.source src) =
        Write.keptIn (g.kept.map Prod.fst) (.source src') :=
      Write.keptIn_congr _ rfl huid.symm
    rw [hcongr]
    exact hks

variable (hstem : isReservedName p.stem = false)
include hstem

theorem ingest_message {m : TextMessage} {peer : Peer}
    (hres : g.directory.resolve m.peer = .ok peer)
    (hsv : (p.sourceOf peer).flags.isInvalid = false) :
    Follows p clock (g.take p clock (.event (.message m))) (s.take (.event (.message m))) ∧
      ∃ o, (s.ingest (.message m) none).1 = .ok o ∧
        (o.isStored = true ↔
          messageWrite (p.sourceOf peer) (p.messageOf m (p.sourceOf peer)) ≠ []) ∧
        ((∀ x ∈ writesOf p g.directory (.message m), Write.keptIn (g.kept.map Prod.fst) x = true) →
          (s.ingest (.message m) none).2.lane.world.catalog = s.lane.world.catalog) := by
  obtain ⟨id, hid⟩ := p.sourceOf_uid hsv
  have hp : ∀ l, (Ingest.prepare s.setup.profile s.directory l (.message m)).1 =
      .ok (p.sourceOf peer, p.messageOf m (p.sourceOf peer)) := by
    rw [h.profile, h.directory]
    exact prepare_of_resolve hres hsv
  have hmu : (p.messageOf m (p.sourceOf peer)).uid.isEmpty = false := by
    simp [Profile.messageOf_uid]
  obtain ⟨o, c, hi, hworld, ⟨hk, hstored, hsame⟩, hset, hdir, hread, hidle⟩ :=
    ingest_of_prepare_ok h.idle hp
    (P := fun o c => c.Keeps p
        ((.source (p.sourceOf peer) :: messageWrite (p.sourceOf peer)
          (p.messageOf m (p.sourceOf peer))).foldl (Write.keepFirstAt (s.setup.clock s.readings))
            g.kept) ∧
      (o.isStored = true ↔ messageWrite (p.sourceOf peer) (p.messageOf m (p.sourceOf peer)) ≠ []) ∧
      ((∀ x ∈ Write.source (p.sourceOf peer) ::
          messageWrite (p.sourceOf peer) (p.messageOf m (p.sourceOf peer)),
          Write.keptIn (g.kept.map Prod.fst) x = true) → c = s.lane.world.catalog))
    fun l => storeInLane_keeps
      (s := { s.lane.world with clock := s.setup.clock s.readings, logs := [] }) hstem l h.keeps
      ⟨id, hid⟩ hsv rfl hmu
  have hne : writesOf p g.directory (.message m) ≠ [] := by
    rw [writesOf_of_resolve hres hsv]
    exact List.cons_ne_nil _ _
  have hstamp : clock g.readings = s.setup.clock s.readings := by rw [h.clock, h.readings]
  have hg := Ledger.take_of_writesOf clock g hne
  rw [writesOf_of_resolve hres hsv, hstamp] at hg
  refine ⟨?_, o, hi, hstored, fun hall => ?_⟩
  · have hk' : (s.ingest (.message m) none).2.lane.world.catalog.Keeps p
        (g.take p clock (.event (.message m))).kept := by
      rw [hworld, hg]
      exact hk
    have hread' : (s.ingest (.message m) none).2.readings =
        (g.take p clock (.event (.message m))).readings := by
      rw [hread, hg, h.readings]
    exact h.step hidle hset hdir (by rw [hg]) hread' hk' (h.paired.take clock _)
  · rw [hworld]
    exact hsame (writesOf_of_resolve hres hsv ▸ hall)

theorem take (x : FeedLine) : Follows p clock (g.take p clock x) (s.take x) := by
  cases x with
  | peer peer => exact h.remember peer
  | event u =>
    by_cases hnil : writesOf p g.directory u = []
    · exact (h.ingest_ignored hnil).1
    · obtain ⟨m, peer, rfl, hres, hsv⟩ := exists_of_writesOf_ne_nil hnil
      exact (h.ingest_message hstem hres hsv).1

theorem foldl (lines : List FeedLine) :
    Follows p clock (lines.foldl (Ledger.take p clock) g) (lines.foldl Service.take s) := by
  induction lines generalizing g s with
  | nil => exact h
  | cons x rest ih => exact ih (h.take hstem x)

end Follows

theorem Follows.start (hidle : s.lane.Idle) (hempty : s.lane.world.catalog = Catalog.empty) :
    Follows s.setup.profile s.setup.clock ⟨s.directory, [], s.readings⟩ s where
  idle := hidle
  profile := rfl
  clock := rfl
  directory := rfl
  readings := rfl
  keeps := hempty ▸ Catalog.Keeps.empty _
  paired _ _ h := absurd h List.not_mem_nil

-- Lines taken one after another by a service with an idle lane and an empty database, under a
-- profile whose names are not kept for the database. Each container of the profile then holds
-- one row of each write kept for it, in order, made at the reading of the clock its update took:
-- of the writes the updates asked for, the first of each key. A next update of no conversation in the directory changes neither the store nor
-- the directory. A next message not marked invalid, of a conversation in the directory, is
-- stored exactly when its container's name is valid; when a message of its key is kept already,
-- it is reported stored and the database stays as it was.
theorem redelivery_keeps_first (s : Service) (lines : List FeedLine) (u : Update)
    (hidle : s.lane.Idle) (hempty : s.lane.world.catalog = Catalog.empty)
    (hstem : isReservedName s.setup.profile.stem = false) :
    let p := s.setup.profile
    let t := lines.foldl take s
    let kept := (lines.foldl (Ledger.take p s.setup.clock) ⟨s.directory, [], s.readings⟩).kept
    (∀ k n, p.Names k n → ∃ rows, t.lane.world.catalog.Holding n rows ∧
      rows.map Row.values = (kept.filter (·.1.container == n)).map fun x => x.1.values x.2) ∧
    ((∀ m, u = .message m → ∀ peer, t.directory.resolve m.peer ≠ .ok peer) →
      (t.ingest u none).2.lane.world = t.lane.world ∧
        (t.ingest u none).2.directory = t.directory) ∧
    (∀ m peer, u = .message m → t.directory.resolve m.peer = .ok peer →
      (p.messageOf m (p.sourceOf peer)).flags.isInvalid = false →
      ∃ o, (t.ingest u none).1 = .ok o ∧
        o.isStored = Container.validName (Container.nameFor (p.sourceOf peer).uid) ∧
        (Write.keptIn (kept.map Prod.fst)
            (.message (p.sourceOf peer) (p.messageOf m (p.sourceOf peer))) = true →
          o.isStored = true ∧ (t.ingest u none).2.lane.world.catalog = t.lane.world.catalog)) := by
  intro p t kept
  have hf := (Follows.start hidle hempty).foldl hstem lines
  refine ⟨fun k n hkn => ?_, fun hnone => ?_, fun m peer hu hres hmsg => ?_⟩
  · exact (hf.keeps.tracks k n hkn).rows
  · have hnil : writesOf p
        (lines.foldl (Ledger.take p s.setup.clock) ⟨s.directory, [], s.readings⟩).directory u = [] := by
      by_contra hne
      obtain ⟨m, peer, rfl, hres, -⟩ := exists_of_writesOf_ne_nil hne
      exact hnone m rfl peer (hf.directory ▸ hres)
    exact (hf.ingest_ignored hnil).2
  · subst hu
    rw [hf.directory] at hres
    have hsv := source_valid_of_message p hmsg
    obtain ⟨id, hid⟩ := p.sourceOf_uid hsv
    obtain ⟨-, o, hi, hstored, hsame⟩ := hf.ingest_message hstem hres hsv
    -- the message asks for its write exactly when its container's name is valid
    have hwrite : messageWrite (p.sourceOf peer) (p.messageOf m (p.sourceOf peer)) ≠ [] ↔
        Container.validName (Container.nameFor (p.sourceOf peer).uid) = true := by
      simp [messageWrite, hmsg]
    refine ⟨o, hi, Bool.eq_iff_iff.mpr (hstored.trans hwrite), fun hkept => ?_⟩
    have hvalid : Container.validName (Container.nameFor (p.sourceOf peer).uid) = true :=
      Write.validName_of_keptIn (w := .message (p.sourceOf peer) (p.messageOf m (p.sourceOf peer)))
        hf.keeps (Write.fits_message hid _) hkept
    refine ⟨hstored.mpr (hwrite.mpr hvalid), hsame fun x hx => ?_⟩
    rw [writesOf_of_resolve hres hsv] at hx
    rcases List.mem_cons.mp hx with rfl | hx
    · exact hf.source_kept hid rfl hkept
    · simp only [messageWrite, hmsg, hvalid, Bool.not_false, Bool.and_self, ↓reduceIte,
        List.mem_singleton] at hx
      rw [hx]
      exact hkept

-- A fresh Telegram service: a channel entered, then a post of it delivered twice. The second
-- delivery is reported stored and leaves the database as it was.
theorem redelivered_post_changes_nothing :
    (Service.create ⟨Profile.telegram, 16, 5000, 30000, false, fun n => n⟩ (.fixed "x")).lane.Idle ∧
    (Service.create ⟨Profile.telegram, 16, 5000, 30000, false, fun n => n⟩ (.fixed "x")).lane.world.catalog =
      Catalog.empty ∧
    isReservedName Profile.telegram.stem = false ∧
    ∃ o, (([.peer (.channel 42 "News" none),
        .event (.message ⟨7, 1700000007, .channel 42, "hi", true, none⟩)].foldl take
          (Service.create ⟨Profile.telegram, 16, 5000, 30000, false, fun n => n⟩ (.fixed "x"))).ingest
            (.message ⟨7, 1700000007, .channel 42, "hi", true, none⟩) none).1 = .ok o ∧
      o.isStored = true ∧
      (([.peer (.channel 42 "News" none),
        .event (.message ⟨7, 1700000007, .channel 42, "hi", true, none⟩)].foldl take
          (Service.create ⟨Profile.telegram, 16, 5000, 30000, false, fun n => n⟩ (.fixed "x"))).ingest
            (.message ⟨7, 1700000007, .channel 42, "hi", true, none⟩) none).2.lane.world.catalog =
        ([.peer (.channel 42 "News" none),
          .event (.message ⟨7, 1700000007, .channel 42, "hi", true, none⟩)].foldl take
            (Service.create ⟨Profile.telegram, 16, 5000, 30000, false, fun n => n⟩
              (.fixed "x"))).lane.world.catalog := by
  have hidle :
      (Service.create ⟨Profile.telegram, 16, 5000, 30000, false, fun n => n⟩ (.fixed "x")).lane.Idle :=
    ⟨by decide, by decide, by decide, by decide, by decide, by decide, by decide, ⟨1, rfl⟩, rfl,
      by decide⟩
  have hstem : isReservedName Profile.telegram.stem = false := by decide +kernel
  have hf := (Follows.start hidle rfl).foldl hstem [.peer (.channel 42 "News" none),
    .event (.message ⟨7, 1700000007, .channel 42, "hi", true, none⟩)]
  obtain ⟨o, hi, -, hkept⟩ := (redelivery_keeps_first _ [.peer (.channel 42 "News" none),
    .event (.message ⟨7, 1700000007, .channel 42, "hi", true, none⟩)]
    (.message ⟨7, 1700000007, .channel 42, "hi", true, none⟩) hidle rfl hstem).2.2
    ⟨7, 1700000007, .channel 42, "hi", true, none⟩ (.channel 42 "News" none) rfl
    (by rw [hf.directory]; rfl) (by decide +kernel)
  exact ⟨hidle, rfl, hstem, o, hi, hkept (by decide +kernel)⟩

theorem ingest_of_reserved_stem (h : s.lane.Idle) (hc : s.lane.world.catalog.Shaped)
    (hstem : isReservedName s.setup.profile.stem = true) {m : TextMessage} {peer : Peer}
    (hres : s.directory.resolve m.peer = .ok peer)
    (hsv : (s.setup.profile.sourceOf peer).flags.isInvalid = false) :
    ∃ o, (s.ingest (.message m) none).1 = .ok o ∧ o.isStored = false ∧
      (s.ingest (.message m) none).2.lane.world.catalog.Shaped ∧
      (s.ingest (.message m) none).2.lane.Idle ∧
      (s.ingest (.message m) none).2.directory = s.directory ∧
      (s.ingest (.message m) none).2.setup = s.setup := by
  obtain ⟨id, hid⟩ := s.setup.profile.sourceOf_uid hsv
  have hr : isReservedName (Container.nameFor (s.setup.profile.sourceOf peer).uid) = true := by
    rw [hid, Profile.nameFor_sourceUid, Profile.isReservedName_stem_append, hstem]
  obtain ⟨o, c, hi, hworld, ⟨hst, hsh⟩, hset, hdir, -, hidle⟩ := ingest_of_prepare_ok h
    (prepare_of_resolve hres hsv) (P := fun o c => o.isStored = false ∧ c.Shaped) fun l => by
      have hstore : ∃ o c, Leaves (store l (s.setup.profile.sourceOf peer)
          (s.setup.profile.messageOf m (s.setup.profile.sourceOf peer)))
          { s.lane.world with clock := s.setup.clock s.readings, logs := [] } (.ok o) c ∧
          o.isStored = false ∧ c.Shaped :=
        store_of_reserved l hc hr
      obtain ⟨o, c, hl, hst, hsh⟩ := hstore
      exact ⟨o, c, storeInLane_leaves hl, hst, hsh⟩
  exact ⟨o, hi, hst, by rw [hworld]; exact hsh, hidle, hdir, hset⟩

-- With the uid prefix `sqlite_x`, whose container names pass the name check, a post of a
-- channel entered in the directory, delivered twice to a fresh service, is reported stored
-- neither time.
theorem reserved_prefix_never_stores :
    Container.validName (Container.nameFor
      (Profile.sourceUid ⟨"sqlite_x", "https://t.me", Flags.telegram⟩ 42)) = true ∧
    ∃ o o', (((Service.create ⟨⟨"sqlite_x", "https://t.me", Flags.telegram⟩, 16, 5000, 30000, false,
        fun n => n⟩ (.fixed "x")).take (.peer (.channel 42 "News" none))).ingest
          (.message ⟨7, 1700000007, .channel 42, "hi", false, none⟩) none).1 = .ok o ∧
      o.isStored = false ∧
      ((((Service.create ⟨⟨"sqlite_x", "https://t.me", Flags.telegram⟩, 16, 5000, 30000, false,
        fun n => n⟩ (.fixed "x")).take (.peer (.channel 42 "News" none))).take
          (.event (.message ⟨7, 1700000007, .channel 42, "hi", false, none⟩))).ingest
            (.message ⟨7, 1700000007, .channel 42, "hi", false, none⟩) none).1 = .ok o' ∧
      o'.isStored = false := by
  have hidle : (Service.create ⟨⟨"sqlite_x", "https://t.me", Flags.telegram⟩, 16, 5000, 30000,
      false, fun n => n⟩ (.fixed "x")).lane.Idle :=
    ⟨by decide, by decide, by decide, by decide, by decide, by decide, by decide, ⟨1, rfl⟩, rfl,
      by decide⟩
  have hstem :
      isReservedName (Profile.stem ⟨"sqlite_x", "https://t.me", Flags.telegram⟩) = true := by
    decide +kernel
  have hsv : (Profile.sourceOf ⟨"sqlite_x", "https://t.me", Flags.telegram⟩
      (.channel 42 "News" none)).flags.isInvalid = false := by decide
  obtain ⟨o, hi, hst, hsh, hidle', hdir, hset⟩ := ingest_of_reserved_stem
    (remember_idle hidle (.channel 42 "News" none))
    Catalog.Shaped.empty hstem (m := ⟨7, 1700000007, .channel 42, "hi", false, none⟩) rfl hsv
  obtain ⟨o', hi', hst', -⟩ := ingest_of_reserved_stem hidle' hsh (by rw [hset]; exact hstem)
    (m := ⟨7, 1700000007, .channel 42, "hi", false, none⟩) (by rw [hdir]; rfl)
    (by rw [hset]; exact hsv)
  exact ⟨by decide +kernel, o, o', hi, hst, hi', hst'⟩

end Service

end ChatArchive
