import Mathlib
import ChatArchive.Proofs.Lane.Idle
import ChatArchive.Proofs.Store.Statements
import ChatArchive.Service.Ingest

namespace ChatArchive

namespace StoreM

theorem on_map {α β : Type} (f : α → β) (m : StoreM α) (s : Store) :
    (f <$> m).on s = match m.on s with
      | (.ok a, s') => (.ok (f a), s')
      | (.error e, s') => (.error e, s') := by
  simp only [on, ExceptT.run_map, StateT.run_map]
  rcases (m.run).run s with ⟨_ | _, s'⟩ <;> rfl

end StoreM

namespace Ingest

open StoreM

theorem store_on (l : Logger) (source : Source) (message : Message) (s : Store) :
    ∃ o s', (store l source message).on s = (.ok o, s') := by
  simp only [store, on_bind, on_attempt]
  rcases (writeSource l source).on s with ⟨_ | sourceId, s1⟩
  · simp [on_map, on_note]
  · simp only [on_bind, on_note, on_attempt]
    rcases (writeMessage l source message).on _ with ⟨_ | _, s2⟩ <;> simp [on_map, on_note]

theorem storeInLane_on (l : Logger) (source : Source) (message : Message) (s : Store) :
    ∃ o s', (storeInLane l false source message).on s = (.ok (.ok o), s') := by
  obtain ⟨o, s', h⟩ := store_on l source message s
  simp only [storeInLane, Bool.false_eq_true, ↓reduceIte, on_bind, h]
  cases o.isStored <;> exact ⟨o, _, rfl⟩

end Ingest

namespace Directory

theorem insert_fst (d : Directory) (p : Peer) : (d.insert p).1 = p.ref := by
  unfold insert
  split
  · simp_all
  · split <;> simp_all

theorem resolve_eq (d : Directory) (r : PeerRef) :
    d.resolve r = match (d.entries.find? (·.1 == r)).map Prod.snd with
      | some p => .ok p
      | none => .error (.notFound r) := by
  unfold resolve
  cases d.entries.find? (·.1 == r) <;> rfl

theorem find?_insert (d : Directory) (p : Peer) (r : PeerRef) :
    ((d.insert p).2.entries.find? (·.1 == r)).map Prod.snd =
      if p.ref = some r then some p else (d.entries.find? (·.1 == r)).map Prod.snd := by
  unfold insert
  cases hp : p.ref with
  | none => simp
  | some ref =>
    by_cases hany : d.entries.any (·.1 == ref) = true
    · -- the entry of `ref` is replaced in place, and every entry keeps its reference
      have hkeep : ∀ e : PeerRef × Peer,
          ((if e.1 == ref then (ref, p) else e).1 == r) = (e.1 == r) := by
        intro e
        split <;> simp_all
      simp only [hany, ↓reduceIte, List.find?_map, Option.some.injEq]
      rw [show ((fun x : PeerRef × Peer => x.1 == r) ∘ fun e => if e.1 == ref then (ref, p) else e) =
        fun x => x.1 == r from funext hkeep]
      cases hf : d.entries.find? (·.1 == r) with
      | none =>
        -- `ref` has an entry, so it is not `r`
        rw [List.find?_eq_none] at hf
        obtain ⟨e, he, hr⟩ := List.any_eq_true.mp hany
        have hne : ref ≠ r := fun h => hf e he (h ▸ hr)
        simp [hne]
      | some e =>
        have he : e.1 = r := by simpa using List.find?_some hf
        by_cases hr : ref = r
        · simp [he, hr]
        · simp [he, hr, Ne.symm hr]
    · -- a new entry goes last, and `ref` had none
      simp only [hany, Bool.false_eq_true, ↓reduceIte, List.find?_append, Option.some.injEq]
      by_cases hr : ref = r
      · subst hr
        have hnone : d.entries.find? (·.1 == ref) = none := by
          rw [List.find?_eq_none]
          intro e he hr
          exact hany (List.any_eq_true.mpr ⟨e, he, hr⟩)
        simp [hnone]
      · simp [hr]

theorem resolve_insert (d : Directory) (p : Peer) (r : PeerRef) :
    (d.insert p).2.resolve r = if p.ref = some r then .ok p else d.resolve r := by
  rw [resolve_eq, resolve_eq, find?_insert]
  by_cases hp : p.ref = some r <;> simp [hp]

theorem resolve_foldl_insert (ps : List Peer) (d : Directory) (r : PeerRef) :
    (ps.foldl (fun d p => (d.insert p).2) d).resolve r =
      match (ps.filter (·.ref == some r)).getLast? with
      | some p => .ok p
      | none => d.resolve r := by
  induction ps generalizing d with
  | nil => rfl
  | cons p rest ih =>
    rw [List.foldl_cons, ih, resolve_insert]
    by_cases hp : p.ref = some r
    · cases hl : (rest.filter (·.ref == some r)).getLast? <;> simp [hp, hl, List.getLast?_cons]
    · simp [hp]

end Directory

namespace Service

variable {s : Service}

def outcomeOf (r : Except StorageError (Except IngestError StoreOutcome)) :
    Except IngestError StoreOutcome :=
  match r with
  | .ok o => o
  | .error e => .ok ⟨.error e, none⟩

theorem storeWork_run (l : Logger) (stamp : Int) (source : Source) (message : Message)
    (store : Store) :
    (storeWork l stamp source message).run false store =
      let t := { store with clock := stamp }
      ((.ok (.stored (outcomeOf (t.step (Ingest.storeInLane l false source message)).1.1)),
        (t.step (Ingest.storeInLane l false source message)).1.2),
        (t.step (Ingest.storeInLane l false source message)).2) := rfl

theorem outcomeOf_storeInLane (l : Logger) (source : Source) (message : Message)
    (store : Store) :
    ∃ o, outcomeOf (store.step (Ingest.storeInLane l false source message)).1.1 = .ok o := by
  obtain ⟨o, s', h⟩ := Ingest.storeInLane_on l source message { store with logs := [] }
  refine ⟨o, ?_⟩
  simp only [Store.step]
  rw [show (Ingest.storeInLane l false source message).run.run { store with logs := [] } =
    (.ok (.ok o), s') from h]
  rfl

theorem prepare_lane (s : Service) (u : Update) :
    ∃ records, (s.prepare u).2.lane = s.lane.report records := ⟨_, rfl⟩

theorem prepare_ne_lane (p : Profile) (d : Directory) (l : Logger) (u : Update) (e : LaneError) :
    (Ingest.prepare p d l u).1 ≠ .error (.lane e) := by
  unfold Ingest.prepare
  split
  · simp
  · simp
  · split
    · simp
    · simp only
      split <;> simp

-- What an update comes to on an idle lane whose worker has taken `n` units, from the caller's
-- half: the writes run at once, and their outcome is the reply.
def settleUpdate (n : Nat) :
    (Except IngestError (Source × Message) × Logger) × Service →
      Except IngestError StoreOutcome × Service
  | ((.error err, _), t) => (.error err, t)
  | ((.ok (source, message), l), t) =>
    let (stamp, t) := t.readClock
    let ((r, recs), world) :=
      { t.lane.world with clock := stamp }.step (Ingest.storeInLane l false source message)
    (outcomeOf r, { t with lane := t.lane.served n (.stored (outcomeOf r)) recs world })

theorem ingest_of_idle (h : s.lane.Idle) {n : Nat} (hl : s.lane.loop = some ⟨n, none⟩)
    (u : Update) : s.ingest u none = settleUpdate n (s.prepare u) := by
  obtain ⟨records, hlane⟩ := s.prepare_lane u
  rcases hp : s.prepare u with ⟨⟨r, l⟩, t⟩
  rw [hp] at hlane
  have ht : t.lane.Idle := hlane ▸ h.report records
  have htl : t.lane.loop = some ⟨n, none⟩ := by rw [hlane]; exact hl
  cases r with
  | error err => simp only [ingest, hp, settleUpdate]
  | ok records =>
    obtain ⟨source, message⟩ := records
    simp only [ingest, hp, settleUpdate, readClock, Lane.Sim.enqueueWithReply_of_idle ht,
      Option.map_none, Lane.Sim.awaitReply_queued ht htl rfl
        (storeWork_run l (t.setup.clock t.readings) source message t.lane.world)]

theorem ingest_idle (h : s.lane.Idle) (u : Update) :
    (∀ e, (s.ingest u none).1 ≠ .error (.lane e)) ∧ (s.ingest u none).2.lane.Idle ∧
      (s.ingest u none).2.directory = s.directory := by
  obtain ⟨n, hl⟩ := h.loop
  obtain ⟨records, hlane⟩ := s.prepare_lane u
  rw [ingest_of_idle h hl]
  rcases hp : s.prepare u with ⟨⟨r, l⟩, t⟩
  simp only [settleUpdate, readClock]
  rw [hp] at hlane
  have ht : t.lane.Idle := hlane ▸ h.report records
  have hd : t.directory = s.directory := by
    have := congrArg (fun x => x.2.directory) hp
    simpa [prepare, freshId, report] using this.symm
  cases r with
  | error err =>
    refine ⟨fun e he => ?_, ht, hd⟩
    have := congrArg (fun x => x.1.1) hp
    simp only [prepare] at this
    exact prepare_ne_lane _ _ _ u e (this.trans (by simpa using he))
  | ok records =>
    obtain ⟨source, message⟩ := records
    obtain ⟨o, ho⟩ := outcomeOf_storeInLane l source message
      { t.lane.world with clock := t.setup.clock t.readings }
    refine ⟨fun e he => ?_, ht.served _ _ _ _, hd⟩
    simp only [ho] at he
    cases he

theorem remember_fst (s : Service) (p : Peer) : (s.remember p).1 = p.ref :=
  s.directory.insert_fst p

theorem remember_idle (h : s.lane.Idle) (p : Peer) : (s.remember p).2.lane.Idle := h

def quiet (s : Service) : Service := { s with lane := { s.lane with logs := [] } }

theorem quiet_idle (h : s.lane.Idle) : s.quiet.lane.Idle :=
  ⟨h.phase, h.bound, h.rootLive, h.contextLive, h.senderOpen, h.receiver, h.buffer, h.loop,
    h.scheduled, h.backlog⟩

theorem settleUpdate_quiet (n : Nat) (x : Except IngestError (Source × Message) × Logger)
    (t : Service) :
    ((settleUpdate n (x, t.quiet)).1, (settleUpdate n (x, t.quiet)).2.quiet) =
      ((settleUpdate n (x, t)).1, (settleUpdate n (x, t)).2.quiet) := by
  rcases x with ⟨_ | ⟨source, message⟩, l⟩ <;> rfl

theorem ingest_quiet (h : s.lane.Idle) (u : Update) :
    ((s.quiet.ingest u none).1, (s.quiet.ingest u none).2.quiet) =
      ((s.ingest u none).1, (s.ingest u none).2.quiet) := by
  obtain ⟨n, hl⟩ := h.loop
  rw [ingest_of_idle h hl, ingest_of_idle (quiet_idle h) hl]
  have h1 : (s.quiet.prepare u).1 = (s.prepare u).1 := rfl
  have h2 : (s.quiet.prepare u).2.quiet = (s.prepare u).2.quiet := rfl
  rw [← settleUpdate_quiet, h1, h2, settleUpdate_quiet]

end Service

end ChatArchive
