import Mathlib
import ChatArchive.Lane.Queue

namespace ChatArchive.Lane.Sim

variable {ω ρ : Type}

-- A lane that takes work and has none: bound and ready, not cancelled, open, its worker in its
-- loop with nothing to run, no unit waiting and nothing scheduled.
structure Idle (s : Sim ω ρ) : Prop where
  phase : s.phase = .ready
  bound : s.bound = true
  rootLive : s.rootCancelled = false
  contextLive : s.contextCancelled = false
  senderOpen : s.senderOpen = true
  receiver : s.receiver = .taken
  buffer : s.buffer = []
  loop : ∃ e, s.loop = some ⟨e, none⟩
  scheduled : s.scheduled = none
  backlog : 0 < s.backlog

theorem Idle.intake {s : Sim ω ρ} (h : s.Idle) : s.intake = .ok () := by
  simp [Sim.intake, h.phase, h.senderOpen, h.receiver]

theorem Idle.hasRoom {s : Sim ω ρ} (h : s.Idle) : s.hasRoom = true := by
  simp [Sim.hasRoom, h.buffer, h.backlog]

theorem Idle.report {s : Sim ω ρ} (h : s.Idle) (records : List LogRecord) :
    (s.report records).Idle :=
  ⟨h.phase, h.bound, h.rootLive, h.contextLive, h.senderOpen, h.receiver, h.buffer, h.loop,
    h.scheduled, h.backlog⟩

def queued (s : Sim ω ρ) (w : Work ω ρ) : Sim ω ρ :=
  { s with
    tickets := s.tickets ++ [⟨none, .pending, .waiting⟩]
    buffer := [⟨w, some s.tickets.length⟩] }

-- The lane after the worker ran the queued unit, which gave `v`, reported `recs` and left the
-- world `world`; the worker has taken one more unit.
def served (s : Sim ω ρ) (e : Nat) (v : ρ) (recs : List LogRecord) (world : ω) : Sim ω ρ :=
  { s with
    tickets := s.tickets ++ [⟨none, .pending, .value v⟩]
    loop := some ⟨e + 1, none⟩
    world := world
    logs := s.logs ++ recs }

theorem enqueueWithReply_of_idle {s : Sim ω ρ} (h : s.Idle) (w : Work ω ρ) :
    s.enqueueWithReply w = (.ok s.tickets.length, s.queued w) := by
  simp [enqueueWithReply, h.intake, waitForRoom, h.hasRoom, h.receiver, queued, h.buffer]

theorem Idle.served {s : Sim ω ρ} (h : s.Idle) (e : Nat) (v : ρ) (recs : List LogRecord)
    (world : ω) : (s.served e v recs world).Idle :=
  ⟨h.phase, h.bound, h.rootLive, h.contextLive, h.senderOpen, h.receiver, h.buffer,
    ⟨e + 1, rfl⟩, h.scheduled, h.backlog⟩

theorem modify_append_length {α : Type} (l : List α) (x : α) (f : α → α) :
    (l ++ [x]).modify l.length f = l ++ [f x] := by
  induction l with
  | nil => rfl
  | cons y l ih => simp [List.modify_succ_cons, ih]

theorem progress_queued {s : Sim ω ρ} (h : s.Idle) {e : Nat} (hl : s.loop = some ⟨e, none⟩)
    (w : Work ω ρ) :
    (s.queued w).progress = some { s with
      tickets := s.tickets ++ [⟨none, .pending, .waiting⟩]
      buffer := []
      loop := some ⟨e + 1, some (⟨w, some s.tickets.length⟩, s.now + w.duration)⟩ } := by
  simp only [progress, queued, hl, cancelled, h.rootLive, h.contextLive, Bool.or_false,
    Bool.false_eq_true, ↓reduceIte]
  simp only [startJob, deadlineOf, List.getElem?_append_right (Nat.le_refl _), Nat.sub_self,
    List.getElem?_cons_zero, Option.bind_some]

theorem progress_begun {s : Sim ω ρ} (h : s.Idle) {e : Nat} {w : Work ω ρ} (hd : w.duration = 0)
    {v : ρ} {recs : List LogRecord} {world : ω}
    (hrun : w.run false s.world = ((.ok v, recs), world)) :
    ({ s with
      tickets := s.tickets ++ [⟨none, .pending, .waiting⟩]
      buffer := []
      loop := some ⟨e + 1, some (⟨w, some s.tickets.length⟩, s.now + w.duration)⟩ } :
        Sim ω ρ).progress = some (s.served e v recs world) := by
  simp only [progress, hd, Nat.add_zero, le_refl, ↓reduceIte, finishJob, cancelled, h.rootLive,
    h.contextLive, Bool.or_false, hrun, report, deliver, modify_append_length]
  simp only [served, h.rootLive, h.contextLive, h.buffer]

theorem progress_served {s : Sim ω ρ} (h : s.Idle) (e : Nat) (v : ρ) (recs : List LogRecord)
    (world : ω) : (s.served e v recs world).progress = none := by
  simp only [progress, served, cancelled, h.rootLive, h.contextLive, Bool.or_false,
    Bool.false_eq_true, ↓reduceIte, h.buffer, h.senderOpen]

theorem settle_queued {s : Sim ω ρ} (h : s.Idle) {e : Nat} (hl : s.loop = some ⟨e, none⟩)
    {w : Work ω ρ} (hd : w.duration = 0) {v : ρ} {recs : List LogRecord} {world : ω}
    (hrun : w.run false s.world = ((.ok v, recs), world)) (fuel : Nat) :
    (s.queued w).settle (fuel + 3) = s.served e v recs world := by
  simp only [settle, progress_queued h hl w, progress_begun h hd hrun, progress_served h]

theorem awaitReply_queued {s : Sim ω ρ} (h : s.Idle) {e : Nat} (hl : s.loop = some ⟨e, none⟩)
    {w : Work ω ρ} (hd : w.duration = 0) {v : ρ} {recs : List LogRecord} {world : ω}
    (hrun : w.run false s.world = ((.ok v, recs), world)) :
    (s.queued w).awaitReply s.tickets.length none = (some v, s.served e v recs world) := by
  have hdel : (s.served e v recs world).delivered s.tickets.length = true := by
    simp [delivered, deliveryOf, served]
  have hq : ({ s.queued w with scheduled := none } : Sim ω ρ) = s.queued w := by
    simp only [queued, h.scheduled]
  have hfire : (s.queued w).fire = s.queued w := by
    simp only [fire, queued, h.scheduled]
  have hs : ({ s.served e v recs world with scheduled := none } : Sim ω ρ) =
      s.served e v recs world := by
    simp only [served, h.scheduled]
  have hbuf : (s.queued w).buffer.length = 1 := rfl
  simp only [awaitReply, Option.map_none, hq, waitFuel, hbuf, wait, hfire,
    settle_queued h hl hd hrun, hdel, ↓reduceIte, hs]
  simp [deliveryOf, served]

theorem Idle.pass_eq {s : Sim ω ρ} (h : s.Idle) : s.pass = s := by
  obtain ⟨e, hl⟩ := h.loop
  have hfire : s.fire = s := by simp [fire, h.scheduled]
  have hprog : s.progress = none := by
    simp [progress, hl, cancelled, h.rootLive, h.contextLive, h.buffer, h.senderOpen]
  rw [pass, hfire, h.buffer]
  simp [settle, hprog]

end ChatArchive.Lane.Sim
