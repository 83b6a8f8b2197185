import Mathlib
import ChatArchive.Proofs.Lane.Steps

namespace ChatArchive.Lane

variable {ω ρ : Type}

def CallerAt.waits : CallerAt ρ → Bool
  | .sending | .waiting | .resolving => true
  | _ => false

-- The call `c'` shows the worker what `c` showed it: the same work, reply, kind and unit.
def Call.Shows (c' c : Call ω ρ) : Prop :=
  c'.work = c.work ∧ c'.reply = c.reply ∧ c'.kind = c.kind ∧ c'.unit = c.unit

-- What the caller of a call sees of it.
def Call.side (c : Call ω ρ) : CallKind × Work ω ρ × Nat × CallerAt ρ × Bool × Bool :=
  (c.kind, c.work, c.timeout, c.caller, c.cancelled, c.reserved)

namespace System

variable {s : System ω ρ} {i : Nat}

theorem next_start_of (hw : s.worker = .running i) (hs : (s.calls i).startable = true) :
    s.next .start = some (s.launch i) := by
  simp [next, hw, hs]

theorem next_finish_of (hw : s.worker = .running i) {r : Except String ρ}
    (hu : (s.calls i).unit = .running r) :
    s.next .finish = some (s.update i fun c =>
      { c with unit := .ended, outcome := some r, reply := Delivery.ofOutcome r }) := by
  simp [next, hw, hu]

theorem next_resume_of (hw : s.worker = .running i) (hu : (s.calls i).unit = .ended) :
    s.next .resume =
      some ({ s with worker := .idle }.update i fun c => { c with unit := .finished }) := by
  simp [next, hw, hu]

theorem next_exit_of (hw : s.worker = .idle)
    (hc : s.cancelled = true ∨ s.fifo = [] ∧ s.senderOpen = false) :
    s.next .dequeue = some s.exit := by
  rcases hc with hc | ⟨hf, ho⟩
  · simp [next, hw, hc]
  · cases hc : s.cancelled <;> simp [next, hw, hc, hf, ho]

-- The worker takes the call `i` off the front of the channel, leaving `rest`.
def took (s : System ω ρ) (i : Nat) (rest : List Nat) : System ω ρ :=
  { s with
    fifo := rest
    permits := s.permits + 1
    taken := s.taken ++ [i]
    executed := s.executed + 1
    worker := .running i }.update i fun c => { c with unit := .taken }

theorem next_take_of (hw : s.worker = .idle) (hc : s.cancelled = false) {rest : List Nat}
    (hf : s.fifo = i :: rest) : s.next .dequeue = some (s.took i rest) := by
  simp [next, hw, hc, hf, took]

@[simp] theorem took_calls (rest : List Nat) (j : Nat) :
    (s.took i rest).calls j = if j = i then { s.calls i with unit := .taken } else s.calls j := by
  simp [took]

theorem next_expire_of (hi : i < s.count) (hl : (s.calls i).late = false) :
    s.next (.expire i) = some (s.update i fun c => { c with late := true }) := by
  simp [next, hi, hl]

theorem next_check_of (hw : s.worker = .running i) (hu : (s.calls i).unit = .taken)
    (hk : (s.calls i).kind = .submit) :
    s.next .check = some (if (s.calls i).late then s.update i (fun c => { c with
        claim := (c.claim.cas .pending .expired).2
        unit := .ended
        reply := .dropped })
      else s.update i fun c => { c with unit := .checked }) := by
  cases hl : (s.calls i).late <;> simp [next, hw, hu, hk, hl]

theorem next_claim_of (hw : s.worker = .running i) (hu : (s.calls i).unit = .checked) :
    s.next .claim = some (if (s.calls i).claim = .pending then
        s.update i (fun c => { c with claim := .running, unit := .claimed })
      else s.update i fun c => { c with unit := .ended, reply := .dropped }) := by
  cases hc : (s.calls i).claim <;> simp [next, hw, hu, hc, Claim.cas]

theorem update_self (f : Call ω ρ → Call ω ρ) (h : f (s.calls i) = s.calls i) : s.update i f = s := by
  unfold update
  congr
  funext j
  split <;> simp_all

-- The moves the lane takes by itself while its callers wait: the worker's, a stop, and the
-- deadline of the unit the worker holds passing.
def LaneMove (s : System ω ρ) : Move ω ρ → Prop
  | .stop | .dequeue | .check | .claim | .start | .finish | .resume => True
  | .expire i => s.worker = .running i
  | _ => False

inductive Settles : System ω ρ → System ω ρ → Prop
  | refl (s : System ω ρ) : Settles s s
  | tail {s t u : System ω ρ} (m : Move ω ρ) : Settles s t → t.LaneMove m → t.next m = some u →
      Settles s u

theorem Settles.steps {t : System ω ρ} (h : Settles s t) : Steps s t := by
  induction h with
  | refl => exact .refl _
  | tail m _ _ hn ih => exact .tail m ih hn

theorem Settles.trans {t u : System ω ρ} (h₁ : Settles s t) (h₂ : Settles t u) : Settles s u := by
  induction h₂ with
  | refl => exact h₁
  | tail m _ hm hn ih => exact .tail m ih hm hn

-- The deadline of the unit the worker holds can pass at any time: the step is taken, or it
-- passed already.
theorem settles_late (hw : s.worker = .running i) (hi : i < s.count) :
    Settles s (s.update i fun c => { c with late := true }) := by
  cases hl : (s.calls i).late
  · exact .tail (.expire i) (.refl s) hw (next_expire_of hi hl)
  · rw [update_self _ (by simp [← hl])]
    exact .refl s

theorem settles_halt (s : System ω ρ) : Settles s s.halt := by
  by_cases hp : s.phase = .stopped
  · have : s.halt = s := by simp [halt, hp]
    rw [this]
    exact .refl s
  · exact .tail .stop (.refl s) trivial (by simp [next, hp])

theorem cas_pending_of {c x : Claim} (h : (c.cas .pending x).2 = .pending) : c = .pending := by
  unfold Claim.cas at h
  split at h <;> simp_all

-- The lane's own steps leave each caller's side of its call alone, and a call out of the
-- worker's reach, neither queued nor held by it, alone entirely.
structure Frame (s t : System ω ρ) : Prop where
  count : t.count = s.count
  side : ∀ j, (t.calls j).side = (s.calls j).side
  outside : ∀ j, j ∉ s.fifo → s.worker ≠ .running j →
    t.calls j = s.calls j ∧ j ∉ t.fifo ∧ t.worker ≠ .running j
  pending : ∀ j, (t.calls j).claim = .pending → (s.calls j).claim = .pending

theorem Frame.refl (s : System ω ρ) : Frame s s :=
  ⟨rfl, fun _ => rfl, fun _ hf hw => ⟨rfl, hf, hw⟩, fun _ h => h⟩

theorem Frame.trans {t u : System ω ρ} (h₁ : Frame s t) (h₂ : Frame t u) : Frame s u := by
  refine ⟨h₂.count.trans h₁.count, fun j => (h₂.side j).trans (h₁.side j), fun j hf hw => ?_,
    fun j hj => h₁.pending j (h₂.pending j hj)⟩
  obtain ⟨hc, hf', hw'⟩ := h₁.outside j hf hw
  obtain ⟨hc', hf'', hw''⟩ := h₂.outside j hf' hw'
  exact ⟨hc'.trans hc, hf'', hw''⟩

-- A step that changes the call the worker holds and no other.
theorem Frame.held {t : System ω ρ} (hw : s.worker = .running i) (hcount : t.count = s.count)
    (hfifo : t.fifo = s.fifo) (hworker : t.worker = s.worker ∨ t.worker = .idle)
    (hcalls : ∀ j, j ≠ i → t.calls j = s.calls j) (hside : (t.calls i).side = (s.calls i).side)
    (hclaim : (t.calls i).claim = .pending → (s.calls i).claim = .pending) : Frame s t := by
  refine ⟨hcount, fun j => ?_, fun j hf hj => ?_, fun j => ?_⟩
  · by_cases hji : j = i
    · rw [hji]
      exact hside
    · rw [hcalls j hji]
  · have hji : j ≠ i := fun h => hj (h ▸ hw)
    refine ⟨hcalls j hji, hfifo ▸ hf, ?_⟩
    rcases hworker with h | h <;> rw [h]
    · exact hj
    · simp
  · by_cases hji : j = i
    · rw [hji]
      exact hclaim
    · rw [hcalls j hji]
      exact id

theorem halt_shape : s.halt.count = s.count ∧ (s.halt.fifo = s.fifo ∨ s.halt.fifo = []) := by
  unfold halt
  split
  · exact ⟨rfl, .inl rfl⟩
  · dsimp only
    split
    · exact ⟨rfl, .inr rfl⟩
    · exact ⟨rfl, .inl rfl⟩

theorem frame_halt : Frame s s.halt := by
  refine ⟨halt_shape.1, fun j => ?_, fun j hf hw => ?_, fun j => ?_⟩
  · rcases halt_calls_eq (s := s) (j := j) with h | ⟨-, h⟩ <;> simp [h, Call.side]
  · rcases halt_calls_eq (s := s) (j := j) with h | ⟨hj, -⟩
    · refine ⟨h, ?_, by simpa using hw⟩
      rcases halt_shape (s := s).2 with h' | h' <;> simp [h', hf]
    · exact absurd hj hf
  · rcases halt_calls_eq (s := s) (j := j) with h | ⟨-, h⟩ <;> simp [h]

theorem frame_exit : Frame s s.exit := by
  have hfifo : s.exit.fifo = [] := by
    show s.dropQueued.halt.fifo = []
    rcases halt_shape (s := s.dropQueued).2 with h | h
    · rw [h]
      rfl
    · exact h
  refine ⟨(halt_shape (s := s.dropQueued)).1, fun j => ?_, fun j hf hw => ⟨?_, by simp [hfifo],
    by simp [exit]⟩, fun j => ?_⟩
  · by_cases hj : j ∈ s.fifo <;> simp [hj, Call.side]
  · simp [hf]
  · by_cases hj : j ∈ s.fifo <;> simp [hj]

theorem frame_took {rest : List Nat} (hf : s.fifo = i :: rest) : Frame s (s.took i rest) := by
  refine ⟨rfl, fun j => ?_, fun j hj hw => ?_, fun j => ?_⟩
  · by_cases hji : j = i <;> simp [hji, Call.side]
  · have hji : j ≠ i := fun h => hj (by simp [hf, h])
    refine ⟨by simp [hji], fun h => hj (hf ▸ List.mem_cons_of_mem _ h), by simp [took, Ne.symm hji]⟩
  · by_cases hji : j = i <;> simp [hji]

theorem frame_of_next {m : Move ω ρ} {t : System ω ρ} (hm : s.LaneMove m) (hn : s.next m = some t) :
    Frame s t := by
  cases m with
  | stop =>
    obtain ⟨-, rfl⟩ := next_stop hn
    exact frame_halt
  | dequeue =>
    obtain ⟨-, ⟨-, rfl⟩ | ⟨-, -, -, rfl⟩ | ⟨-, j, rest, hf, rfl⟩⟩ := next_dequeue hn
    · exact frame_exit
    · exact frame_exit
    · exact frame_took hf
  | expire j =>
    obtain ⟨-, -, rfl⟩ := next_expire hn
    exact Frame.held hm rfl rfl (.inl rfl) (fun k hk => by simp [hk]) (by simp [Call.side])
      (by simp)
  | check =>
    obtain ⟨j, hw, -, -, ⟨-, rfl⟩ | ⟨-, rfl⟩⟩ := next_check hn <;>
      refine Frame.held hw rfl rfl (.inl rfl) (fun k hk => by simp [hk]) (by simp [Call.side]) ?_
    · simp only [update_calls]
      exact cas_pending_of
    · simp
  | claim =>
    obtain ⟨j, hw, -, ⟨-, rfl⟩ | ⟨-, rfl⟩⟩ := next_claim hn <;>
      exact Frame.held hw rfl rfl (.inl rfl) (fun k hk => by simp [hk]) (by simp [Call.side])
        (by simp)
  | start =>
    obtain ⟨j, hw, -, rfl⟩ := next_start hn
    exact Frame.held hw rfl rfl (.inl rfl) (fun k hk => by simp [hk]) (by simp [Call.side])
      (by simp)
  | finish =>
    obtain ⟨j, r, hw, -, rfl⟩ := next_finish hn
    exact Frame.held hw rfl rfl (.inl rfl) (fun k hk => by simp [hk]) (by simp [Call.side])
      (by simp)
  | resume =>
    obtain ⟨j, hw, -, rfl⟩ := next_resume hn
    exact Frame.held hw rfl rfl (.inr rfl) (fun k hk => by simp [hk]) (by simp [Call.side])
      (by simp)
  | _ => exact hm.elim

theorem Settles.frame {t : System ω ρ} (h : Settles s t) : Frame s t := by
  induction h with
  | refl => exact Frame.refl _
  | tail m _ hm hn ih => exact ih.trans (frame_of_next hm hn)

theorem exit_eq (s : System ω ρ) :
    s.exit = ({ s with worker := .exited s.fifo.length } : System ω ρ).dropQueued.halt := by
  by_cases hp : s.phase = .stopped <;> simp [exit, halt, dropQueued, discard, hp]

end System

def Ticket.take (d : Delivery ρ) (tc : Ticket ρ) : Ticket ρ :=
  match tc.delivery with
  | .waiting => { tc with delivery := d }
  | _ => tc

theorem Ticket.take_dropped_comp :
    Ticket.take .dropped ∘ Ticket.take .dropped = (Ticket.take .dropped : Ticket ρ → Ticket ρ) := by
  funext tc
  cases h : tc.delivery <;> simp [Ticket.take, h]

-- What dropping the units `js` does to the tickets.
def dropTickets (js : List (Job ω ρ)) (ts : List (Ticket ρ)) : List (Ticket ρ) :=
  js.foldl (fun ts j => match j.ticket with
    | none => ts
    | some k => ts.modify k (Ticket.take .dropped)) ts

theorem dropTickets_length (js : List (Job ω ρ)) (ts : List (Ticket ρ)) :
    (dropTickets js ts).length = ts.length := by
  induction js generalizing ts with
  | nil => rfl
  | cons j js ih =>
    simp only [dropTickets, List.foldl_cons] at ih ⊢
    cases j.ticket <;> simp [ih]

theorem dropTickets_getElem? (js : List (Job ω ρ)) (ts : List (Ticket ρ)) (k : Nat) :
    (dropTickets js ts)[k]? =
      if ∃ j ∈ js, j.ticket = some k then (Ticket.take .dropped) <$> ts[k]? else ts[k]? := by
  induction js generalizing ts with
  | nil => simp [dropTickets]
  | cons j js ih =>
    have hstep : dropTickets (j :: js) ts = dropTickets js (match j.ticket with
        | none => ts
        | some k => ts.modify k (Ticket.take .dropped)) := rfl
    rw [hstep, ih]
    cases hj : j.ticket with
    | none => simp [hj]
    | some k' =>
      by_cases hk : k' = k
      · subst hk
        by_cases hrest : ∃ j ∈ js, j.ticket = some k' <;>
          simp [hj, hrest, Ticket.take_dropped_comp]
      · simp [hj, hk]

namespace Sim

-- A job of the lane and the call of the interleaved lane that sent it: the same work, no reply
-- yet, and for a job with a ticket the call its ticket stands for (`tk` lists them by ticket).
structure Carries (tk : List Nat) (t : System ω ρ) (job : Job ω ρ) (i : Nat) : Prop where
  work : (t.calls i).work = job.work
  reply : (t.calls i).reply = .waiting
  ticket : ∀ k, job.ticket = some k → tk[k]? = some i
  plain : job.ticket = none → i ∉ tk ∧ (t.calls i).kind ≠ .submit

-- A ticket and its call agree, except that a call already given up and dropped unsent has its
-- claim abandoned and its reply closed where the ticket still waits; a call whose deadline
-- passed was claimed already or its ticket's deadline passed by `now`.
structure Answers (t : System ω ρ) (now : Nat) (tc : Ticket ρ) (i : Nat) : Prop where
  kind : (t.calls i).kind = if tc.deadline.isSome then .submit else .enqueue
  claim : (t.calls i).claim ≠ tc.claim →
    (t.calls i).unit = .discarded ∧ (t.calls i).caller.waits = false
  delivery : (t.calls i).reply ≠ tc.delivery → tc.delivery = .waiting ∧
    (t.calls i).reply = .dropped ∧ (t.calls i).unit = .discarded ∧ (t.calls i).caller.waits = false
  late : (t.calls i).late = true →
    (t.calls i).claim ≠ .pending ∨ ∃ d, tc.deadline = some d ∧ d ≤ now

def Runs (tk : List Nat) (t : System ω ρ) : Option (Loop ω ρ) → Prop
  | none => t.worker = .absent ∨ ∃ n, t.worker = .exited n
  | some ⟨e, none⟩ => t.executed = e ∧ t.worker = .idle
  | some ⟨e, some (job, _)⟩ => t.executed = e ∧
      ∃ i, i < t.count ∧ t.worker = .running i ∧ Carries tk t job i ∧ (t.calls i).startable = true

-- The lane's control state, which both models keep alike; only a stop also unbinds the
-- interleaved lane.
structure Control (m : Sim ω ρ) (t : System ω ρ) : Prop where
  capacity : t.capacity = m.backlog
  phase : t.phase = m.phase
  bound : m.phase ≠ .stopped → t.bound = m.bound
  rootCancelled : t.rootCancelled = m.rootCancelled
  contextCancelled : t.contextCancelled = m.contextCancelled
  senderOpen : t.senderOpen = m.senderOpen
  receiver : t.receiver = m.receiver
  closed : t.closed = true ↔ m.receiver = .gone

structure Queue (tk : List Nat) (m : Sim ω ρ) (t : System ω ρ) : Prop where
  carries : List.Forall₂ (Carries tk t) m.buffer t.fifo
  queued : ∀ i ∈ t.fifo, (t.calls i).unit = .queued ∧ i < t.count
  distinct : t.fifo.Nodup
  permits : m.receiver ≠ .gone → t.permits + m.buffer.length = m.backlog

structure Tickets (tk : List Nat) (m : Sim ω ρ) (t : System ω ρ) : Prop where
  length : tk.length = m.tickets.length
  nodup : tk.Nodup
  lt : ∀ i ∈ tk, i < t.count
  answers : ∀ (k i : Nat) (tc : Ticket ρ), tk[k]? = some i → m.tickets[k]? = some tc →
    Answers t m.now tc i

-- The lane `m` and the interleaved lane `t` are in the same state, the tickets of `m` standing
-- for the calls `tk` of `t`.
structure Mirrors (tk : List Nat) (m : Sim ω ρ) (t : System ω ρ) : Prop where
  control : Control m t
  world : t.world = m.world
  queue : Queue tk m t
  runs : Runs tk t m.loop
  inLane : m.receiver = .inLane → m.loop = none ∧ t.worker = .absent ∧ t.executed = 0
  tickets : Tickets tk m t

variable {tk : List Nat} {m : Sim ω ρ} {t : System ω ρ}

theorem mirrors_fresh (b : Nat) (w : ω) (now : Nat) (logs : List LogRecord) :
    Mirrors [] ({ fresh b w with now := now, logs := logs } : Sim ω ρ) (System.init b w) where
  control := ⟨rfl, rfl, fun _ => rfl, rfl, rfl, rfl, rfl, by simp [fresh, System.init]⟩
  world := rfl
  queue := ⟨.nil, fun _ hi => (by cases hi), List.nodup_nil, fun _ => rfl⟩
  runs := .inl rfl
  inLane := fun _ => ⟨rfl, rfl, rfl⟩
  tickets := ⟨rfl, List.nodup_nil, fun _ hj => (by cases hj), fun _ _ _ h => by simp at h⟩

-- What the lane reports, the workers' tasks, and what its caller is waiting on are not mirrored.
theorem Mirrors.aside (h : Mirrors tk m t) (logs : List LogRecord) (tasks : List Task)
    (gone : Bool) (sc : Option (Nat × Action)) :
    Mirrors tk { m with logs := logs, tasks := tasks, callerGone := gone, scheduled := sc } t :=
  ⟨{ h.control with }, h.world, { h.queue with }, h.runs, h.inLane, { h.tickets with }⟩

theorem Control.cancelled (h : Control m t) : t.cancelled = m.cancelled := by
  simp [System.cancelled, Sim.cancelled, h.rootCancelled, h.contextCancelled]

theorem deliver_some (k : Nat) (d : Delivery ρ) :
    m.deliver (some k) d = { m with tickets := m.tickets.modify k (Ticket.take d) } := rfl

theorem Carries.congr {t' : System ω ρ} {job : Job ω ρ} {i : Nat} (h : Carries tk t job i)
    (hc : t'.calls i = t.calls i) : Carries tk t' job i where
  work := by rw [hc]; exact h.work
  reply := by rw [hc]; exact h.reply
  ticket := h.ticket
  plain := by rw [hc]; exact h.plain

theorem carries_congr {t' : System ω ρ} {js : List (Job ω ρ)} {is : List Nat}
    (h : List.Forall₂ (Carries tk t) js is) (hc : ∀ i ∈ is, t'.calls i = t.calls i) :
    List.Forall₂ (Carries tk t') js is := by
  induction h with
  | nil => exact .nil
  | cons hx _ ih =>
    exact .cons (hx.congr (hc _ List.mem_cons_self)) (ih fun i hi => hc i (List.mem_cons_of_mem _ hi))

section Answers

variable {now : Nat} {tc : Ticket ρ} {i : Nat}

theorem Answers.claim_eq (h : Answers t now tc i) (hu : (t.calls i).unit ≠ .discarded) :
    (t.calls i).claim = tc.claim := by
  by_contra hne
  exact hu (h.claim hne).1

theorem Answers.reply_eq (h : Answers t now tc i) (hu : (t.calls i).unit ≠ .discarded) :
    (t.calls i).reply = tc.delivery := by
  by_contra hne
  exact hu (h.delivery hne).2.2.1

end Answers

theorem Answers.congr {t' : System ω ρ} {now now' : Nat} {tc : Ticket ρ} {i : Nat}
    (h : Answers t now tc i) (hc : t'.calls i = t.calls i) (hn : now ≤ now') :
    Answers t' now' tc i where
  kind := by rw [hc]; exact h.kind
  claim := by rw [hc]; exact h.claim
  delivery := by rw [hc]; exact h.delivery
  late := by
    rw [hc]
    intro hl
    rcases h.late hl with hp | ⟨d, hd, hle⟩
    · exact .inl hp
    · exact .inr ⟨d, hd, hle.trans hn⟩

-- A step that changes the call `i` alone, and of the tickets at most the one standing for it.
theorem Tickets.change (h : Tickets tk m t) {m' : Sim ω ρ} {t' : System ω ρ} {i : Nat}
    (hlen : m'.tickets.length = m.tickets.length) (hnow : m.now ≤ m'.now)
    (hcount : t.count ≤ t'.count) (hcalls : ∀ j, j ≠ i → t'.calls j = t.calls j)
    (hother : ∀ k : Nat, tk[k]? ≠ some i → m'.tickets[k]? = m.tickets[k]?)
    (hmine : ∀ (k : Nat) (tc : Ticket ρ), tk[k]? = some i → m'.tickets[k]? = some tc → Answers t' m'.now tc i) :
    Tickets tk m' t' where
  length := h.length.trans hlen.symm
  nodup := h.nodup
  lt := fun j hj => Nat.lt_of_lt_of_le (h.lt j hj) hcount
  answers := by
    intro k j tc hk htc
    by_cases hj : j = i
    · subst hj
      exact hmine k tc hk htc
    · have hk' : tk[k]? ≠ some i := by rw [hk]; simpa using hj
      rw [hother k hk'] at htc
      exact (h.answers k j tc hk htc).congr (hcalls j hj) hnow

theorem Queue.congr (h : Queue tk m t) {m' : Sim ω ρ} {t' : System ω ρ}
    (hb : m'.buffer = m.buffer) (hr : m'.receiver = m.receiver) (hk : m'.backlog = m.backlog)
    (hf : t'.fifo = t.fifo) (hp : t'.permits = t.permits) (hcount : t.count ≤ t'.count)
    (hc : ∀ i ∈ t.fifo, t'.calls i = t.calls i) : Queue tk m' t' where
  carries := by
    rw [hb, hf]
    exact carries_congr h.carries hc
  queued := by
    rw [hf]
    intro i hi
    rw [hc i hi]
    exact ⟨(h.queued i hi).1, Nat.lt_of_lt_of_le (h.queued i hi).2 hcount⟩
  distinct := hf ▸ h.distinct
  permits := by
    rw [hr, hb, hk, hp]
    exact h.permits

theorem Runs.congr {t' : System ω ρ} {l : Option (Loop ω ρ)} (h : Runs tk t l)
    (hw : t'.worker = t.worker) (he : t'.executed = t.executed) (hn : t.count ≤ t'.count)
    (hc : ∀ j, t.worker = .running j → t'.calls j = t.calls j) : Runs tk t' l := by
  rcases l with _ | ⟨_, _ | ⟨_, _⟩⟩
  · simp only [Runs, hw]; exact h
  · simp only [Runs, hw, he]; exact h
  · obtain ⟨hex, i, hlt, hi, hcar, hs⟩ := h
    exact ⟨he ▸ hex, i, Nat.lt_of_lt_of_le hlt hn, hw ▸ hi, hcar.congr (hc i hi),
      by rw [hc i hi]; exact hs⟩

theorem Carries.shows {t' : System ω ρ} {job : Job ω ρ} {i : Nat} (h : Carries tk t job i)
    (hs : (t'.calls i).Shows (t.calls i)) : Carries tk t' job i :=
  ⟨hs.1.trans h.work, hs.2.1.trans h.reply, h.ticket, by rw [hs.2.2.1]; exact h.plain⟩

theorem carries_shows {t' : System ω ρ} {js : List (Job ω ρ)} {is : List Nat}
    (h : List.Forall₂ (Carries tk t) js is) (hs : ∀ i ∈ is, (t'.calls i).Shows (t.calls i)) :
    List.Forall₂ (Carries tk t') js is := by
  induction h with
  | nil => exact .nil
  | cons hx _ ih =>
    exact .cons (hx.shows (hs _ List.mem_cons_self)) (ih fun i hi => hs i (List.mem_cons_of_mem _ hi))

theorem Queue.shows (h : Queue tk m t) {t' : System ω ρ} (hf : t'.fifo = t.fifo)
    (hp : t'.permits = t.permits) (hcount : t.count ≤ t'.count)
    (hs : ∀ i ∈ t.fifo, (t'.calls i).Shows (t.calls i)) : Queue tk m t' where
  carries := hf ▸ carries_shows h.carries hs
  queued := by
    rw [hf]
    intro i hi
    rw [(hs i hi).2.2.2]
    exact ⟨(h.queued i hi).1, Nat.lt_of_lt_of_le (h.queued i hi).2 hcount⟩
  distinct := hf ▸ h.distinct
  permits := by
    rw [hp]
    exact h.permits

theorem Runs.shows {t' : System ω ρ} {l : Option (Loop ω ρ)} (h : Runs tk t l)
    (hw : t'.worker = t.worker) (he : t'.executed = t.executed) (hn : t.count ≤ t'.count)
    (hs : ∀ j, t.worker = .running j → (t'.calls j).Shows (t.calls j)) : Runs tk t' l := by
  rcases l with _ | ⟨_, _ | ⟨_, _⟩⟩
  · simp only [Runs, hw]; exact h
  · simp only [Runs, hw, he]; exact h
  · obtain ⟨hex, i, hlt, hi, hcar, hst⟩ := h
    have hsi := hs i hi
    refine ⟨he ▸ hex, i, Nat.lt_of_lt_of_le hlt hn, hw ▸ hi, hcar.shows hsi, ?_⟩
    unfold Call.startable at hst ⊢
    rw [hsi.2.2.2, hsi.2.2.1]
    exact hst

theorem Tickets.congr (h : Tickets tk m t) {m' : Sim ω ρ} {t' : System ω ρ}
    (hts : m'.tickets = m.tickets) (hnow : m.now ≤ m'.now) (hcount : t.count ≤ t'.count)
    (hcalls : ∀ j, t'.calls j = t.calls j) : Tickets tk m' t' where
  length := hts ▸ h.length
  nodup := h.nodup
  lt := fun j hj => Nat.lt_of_lt_of_le (h.lt j hj) hcount
  answers := fun k i tc hk htc =>
    (h.answers k i tc hk (hts ▸ htc)).congr (hcalls i) hnow

-- A call whose unit is past the queue is not in it.
theorem Queue.not_mem (h : Queue tk m t) {i : Nat} (hu : (t.calls i).unit ≠ .queued) :
    i ∉ t.fifo := fun hi => hu (h.queued i hi).1

theorem deliver_eq (x : Option Nat) (d : Delivery ρ) :
    m.deliver x d = { m with tickets := (m.deliver x d).tickets } := by
  cases x <;> rfl

theorem deliver_length (x : Option Nat) (d : Delivery ρ) :
    (m.deliver x d).tickets.length = m.tickets.length := by
  cases x <;> simp [deliver]

-- Delivering to a job's ticket leaves the tickets of every other call alone.
theorem deliver_other {x : Option Nat} {i : Nat} (hx : ∀ k, x = some k → tk[k]? = some i)
    (d : Delivery ρ) {k : Nat} (hk : tk[k]? ≠ some i) :
    (m.deliver x d).tickets[k]? = m.tickets[k]? := by
  cases x with
  | none => rfl
  | some k' =>
    have hne : k' ≠ k := by
      rintro rfl
      exact hk (hx k' rfl)
    simp [deliver_some, hne]

theorem ticket_unique (hn : tk.Nodup) {k k' i : Nat} (h : tk[k]? = some i)
    (h' : tk[k']? = some i) : k = k' :=
  (List.getElem?_inj (List.getElem?_eq_some_iff.mp h).1 hn).mp (h.trans h'.symm)

theorem finishJob_eq (l : Loop ω ρ) (job : Job ω ρ) :
    ∃ logs, m.finishJob l job = { m with
      tickets := (m.deliver job.ticket (Delivery.ofOutcome (job.work.run m.cancelled m.world).1.1)).tickets
      loop := some { l with busy := none }
      world := (job.work.run m.cancelled m.world).2
      logs := logs } := by
  unfold finishJob
  generalize job.work.run m.cancelled m.world = out
  obtain ⟨⟨r, records⟩, w⟩ := out
  cases r <;> cases hk : job.ticket <;> exact ⟨_, rfl⟩

theorem startable_unit {c : Call ω ρ} (h : c.startable = true) :
    c.unit = .claimed ∨ c.unit = .taken := by
  unfold Call.startable at h
  split at h <;> simp_all

-- A ticket whose call is running answers with the outcome it gets once the outcome is given.
theorem Answers.deliver {t' : System ω ρ} {now : Nat} {tc : Ticket ρ} {i : Nat}
    (h : Answers t now tc i) (hu : (t.calls i).unit ≠ .discarded)
    (hr : (t.calls i).reply = .waiting) (hk : (t'.calls i).kind = (t.calls i).kind)
    (hc : (t'.calls i).claim = (t.calls i).claim) (hl : (t'.calls i).late = (t.calls i).late) :
    Answers t' now (Ticket.take (t'.calls i).reply tc) i := by
  have hd : tc.delivery = .waiting := (h.reply_eq hu).symm.trans hr
  have htake : Ticket.take (t'.calls i).reply tc = { tc with delivery := (t'.calls i).reply } := by
    simp [Ticket.take, hd]
  rw [htake]
  exact ⟨by rw [hk]; exact h.kind, fun hne => absurd (hc.trans (h.claim_eq hu)) hne,
    fun hne => absurd rfl hne,
    by rw [hl, hc]; exact h.late⟩

theorem Mirrors.finishJob (h : Mirrors tk m t) {l : Loop ω ρ} {job : Job ω ρ} {ends : Nat}
    (hl : m.loop = some l) (hb : l.busy = some (job, ends)) :
    ∃ t', System.Settles t t' ∧ Mirrors tk (m.finishJob l job) t' := by
  obtain ⟨e, busy⟩ := l
  obtain rfl : busy = some (job, ends) := hb
  have hruns := h.runs
  rw [hl] at hruns
  obtain ⟨hexec, i, -, hw, hc, hs⟩ := hruns
  have hnot : i ∉ t.fifo := h.queue.not_mem (by rcases startable_unit hs with hu | hu <;> simp [hu])
  have hdisc : (t.calls i).unit ≠ .discarded := by rcases startable_unit hs with hu | hu <;> simp [hu]
  -- the body runs on the world both lanes hold, told the same cancellation
  have hrun : (t.calls i).work.run t.cancelled t.world = job.work.run m.cancelled m.world := by
    rw [hc.work, h.control.cancelled, h.world]
  set r := (job.work.run m.cancelled m.world).1.1
  let t₁ := t.launch i
  let t₂ := t₁.update i fun c =>
    { c with unit := .ended, outcome := some r, reply := Delivery.ofOutcome r }
  let t₃ := { t₂ with worker := .idle }.update i fun c => { c with unit := .finished }
  have hu₁ : (t₁.calls i).unit = .running r := by simp [t₁, hrun, r]
  have hsteps : System.Settles t t₃ :=
    .tail .resume (.tail .finish (.tail .start (.refl t) trivial (System.next_start_of hw hs)) trivial
      (System.next_finish_of (s := t₁) hw hu₁)) trivial
      (System.next_resume_of (s := t₂) hw (by simp [t₂]))
  have hcalls : ∀ j, t₃.calls j = if j = i then { t.calls i with
      unit := .finished, outcome := some r, reply := Delivery.ofOutcome r } else t.calls j := by
    intro j
    by_cases hj : j = i <;> simp [t₃, t₂, t₁, hj]
  obtain ⟨logs, heq⟩ := finishJob_eq (m := m) ⟨e, some (job, ends)⟩ job
  rw [heq]
  refine ⟨t₃, hsteps, { h.control with }, by simp [t₃, t₂, t₁, hrun],
    h.queue.congr rfl rfl rfl rfl rfl le_rfl fun j hj => ?_, ⟨hexec, rfl⟩,
    fun hr => by simp [(h.inLane hr).1] at hl, ?_⟩
  · have hji : j ≠ i := fun hji => hnot (hji ▸ hj)
    simp [hcalls, hji]
  · refine h.tickets.change (i := i) (deliver_length _ _) le_rfl le_rfl
      (fun j hj => by simp [hcalls, hj]) (fun k hk => deliver_other hc.ticket _ hk) ?_
    intro k tc hk htc
    cases hticket : job.ticket with
    | none => exact absurd (List.mem_of_getElem? hk) (hc.plain hticket).1
    | some k' =>
      obtain rfl := ticket_unique h.tickets.nodup hk (hc.ticket k' hticket)
      simp only [hticket, deliver_some, List.getElem?_modify_eq, Option.map_eq_map] at htc
      obtain ⟨tc₀, h₀, rfl⟩ := Option.map_eq_some_iff.mp htc
      have hrep : (t₃.calls i).reply = Delivery.ofOutcome r := by simp [hcalls]
      rw [← hrep]
      exact (h.tickets.answers k i tc₀ hk h₀).deliver hdisc hc.reply (by simp [hcalls])
        (by simp [hcalls]) (by simp [hcalls])

theorem forall₂_partner_left {α β : Type} {R : α → β → Prop} {l₁ : List α} {l₂ : List β}
    (h : List.Forall₂ R l₁ l₂) {a : α} (ha : a ∈ l₁) : ∃ b ∈ l₂, R a b := by
  induction h with
  | nil => cases ha
  | cons hab _ ih =>
    rcases List.mem_cons.mp ha with rfl | ha
    · exact ⟨_, List.mem_cons_self, hab⟩
    · obtain ⟨b, hb, hr⟩ := ih ha
      exact ⟨b, List.mem_cons_of_mem _ hb, hr⟩

theorem forall₂_partner_right {α β : Type} {R : α → β → Prop} {l₁ : List α} {l₂ : List β}
    (h : List.Forall₂ R l₁ l₂) {b : β} (hb : b ∈ l₂) : ∃ a ∈ l₁, R a b := by
  induction h with
  | nil => cases hb
  | cons hab _ ih =>
    rcases List.mem_cons.mp hb with rfl | hb
    · exact ⟨_, List.mem_cons_self, hab⟩
    · obtain ⟨a, ha, hr⟩ := ih hb
      exact ⟨a, List.mem_cons_of_mem _ ha, hr⟩

theorem dropJobs_eq (js : List (Job ω ρ)) :
    m.dropJobs js = { m with tickets := dropTickets js m.tickets } := by
  induction js generalizing m with
  | nil => rfl
  | cons j js ih =>
    have hstep : m.dropJobs (j :: js) = (m.deliver j.ticket .dropped).dropJobs js := rfl
    have hts : dropTickets (j :: js) m.tickets = dropTickets js (match j.ticket with
        | none => m.tickets
        | some k => m.tickets.modify k (Ticket.take .dropped)) := rfl
    rw [hstep, ih, hts]
    cases j.ticket <;> rfl

-- The tickets of the queued units are the tickets of the calls in the channel.
theorem Queue.ticket_mem (h : Queue tk m t) (hn : tk.Nodup) {k i : Nat} (hk : tk[k]? = some i) :
    i ∈ t.fifo ↔ ∃ j ∈ m.buffer, j.ticket = some k := by
  constructor
  · intro hi
    obtain ⟨job, hjob, hc⟩ := forall₂_partner_right h.carries hi
    cases hj : job.ticket with
    | none => exact absurd (List.mem_of_getElem? hk) (hc.plain hj).1
    | some k' => exact ⟨job, hjob, by rw [hj, ticket_unique hn hk (hc.ticket k' hj)]⟩
  · rintro ⟨job, hjob, hj⟩
    obtain ⟨i', hi', hc⟩ := forall₂_partner_left h.carries hjob
    obtain rfl : i' = i := Option.some.inj ((hc.ticket k hj).symm.trans hk)
    exact hi'

-- Dropping the queued units, on both sides: every call in the channel is discarded and its
-- ticket learns it.
theorem Tickets.discard (h : Tickets tk m t) (hq : Queue tk m t) {m' : Sim ω ρ} {t' : System ω ρ}
    (hts : m'.tickets = dropTickets m.buffer m.tickets) (hnow : m'.now = m.now)
    (hcount : t'.count = t.count)
    (hcalls : ∀ j, t'.calls j =
      if j ∈ t.fifo then { t.calls j with unit := .discarded, reply := .dropped } else t.calls j) :
    Tickets tk m' t' where
  length := by rw [hts, dropTickets_length]; exact h.length
  nodup := h.nodup
  lt := fun i hi => hcount ▸ h.lt i hi
  answers := by
    intro k i tc hk htc
    rw [hts, dropTickets_getElem?] at htc
    rw [hnow]
    have hmem := hq.ticket_mem h.nodup hk
    by_cases hin : i ∈ t.fifo
    · rw [if_pos (hmem.mp hin)] at htc
      obtain ⟨tc₀, h₀, rfl⟩ := Option.map_eq_some_iff.mp htc
      have hu : (t.calls i).unit = .queued := (hq.queued i hin).1
      obtain ⟨job, -, hc⟩ := forall₂_partner_right hq.carries hin
      have hrep : (t'.calls i).reply = .dropped := by simp [hcalls, hin]
      rw [← hrep]
      exact (h.answers k i tc₀ hk h₀).deliver (by simp [hu]) hc.reply (by simp [hcalls, hin])
        (by simp [hcalls, hin]) (by simp [hcalls, hin])
    · rw [if_neg (fun hj => hin (hmem.mpr hj))] at htc
      exact (h.answers k i tc hk htc).congr (by simp [hcalls, hin]) le_rfl

theorem Mirrors.dropped (hc : Control m t) (hw : t.world = m.world) (hq : Queue tk m t)
    (ht : Tickets tk m t) (hr : t.worker = .absent ∨ ∃ n, t.worker = .exited n) :
    Mirrors tk { m with
      tickets := dropTickets m.buffer m.tickets
      buffer := []
      receiver := .gone
      loop := none } t.dropQueued where
  control := { hc with
    receiver := rfl
    closed := by simp [System.dropQueued] }
  world := hw
  queue := ⟨.nil, fun _ hi => (by cases hi), List.nodup_nil, fun h => absurd rfl h⟩
  runs := hr
  inLane := fun hr => by cases hr
  tickets := ht.discard hq rfl rfl rfl fun j => by simp [System.dropQueued, System.discard]

theorem stop_of_stopped (hp : m.phase = .stopped) : m.stop = m := by
  simp [stop, hp]

theorem stop_eq (hp : m.phase ≠ .stopped) : ∃ logs, m.stop = { m with
    phase := .stopped
    contextCancelled := m.contextCancelled || m.bound
    senderOpen := false
    tickets := if m.receiver = .inLane then dropTickets m.buffer m.tickets else m.tickets
    buffer := if m.receiver = .inLane then [] else m.buffer
    receiver := if m.receiver = .inLane then .gone else m.receiver
    logs := logs } := by
  by_cases hr : m.receiver = .inLane <;> simp [stop, hp, hr, dropJobs_eq, note]

theorem Mirrors.halt (h : Mirrors tk m t) : Mirrors tk m.stop t.halt := by
  by_cases hp : m.phase = .stopped
  · have htp : t.phase = .stopped := h.control.phase.trans hp
    rw [stop_of_stopped hp]
    simpa [System.halt, htp] using h
  · have htp : t.phase ≠ .stopped := h.control.phase ▸ hp
    obtain ⟨logs, heq⟩ := stop_eq hp
    rw [heq]
    -- both lanes stop the same way; only the interleaved lane also unbinds
    let t₁ : System ω ρ := { t with
      phase := .stopped
      contextCancelled := t.contextCancelled || t.bound
      bound := false
      senderOpen := false }
    let m₁ : Sim ω ρ := { m with
      phase := .stopped
      contextCancelled := m.contextCancelled || m.bound
      senderOpen := false }
    have hc₁ : Control m₁ t₁ :=
      { h.control with
        phase := rfl
        bound := fun h => absurd rfl h
        contextCancelled := by simp [t₁, m₁, h.control.contextCancelled, h.control.bound hp]
        senderOpen := rfl }
    have hq₁ : Queue tk m₁ t₁ := h.queue.congr rfl rfl rfl rfl rfl le_rfl fun _ _ => rfl
    have ht₁ : Tickets tk m₁ t₁ := h.tickets.congr rfl le_rfl le_rfl fun _ => rfl
    by_cases hr : m.receiver = .inLane
    · obtain ⟨hl, hwabs, -⟩ := h.inLane hr
      have ht : t.halt = t₁.dropQueued := by simp [System.halt, htp, h.control.receiver, hr, t₁]
      rw [ht]
      simp only [hr, if_true]
      have := Mirrors.dropped hc₁ h.world hq₁ ht₁ (.inl hwabs)
      rw [hl]
      exact this.aside logs m.tasks m.callerGone m.scheduled
    · have ht : t.halt = t₁ := by simp [System.halt, htp, h.control.receiver, hr, t₁]
      rw [ht]
      simp only [hr, if_false]
      exact ⟨{ hc₁ with }, h.world, { hq₁ with }, h.runs.congr rfl rfl le_rfl fun _ _ => rfl,
        fun h' => absurd h' hr, { ht₁ with }⟩

theorem exitLoop_eq (l : Loop ω ρ) : ∃ logs tasks, m.exitLoop l =
    { ({ m with
        tickets := dropTickets m.buffer m.tickets
        buffer := []
        receiver := .gone
        loop := none } : Sim ω ρ).stop with logs := logs, tasks := tasks } := by
  simp only [exitLoop, dropJobs_eq]
  exact ⟨_, _, rfl⟩

theorem Mirrors.exitLoop (h : Mirrors tk m t) {l : Loop ω ρ} (hl : m.loop = some l)
    (hb : l.busy = none) (hc : m.cancelled = true ∨ m.buffer = [] ∧ m.senderOpen = false) :
    ∃ t', System.Settles t t' ∧ Mirrors tk (m.exitLoop l) t' := by
  have hruns := h.runs
  rw [hl] at hruns
  obtain ⟨e, busy⟩ := l
  obtain rfl : busy = none := hb
  obtain ⟨-, hw⟩ := hruns
  have hexit : t.next .dequeue = some t.exit := by
    refine System.next_exit_of hw ?_
    rcases hc with hc | ⟨hbuf, ho⟩
    · exact .inl (h.control.cancelled.trans hc)
    · have hfifo : t.fifo = [] := by
        have := h.queue.carries
        rw [hbuf] at this
        exact List.forall₂_nil_left_iff.mp this
      exact .inr ⟨hfifo, h.control.senderOpen.trans ho⟩
  obtain ⟨logs, tasks, heq⟩ := exitLoop_eq (m := m) ⟨e, none⟩
  rw [heq]
  refine ⟨t.exit, .tail .dequeue (.refl t) trivial hexit, ?_⟩
  rw [System.exit_eq]
  let t₀ : System ω ρ := { t with worker := .exited t.fifo.length }
  have hd := Mirrors.dropped (t := t₀) { h.control with } h.world
    (h.queue.congr rfl rfl rfl rfl rfl le_rfl fun _ _ => rfl)
    (h.tickets.congr rfl le_rfl le_rfl fun _ => rfl) (.inr ⟨_, rfl⟩)
  exact hd.halt.aside logs tasks _ _

theorem modify_eq_set {α : Type} {l : List α} {k : Nat} {a : α} (h : l[k]? = some a)
    (f : α → α) : l.modify k f = l.set k (f a) := by
  apply List.ext_getElem?
  intro j
  by_cases hj : k = j
  · subst hj
    rw [List.getElem?_modify_eq, List.getElem?_set_self (List.getElem?_eq_some_iff.mp h).1, h]
    rfl
  · simp [List.getElem?_modify_ne _ _ hj, List.getElem?_set_ne hj]

theorem modify_set {α : Type} {l : List α} {k : Nat} (hk : k < l.length) (a : α) (f : α → α) :
    (l.set k a).modify k f = l.set k (f a) := by
  rw [modify_eq_set (a := a) (by simp [hk]), List.set_set]

theorem startJob_plain {l : Loop ω ρ} {job : Job ω ρ} {rest : List (Job ω ρ)}
    (hj : job.ticket = none ∨ ∃ k tc, job.ticket = some k ∧ m.tickets[k]? = some tc ∧
      tc.deadline = none) :
    m.startJob l job rest = { m with
      buffer := rest
      loop := some ⟨l.executed + 1, some (job, m.now + job.work.duration)⟩ } := by
  rcases hj with hj | ⟨k, tc, hj, htc, hd⟩
  · simp [startJob, hj]
  · simp [startJob, hj, deadlineOf, htc, hd]

section Deadline

variable {l : Loop ω ρ} {job : Job ω ρ} {rest : List (Job ω ρ)} {k d : Nat} {tc : Ticket ρ}

theorem startJob_late (hb : l.busy = none) (hj : job.ticket = some k)
    (htc : m.tickets[k]? = some tc) (hd : tc.deadline = some d) (hle : d ≤ m.now) :
    m.startJob l job rest = { m with
      buffer := rest
      loop := some ⟨l.executed + 1, none⟩
      tickets := m.tickets.set k
        (Ticket.take .dropped { tc with claim := (tc.claim.cas .pending .expired).2 }) } := by
  have hk : k < m.tickets.length := (List.getElem?_eq_some_iff.mp htc).1
  obtain ⟨dl, cl, dv⟩ := tc
  cases cl <;>
    simp_all [startJob, deadlineOf, claimOf, setClaim, deliver_some, Claim.cas, modify_eq_set htc,
      modify_set hk]

theorem startJob_claimed (hj : job.ticket = some k)
    (htc : m.tickets[k]? = some tc) (hd : tc.deadline = some d) (hlt : m.now < d)
    (hp : tc.claim = .pending) :
    m.startJob l job rest = { m with
      buffer := rest
      loop := some ⟨l.executed + 1, some (job, m.now + job.work.duration)⟩
      tickets := m.tickets.set k { tc with claim := .running } } := by
  simp [startJob, hj, deadlineOf, htc, hd, Nat.not_le.mpr hlt, claimOf, setClaim, Claim.cas, hp,
    modify_eq_set htc]

theorem startJob_skipped (hb : l.busy = none) (hj : job.ticket = some k)
    (htc : m.tickets[k]? = some tc) (hd : tc.deadline = some d) (hlt : m.now < d)
    (hp : tc.claim ≠ .pending) :
    m.startJob l job rest = { m with
      buffer := rest
      loop := some ⟨l.executed + 1, none⟩
      tickets := m.tickets.set k (Ticket.take .dropped tc) } := by
  simp [startJob, hj, deadlineOf, htc, hd, Nat.not_le.mpr hlt, claimOf, Claim.cas, hp, hb,
    deliver_some, modify_eq_set htc]

end Deadline

theorem Tickets.set (h : Tickets tk m t) {m' : Sim ω ρ} {t' : System ω ρ} {k i : Nat}
    {tc tc' : Ticket ρ} (hk : tk[k]? = some i) (htc : m.tickets[k]? = some tc)
    (hts : m'.tickets = m.tickets.set k tc') (hnow : m'.now = m.now) (hcount : t.count ≤ t'.count)
    (hcalls : ∀ j, j ≠ i → t'.calls j = t.calls j)
    (hans : Answers t m.now tc i → Answers t' m.now tc' i) : Tickets tk m' t' := by
  refine h.change (i := i) (by simp [hts]) hnow.ge hcount hcalls (fun k' hk' => ?_) ?_
  · have hne : k ≠ k' := by
      rintro rfl
      exact hk' hk
    rw [hts, List.getElem?_set_ne hne]
  · intro k' tc'' hk'' htc''
    obtain rfl := ticket_unique h.nodup hk'' hk
    rw [hts, List.getElem?_set_self (List.getElem?_eq_some_iff.mp htc).1, Option.some.injEq] at htc''
    subst htc''
    rw [hnow]
    exact hans (h.answers _ i tc hk htc)

-- The call `i` of a queued ticketless unit stands for no ticket.
theorem Tickets.keep (h : Tickets tk m t) {m' : Sim ω ρ} {t' : System ω ρ} {i : Nat}
    (hts : m'.tickets = m.tickets) (hnow : m'.now = m.now) (hcount : t.count ≤ t'.count)
    (hcalls : ∀ j, j ≠ i → t'.calls j = t.calls j)
    (hans : ∀ tc, Answers t m.now tc i → Answers t' m.now tc i) : Tickets tk m' t' :=
  h.change (i := i) (by simp [hts]) hnow.ge hcount hcalls (fun k _ => by rw [hts])
    fun k tc hk htc => by
      rw [hts] at htc
      rw [hnow]
      exact hans tc (h.answers k i tc hk htc)

-- A call moving from the queue to another unit that is not discarded answers as before.
theorem Answers.unit {t' : System ω ρ} {now : Nat} {tc : Ticket ρ} {i : Nat}
    (h : Answers t now tc i) (hu : (t.calls i).unit = .queued) {u : UnitAt ρ}
    (hc : t'.calls i = { t.calls i with unit := u }) :
    Answers t' now tc i := by
  have hlive : (t.calls i).unit ≠ .discarded := by simp [hu]
  refine ⟨by rw [hc]; exact h.kind, fun hne => absurd (by rw [hc]; exact h.claim_eq hlive) hne,
    fun hne => absurd (by rw [hc]; exact h.reply_eq hlive) hne, by rw [hc]; exact h.late⟩

-- Taking the first unit of the lane is taking the first call of the channel.
theorem Mirrors.take (h : Mirrors tk m t) {l : Loop ω ρ} (hl : m.loop = some l)
    (hb : l.busy = none) (hc : m.cancelled = false) {job : Job ω ρ} {rest : List (Job ω ρ)}
    (hbuf : m.buffer = job :: rest) :
    ∃ i rest', Carries tk t job i ∧ (t.calls i).unit = .queued ∧ i < t.count ∧
      t.next .dequeue = some (t.took i rest') ∧ t.executed = l.executed ∧
      Queue tk { m with buffer := rest } (t.took i rest') := by
  have hruns := h.runs
  rw [hl] at hruns
  obtain ⟨e, busy⟩ := l
  obtain rfl : busy = none := hb
  obtain ⟨hexec, hw⟩ := hruns
  have hq := h.queue.carries
  rw [hbuf] at hq
  obtain ⟨i, rest', hcar, hrest, hfifo⟩ := List.forall₂_cons_left_iff.mp hq
  have hnd := h.queue.distinct
  rw [hfifo] at hnd
  have hi : i ∉ rest' := (List.nodup_cons.mp hnd).1
  have hsame : ∀ j ∈ rest', (t.took i rest').calls j = t.calls j := fun j hj => by
    have : j ≠ i := fun hji => hi (hji ▸ hj)
    simp [this]
  refine ⟨i, rest', hcar, (h.queue.queued i (by simp [hfifo])).1,
    (h.queue.queued i (by simp [hfifo])).2, System.next_take_of hw (h.control.cancelled.trans hc) hfifo, hexec, ?_⟩
  refine ⟨carries_congr hrest hsame, fun j hj => ?_, (List.nodup_cons.mp hnd).2, fun hr => ?_⟩
  · have hj' : j ∈ rest' := hj
    rw [hsame j hj']
    exact h.queue.queued j (by simp [hfifo, hj'])
  · have := h.queue.permits hr
    simp only [hbuf, List.length_cons] at this
    simp only [System.took, System.update]
    omega

theorem Carries.unit {t' : System ω ρ} {job : Job ω ρ} {i : Nat} (h : Carries tk t job i)
    {c : Call ω ρ} (hc : t'.calls i = c) (hw : c.work = (t.calls i).work)
    (hr : c.reply = (t.calls i).reply) (hk : c.kind = (t.calls i).kind) : Carries tk t' job i where
  work := by rw [hc, hw]; exact h.work
  reply := by rw [hc, hr]; exact h.reply
  ticket := h.ticket
  plain := by rw [hc, hk]; exact h.plain

theorem cas_pending_ne {c x : Claim} (hx : x ≠ .pending) : (c.cas .pending x).2 ≠ .pending := by
  unfold Claim.cas
  split <;> simp_all

-- A taken unit with no deadline starts.
theorem Mirrors.startPlain (h : Mirrors tk m t) {l : Loop ω ρ} (hl : m.loop = some l)
    {job : Job ω ρ} {rest : List (Job ω ρ)} {i : Nat} {rest' : List Nat}
    (hcar : Carries tk t job i) (hu : (t.calls i).unit = .queued) (hexec : t.executed = l.executed)
    (hq : Queue tk { m with buffer := rest } (t.took i rest'))
    (hkind : (t.calls i).kind ≠ .submit) (hi : i < t.count) :
    Mirrors tk { m with
      buffer := rest
      loop := some ⟨l.executed + 1, some (job, m.now + job.work.duration)⟩ } (t.took i rest') where
  control := { h.control with }
  world := h.world
  queue := { hq with }
  runs := ⟨by simp [System.took, System.update, hexec], i, hi, rfl,
    hcar.unit (c := { t.calls i with unit := .taken }) (by simp) rfl rfl rfl,
    by cases hk : (t.calls i).kind <;> simp_all [Call.startable]⟩
  inLane := fun hr => by simp [(h.inLane hr).1] at hl
  tickets := h.tickets.keep (i := i) rfl rfl le_rfl (fun j hj => by simp [hj])
    fun _ ha => ha.unit hu (u := .taken) (by simp)

theorem cas_of_ne {c x : Claim} (hc : c ≠ .pending) : c.cas .pending x = (false, c) := by
  simp [Claim.cas, hc]

-- A queued call the worker passes over without running it: its reply closes, its claim is
-- settled the same way as its ticket's.
theorem Answers.close {t' : System ω ρ} {now : Nat} {tc : Ticket ρ} {i : Nat}
    (h : Answers t now tc i) (hu : (t.calls i).unit = .queued) (hr : (t.calls i).reply = .waiting)
    (g : Claim → Claim) {u : UnitAt ρ} {L : Bool}
    (hc : t'.calls i =
      { t.calls i with unit := u, claim := g (t.calls i).claim, reply := .dropped, late := L })
    (hl : L = true → g tc.claim ≠ .pending) :
    Answers t' now (Ticket.take .dropped { tc with claim := g tc.claim }) i := by
  have hlive : (t.calls i).unit ≠ .discarded := by simp [hu]
  have hclaim := h.claim_eq hlive
  have hdel : tc.delivery = .waiting := (h.reply_eq hlive).symm.trans hr
  have htake : Ticket.take .dropped { tc with claim := g tc.claim } =
      { tc with claim := g tc.claim, delivery := .dropped } := by
    simp [Ticket.take, hdel]
  rw [htake]
  refine ⟨by rw [hc]; exact h.kind, fun hne => absurd (by rw [hc, hclaim]) hne,
    fun hne => absurd (by rw [hc]) hne, fun hL => .inl ?_⟩
  rw [hc] at hL ⊢
  simp only at hL ⊢
  rw [hclaim]
  exact hl hL

-- A taken submission the worker does not run, its deadline passed or its claim settled: the
-- interleaved lane has no clock, so its deadline may pass there before the closure looks at it.
theorem Mirrors.skip (h : Mirrors tk m t) {l : Loop ω ρ} (hl : m.loop = some l)
    {job : Job ω ρ} {rest : List (Job ω ρ)} {i : Nat} {rest' : List Nat}
    (hcar : Carries tk t job i) (hu : (t.calls i).unit = .queued) (hexec : t.executed = l.executed)
    (hq : Queue tk { m with buffer := rest } (t.took i rest')) {k : Nat} {tc : Ticket ρ}
    (hk : tk[k]? = some i) (htc : m.tickets[k]? = some tc) (hkind : (t.calls i).kind = .submit)
    (hi : i < t.count) :
    ∃ t', System.Settles (t.took i rest') t' ∧ Mirrors tk { m with
      buffer := rest
      loop := some ⟨l.executed + 1, none⟩
      tickets := m.tickets.set k
        (Ticket.take .dropped { tc with claim := (tc.claim.cas .pending .expired).2 }) } t' := by
  let t₁ := t.took i rest'
  let t₂ := t₁.update i fun c => { c with late := true }
  let t₃ := t₂.update i fun c =>
    { c with claim := (c.claim.cas .pending .expired).2, unit := .ended, reply := .dropped }
  let t₄ := { t₃ with worker := .idle }.update i fun c => { c with unit := .finished }
  have hw : t₁.worker = .running i := rfl
  have hcheck : t₂.next .check = some t₃ := by
    have := System.next_check_of (s := t₂) hw (by simp [t₂, t₁]) (by simp [t₂, t₁, hkind])
    rwa [if_pos (by simp [t₂])] at this
  have hsteps : System.Settles t₁ t₄ :=
    ((System.settles_late hw hi).tail .check trivial hcheck).tail .resume trivial
      (System.next_resume_of (s := t₃) hw (by simp [t₃]))
  have hcalls : ∀ j, t₄.calls j = if j = i then { t.calls i with
      unit := .finished
      claim := ((t.calls i).claim.cas .pending .expired).2
      reply := .dropped
      late := true } else t.calls j := by
    intro j
    by_cases hj : j = i <;> simp [t₄, t₃, t₂, t₁, hj]
  have hnot : i ∉ rest' := hq.not_mem (by simp)
  refine ⟨t₄, hsteps, { h.control with }, h.world,
    hq.congr rfl rfl rfl rfl rfl le_rfl fun j hj => ?_, ⟨by simp [t₄, t₃, t₂, t₁, System.took,
      System.update, hexec], rfl⟩, fun hr => by simp [(h.inLane hr).1] at hl, ?_⟩
  · have hji : j ≠ i := fun hji => hnot (hji ▸ hj)
    simp [hcalls, hji]
  · refine h.tickets.set hk htc rfl rfl le_rfl (fun j hj => by simp [hcalls, hj]) fun ha => ?_
    exact ha.close hu hcar.reply (fun c => (c.cas .pending .expired).2)
      ((hcalls i).trans (if_pos rfl)) fun _ => cas_pending_ne (by simp)

-- A taken submission still pending before its deadline: the closure claims it and runs it.
theorem Mirrors.startClaimed (h : Mirrors tk m t) {l : Loop ω ρ} (hl : m.loop = some l)
    {job : Job ω ρ} {rest : List (Job ω ρ)} {i : Nat} {rest' : List Nat}
    (hcar : Carries tk t job i) (hu : (t.calls i).unit = .queued) (hexec : t.executed = l.executed)
    (hq : Queue tk { m with buffer := rest } (t.took i rest')) {k : Nat} {tc : Ticket ρ}
    (hk : tk[k]? = some i) (htc : m.tickets[k]? = some tc) (hkind : (t.calls i).kind = .submit)
    (hlate : (t.calls i).late = false) (hp : tc.claim = .pending) (hi : i < t.count) :
    ∃ t', System.Settles (t.took i rest') t' ∧ Mirrors tk { m with
      buffer := rest
      loop := some ⟨l.executed + 1, some (job, m.now + job.work.duration)⟩
      tickets := m.tickets.set k { tc with claim := .running } } t' := by
  have ha := h.tickets.answers k i tc hk htc
  have hlive : (t.calls i).unit ≠ .discarded := by simp [hu]
  let t₁ := t.took i rest'
  let t₂ := t₁.update i fun c => { c with unit := .checked }
  let t₃ := t₂.update i fun c => { c with claim := .running, unit := .claimed }
  have hw : t₁.worker = .running i := rfl
  have hcheck : t₁.next .check = some t₂ := by
    have := System.next_check_of (s := t₁) hw (by simp [t₁]) (by simp [t₁, hkind])
    rwa [if_neg (by simp [t₁, hlate])] at this
  have hclaim : t₂.next .claim = some t₃ := by
    have := System.next_claim_of (s := t₂) hw (by simp [t₂])
    rwa [if_pos (by simp [t₂, t₁, ha.claim_eq hlive, hp])] at this
  have hcalls : ∀ j, t₃.calls j = if j = i then
      { t.calls i with unit := .claimed, claim := .running } else t.calls j := by
    intro j
    by_cases hj : j = i <;> simp [t₃, t₂, t₁, hj]
  have hnot : i ∉ rest' := hq.not_mem (by simp)
  refine ⟨t₃, ((System.Settles.refl t₁).tail .check trivial hcheck).tail .claim trivial hclaim,
    { h.control with }, h.world, hq.congr rfl rfl rfl rfl rfl le_rfl fun j hj => ?_,
    ⟨by simp [t₃, t₂, t₁, System.took, System.update, hexec], i, hi, rfl,
      hcar.unit ((hcalls i).trans (if_pos rfl)) rfl rfl rfl, by simp [hcalls, Call.startable]⟩,
    fun hr => by simp [(h.inLane hr).1] at hl, ?_⟩
  · have hji : j ≠ i := fun hji => hnot (hji ▸ hj)
    simp [hcalls, hji]
  · refine h.tickets.set hk htc rfl rfl le_rfl (fun j hj => by simp [hcalls, hj]) fun ha => ?_
    refine ⟨by simpa [hcalls] using ha.kind, fun hne => absurd (by simp [hcalls]) hne,
      fun hne => absurd (by simpa [hcalls] using ha.reply_eq hlive) hne, fun hL => ?_⟩
    simp [hcalls, hlate] at hL

theorem Mirrors.startJob (h : Mirrors tk m t) {l : Loop ω ρ} (hl : m.loop = some l)
    (hb : l.busy = none) (hc : m.cancelled = false) {job : Job ω ρ} {rest : List (Job ω ρ)}
    (hbuf : m.buffer = job :: rest) :
    ∃ t', System.Settles t t' ∧ Mirrors tk (m.startJob l job rest) t' := by
  obtain ⟨i, rest', hcar, hu, hi, hnext, hexec, hq⟩ := h.take hl hb hc hbuf
  have htake : System.Settles t (t.took i rest') := .tail .dequeue (.refl t) trivial hnext
  cases hj : job.ticket with
  | none =>
    rw [startJob_plain (.inl hj)]
    exact ⟨_, htake, h.startPlain hl hcar hu hexec hq (hcar.plain hj).2 hi⟩
  | some k =>
    have hk := hcar.ticket k hj
    obtain ⟨tc, htc⟩ : ∃ tc, m.tickets[k]? = some tc := by
      have hlt : k < m.tickets.length := h.tickets.length ▸ (List.getElem?_eq_some_iff.mp hk).1
      exact ⟨_, List.getElem?_eq_getElem hlt⟩
    have ha := h.tickets.answers k i tc hk htc
    cases hd : tc.deadline with
    | none =>
      rw [startJob_plain (.inr ⟨k, tc, hj, htc, hd⟩)]
      exact ⟨_, htake, h.startPlain hl hcar hu hexec hq (by simp [ha.kind, hd]) hi⟩
    | some d =>
      have hkind : (t.calls i).kind = .submit := by simp [ha.kind, hd]
      by_cases hle : d ≤ m.now
      · rw [startJob_late hb hj htc hd hle]
        obtain ⟨t', hs, hm⟩ := h.skip hl hcar hu hexec hq hk htc hkind hi
        exact ⟨t', htake.trans hs, hm⟩
      have hlt : m.now < d := Nat.lt_of_not_le hle
      by_cases hp : tc.claim = .pending
      · rw [startJob_claimed hj htc hd hlt hp]
        -- a pending call is late only once its ticket's deadline has passed
        have hlate : (t.calls i).late = false := by
          cases hL : (t.calls i).late
          · rfl
          · rcases ha.late hL with hne | ⟨d', hd', hle'⟩
            · exact absurd ((ha.claim_eq (by simp [hu])).trans hp) hne
            · simp only [hd, Option.some.injEq] at hd'
              omega
        obtain ⟨t', hs, hm⟩ := h.startClaimed hl hcar hu hexec hq hk htc hkind hlate hp hi
        exact ⟨t', htake.trans hs, hm⟩
      · rw [startJob_skipped hb hj htc hd hlt hp]
        obtain ⟨t', hs, hm⟩ := h.skip hl hcar hu hexec hq hk htc hkind hi
        rw [cas_of_ne hp] at hm
        exact ⟨t', htake.trans hs, hm⟩

theorem Mirrors.progress (h : Mirrors tk m t) {m' : Sim ω ρ} (hp : m.progress = some m') :
    ∃ t', System.Settles t t' ∧ Mirrors tk m' t' := by
  unfold Sim.progress at hp
  cases hl : m.loop with
  | none => simp [hl] at hp
  | some l =>
    cases hb : l.busy with
    | some p =>
      obtain ⟨job, ends⟩ := p
      simp only [hl, hb, Option.ite_none_right_eq_some, Option.some.injEq] at hp
      rw [← hp.2]
      exact h.finishJob hl hb
    | none =>
      cases hc : m.cancelled
      · cases hbuf : m.buffer with
        | cons job rest =>
          simp only [hl, hb, hc, hbuf, Bool.false_eq_true, if_false, Option.some.injEq] at hp
          rw [← hp]
          exact h.startJob hl hb hc hbuf
        | nil =>
          cases ho : m.senderOpen
          · simp only [hl, hb, hc, hbuf, ho, Bool.false_eq_true, if_false, Option.some.injEq] at hp
            rw [← hp]
            exact h.exitLoop hl hb (.inr ⟨hbuf, ho⟩)
          · simp [hl, hb, hc, hbuf, ho] at hp
      · simp only [hl, hb, hc, if_true, Option.some.injEq] at hp
        rw [← hp]
        exact h.exitLoop hl hb (.inl hc)

-- Settling is a run of worker steps, one for each move of the lane's worker.
theorem Mirrors.settle (h : Mirrors tk m t) (fuel : Nat) :
    ∃ t', System.Settles t t' ∧ Mirrors tk (m.settle fuel) t' := by
  induction fuel generalizing m t with
  | zero => exact ⟨t, .refl t, h⟩
  | succ fuel ih =>
    cases hp : m.progress with
    | none =>
      simp only [Sim.settle, hp]
      exact ⟨t, .refl t, h⟩
    | some m' =>
      obtain ⟨t₁, hs₁, h₁⟩ := h.progress hp
      obtain ⟨t₂, hs₂, h₂⟩ := ih h₁
      simp only [Sim.settle, hp]
      exact ⟨t₂, hs₁.trans hs₂, h₂⟩

theorem Mirrors.fire (h : Mirrors tk m t) : ∃ t', System.Settles t t' ∧ Mirrors tk m.fire t' := by
  unfold Sim.fire
  split
  · split
    · split
      · exact ⟨t.halt, System.settles_halt t, (h.aside m.logs m.tasks m.callerGone none).halt⟩
      · exact ⟨t, .refl t, h.aside m.logs m.tasks true none⟩
    · exact ⟨t, .refl t, h⟩
  · exact ⟨t, .refl t, h⟩

theorem Mirrors.pass (h : Mirrors tk m t) (fuel : Nat) :
    ∃ t', System.Settles t t' ∧ Mirrors tk (m.fire.settle fuel) t' := by
  obtain ⟨t₁, hs₁, h₁⟩ := h.fire
  obtain ⟨t₂, hs₂, h₂⟩ := h₁.settle fuel
  exact ⟨t₂, hs₁.trans hs₂, h₂⟩

-- Time passes on the lane alone: the interleaved lane has no clock.
theorem Mirrors.later (h : Mirrors tk m t) {n : Nat} (hn : m.now ≤ n) :
    Mirrors tk { m with now := n } t :=
  ⟨{ h.control with }, h.world, { h.queue with }, h.runs, h.inLane,
    h.tickets.congr rfl hn le_rfl fun _ => rfl⟩

theorem nextEvent_gt {limit : Option Nat} {n : Nat} (h : m.nextEvent limit = some n) :
    m.now < n := by
  unfold nextEvent at h
  have hmem := List.min?_mem h
  simp only [List.mem_filter, Bool.and_eq_true, decide_eq_true_eq] at hmem
  exact hmem.2.1

theorem Mirrors.wait (h : Mirrors tk m t) (ready : Sim ω ρ → Bool) (limit : Option Nat)
    (fuel : Nat) : ∃ t', System.Settles t t' ∧ Mirrors tk (m.wait ready limit fuel) t' := by
  induction fuel generalizing m t with
  | zero => exact ⟨t, .refl t, h⟩
  | succ fuel ih =>
    obtain ⟨t₁, hs₁, h₁⟩ := h.pass (2 * m.buffer.length + 4)
    simp only [Sim.wait]
    split
    · exact ⟨t₁, hs₁, h₁⟩
    · split
      · next n hn =>
        obtain ⟨t₂, hs₂, h₂⟩ := ih (h₁.later (nextEvent_gt hn).le)
        exact ⟨t₂, hs₁.trans hs₂, h₂⟩
      · exact ⟨t₁, hs₁, h₁⟩

end Sim

end ChatArchive.Lane
