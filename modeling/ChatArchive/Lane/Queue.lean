import ChatArchive.Lane.Errors
import ChatArchive.Log.Logger

namespace ChatArchive

namespace Lane

-- A unit of work on a world of type `ω` with results of type `ρ`: how long it keeps the worker
-- busy, in milliseconds, and what it does when it ends, told whether its context is cancelled: its
-- result or the message it fails with, the records it reports, and the world after it.
structure Work (ω ρ : Type) where
  duration : Nat
  run : Bool → ω → (Except String ρ × List LogRecord) × ω

-- A queued unit of work, and the ticket of whoever waits for its result, if anyone.
structure Job (ω ρ : Type) where
  work : Work ω ρ
  ticket : Option Nat

-- Who holds a submitted unit: nobody yet, the worker, the caller that gave up, or nobody
-- because it started too late.
inductive Claim where
  | pending
  | running
  | abandoned
  | expired
  deriving DecidableEq, Repr

namespace Claim

-- Compare-and-exchange: a claim holding `expected` becomes `desired`, and the flag says whether
-- it did; any other claim stays.
def cas (c : Claim) (expected desired : Claim) : Bool × Claim :=
  if c = expected then (true, desired) else (false, c)

-- The end of a submission whose result channel closed without a value, read off its claim: the
-- unit started and failed, it started too late, or it was dropped unrun.
def resolve {ρ : Type} (c : Claim) (timeout : Nat) : Except SubmitError ρ :=
  match c with
  | .running => .error (.fault ⟨"submitted operation"⟩)
  | .expired => .error (.timedOut (Duration.ofMillis timeout))
  | _ => .error (.lane .stopped)

end Claim

-- What reached a waiting caller through its result channel.
inductive Delivery (ρ : Type) where
  | waiting
  | value (v : ρ)
  | dropped

-- A wait for a unit's result: the deadline for the unit to start, if it has one, the claim on
-- the unit, and what reached the caller.
structure Ticket (ρ : Type) where
  deadline : Option Nat
  claim : Claim
  delivery : Delivery ρ

-- The phases of a lane.
inductive Phase where
  | uninitialized
  | ready
  | stopped
  deriving DecidableEq, Repr

def Phase.name : Phase → String
  | .uninitialized => "uninitialized"
  | .ready => "ready"
  | .stopped => "stopped"

-- Where the receiving end of the lane is: in the lane, with a worker, or dropped.
inductive Receiver where
  | inLane
  | taken
  | gone
  deriving DecidableEq, Repr

-- A worker task that was started: still running, or finished with its result.
inductive Task where
  | running
  | finished (r : Except LaneError Unit)

-- The worker loop: how many units it took, and the unit it runs with the time it ends.
structure Loop (ω ρ : Type) where
  executed : Nat
  busy : Option (Job ω ρ × Nat)

-- An action scheduled while a caller waits.
inductive Action where
  | stop
  | cancelCaller

-- A lane, the world its units act on, and everything around it.
structure Sim (ω ρ : Type) where
  now : Nat
  backlog : Nat
  phase : Phase
  -- the parent context was cancelled
  rootCancelled : Bool
  -- the lane is bound to a context
  bound : Bool
  -- the lane's own context was cancelled
  contextCancelled : Bool
  senderOpen : Bool
  receiver : Receiver
  buffer : List (Job ω ρ)
  loop : Option (Loop ω ρ)
  tasks : List Task
  tickets : List (Ticket ρ)
  -- the caller of the submission under way went away
  callerGone : Bool
  scheduled : Option (Nat × Action)
  world : ω
  -- the records reported so far, by the lane, its units and their callers
  logs : List LogRecord

-- The most waiting units a lane can be made to hold: its count of free places shares a word
-- with three bits of state, so it is `2^61 - 1`.
def permitLimit : Nat := 2305843009213693951

def fits (backlog : Nat) : Bool := max backlog 1 ≤ permitLimit

def tooLargeMessage : String :=
  "a semaphore may not have more than MAX_PERMITS permits (" ++ toString permitLimit ++ ")"

namespace Sim

variable {ω ρ : Type}

def fresh (backlog : Nat) (world : ω) : Sim ω ρ :=
  ⟨0, max backlog 1, .uninitialized, false, false, false, true, .inLane, [], none, [], [], false,
    none, world, []⟩

def note (s : Sim ω ρ) (level : Level) (message : String) (fields : List Field) : Sim ω ρ :=
  { s with logs := s.logs ++ [Logger.root.record level "queue" message fields] }

def report (s : Sim ω ρ) (records : List LogRecord) : Sim ω ρ :=
  { s with logs := s.logs ++ records }

def takeLogs (s : Sim ω ρ) : List LogRecord × Sim ω ρ := (s.logs, { s with logs := [] })

def cancelled (s : Sim ω ρ) : Bool := s.rootCancelled || s.contextCancelled

-- Records what reached the caller of a ticket, unless something already did.
def deliver (s : Sim ω ρ) (ticket : Option Nat) (d : Delivery ρ) : Sim ω ρ :=
  match ticket with
  | none => s
  | some i =>
    { s with tickets := s.tickets.modify i fun t =>
        match t.delivery with
        | .waiting => { t with delivery := d }
        | _ => t }

def setClaim (s : Sim ω ρ) (i : Nat) (c : Claim) : Sim ω ρ :=
  { s with tickets := s.tickets.modify i fun t => { t with claim := c } }

def claimOf (s : Sim ω ρ) (i : Nat) : Claim :=
  ((s.tickets[i]?).map (·.claim)).getD .abandoned

def deliveryOf (s : Sim ω ρ) (i : Nat) : Delivery ρ :=
  ((s.tickets[i]?).map (·.delivery)).getD .dropped

def delivered (s : Sim ω ρ) (i : Nat) : Bool :=
  match s.deliveryOf i with
  | .waiting => false
  | _ => true

def deadlineOf (s : Sim ω ρ) (i : Nat) : Option Nat :=
  (s.tickets[i]?).bind (·.deadline)

def dropJobs (s : Sim ω ρ) (jobs : List (Job ω ρ)) : Sim ω ρ :=
  jobs.foldl (fun s j => s.deliver j.ticket .dropped) s

-- Stops the lane: cancels its context, closes intake, drops the waiting units unless a worker
-- holds them. Only the first stop reports.
def stop (s : Sim ω ρ) : Sim ω ρ :=
  if s.phase == .stopped then s
  else
    let s := { s with
      phase := .stopped
      contextCancelled := s.contextCancelled || s.bound
      senderOpen := false }
    let s := if s.receiver == .inLane then
        { s.dropJobs s.buffer with receiver := .gone, buffer := [] }
      else s
    s.note .info "Queue stopped" []

-- The worker loop ends: it closes the receiving end, drops what is left, stops the lane and
-- reports its counts.
def exitLoop (s : Sim ω ρ) (l : Loop ω ρ) : Sim ω ρ :=
  let discarded := s.buffer.length
  let s := { s.dropJobs s.buffer with buffer := [], receiver := .gone, loop := none }
  let s := s.stop
  let s := s.note .info "Queue worker exited"
    [("executed", toString l.executed), ("discarded", toString discarded)]
  { s with tasks := s.tasks.map fun t => match t with
    | .running => .finished (.ok ())
    | done => done }

-- The worker takes the next unit: a submission past its deadline or given up is skipped, any
-- other unit starts.
def startJob (s : Sim ω ρ) (l : Loop ω ρ) (job : Job ω ρ) (rest : List (Job ω ρ)) : Sim ω ρ :=
  let l := { l with executed := l.executed + 1 }
  let s := { s with buffer := rest }
  let begin (s : Sim ω ρ) : Sim ω ρ :=
    { s with loop := some { l with busy := some (job, s.now + job.work.duration) } }
  match job.ticket with
  | none => begin s
  | some i =>
    match s.deadlineOf i with
    | none => begin s
    | some deadline =>
      if s.now ≥ deadline then
        let s := match (s.claimOf i).cas .pending .expired with
          | (true, c) => s.setClaim i c
          | (false, _) => s
        { (s.deliver job.ticket .dropped) with loop := some l }
      else
        match (s.claimOf i).cas .pending .running with
        | (true, c) => begin (s.setClaim i c)
        | (false, _) => { (s.deliver job.ticket .dropped) with loop := some l }

-- A running unit ends and has its effect.
def finishJob (s : Sim ω ρ) (l : Loop ω ρ) (job : Job ω ρ) : Sim ω ρ :=
  let ((r, records), world) := job.work.run s.cancelled s.world
  let s := { s with loop := some { l with busy := none }, world := world }.report records
  match r with
  | .ok v => s.deliver job.ticket (.value v)
  | .error message =>
    (s.deliver job.ticket .dropped).note .critical "Operation panicked, worker continues"
      [("err", message), ("op_seq", toString l.executed)]

-- One move of the worker at the current time, if it can make one.
def progress (s : Sim ω ρ) : Option (Sim ω ρ) :=
  match s.loop with
  | none => none
  | some l =>
    match l.busy with
    | some (job, ends) => if ends ≤ s.now then some (s.finishJob l job) else none
    | none =>
      if s.cancelled then some (s.exitLoop l)
      else
        match s.buffer with
        | job :: rest => some (s.startJob l job rest)
        | [] => if s.senderOpen then none else some (s.exitLoop l)

-- Lets the worker move as far as it can at the current time.
def settle (s : Sim ω ρ) : Nat → Sim ω ρ
  | 0 => s
  | fuel + 1 =>
    match s.progress with
    | some s' => s'.settle fuel
    | none => s

-- Runs the scheduled action if its time has come.
def fire (s : Sim ω ρ) : Sim ω ρ :=
  match s.scheduled with
  | some (t, a) =>
    if t ≤ s.now then
      let s := { s with scheduled := none }
      match a with
      | .stop => s.stop
      | .cancelCaller => { s with callerGone := true }
    else s
  | none => s

-- The next time after now at which something happens, no later than `limit`.
def nextEvent (s : Sim ω ρ) (limit : Option Nat) : Option Nat :=
  let busyEnd := s.loop.bind fun l => l.busy.map (·.2)
  let times := [busyEnd, s.scheduled.map (·.1), limit].filterMap id |>.filter fun t =>
    t > s.now && (match limit with
      | some l => t ≤ l
      | none => true)
  times.min?

-- The caller waits until `ready` holds or the clock reaches `limit`; meanwhile the worker runs
-- and time moves from event to event.
def wait (s : Sim ω ρ) (ready : Sim ω ρ → Bool) (limit : Option Nat) : Nat → Sim ω ρ
  | 0 => s
  | fuel + 1 =>
    let s := (s.fire).settle (2 * s.buffer.length + 4)
    if ready s then s
    else
      match s.nextEvent limit with
      | some t => ({ s with now := t }).wait ready limit fuel
      | none => s

def pass (s : Sim ω ρ) : Sim ω ρ := (s.fire).settle (2 * s.buffer.length + 4)

def waitFuel (s : Sim ω ρ) : Nat := 2 * s.buffer.length + 16

def bindContext (s : Sim ω ρ) : Except LaneError Unit × Sim ω ρ :=
  match s.phase with
  | .uninitialized => (.ok (), { s with phase := .ready, bound := true })
  | .ready => (.ok (), s)
  | .stopped => (.error .stopped, s)

def isReady (s : Sim ω ρ) : Bool :=
  s.phase == .ready && s.bound && !s.cancelled && s.senderOpen && s.receiver != .gone

def intake (s : Sim ω ρ) : Except LaneError Unit :=
  if s.phase == .stopped || !s.senderOpen || s.receiver == .gone then .error .stopped else .ok ()

def hasRoom (s : Sim ω ρ) : Bool := s.buffer.length < s.backlog

-- Queues a unit if there is room, without waiting.
def tryEnqueue (s : Sim ω ρ) (w : Work ω ρ) : Except LaneError Unit × Sim ω ρ :=
  match s.intake with
  | .error e => (.error e, s)
  | .ok () =>
    if s.hasRoom then (.ok (), { s with buffer := s.buffer ++ [⟨w, none⟩] })
    else (.error .full, s)

def waitForRoom (s : Sim ω ρ) (limit : Option Nat) : Sim ω ρ :=
  if s.hasRoom then s
  else s.wait (fun s => s.hasRoom || s.receiver == .gone || s.callerGone) limit s.waitFuel

-- Queues a unit, waiting up to `patience` milliseconds for room: `true` when it was queued,
-- `false` when no room came and the unit was dropped.
def enqueue (s : Sim ω ρ) (w : Work ω ρ) (patience : Nat) : Except LaneError Bool × Sim ω ρ :=
  match s.intake with
  | .error e => (.error e, s)
  | .ok () =>
    let s := s.waitForRoom (some (s.now + patience))
    if s.receiver == .gone then (.error .stopped, s)
    else if s.hasRoom then (.ok true, { s with buffer := s.buffer ++ [⟨w, none⟩] })
    else (.ok false, s)

-- Queues a unit whose result comes back through a reply channel, waiting as long as it takes
-- for room: the ticket of the reply.
def enqueueWithReply (s : Sim ω ρ) (w : Work ω ρ) : Except LaneError Nat × Sim ω ρ :=
  match s.intake with
  | .error e => (.error e, s)
  | .ok () =>
    let s := s.waitForRoom none
    if s.receiver == .gone || !s.hasRoom then (.error .stopped, s)
    else
      let i := s.tickets.length
      let ticket : Ticket ρ := ⟨none, .pending, .waiting⟩
      (.ok i, { s with tickets := s.tickets ++ [ticket], buffer := s.buffer ++ [⟨w, some i⟩] })

-- Waits for a reply, while `during` is scheduled: its value, or nothing when the lane dropped
-- the unit.
def awaitReply (s : Sim ω ρ) (i : Nat) (during : Option (Nat × Action)) : Option ρ × Sim ω ρ :=
  let s := { s with scheduled := during.map fun (after, a) => (s.now + after, a) }
  let s := s.wait (fun s => s.delivered i) none s.waitFuel
  let s := { s with scheduled := none }
  match s.deliveryOf i with
  | .value v => (some v, s)
  | _ => (none, s)

def resolveDropped (s : Sim ω ρ) (i : Nat) (timeout : Nat) : Except SubmitError ρ :=
  (s.claimOf i).resolve timeout

-- Waits for the value of a started submission until `limit`, or for as long as it takes.
def await (s : Sim ω ρ) (i : Nat) (timeout : Nat) (limit : Option Nat) :
    Option (Except SubmitError ρ) × Sim ω ρ :=
  let s := s.wait (fun s => s.delivered i || (limit.isSome && s.callerGone)) limit s.waitFuel
  match s.deliveryOf i with
  | .value v => (some (.ok v), s)
  | .dropped => (some (s.resolveDropped i timeout), s)
  | .waiting => (none, s)

def within (deadline : Nat) : Option Nat → Nat
  | some cut => if cut < deadline then cut else deadline
  | none => deadline

-- Submits a unit and waits for its value, at most `timeout` milliseconds for it to start, while
-- `during` is scheduled.
def submitUntil (s : Sim ω ρ) (w : Work ω ρ) (timeout : Nat) (callerGone : Bool)
    (during : Option (Nat × Action)) (cutoff : Option Nat) :
    Option (Except SubmitError ρ) × Sim ω ρ :=
  let finish (r : Option (Except SubmitError ρ)) (s : Sim ω ρ) :=
    (r, { s with scheduled := none, callerGone := false })
  let timedOut : Except SubmitError ρ := .error (.timedOut (Duration.ofMillis timeout))
  let cutOff (s : Sim ω ρ) : Bool := match cutoff with
    | some c => s.now ≥ c
    | none => false
  match s.intake with
  | .error e => finish (some (.error (.lane e))) s
  | .ok () =>
    let i := s.tickets.length
    let deadline := s.now + timeout
    let ticket : Ticket ρ := ⟨some deadline, .pending, .waiting⟩
    let s : Sim ω ρ := { s with
      tickets := s.tickets ++ [ticket]
      callerGone := callerGone
      scheduled := during.map fun (after, a) => (s.now + after, a) }
    if s.callerGone then finish (some (.error .cancelled)) s
    else if timeout == 0 then finish (some timedOut) s
    else
      -- first the unit has to find room in the lane
      let s := s.waitForRoom (some (within deadline cutoff))
      if s.receiver == .gone then finish (some (.error (.lane .stopped))) s
      else if !s.hasRoom then
        if s.callerGone then finish (some (.error .cancelled)) s
        else if cutOff s && s.now < deadline then finish none s
        else finish (some timedOut) s
      else
        let s : Sim ω ρ := { s with buffer := s.buffer ++ [⟨w, some i⟩] }
        match s.await i timeout (some (within deadline cutoff)) with
        | (some r, s) => finish (some r) s
        | (none, s) =>
          match (s.claimOf i).cas .pending .abandoned with
          | (true, c) =>
            let s := s.setClaim i c
            if s.callerGone then finish (some (.error .cancelled)) s
            else if cutOff s && s.now < deadline then finish none s
            else finish (some timedOut) s
          | (false, _) =>
            if cutOff s then finish none s
            else
              match s.await i timeout cutoff with
              | (some r, s) => finish (some r) s
              | (none, s) => finish (if cutoff.isSome then none else some (.error (.lane .stopped))) s

def submit (s : Sim ω ρ) (w : Work ω ρ) (timeout : Nat) (callerGone : Bool)
    (during : Option (Nat × Action)) : Except SubmitError ρ × Sim ω ρ :=
  let (r, s) := s.submitUntil w timeout callerGone during none
  (r.getD (.error (.lane .stopped)), s)

-- What starting a worker gave: whether the new worker already ended, with its result, and the
-- result of the follow-up no-op submission when a worker is live.
structure Started (ρ : Type) where
  exited : Option (Except LaneError Unit)
  drain : Option (Except SubmitError ρ)

-- Starts a worker, lets it run for a millisecond, and submits the no-op unit `idle` when a
-- worker is live afterwards.
def start (s : Sim ω ρ) (idle : Work ω ρ) : Started ρ × Sim ω ρ :=
  let (task, s) : Task × Sim ω ρ := match s.phase with
    | .uninitialized => (.finished (.error .notReady), s)
    | .stopped => (.finished (.error .stopped), s)
    | .ready =>
      if !s.bound then (.finished (.error .notReady), s)
      else if s.receiver != .inLane then (.finished (.error .alreadyRunning), s)
      else
        (.running, ({ s with loop := some ⟨0, none⟩, receiver := .taken }).note .info
          "Queue worker started" [("backlog", toString s.backlog)])
  let k := s.tasks.length
  let s := { s with tasks := s.tasks ++ [task] }
  let s := s.wait (fun _ => false) (some (s.now + 1)) s.waitFuel
  let (exited, s) := match s.tasks[k]? with
    | some (.finished r) => (some r, { s with tasks := s.tasks.eraseIdx k })
    | _ => (none, s)
  let live := s.tasks.any fun t => match t with
    | .running => true
    | _ => false
  if live then
    let (r, s) := s.submit idle 5000 false none
    (⟨exited, some r⟩, s)
  else (⟨exited, none⟩, s)

-- Waits for every started worker to end and collects their results.
def joinAll (s : Sim ω ρ) : List (Except LaneError Unit) × Sim ω ρ :=
  let s := s.wait (fun s => s.tasks.all fun t => match t with
      | .running => false
      | _ => true) none s.waitFuel
  let results := s.tasks.map fun t => match t with
    | .finished r => r
    | .running => .ok ()
  (results, { s with tasks := [] })

def stopAndJoin (s : Sim ω ρ) : List (Except LaneError Unit) × Sim ω ρ := s.stop.joinAll

def cancelAndJoin (s : Sim ω ρ) : List (Except LaneError Unit) × Sim ω ρ :=
  ({ s with rootCancelled := true }).joinAll

end Sim

end Lane

end ChatArchive
