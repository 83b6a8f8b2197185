import ChatArchive.Lane.Queue

namespace ChatArchive

namespace Lane

-- The calls that queue a unit of work.
inductive CallKind where
  | enqueue
  | tryEnqueue
  | submit
  deriving DecidableEq, Repr

-- What a call returned.
inductive Answer (ρ : Type) where
  -- the unit was queued
  | queued
  -- the value of a submitted unit
  | value (v : ρ)
  | failed (e : SubmitError)

def Answer.ofResult {ρ : Type} : Except SubmitError ρ → Answer ρ
  | .ok v => .value v
  | .error e => .failed e

def Delivery.ofOutcome {ρ : Type} : Except String ρ → Delivery ρ
  | .ok v => .value v
  | .error _ => .dropped

-- Where the task of a call is.
inductive CallerAt (ρ : Type) where
  -- the call has not begun
  | idle
  -- waiting to send its unit: for room, and a submission also for its deadline or token
  | sending
  -- a submission whose unit was sent, waiting for its reply, its deadline or its token
  | waiting
  -- a submission that found its unit claimed, waiting for the reply
  | resolving
  | returned (a : Answer ρ)
  -- the caller went away
  | dropped

-- Where the unit of a call is.
inductive UnitAt (ρ : Type) where
  -- with its caller
  | held
  | queued
  -- taken by the worker, its closure not yet looking at it
  | taken
  -- a submission whose deadline had not passed when its closure looked
  | checked
  -- a submission its closure claimed
  | claimed
  -- the body runs; what it ends with
  | running (r : Except String ρ)
  -- the closure returned
  | ended
  -- the worker went on
  | finished
  -- dropped without running
  | discarded

-- A call: what it queues, where its caller and its unit are, and for a submission the claim, the
-- reply, and whether its deadline passed and its token fired. Only a submission's claim is read.
structure Call (ω ρ : Type) where
  kind : CallKind
  work : Work ω ρ
  timeout : Nat
  caller : CallerAt ρ
  unit : UnitAt ρ
  claim : Claim
  reply : Delivery ρ
  late : Bool
  cancelled : Bool
  -- the caller holds a slot of the channel it has not sent into yet
  reserved : Bool
  -- what the body ended with, once it did
  outcome : Option (Except String ρ)

namespace Call

variable {ω ρ : Type}

def fresh (k : CallKind) (w : Work ω ρ) (timeout : Nat) : Call ω ρ :=
  ⟨k, w, timeout, .sending, .held, .pending, .waiting, false, false, false, none⟩

def blank : Call ω ρ :=
  { fresh .enqueue ⟨0, fun _ w => ((.error "", []), w)⟩ 0 with caller := .idle }

def guard (c : Call ω ρ) : Call ω ρ :=
  { c with claim := (c.claim.cas .pending .abandoned).2 }

def result (c : Call ω ρ) : Except SubmitError ρ :=
  match c.reply with
  | .value v => .ok v
  | _ => c.claim.resolve c.timeout

def abort (c : Call ω ρ) (dest : CallerAt ρ) : Call ω ρ :=
  { c.guard with caller := dest, unit := .discarded, reserved := false, reply := .dropped }

def enter (c : Call ω ρ) : Call ω ρ :=
  { c with
    unit := .queued
    reserved := false
    caller := if c.kind = CallKind.submit then .waiting else .returned .queued }

def startable (c : Call ω ρ) : Bool :=
  match c.unit, c.kind with
  | .claimed, _ => true
  | .taken, .enqueue | .taken, .tryEnqueue => true
  | _, _ => false

end Call

-- Where the worker loop is.
inductive WorkerAt where
  -- no `run` took the receiving end
  | absent
  -- at the top of its loop
  | idle
  -- waiting for the closure of call `i`
  | running (i : Nat)
  -- returned, after dropping `left` units
  | exited (left : Nat)
  deriving DecidableEq, Repr

-- A step of one task. The tasks run on a runtime with several threads, so a run is any order
-- of their steps, and most stretches of a task between two waits are split into several steps.
-- Three stay one step, each being one atomic operation of its own: a `tryEnqueue` is one
-- `try_send`, which takes a slot and sends or fails; a caller that gives up settles its claim
-- with one compare-and-exchange, and a token, which only ever goes from live to fired, read just
-- after it reads as it would have just before; the end of the worker loop closes the channel,
-- after which every send fails as it does on a stopped lane.
inductive Move (ω ρ : Type) where
  -- the lane is bound to its parent context
  | bindContext
  | stop
  | cancelRoot
  -- a call of kind `k` begins and takes a sender
  | begin (k : CallKind) (w : Work ω ρ) (timeout : Nat)
  -- a sender waiting for room is handed a slot
  | reserve (i : Nat)
  -- a sender puts its unit in its slot
  | send (i : Nat)
  -- the channel closed under a waiting sender
  | shut (i : Nat)
  -- the deadline of call `i` passes
  | expire (i : Nat)
  -- the token of call `i` fires
  | cancelCaller (i : Nat)
  -- a submission stops waiting to send at its deadline
  | outOfTime (i : Nat)
  -- a submission stops waiting to send when its token fires
  | withdraw (i : Nat)
  -- a submission takes its reply
  | collect (i : Nat)
  -- a waiting submission gives up at its deadline or token
  | giveUp (i : Nat)
  -- the caller of call `i` goes away
  | drop (i : Nat)
  -- a worker takes the receiving end
  | run
  -- the worker either leaves its loop or takes the next unit
  | dequeue
  -- the closure looks at its submission's deadline
  | check
  -- the closure claims its submission
  | claim
  | start
  | finish
  -- the worker learns that the closure returned
  | resume

-- A lane, its worker, the calls made of it, the world its units act on, and its history.
structure System (ω ρ : Type) where
  capacity : Nat
  phase : Phase
  -- the lane holds its context
  bound : Bool
  rootCancelled : Bool
  -- the lane's context was cancelled by a stop
  contextCancelled : Bool
  senderOpen : Bool
  receiver : Receiver
  -- the channel takes no more units
  closed : Bool
  -- the free slots of the channel
  permits : Nat
  -- the calls whose units wait in the channel, oldest first
  fifo : List Nat
  worker : WorkerAt
  executed : Nat
  -- the number of calls begun: call `i` is `calls i`
  count : Nat
  calls : Nat → Call ω ρ
  world : ω
  -- the calls whose units entered the channel, in order
  sent : List Nat
  -- the calls whose units the worker took, in order
  taken : List Nat
  -- the calls whose bodies started, in order, with whether their context was cancelled
  started : List (Nat × Bool)
  -- the calls whose units were queued when the receiving end went away
  lost : List Nat

namespace System

variable {ω ρ : Type}

def init (backlog : Nat) (world : ω) : System ω ρ :=
  ⟨max backlog 1, .uninitialized, false, false, false, true, .inLane, false, max backlog 1, [],
    .absent, 0, 0, fun _ => Call.blank, world, [], [], [], []⟩

def cancelled (s : System ω ρ) : Bool := s.rootCancelled || s.contextCancelled

def isReady (s : System ω ρ) : Bool :=
  s.phase == .ready && s.bound && !s.cancelled && s.senderOpen && !s.closed

def initAnswer (s : System ω ρ) : Except LaneError Unit :=
  match s.phase with
  | .stopped => .error .stopped
  | _ => .ok ()

-- What a `run` that cannot take the receiving end answers, or nothing when it can take it (the
-- move `run`).
def runRefusal (s : System ω ρ) : Option LaneError :=
  match s.phase with
  | .uninitialized => some .notReady
  | .stopped => some .stopped
  | .ready =>
    if !s.bound then some .notReady
    else if s.receiver = .inLane then none
    else some .alreadyRunning

def update (s : System ω ρ) (i : Nat) (f : Call ω ρ → Call ω ρ) : System ω ρ :=
  { s with calls := fun j => if j = i then f (s.calls i) else s.calls j }

def enroll (s : System ω ρ) (k : CallKind) (w : Work ω ρ) (timeout : Nat) : System ω ρ :=
  { s with count := s.count + 1 }.update s.count fun _ => Call.fresh k w timeout

def discard (s : System ω ρ) (units : List Nat) : System ω ρ :=
  { s with calls := fun j =>
      if j ∈ units then { s.calls j with unit := .discarded, reply := .dropped } else s.calls j }

def dropQueued (s : System ω ρ) : System ω ρ :=
  { s.discard s.fifo with receiver := .gone, closed := true, lost := s.lost ++ s.fifo, fifo := [] }

-- Stops the lane: cancels the lane's context and closes intake; when no worker holds the
-- receiving end, it goes away with every unit still queued. Only the first stop does anything.
def halt (s : System ω ρ) : System ω ρ :=
  if s.phase = .stopped then s
  else
    let s := { s with
      phase := .stopped
      contextCancelled := s.contextCancelled || s.bound
      bound := false
      senderOpen := false }
    if s.receiver = .inLane then s.dropQueued else s

def exit (s : System ω ρ) : System ω ρ :=
  { s.dropQueued.halt with worker := .exited s.fifo.length }

def push (s : System ω ρ) (i : Nat) : System ω ρ :=
  { s with fifo := s.fifo ++ [i], sent := s.sent ++ [i] }.update i (·.enter)

def abort (s : System ω ρ) (i : Nat) (dest : CallerAt ρ) : System ω ρ :=
  { s with permits := if (s.calls i).reserved then s.permits + 1 else s.permits }.update i
    (·.abort dest)

def refuse (s : System ω ρ) (i : Nat) (e : SubmitError) : System ω ρ :=
  s.abort i (.returned (.failed e))

def launch (s : System ω ρ) (i : Nat) : System ω ρ :=
  let step := (s.calls i).work.run s.cancelled s.world
  { s with world := step.2, started := s.started ++ [(i, s.cancelled)] }.update i fun c =>
    { c with unit := .running step.1.1 }

-- One step of one task, when that task can take it.
def next (s : System ω ρ) : Move ω ρ → Option (System ω ρ)
  | .bindContext =>
    match s.phase with
    | .uninitialized => some { s with phase := .ready, bound := true }
    | _ => none
  | .stop => if s.phase = .stopped then none else some s.halt
  | .cancelRoot => if s.rootCancelled then none else some { s with rootCancelled := true }
  | .begin k w timeout =>
    let i := s.count
    let s := s.enroll k w timeout
    -- taking a sender fails once the lane is stopped
    if s.phase = .stopped ∨ s.senderOpen = false then some (s.refuse i (.lane .stopped))
    else
      match k with
      | .tryEnqueue =>
        if s.closed then some (s.refuse i (.lane .stopped))
        else if s.permits = 0 then some (s.refuse i (.lane .full))
        else some ({ s with permits := s.permits - 1 }.push i)
      | _ => some s
  | .reserve i =>
    match (s.calls i).caller with
    | .sending =>
      if (s.calls i).reserved = false ∧ s.closed = false ∧ 0 < s.permits then
        some ({ s with permits := s.permits - 1 }.update i fun c => { c with reserved := true })
      else none
    | _ => none
  | .send i =>
    match (s.calls i).caller with
    | .sending => if (s.calls i).reserved ∧ s.closed = false then some (s.push i) else none
    | _ => none
  | .shut i =>
    match (s.calls i).caller with
    | .sending => if s.closed then some (s.refuse i (.lane .stopped)) else none
    | _ => none
  | .expire i =>
    if i < s.count ∧ (s.calls i).late = false then
      some (s.update i fun c => { c with late := true })
    else none
  | .cancelCaller i =>
    if i < s.count ∧ (s.calls i).cancelled = false then
      some (s.update i fun c => { c with cancelled := true })
    else none
  | .outOfTime i =>
    let c := s.calls i
    match c.caller, c.kind with
    | .sending, .submit =>
      if c.late then some (s.refuse i (.timedOut (Duration.ofMillis c.timeout))) else none
    | _, _ => none
  | .withdraw i =>
    let c := s.calls i
    match c.caller, c.kind with
    | .sending, .submit => if c.cancelled then some (s.refuse i .cancelled) else none
    | _, _ => none
  | .collect i =>
    let c := s.calls i
    match c.caller, c.reply with
    | .waiting, .waiting | .resolving, .waiting => none
    | .waiting, _ | .resolving, _ =>
      some (s.update i fun c => { c.guard with caller := .returned (.ofResult c.result) })
    | _, _ => none
  | .giveUp i =>
    let c := s.calls i
    match c.caller with
    | .waiting =>
      if c.late ∨ c.cancelled then
        -- the caller abandons the unit unless the closure claimed it first
        match c.claim.cas .pending .abandoned with
        | (true, claim) =>
          some (s.update i fun c => { c with claim := claim, caller := .returned (.failed
            (if c.cancelled then .cancelled else .timedOut (Duration.ofMillis c.timeout))) })
        | (false, _) => some (s.update i fun c => { c with caller := .resolving })
      else none
    | _ => none
  | .drop i =>
    match (s.calls i).caller with
    | .sending => some (s.abort i .dropped)
    | .waiting | .resolving => some (s.update i fun c => { c.guard with caller := .dropped })
    | _ => none
  | .run =>
    match s.phase, s.receiver with
    | .ready, .inLane =>
      if s.bound then some { s with receiver := .taken, worker := .idle } else none
    | _, _ => none
  | .dequeue =>
    match s.worker with
    | .idle =>
      -- the loop looks at its context before the channel
      if s.cancelled then some s.exit
      else
        match s.fifo with
        | i :: rest =>
          let s := { s with
            fifo := rest
            permits := s.permits + 1
            taken := s.taken ++ [i]
            executed := s.executed + 1
            worker := .running i }
          some (s.update i fun c => { c with unit := .taken })
        | [] => if s.senderOpen then none else some s.exit
    | _ => none
  | .check =>
    match s.worker with
    | .running i =>
      let c := s.calls i
      match c.unit, c.kind with
      | .taken, .submit =>
        if c.late then
          some (s.update i fun c => { c with
            claim := (c.claim.cas .pending .expired).2
            unit := .ended
            reply := .dropped })
        else some (s.update i fun c => { c with unit := .checked })
      | _, _ => none
    | _ => none
  | .claim =>
    match s.worker with
    | .running i =>
      let c := s.calls i
      match c.unit with
      | .checked =>
        match c.claim.cas .pending .running with
        | (true, claim) => some (s.update i fun c => { c with claim := claim, unit := .claimed })
        | (false, _) => some (s.update i fun c => { c with unit := .ended, reply := .dropped })
      | _ => none
    | _ => none
  | .start =>
    match s.worker with
    | .running i => if (s.calls i).startable then some (s.launch i) else none
    | _ => none
  | .finish =>
    match s.worker with
    | .running i =>
      match (s.calls i).unit with
      | .running r =>
        some (s.update i fun c =>
          { c with unit := .ended, outcome := some r, reply := Delivery.ofOutcome r })
      | _ => none
    | _ => none
  | .resume =>
    match s.worker with
    | .running i =>
      match (s.calls i).unit with
      | .ended => some ({ s with worker := .idle }.update i fun c => { c with unit := .finished })
      | _ => none
    | _ => none

def run (s : System ω ρ) : List (Move ω ρ) → Option (System ω ρ)
  | [] => some s
  | m :: ms => (s.next m).bind fun s => s.run ms

-- `t` follows from `s` by steps of the tasks.
inductive Steps : System ω ρ → System ω ρ → Prop
  | refl (s : System ω ρ) : Steps s s
  | tail {s t u : System ω ρ} (m : Move ω ρ) : Steps s t → t.next m = some u → Steps s u

end System

end Lane

end ChatArchive
