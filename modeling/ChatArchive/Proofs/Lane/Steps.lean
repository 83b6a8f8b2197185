import ChatArchive.Lane.System

namespace ChatArchive.Lane

variable {ω ρ : Type}

def UnitAt.busy : UnitAt ρ → Prop
  | .taken | .checked | .claimed | .running _ | .ended => True
  | _ => False

namespace System

section Fields

variable (s : System ω ρ) (i j : Nat)

-- the helpers change the calls and, where named, the channel and the history; nothing else
section Frames

variable (f : Call ω ρ → Call ω ρ) (k : CallKind) (w : Work ω ρ) (tm : Nat) (dest : CallerAt ρ)

@[simp] theorem update_count : (s.update i f).count = s.count := rfl
@[simp] theorem update_fifo : (s.update i f).fifo = s.fifo := rfl
@[simp] theorem update_worker : (s.update i f).worker = s.worker := rfl
@[simp] theorem update_started : (s.update i f).started = s.started := rfl
@[simp] theorem enroll_count : (s.enroll k w tm).count = s.count + 1 := rfl
@[simp] theorem enroll_fifo : (s.enroll k w tm).fifo = s.fifo := rfl
@[simp] theorem enroll_worker : (s.enroll k w tm).worker = s.worker := rfl
@[simp] theorem enroll_started : (s.enroll k w tm).started = s.started := rfl
@[simp] theorem push_count : (s.push i).count = s.count := rfl
@[simp] theorem push_fifo : (s.push i).fifo = s.fifo ++ [i] := rfl
@[simp] theorem push_worker : (s.push i).worker = s.worker := rfl
@[simp] theorem push_started : (s.push i).started = s.started := rfl
@[simp] theorem abort_count : (s.abort i dest).count = s.count := rfl
@[simp] theorem abort_fifo : (s.abort i dest).fifo = s.fifo := rfl
@[simp] theorem abort_worker : (s.abort i dest).worker = s.worker := rfl
@[simp] theorem abort_started : (s.abort i dest).started = s.started := rfl
@[simp] theorem refuse_started (e : SubmitError) : (s.refuse i e).started = s.started := rfl
@[simp] theorem launch_count : (s.launch i).count = s.count := rfl
@[simp] theorem launch_fifo : (s.launch i).fifo = s.fifo := rfl
@[simp] theorem launch_worker : (s.launch i).worker = s.worker := rfl
@[simp] theorem update_world : (s.update i f).world = s.world := rfl
@[simp] theorem update_taken : (s.update i f).taken = s.taken := rfl
@[simp] theorem update_sent : (s.update i f).sent = s.sent := rfl
@[simp] theorem enroll_world : (s.enroll k w tm).world = s.world := rfl
@[simp] theorem enroll_taken : (s.enroll k w tm).taken = s.taken := rfl
@[simp] theorem enroll_sent : (s.enroll k w tm).sent = s.sent := rfl
@[simp] theorem push_world : (s.push i).world = s.world := rfl
@[simp] theorem push_taken : (s.push i).taken = s.taken := rfl
@[simp] theorem push_sent : (s.push i).sent = s.sent ++ [i] := rfl
@[simp] theorem abort_world : (s.abort i dest).world = s.world := rfl
@[simp] theorem abort_taken : (s.abort i dest).taken = s.taken := rfl
@[simp] theorem abort_sent : (s.abort i dest).sent = s.sent := rfl
@[simp] theorem launch_world :
    (s.launch i).world = ((s.calls i).work.run s.cancelled s.world).2 := rfl
@[simp] theorem launch_taken : (s.launch i).taken = s.taken := rfl
@[simp] theorem launch_sent : (s.launch i).sent = s.sent := rfl

end Frames

@[simp] theorem update_calls (f : Call ω ρ → Call ω ρ) :
    (s.update i f).calls j = if j = i then f (s.calls i) else s.calls j := rfl

@[simp] theorem enroll_calls (k : CallKind) (w : Work ω ρ) (tm : Nat) :
    (s.enroll k w tm).calls j = if j = s.count then Call.fresh k w tm else s.calls j := rfl

@[simp] theorem push_calls :
    (s.push i).calls j = if j = i then (s.calls i).enter else s.calls j := rfl

@[simp] theorem abort_calls (dest : CallerAt ρ) :
    (s.abort i dest).calls j = if j = i then (s.calls i).abort dest else s.calls j := rfl

@[simp] theorem refuse_calls (e : SubmitError) :
    (s.refuse i e).calls j = if j = i then (s.calls i).abort (.returned (.failed e)) else s.calls j :=
  rfl

@[simp] theorem launch_calls :
    (s.launch i).calls j = if j = i then
      { s.calls i with unit := .running ((s.calls i).work.run s.cancelled s.world).1.1 }
    else s.calls j := rfl

theorem update_caller {f : Call ω ρ → Call ω ρ} (hf : ∀ c, (f c).caller = c.caller) :
    ((s.update i f).calls j).caller = (s.calls j).caller := by
  by_cases hj : j = i <;> simp [hj, hf]

theorem launch_caller : ((s.launch i).calls j).caller = (s.calls j).caller := by
  by_cases hj : j = i <;> simp [hj]

@[simp] theorem launch_started :
    (s.launch i).started = s.started ++ [(i, s.cancelled)] := rfl

@[simp] theorem discard_calls (us : List Nat) :
    (s.discard us).calls j =
      if j ∈ us then { s.calls j with unit := .discarded, reply := .dropped } else s.calls j := rfl

@[simp] theorem dropQueued_calls :
    s.dropQueued.calls j =
      if j ∈ s.fifo then { s.calls j with unit := .discarded, reply := .dropped } else s.calls j := by
  simp [dropQueued]

theorem halt_calls_eq : s.halt.calls j = s.calls j ∨
    (j ∈ s.fifo ∧ s.halt.calls j = { s.calls j with unit := .discarded, reply := .dropped }) := by
  unfold halt
  split
  · exact .inl rfl
  · dsimp only
    split
    · by_cases hj : j ∈ s.fifo <;> simp [hj]
    · exact .inl rfl

@[simp] theorem halt_started : s.halt.started = s.started := by
  unfold halt
  split
  · rfl
  · dsimp only
    split <;> rfl

theorem halt_history : s.halt.world = s.world ∧ s.halt.worker = s.worker ∧
    s.halt.sent = s.sent ∧ s.halt.taken = s.taken := by
  unfold halt
  split
  · exact ⟨rfl, rfl, rfl, rfl⟩
  · dsimp only
    split <;> exact ⟨rfl, rfl, rfl, rfl⟩

@[simp] theorem halt_world : s.halt.world = s.world := s.halt_history.1
@[simp] theorem halt_worker : s.halt.worker = s.worker := s.halt_history.2.1
@[simp] theorem halt_sent : s.halt.sent = s.sent := s.halt_history.2.2.1
@[simp] theorem halt_taken : s.halt.taken = s.taken := s.halt_history.2.2.2

@[simp] theorem exit_calls :
    s.exit.calls j =
      if j ∈ s.fifo then { s.calls j with unit := .discarded, reply := .dropped } else s.calls j := by
  have hr : s.dropQueued.receiver = .gone := rfl
  simp only [exit, halt, hr]
  split <;> simp

@[simp] theorem exit_started : s.exit.started = s.started := by
  simp only [exit, halt_started]
  rfl

@[simp] theorem exit_world : s.exit.world = s.world := by
  simp only [exit, halt_world]
  rfl

end Fields

section Inversion

variable {s t : System ω ρ} {i : Nat}

theorem next_bindContext (h : s.next .bindContext = some t) :
    s.phase = .uninitialized ∧ t = { s with phase := .ready, bound := true } := by
  simp only [next] at h
  split at h
  · cases h; simp_all
  · cases h

theorem next_stop (h : s.next .stop = some t) : s.phase ≠ .stopped ∧ t = s.halt := by
  simp only [next] at h
  split at h
  · cases h
  · cases h; simp_all

theorem next_cancelRoot (h : s.next .cancelRoot = some t) :
    s.rootCancelled = false ∧ t = { s with rootCancelled := true } := by
  simp only [next] at h
  split at h
  · cases h
  · cases h; simp_all

theorem next_begin {k : CallKind} {w : Work ω ρ} {tm : Nat} (h : s.next (.begin k w tm) = some t) :
    (∃ e, t = (s.enroll k w tm).refuse s.count e ∧
      (e = .lane .stopped ∧
          (s.phase = .stopped ∨ s.senderOpen = false ∨ k = .tryEnqueue ∧ s.closed = true) ∨
        e = .lane .full ∧ k = .tryEnqueue ∧ s.phase ≠ .stopped ∧ s.senderOpen = true ∧
          s.closed = false ∧ s.permits = 0)) ∨
    (k = .tryEnqueue ∧ s.phase ≠ .stopped ∧ s.senderOpen = true ∧ s.closed = false ∧
      0 < s.permits ∧ t = { s.enroll k w tm with permits := s.permits - 1 }.push s.count) ∨
    (k ≠ .tryEnqueue ∧ s.phase ≠ .stopped ∧ s.senderOpen = true ∧ t = s.enroll k w tm) := by
  simp only [next] at h
  split at h
  · rename_i hst
    cases h
    exact .inl ⟨_, rfl, .inl ⟨rfl, hst.elim .inl (.inr ∘ .inl)⟩⟩
  · rename_i hopen
    have hp : s.phase ≠ .stopped ∧ s.senderOpen = true := by simp_all [enroll, update]
    split at h
    · split at h
      · cases h; exact .inl ⟨_, rfl, .inl ⟨rfl, by simp_all [enroll, update]⟩⟩
      · split at h
        · cases h
          exact .inl ⟨_, rfl, .inr ⟨rfl, rfl, hp.1, hp.2, by simp_all [enroll, update]⟩⟩
        · cases h
          refine .inr (.inl ⟨rfl, hp.1, hp.2, ?_, ?_, rfl⟩)
          · simp_all [enroll, update]
          · simp_all [enroll, update]
            omega
    · rename_i hk
      cases h
      exact .inr (.inr ⟨hk, hp.1, hp.2, rfl⟩)

theorem next_reserve (h : s.next (.reserve i) = some t) :
    (s.calls i).caller = .sending ∧ (s.calls i).reserved = false ∧ s.closed = false ∧
      0 < s.permits ∧
      t = { s with permits := s.permits - 1 }.update i fun c => { c with reserved := true } := by
  simp only [next] at h
  split at h
  · split at h
    · cases h; simp_all
    · cases h
  · cases h

theorem next_send (h : s.next (.send i) = some t) :
    (s.calls i).caller = .sending ∧ (s.calls i).reserved = true ∧ s.closed = false ∧
      t = s.push i := by
  simp only [next] at h
  split at h
  · split at h
    · cases h; simp_all
    · cases h
  · cases h

theorem next_shut (h : s.next (.shut i) = some t) :
    (s.calls i).caller = .sending ∧ s.closed = true ∧ t = s.refuse i (.lane .stopped) := by
  simp only [next] at h
  split at h
  · split at h
    · cases h; simp_all
    · cases h
  · cases h

theorem next_expire (h : s.next (.expire i) = some t) :
    i < s.count ∧ (s.calls i).late = false ∧ t = s.update i fun c => { c with late := true } := by
  simp only [next] at h
  split at h
  · cases h; simp_all
  · cases h

theorem next_cancelCaller (h : s.next (.cancelCaller i) = some t) :
    i < s.count ∧ (s.calls i).cancelled = false ∧
      t = s.update i fun c => { c with cancelled := true } := by
  simp only [next] at h
  split at h
  · cases h; simp_all
  · cases h

theorem next_outOfTime (h : s.next (.outOfTime i) = some t) :
    (s.calls i).caller = .sending ∧ (s.calls i).kind = .submit ∧ (s.calls i).late = true ∧
      t = s.refuse i (.timedOut (Duration.ofMillis (s.calls i).timeout)) := by
  simp only [next] at h
  split at h
  · split at h
    · cases h; simp_all
    · cases h
  · cases h

theorem next_withdraw (h : s.next (.withdraw i) = some t) :
    (s.calls i).caller = .sending ∧ (s.calls i).kind = .submit ∧
      (s.calls i).cancelled = true ∧ t = s.refuse i .cancelled := by
  simp only [next] at h
  split at h
  · split at h
    · cases h; simp_all
    · cases h
  · cases h

theorem next_collect (h : s.next (.collect i) = some t) :
    ((s.calls i).caller = .waiting ∨ (s.calls i).caller = .resolving) ∧
      (s.calls i).reply ≠ .waiting ∧
      t = s.update i fun c => { c.guard with caller := .returned (.ofResult c.result) } := by
  simp only [next] at h
  split at h
  · cases h
  · cases h
  · cases h; simp_all
  · cases h; simp_all
  · cases h

theorem next_giveUp (h : s.next (.giveUp i) = some t) :
    (s.calls i).caller = .waiting ∧ ((s.calls i).late ∨ (s.calls i).cancelled) ∧
      ((s.calls i).claim = .pending ∧ t = s.update i (fun c => { c with
          claim := .abandoned
          caller := .returned (.failed
            (if c.cancelled then .cancelled else .timedOut (Duration.ofMillis c.timeout))) }) ∨
       (s.calls i).claim ≠ .pending ∧ t = s.update i fun c => { c with caller := .resolving }) := by
  simp only [next] at h
  split at h
  · split at h
    · cases hcl : (s.calls i).claim <;> simp_all [Claim.cas]
    · cases h
  · cases h

theorem next_drop (h : s.next (.drop i) = some t) :
    ((s.calls i).caller = .sending ∧ t = s.abort i .dropped) ∨
      (((s.calls i).caller = .waiting ∨ (s.calls i).caller = .resolving) ∧
        t = s.update i fun c => { c.guard with caller := .dropped }) := by
  simp only [next] at h
  split at h
  · cases h; simp_all
  · cases h; simp_all
  · cases h; simp_all
  · cases h

theorem next_run (h : s.next .run = some t) :
    s.phase = .ready ∧ s.receiver = .inLane ∧ s.bound = true ∧
      t = { s with receiver := .taken, worker := .idle } := by
  simp only [next] at h
  split at h
  · split at h
    · cases h; simp_all
    · cases h
  · cases h

theorem next_dequeue (h : s.next .dequeue = some t) :
    s.worker = .idle ∧
      (s.cancelled = true ∧ t = s.exit ∨
        s.cancelled = false ∧ s.fifo = [] ∧ s.senderOpen = false ∧ t = s.exit ∨
        s.cancelled = false ∧ ∃ j rest, s.fifo = j :: rest ∧
          t = { s with
            fifo := rest
            permits := s.permits + 1
            taken := s.taken ++ [j]
            executed := s.executed + 1
            worker := .running j }.update j fun c => { c with unit := .taken }) := by
  simp only [next] at h
  split at h
  · split at h
    · cases h; simp_all
    · rename_i hc
      split at h
      · rename_i j rest hf
        cases h
        exact ⟨‹_›, .inr (.inr ⟨by simpa using hc, j, rest, hf, rfl⟩)⟩
      · split at h
        · cases h
        · cases h; simp_all
  · cases h

theorem next_check (h : s.next .check = some t) :
    ∃ i, s.worker = .running i ∧ (s.calls i).unit = .taken ∧ (s.calls i).kind = .submit ∧
      ((s.calls i).late = true ∧ t = s.update i (fun c => { c with
          claim := (c.claim.cas .pending .expired).2
          unit := .ended
          reply := .dropped }) ∨
       (s.calls i).late = false ∧ t = s.update i fun c => { c with unit := .checked }) := by
  simp only [next] at h
  split at h
  · split at h
    · split at h
      · cases h; simp_all
      · cases h; simp_all
    · cases h
  · cases h

theorem next_claim (h : s.next .claim = some t) :
    ∃ i, s.worker = .running i ∧ (s.calls i).unit = .checked ∧
      ((s.calls i).claim = .pending ∧
          t = s.update i (fun c => { c with claim := .running, unit := .claimed }) ∨
        (s.calls i).claim ≠ .pending ∧
          t = s.update i fun c => { c with unit := .ended, reply := .dropped }) := by
  simp only [next] at h
  split at h
  · rename_i j hw
    split at h
    · cases hcl : (s.calls j).claim <;> simp_all [Claim.cas]
    · cases h
  · cases h

theorem next_start (h : s.next .start = some t) :
    ∃ i, s.worker = .running i ∧ (s.calls i).startable = true ∧ t = s.launch i := by
  simp only [next] at h
  split at h
  · split at h
    · cases h; simp_all
    · cases h
  · cases h

theorem next_finish (h : s.next .finish = some t) :
    ∃ i r, s.worker = .running i ∧ (s.calls i).unit = .running r ∧
      t = s.update i fun c => { c with unit := .ended, outcome := some r, reply := .ofOutcome r } := by
  simp only [next] at h
  split at h
  · split at h
    · cases h; simp_all
    · cases h
  · cases h

theorem next_resume (h : s.next .resume = some t) :
    ∃ i, s.worker = .running i ∧ (s.calls i).unit = .ended ∧
      t = { s with worker := .idle }.update i fun c => { c with unit := .finished } := by
  simp only [next] at h
  split at h
  · split at h
    · cases h; simp_all
    · cases h
  · cases h

theorem next_collect_eq (hc : (s.calls i).caller = .waiting ∨ (s.calls i).caller = .resolving)
    (hr : (s.calls i).reply ≠ .waiting) :
    s.next (.collect i) =
      some (s.update i fun c => { c.guard with caller := .returned (.ofResult c.result) }) := by
  simp only [next]
  rcases hc with hc | hc <;> cases hrep : (s.calls i).reply <;> simp_all

end Inversion

-- What every lane keeps from its start: the channel holds queued units, each once; calls not
-- yet made are blank; a sending caller still holds its unit; the worker waits only on a unit it
-- holds; bodies start only for calls that were made.
structure Wf (s : System ω ρ) : Prop where
  queued : ∀ j ∈ s.fifo, (s.calls j).unit = .queued
  nodup : s.fifo.Nodup
  blank : ∀ j, s.count ≤ j → s.calls j = Call.blank
  holding : ∀ j, (s.calls j).caller = .sending → (s.calls j).unit = .held
  busy : ∀ j, s.worker = .running j → (s.calls j).unit.busy
  started : ∀ p ∈ s.started, p.1 < s.count

namespace Wf

variable {s t : System ω ρ} {j : Nat}

theorem init (b : Nat) (w : ω) : (System.init b w : System ω ρ).Wf where
  queued := by simp [System.init]
  nodup := by simp [System.init]
  blank _ _ := rfl
  holding _ h := by simp [System.init, Call.blank, Call.fresh] at h
  busy _ h := by simp [System.init] at h
  started := by simp [System.init]

theorem lt_count (hw : s.Wf) (h : (s.calls j).caller ≠ .idle) : j < s.count :=
  Nat.lt_of_not_le fun hj => h (by rw [hw.blank j hj]; rfl)

theorem not_mem_fifo (hw : s.Wf) (h : (s.calls j).unit ≠ .queued) : j ∉ s.fifo :=
  fun hm => h (hw.queued j hm)

theorem frame (hw : s.Wf) (hf : t.fifo = s.fifo) (hc : t.count = s.count)
    (hs : t.started = s.started) (hk : ∀ j, t.worker = .running j → s.worker = .running j)
    (hu : ∀ j, (t.calls j).unit = (s.calls j).unit)
    (hsend : ∀ j, (t.calls j).caller = .sending → (s.calls j).caller = .sending)
    (hb : ∀ j, s.count ≤ j → t.calls j = s.calls j) : t.Wf where
  queued j hj := by rw [hu]; exact hw.queued j (hf ▸ hj)
  nodup := hf ▸ hw.nodup
  blank j hj := by rw [hb j (hc ▸ hj)]; exact hw.blank j (hc ▸ hj)
  holding j h := by rw [hu]; exact hw.holding j (hsend j h)
  busy j h := by rw [hu]; exact hw.busy j (hk j h)
  started p hp := hc ▸ hw.started p (hs ▸ hp)

theorem of_calls_eq (hw : s.Wf) (hcalls : t.calls = s.calls) (hf : t.fifo = s.fifo)
    (hc : t.count = s.count) (hs : t.started = s.started)
    (hk : ∀ j, t.worker = .running j → s.worker = .running j) : t.Wf :=
  hw.frame hf hc hs hk (by simp [hcalls]) (by simp [hcalls]) (by simp [hcalls])

theorem update (hw : s.Wf) {f : Call ω ρ → Call ω ρ} (hj : j < s.count)
    (hu : (f (s.calls j)).unit = (s.calls j).unit)
    (hsend : (f (s.calls j)).caller = .sending → (s.calls j).caller = .sending) :
    (s.update j f).Wf := by
  refine hw.frame rfl rfl rfl (fun _ h => h) (fun i => ?_) (fun i => ?_) (fun i hi => ?_)
  · by_cases h : i = j <;> simp [h, hu]
  · by_cases h : i = j
    · subst h; simpa using hsend
    · simp [h]
  · simp [show i ≠ j by omega]

theorem permits (hw : s.Wf) (p : Nat) : ({ s with permits := p } : System ω ρ).Wf :=
  ⟨hw.1, hw.2, hw.3, hw.4, hw.5, hw.6⟩

theorem running_lt (hw : s.Wf) (hr : s.worker = .running j) : j < s.count :=
  Nat.lt_of_not_le fun hj => by
    have hb := hw.busy j hr
    rw [hw.blank j hj] at hb
    exact hb

theorem work (hw : s.Wf) (hr : s.worker = .running j) (f : Call ω ρ → Call ω ρ) (wk : WorkerAt)
    (hb : ∀ i, wk = .running i → i = j ∧ (f (s.calls j)).unit.busy)
    (hsend : (f (s.calls j)).caller = (s.calls j).caller) :
    ({ s with worker := wk }.update j f).Wf := by
  have hbusy := hw.busy j hr
  have hj := hw.running_lt hr
  have hq : j ∉ s.fifo := hw.not_mem_fifo fun h => by rw [h] at hbusy; exact hbusy
  refine ⟨fun i hi => ?_, hw.nodup, fun i hi => ?_, fun i h => ?_, fun i h => ?_, hw.started⟩
  · have : i ≠ j := fun h => hq (h ▸ hi)
    simpa [this] using hw.queued i hi
  · simp only [update_count] at hi
    simpa [show i ≠ j by omega] using hw.blank i hi
  · by_cases h' : i = j
    · subst h'
      simp only [update_calls, if_true] at h
      rw [hsend] at h
      have := hw.holding i h
      rw [this] at hbusy
      exact hbusy.elim
    · simpa [h'] using hw.holding i (by simpa [h'] using h)
  · obtain ⟨rfl, hb⟩ := hb i h
    simpa using hb

theorem launch (hw : s.Wf) (hr : s.worker = .running j) : (s.launch j).Wf := by
  have hj := hw.running_lt hr
  have hw' : ({ s with
      world := ((s.calls j).work.run s.cancelled s.world).2
      started := s.started ++ [(j, s.cancelled)] } : System ω ρ).Wf := by
    refine ⟨hw.1, hw.2, hw.3, hw.4, hw.5, fun p hp => ?_⟩
    simp only [List.mem_append, List.mem_singleton] at hp
    rcases hp with hp | rfl
    · exact hw.started p hp
    · exact hj
  exact hw'.work hr
    (fun c => { c with unit := .running ((s.calls j).work.run s.cancelled s.world).1.1 }) s.worker
    (fun i hi => by rw [hr] at hi; cases hi; exact ⟨rfl, trivial⟩) rfl

theorem take (hw : s.Wf) {rest : List Nat} (hf : s.fifo = j :: rest) :
    ({ s with
        fifo := rest
        permits := s.permits + 1
        taken := s.taken ++ [j]
        executed := s.executed + 1
        worker := .running j }.update j fun c => { c with unit := .taken }).Wf := by
  have hq := hw.queued j (by simp [hf])
  have hn := hw.nodup
  rw [hf, List.nodup_cons] at hn
  have hj : j < s.count := Nat.lt_of_not_le fun hj => by
    rw [hw.blank j hj] at hq
    cases hq
  refine ⟨fun i hi => ?_, hn.2, fun i hi => ?_, fun i h => ?_, fun i h => ?_, hw.started⟩
  · simp only [update_fifo] at hi
    have : i ≠ j := fun h => hn.1 (h ▸ hi)
    simpa [this] using hw.queued i (by simp [hf, hi])
  · simp only [update_count] at hi
    simpa [show i ≠ j by omega] using hw.blank i hi
  · by_cases h' : i = j
    · subst h'
      have := hw.holding i (by simpa using h)
      rw [hq] at this
      cases this
    · simpa [h'] using hw.holding i (by simpa [h'] using h)
  · simp only [update_worker] at h
    cases h
    simp [UnitAt.busy]

theorem enroll (hw : s.Wf) (k : CallKind) (w : Work ω ρ) (tm : Nat) : (s.enroll k w tm).Wf := by
  have hfresh : s.count ∉ s.fifo := hw.not_mem_fifo (by rw [hw.blank _ (Nat.le_refl _)]; simp [Call.blank, Call.fresh])
  refine ⟨fun i hi => ?_, hw.nodup, fun i hi => ?_, fun i h => ?_, fun i h => ?_,
    fun p hp => Nat.lt_succ_of_lt (hw.started p hp)⟩
  · have : i ≠ s.count := fun h => hfresh (h ▸ hi)
    simpa [this] using hw.queued i hi
  · simp only [enroll_count] at hi
    simpa [show i ≠ s.count by omega] using hw.blank i (by omega)
  · by_cases h' : i = s.count
    · simp [h', Call.fresh]
    · simpa [h'] using hw.holding i (by simpa [h'] using h)
  · have hb := hw.busy i h
    by_cases h' : i = s.count
    · subst h'
      rw [hw.blank _ (Nat.le_refl _)] at hb
      exact hb.elim
    · simpa [h'] using hb

theorem push (hw : s.Wf) (hs : (s.calls j).caller = .sending) : (s.push j).Wf := by
  have hheld := hw.holding j hs
  have hq : j ∉ s.fifo := hw.not_mem_fifo (by rw [hheld]; simp)
  have hj : j < s.count := hw.lt_count (by rw [hs]; simp)
  refine ⟨fun i hi => ?_, ?_, fun i hi => ?_, fun i h => ?_, fun i h => ?_, hw.started⟩
  · simp only [push_fifo, List.mem_append, List.mem_singleton] at hi
    rcases hi with hi | rfl
    · have : i ≠ j := fun h => hq (h ▸ hi)
      simpa [this] using hw.queued i hi
    · simp [Call.enter]
  · simp only [push_fifo, List.nodup_append, List.nodup_cons, List.not_mem_nil,
      not_false_eq_true, List.nodup_nil, and_self, List.mem_singleton, true_and]
    exact ⟨hw.nodup, fun a ha b hb he => hq (hb ▸ he ▸ ha)⟩
  · simp only [push_count] at hi
    simpa [show i ≠ j by omega] using hw.blank i hi
  · by_cases h' : i = j
    · subst h'
      simp only [push_calls, if_true, Call.enter] at h
      split at h <;> cases h
    · simpa [h'] using hw.holding i (by simpa [h'] using h)
  · have hb := hw.busy i h
    have : i ≠ j := by rintro rfl; rw [hheld] at hb; exact hb
    simpa [this] using hb

theorem abort (hw : s.Wf) (hs : (s.calls j).caller = .sending) {dest : CallerAt ρ}
    (hto : dest ≠ .sending) : (s.abort j dest).Wf := by
  have hheld := hw.holding j hs
  have hq : j ∉ s.fifo := hw.not_mem_fifo (by rw [hheld]; simp)
  have hj : j < s.count := hw.lt_count (by rw [hs]; simp)
  refine ⟨fun i hi => ?_, hw.nodup, fun i hi => ?_, fun i h => ?_, fun i h => ?_, hw.started⟩
  · have : i ≠ j := fun h => hq (h ▸ hi)
    simpa [this] using hw.queued i hi
  · simp only [abort_count] at hi
    simpa [show i ≠ j by omega] using hw.blank i hi
  · by_cases h' : i = j
    · subst h'
      simp [Call.abort, Call.guard] at h
      exact absurd h hto
    · simpa [h'] using hw.holding i (by simpa [h'] using h)
  · have hb := hw.busy i h
    have : i ≠ j := by rintro rfl; rw [hheld] at hb; exact hb
    simpa [this] using hb

theorem refuse (hw : s.Wf) (hs : (s.calls j).caller = .sending) (e : SubmitError) :
    (s.refuse j e).Wf :=
  hw.abort hs (by simp)

theorem dropQueued (hw : s.Wf) : s.dropQueued.Wf := by
  refine ⟨fun i hi => by simp [System.dropQueued] at hi, by simp [System.dropQueued],
    fun i hi => ?_, fun i h => ?_, fun i h => ?_, hw.started⟩
  · have : i ∉ s.fifo := hw.not_mem_fifo (by rw [hw.blank i hi]; simp [Call.blank, Call.fresh])
    simpa [this] using hw.blank i hi
  · by_cases hm : i ∈ s.fifo
    · have := hw.holding i (by simpa [hm] using h)
      rw [hw.queued i hm] at this
      cases this
    · simpa [hm] using hw.holding i (by simpa [hm] using h)
  · have hb := hw.busy i h
    have : i ∉ s.fifo := hw.not_mem_fifo fun hq => by rw [hq] at hb; exact hb
    simpa [this] using hb

theorem halt (hw : s.Wf) : s.halt.Wf := by
  unfold System.halt
  split
  · exact hw
  · dsimp only
    have hw' : ({ s with
        phase := .stopped
        contextCancelled := s.contextCancelled || s.bound
        bound := false
        senderOpen := false } : System ω ρ).Wf := ⟨hw.1, hw.2, hw.3, hw.4, hw.5, hw.6⟩
    split
    · exact hw'.dropQueued
    · exact hw'

theorem exit (hw : s.Wf) : s.exit.Wf := by
  have h := hw.dropQueued.halt
  exact ⟨h.1, h.2, h.3, h.4, (fun _ hr => by cases hr), h.6⟩

theorem next (hw : s.Wf) {m : Move ω ρ} (h : s.next m = some t) : t.Wf := by
  cases m with
  | bindContext =>
    obtain ⟨-, rfl⟩ := next_bindContext h
    exact hw.of_calls_eq rfl rfl rfl rfl fun _ h => h
  | stop =>
    obtain ⟨-, rfl⟩ := next_stop h
    exact hw.halt
  | cancelRoot =>
    obtain ⟨-, rfl⟩ := next_cancelRoot h
    exact hw.of_calls_eq rfl rfl rfl rfl fun _ h => h
  | begin k w tm =>
    have he := hw.enroll k w tm
    have hs : ((s.enroll k w tm).calls s.count).caller = .sending := by simp [Call.fresh]
    rcases next_begin h with ⟨e, rfl, -⟩ | ⟨-, -, -, -, -, rfl⟩ | ⟨-, -, -, rfl⟩
    · exact he.refuse hs e
    · exact (he.permits _).push hs
    · exact he
  | reserve i =>
    obtain ⟨hs, -, -, -, rfl⟩ := next_reserve h
    exact (hw.permits _).update (hw.lt_count (by simp [hs])) rfl fun _ => hs
  | send i =>
    obtain ⟨hs, -, -, rfl⟩ := next_send h
    exact hw.push hs
  | shut i =>
    obtain ⟨hs, -, rfl⟩ := next_shut h
    exact hw.refuse hs _
  | expire i =>
    obtain ⟨hi, -, rfl⟩ := next_expire h
    exact hw.update hi rfl id
  | cancelCaller i =>
    obtain ⟨hi, -, rfl⟩ := next_cancelCaller h
    exact hw.update hi rfl id
  | outOfTime i =>
    obtain ⟨hs, -, -, rfl⟩ := next_outOfTime h
    exact hw.refuse hs _
  | withdraw i =>
    obtain ⟨hs, -, -, rfl⟩ := next_withdraw h
    exact hw.refuse hs _
  | collect i =>
    obtain ⟨hc, -, rfl⟩ := next_collect h
    have hi := hw.lt_count (j := i) (by rcases hc with hc | hc <;> simp [hc])
    exact hw.update hi rfl fun h => by cases h
  | giveUp i =>
    obtain ⟨hc, -, ⟨-, rfl⟩ | ⟨-, rfl⟩⟩ := next_giveUp h <;>
      exact hw.update (hw.lt_count (by simp [hc])) rfl fun h => by cases h
  | drop i =>
    rcases next_drop h with ⟨hs, rfl⟩ | ⟨hc, rfl⟩
    · exact hw.abort hs (by simp)
    · have hi := hw.lt_count (j := i) (by rcases hc with hc | hc <;> simp [hc])
      exact hw.update hi rfl fun h => by cases h
  | run =>
    obtain ⟨-, -, -, rfl⟩ := next_run h
    exact hw.of_calls_eq rfl rfl rfl rfl fun _ h => by cases h
  | dequeue =>
    obtain ⟨-, ⟨-, rfl⟩ | ⟨-, -, -, rfl⟩ | ⟨-, j, rest, hf, rfl⟩⟩ := next_dequeue h
    · exact hw.exit
    · exact hw.exit
    · exact hw.take hf
  | check =>
    obtain ⟨j, hr, -, -, ⟨-, rfl⟩ | ⟨-, rfl⟩⟩ := next_check h <;>
      exact hw.work hr _ s.worker (fun i hi => by rw [hr] at hi; cases hi; exact ⟨rfl, trivial⟩) rfl
  | claim =>
    obtain ⟨j, hr, -, ⟨-, rfl⟩ | ⟨-, rfl⟩⟩ := next_claim h <;>
      exact hw.work hr _ s.worker (fun i hi => by rw [hr] at hi; cases hi; exact ⟨rfl, trivial⟩) rfl
  | start =>
    obtain ⟨j, hr, -, rfl⟩ := next_start h
    exact hw.launch hr
  | finish =>
    obtain ⟨j, r, hr, -, rfl⟩ := next_finish h
    exact hw.work hr _ s.worker (fun i hi => by rw [hr] at hi; cases hi; exact ⟨rfl, trivial⟩) rfl
  | resume =>
    obtain ⟨j, hr, -, rfl⟩ := next_resume h
    exact hw.work hr _ .idle (fun i hi => by cases hi) rfl

end Wf

def runs (s : System ω ρ) (i : Nat) : Nat := (s.started.map Prod.fst).count i

theorem runs_launch (s : System ω ρ) (i j : Nat) :
    (s.launch j).runs i = s.runs i + if i = j then 1 else 0 := by
  simp only [runs, launch_started, List.map_append, List.map_cons, List.map_nil,
    List.count_append, List.count_singleton]
  by_cases h : i = j
  · simp [h]
  · simp [h, Ne.symm h]

theorem Wf.runs_eq_zero {s : System ω ρ} (hw : s.Wf) {j : Nat} (hj : s.count ≤ j) :
    s.runs j = 0 := by
  simp only [runs, List.count_eq_zero, List.mem_map, not_exists, not_and]
  intro p hp he
  have := hw.started p hp
  omega

theorem Steps.trans {s t u : System ω ρ} (h₁ : Steps s t) (h₂ : Steps t u) : Steps s u := by
  induction h₂ with
  | refl => exact h₁
  | tail m _ hn ih => exact .tail m ih hn

theorem Steps.of_run {s t : System ω ρ} {ms : List (Move ω ρ)} (h : s.run ms = some t) :
    Steps s t := by
  induction ms generalizing s with
  | nil =>
    cases h
    exact .refl _
  | cons m ms ih =>
    simp only [run] at h
    cases hn : s.next m with
    | none => simp [hn] at h
    | some s' =>
      simp only [hn, Option.bind_some] at h
      exact (Steps.tail m (.refl s) hn).trans (ih h)

theorem Steps.wf {s t : System ω ρ} (h : Steps s t) (hw : s.Wf) : t.Wf := by
  induction h with
  | refl => exact hw
  | tail m _ hn ih => exact ih.next hn

end System

-- How one step of the lane can change a call `c` whose body started `n` times.
inductive CallMove : Call ω ρ → Nat → Call ω ρ → Nat → Prop
  | stay {c n} : CallMove c n c n
  -- the call is made; a refused one returns at once, and so does a queued `tryEnqueue`
  | make (k w t) : CallMove Call.blank 0 (Call.fresh k w t) 0
  | makeRefused (k w t e) : (e = .lane .stopped ∨ k = .tryEnqueue ∧ e = .lane .full) →
      CallMove Call.blank 0 ((Call.fresh k w t).abort (.returned (.failed e))) 0
  | makeQueued (w t) : CallMove Call.blank 0 (Call.fresh .tryEnqueue w t).enter 0
  | late {c n} : CallMove c n { c with late := true } n
  | cancel {c n} : CallMove c n { c with cancelled := true } n
  | reserve {c n} : c.caller = .sending → CallMove c n { c with reserved := true } n
  | enter {c n} : c.caller = .sending → CallMove c n c.enter n
  -- a sender gives up its unit: dropped, or refused by a closed channel, or a submission that
  -- ran out of time or was cancelled
  | abort {c n} (dest) : c.caller = .sending →
      (dest = .dropped ∨ dest = .returned (.failed (.lane .stopped)) ∨
        c.kind = .submit ∧ (dest = .returned (.failed .cancelled) ∨
          dest = .returned (.failed (.timedOut (Duration.ofMillis c.timeout))))) →
      CallMove c n (c.abort dest) n
  | collect {c n} : (c.caller = .waiting ∨ c.caller = .resolving) → c.reply ≠ .waiting →
      CallMove c n { c.guard with caller := .returned (.ofResult c.result) } n
  | abandon {c n} : c.caller = .waiting → c.claim = .pending →
      CallMove c n { c with
        claim := .abandoned
        caller := .returned (.failed
          (if c.cancelled then .cancelled else .timedOut (Duration.ofMillis c.timeout))) } n
  | defer {c n} : c.caller = .waiting → c.claim ≠ .pending →
      CallMove c n { c with caller := .resolving } n
  | leave {c n} : (c.caller = .waiting ∨ c.caller = .resolving) →
      CallMove c n { c.guard with caller := .dropped } n
  | take {c n} : c.unit = .queued → CallMove c n { c with unit := .taken } n
  | discard {c n} : c.unit = .queued →
      CallMove c n { c with unit := .discarded, reply := .dropped } n
  | expire {c n} : c.unit = .taken → c.kind = .submit →
      CallMove c n { c with
        claim := (c.claim.cas .pending .expired).2
        unit := .ended
        reply := .dropped } n
  | pass {c n} : c.unit = .taken → c.kind = .submit → CallMove c n { c with unit := .checked } n
  | claim {c n} : c.unit = .checked → c.claim = .pending →
      CallMove c n { c with claim := .running, unit := .claimed } n
  | skip {c n} : c.unit = .checked → c.claim ≠ .pending →
      CallMove c n { c with unit := .ended, reply := .dropped } n
  | start {c n} (r) : c.startable = true → CallMove c n { c with unit := .running r } (n + 1)
  | finish {c n} (r) : c.unit = .running r →
      CallMove c n { c with unit := .ended, outcome := some r, reply := .ofOutcome r } n
  | resume {c n} : c.unit = .ended → CallMove c n { c with unit := .finished } n

namespace System

variable {s t : System ω ρ}

theorem callMove_update (j : Nat) (f : Call ω ρ → Call ω ρ) (hc : t.calls = (s.update j f).calls)
    (hs : t.started = s.started)
    (hm : CallMove (s.calls j) (s.runs j) (f (s.calls j)) (s.runs j)) (i : Nat) :
    CallMove (s.calls i) (s.runs i) (t.calls i) (t.runs i) := by
  rw [hc, show t.runs i = s.runs i by simp [runs, hs]]
  by_cases h : i = j
  · subst h
    simpa using hm
  · simpa [h] using CallMove.stay

theorem callMove_of_discard (hw : s.Wf) (hs : t.started = s.started)
    (hc : ∀ i, t.calls i = s.calls i ∨
      (i ∈ s.fifo ∧ t.calls i = { s.calls i with unit := .discarded, reply := .dropped }))
    (i : Nat) : CallMove (s.calls i) (s.runs i) (t.calls i) (t.runs i) := by
  have hr : t.runs i = s.runs i := by simp [runs, hs]
  rw [hr]
  rcases hc i with hc | ⟨hm, hc⟩
  · rw [hc]; exact .stay
  · rw [hc]; exact .discard (hw.queued i hm)

theorem callMove_of_exit (hw : s.Wf) (i : Nat) :
    CallMove (s.calls i) (s.runs i) (s.exit.calls i) (s.exit.runs i) := by
  refine callMove_of_discard hw (by simp) (fun i => ?_) i
  by_cases hm : i ∈ s.fifo <;> simp [hm]

theorem callMove_of_next (hw : s.Wf) {m : Move ω ρ} (h : s.next m = some t) (i : Nat) :
    CallMove (s.calls i) (s.runs i) (t.calls i) (t.runs i) := by
  cases m with
  | bindContext =>
    obtain ⟨-, rfl⟩ := next_bindContext h
    exact .stay
  | stop =>
    obtain ⟨-, rfl⟩ := next_stop h
    exact callMove_of_discard hw (by simp) (fun i => s.halt_calls_eq i) i
  | cancelRoot =>
    obtain ⟨-, rfl⟩ := next_cancelRoot h
    exact .stay
  | begin k w tm =>
    have hb := hw.blank s.count (Nat.le_refl _)
    have hr := hw.runs_eq_zero (Nat.le_refl s.count)
    have hst : t.started = s.started := by
      rcases next_begin h with ⟨e, rfl, -⟩ | ⟨-, -, -, -, -, rfl⟩ | ⟨-, -, -, rfl⟩ <;> rfl
    rw [show t.runs i = s.runs i by simp [runs, hst]]
    by_cases hi : i = s.count
    · subst hi
      rw [hb, hr]
      rcases next_begin h with ⟨e, rfl, he⟩ | ⟨hk, -, -, -, -, rfl⟩ | ⟨-, -, -, rfl⟩
      · simp only [refuse_calls, enroll_calls, if_true]
        refine .makeRefused k w tm e ?_
        rcases he with ⟨rfl, -⟩ | ⟨rfl, hk, -⟩
        · exact .inl rfl
        · exact .inr ⟨hk, rfl⟩
      · subst hk
        simp only [push_calls, enroll_calls, if_true]
        exact .makeQueued w tm
      · simp only [enroll_calls, if_true]
        exact .make k w tm
    · have hc : t.calls i = s.calls i := by
        rcases next_begin h with ⟨e, rfl, -⟩ | ⟨-, -, -, -, -, rfl⟩ | ⟨-, -, -, rfl⟩ <;> simp [hi]
      rw [hc]
      exact .stay
  | reserve j =>
    obtain ⟨hs, -, -, -, rfl⟩ := next_reserve h
    exact callMove_update j (fun c => { c with reserved := true }) rfl rfl (.reserve hs) i
  | send j =>
    obtain ⟨hs, -, -, rfl⟩ := next_send h
    exact callMove_update j Call.enter rfl rfl (.enter hs) i
  | shut j =>
    obtain ⟨hs, -, rfl⟩ := next_shut h
    exact callMove_update j (·.abort _) rfl rfl (.abort _ hs (.inr (.inl rfl))) i
  | expire j =>
    obtain ⟨-, -, rfl⟩ := next_expire h
    exact callMove_update j _ rfl rfl .late i
  | cancelCaller j =>
    obtain ⟨-, -, rfl⟩ := next_cancelCaller h
    exact callMove_update j _ rfl rfl .cancel i
  | outOfTime j =>
    obtain ⟨hs, hk, -, rfl⟩ := next_outOfTime h
    exact callMove_update j (·.abort _) rfl rfl (.abort _ hs (.inr (.inr ⟨hk, .inr rfl⟩))) i
  | withdraw j =>
    obtain ⟨hs, hk, -, rfl⟩ := next_withdraw h
    exact callMove_update j (·.abort _) rfl rfl (.abort _ hs (.inr (.inr ⟨hk, .inl rfl⟩))) i
  | collect j =>
    obtain ⟨hc, hr, rfl⟩ := next_collect h
    exact callMove_update j _ rfl rfl (.collect hc hr) i
  | giveUp j =>
    obtain ⟨hc, -, ⟨hp, rfl⟩ | ⟨hp, rfl⟩⟩ := next_giveUp h
    · exact callMove_update j _ rfl rfl (.abandon hc hp) i
    · exact callMove_update j _ rfl rfl (.defer hc hp) i
  | drop j =>
    rcases next_drop h with ⟨hs, rfl⟩ | ⟨hc, rfl⟩
    · exact callMove_update j (·.abort _) rfl rfl (.abort _ hs (.inl rfl)) i
    · exact callMove_update j _ rfl rfl (.leave hc) i
  | run =>
    obtain ⟨-, -, -, rfl⟩ := next_run h
    exact .stay
  | dequeue =>
    obtain ⟨-, ⟨-, rfl⟩ | ⟨-, -, -, rfl⟩ | ⟨-, j, rest, hf, rfl⟩⟩ := next_dequeue h
    · exact callMove_of_exit hw i
    · exact callMove_of_exit hw i
    · exact callMove_update j (fun c => { c with unit := .taken }) rfl rfl
        (.take (hw.queued j (by simp [hf]))) i
  | check =>
    obtain ⟨j, -, hu, hk, ⟨-, rfl⟩ | ⟨-, rfl⟩⟩ := next_check h
    · exact callMove_update j _ rfl rfl (.expire hu hk) i
    · exact callMove_update j _ rfl rfl (.pass hu hk) i
  | claim =>
    obtain ⟨j, -, hu, ⟨hp, rfl⟩ | ⟨hp, rfl⟩⟩ := next_claim h
    · exact callMove_update j _ rfl rfl (.claim hu hp) i
    · exact callMove_update j _ rfl rfl (.skip hu hp) i
  | start =>
    obtain ⟨j, -, hst, rfl⟩ := next_start h
    rw [runs_launch]
    by_cases hi : i = j
    · subst hi
      simpa using CallMove.start _ hst
    · simpa [hi] using CallMove.stay
  | finish =>
    obtain ⟨j, r, -, hu, rfl⟩ := next_finish h
    exact callMove_update j _ rfl rfl (.finish r hu) i
  | resume =>
    obtain ⟨j, -, hu, rfl⟩ := next_resume h
    exact callMove_update j (fun c => { c with unit := .finished }) rfl rfl (.resume hu) i

end System

end ChatArchive.Lane
