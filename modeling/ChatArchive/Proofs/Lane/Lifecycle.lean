import ChatArchive.Proofs.Lane.Execution

namespace ChatArchive.Lane

variable {ω ρ : Type}

inductive PhaseMove : Phase → Phase → Prop
  | stay (p : Phase) : PhaseMove p p
  | bind : PhaseMove .uninitialized .ready
  | stop {p : Phase} : p ≠ .stopped → PhaseMove p .stopped

namespace PhaseMove

theorem trans {p q r : Phase} (h₁ : PhaseMove p q) (h₂ : PhaseMove q r) : PhaseMove p r := by
  cases h₁ with
  | stay => exact h₂
  | bind =>
    cases h₂ with
    | stay => exact .bind
    | stop _ => exact .stop (by decide)
  | stop hp =>
    cases h₂ with
    | stay => exact .stop hp
    | stop hq => exact absurd rfl hq

theorem of_stopped {q : Phase} (h : PhaseMove .stopped q) : q = .stopped := by
  cases h with
  | stay => rfl
  | stop hp => exact absurd rfl hp

theorem of_ready {q : Phase} (h : PhaseMove .ready q) : q = .ready ∨ q = .stopped := by
  cases h with
  | stay => exact .inl rfl
  | stop _ => exact .inr rfl

end PhaseMove

def WorkerAt.live : WorkerAt → Bool
  | .idle | .running _ => true
  | _ => false

theorem CallMove.discarded {c c' : Call ω ρ} {n n' : Nat} (hm : CallMove c n c' n')
    (hh : c.caller = .sending → c.unit = .held) (hd : c.unit = .discarded) :
    c'.unit = .discarded := by
  cases hm with
  | make | makeRefused | makeQueued => simp [Call.blank, Call.fresh] at hd
  | reserve hs | enter hs | abort _ hs _ => simp [hh hs] at hd
  | start r hst => simp [hd, Call.startable] at hst
  | take hu | discard hu | expire hu _ | pass hu _ | claim hu _ | skip hu _ | finish _ hu
  | resume hu => simp [hd] at hu
  | _ => exact hd

namespace System

variable {s t u : System ω ρ} {m : Move ω ρ}

-- A step that leaves alone everything the phase, readiness and `run` depend on.
structure SameControl (s t : System ω ρ) : Prop where
  phase : t.phase = s.phase
  bound : t.bound = s.bound
  rootCancelled : t.rootCancelled = s.rootCancelled
  contextCancelled : t.contextCancelled = s.contextCancelled
  senderOpen : t.senderOpen = s.senderOpen
  closed : t.closed = s.closed
  receiver : t.receiver = s.receiver
  live : t.worker.live = s.worker.live

theorem halt_control (hp : s.phase ≠ .stopped) :
    s.halt.phase = .stopped ∧ s.halt.bound = false ∧ s.halt.senderOpen = false ∧
      s.halt.rootCancelled = s.rootCancelled ∧ s.halt.worker = s.worker ∧
      (s.receiver = .inLane → s.halt.receiver = .gone ∧ s.halt.closed = true) ∧
      (s.receiver ≠ .inLane → s.halt.receiver = s.receiver ∧ s.halt.closed = s.closed) := by
  unfold halt
  rw [if_neg hp]
  by_cases hr : s.receiver = .inLane <;> simp [hr, dropQueued, discard]

theorem halt_rootCancelled : s.halt.rootCancelled = s.rootCancelled := by
  unfold halt
  split
  · rfl
  · dsimp only
    split <;> rfl

theorem halt_bound (h : s.halt.bound = true) : s.phase = .stopped ∧ s.bound = true := by
  by_cases hp : s.phase = .stopped
  · unfold halt at h
    rw [if_pos hp] at h
    exact ⟨hp, h⟩
  · rw [(halt_control hp).2.1] at h
    cases h

theorem exit_bound (h : s.exit.bound = true) : s.phase = .stopped ∧ s.bound = true :=
  halt_bound (s := s.dropQueued) h

theorem exit_rootCancelled : s.exit.rootCancelled = s.rootCancelled := by
  unfold exit
  exact halt_rootCancelled

theorem next_control (h : s.next m = some t) :
    SameControl s t ∨
      (s.phase = .uninitialized ∧ t = { s with phase := .ready, bound := true }) ∨
      (s.phase ≠ .stopped ∧ t = s.halt) ∨
      t = { s with rootCancelled := true } ∨
      (s.phase = .ready ∧ s.receiver = .inLane ∧ s.bound = true ∧
        t = { s with receiver := .taken, worker := .idle }) ∨
      (s.worker = .idle ∧ t = s.exit) := by
  cases m with
  | bindContext =>
    obtain ⟨hp, rfl⟩ := next_bindContext h
    exact .inr (.inl ⟨hp, rfl⟩)
  | stop =>
    obtain ⟨hp, rfl⟩ := next_stop h
    exact .inr (.inr (.inl ⟨hp, rfl⟩))
  | cancelRoot =>
    obtain ⟨-, rfl⟩ := next_cancelRoot h
    exact .inr (.inr (.inr (.inl rfl)))
  | run =>
    obtain ⟨hp, hr, hb, rfl⟩ := next_run h
    exact .inr (.inr (.inr (.inr (.inl ⟨hp, hr, hb, rfl⟩))))
  | dequeue =>
    obtain ⟨hk, ⟨-, rfl⟩ | ⟨-, -, -, rfl⟩ | ⟨-, j, rest, -, rfl⟩⟩ := next_dequeue h
    · exact .inr (.inr (.inr (.inr (.inr ⟨hk, rfl⟩))))
    · exact .inr (.inr (.inr (.inr (.inr ⟨hk, rfl⟩))))
    · exact .inl ⟨rfl, rfl, rfl, rfl, rfl, rfl, rfl, by simp [hk, WorkerAt.live]⟩
  | resume =>
    obtain ⟨j, hk, -, rfl⟩ := next_resume h
    exact .inl ⟨rfl, rfl, rfl, rfl, rfl, rfl, rfl, by simp [hk, WorkerAt.live]⟩
  | begin k w tm =>
    rcases next_begin h with ⟨e, rfl, -⟩ | ⟨-, -, -, -, -, rfl⟩ | ⟨-, -, -, rfl⟩ <;>
      exact .inl (by constructor <;> rfl)
  | reserve i =>
    obtain ⟨-, -, -, -, rfl⟩ := next_reserve h
    exact .inl (by constructor <;> rfl)
  | send i =>
    obtain ⟨-, -, -, rfl⟩ := next_send h
    exact .inl (by constructor <;> rfl)
  | shut i =>
    obtain ⟨-, -, rfl⟩ := next_shut h
    exact .inl (by constructor <;> rfl)
  | expire i =>
    obtain ⟨-, -, rfl⟩ := next_expire h
    exact .inl (by constructor <;> rfl)
  | cancelCaller i =>
    obtain ⟨-, -, rfl⟩ := next_cancelCaller h
    exact .inl (by constructor <;> rfl)
  | outOfTime i =>
    obtain ⟨-, -, -, rfl⟩ := next_outOfTime h
    exact .inl (by constructor <;> rfl)
  | withdraw i =>
    obtain ⟨-, -, -, rfl⟩ := next_withdraw h
    exact .inl (by constructor <;> rfl)
  | collect i =>
    obtain ⟨-, -, rfl⟩ := next_collect h
    exact .inl (by constructor <;> rfl)
  | giveUp i =>
    obtain ⟨-, -, ⟨-, rfl⟩ | ⟨-, rfl⟩⟩ := next_giveUp h <;> exact .inl (by constructor <;> rfl)
  | drop i =>
    rcases next_drop h with ⟨-, rfl⟩ | ⟨-, rfl⟩ <;> exact .inl (by constructor <;> rfl)
  | check =>
    obtain ⟨i, -, -, -, ⟨-, rfl⟩ | ⟨-, rfl⟩⟩ := next_check h <;> exact .inl (by constructor <;> rfl)
  | claim =>
    obtain ⟨i, -, -, ⟨-, rfl⟩ | ⟨-, rfl⟩⟩ := next_claim h <;> exact .inl (by constructor <;> rfl)
  | start =>
    obtain ⟨i, -, -, rfl⟩ := next_start h
    exact .inl (by constructor <;> rfl)
  | finish =>
    obtain ⟨i, r, -, -, rfl⟩ := next_finish h
    exact .inl (by constructor <;> rfl)

theorem PhaseMove.of_next (h : s.next m = some t) : PhaseMove s.phase t.phase := by
  rcases next_control h with hs | ⟨hp, rfl⟩ | ⟨hp, rfl⟩ | rfl | ⟨-, -, -, rfl⟩ | ⟨-, rfl⟩
  · rw [hs.phase]; exact .stay _
  · rw [hp]; exact .bind
  · rw [(halt_control hp).1]; exact .stop hp
  · exact .stay _
  · exact .stay _
  · rw [(exit_spec s).2.2.2.2.1]
    by_cases hp : s.phase = .stopped
    · rw [hp]; exact .stay _
    · exact .stop hp

theorem Steps.phaseMove (h : Steps s t) : PhaseMove s.phase t.phase := by
  induction h with
  | refl => exact .stay _
  | tail m _ hn ih => exact ih.trans (PhaseMove.of_next hn)

theorem receiver_of_next (h : s.next m = some t) (hr : s.receiver ≠ .inLane) :
    t.receiver ≠ .inLane := by
  rcases next_control h with hs | ⟨-, rfl⟩ | ⟨hp, rfl⟩ | rfl | ⟨-, hin, -, rfl⟩ | ⟨-, rfl⟩
  · rwa [hs.receiver]
  · exact hr
  · rw [((halt_control hp).2.2.2.2.2.2 hr).1]; exact hr
  · exact hr
  · exact absurd hin hr
  · rw [(exit_spec s).2.2.1]; simp

theorem Steps.receiver (h : Steps s t) (hr : s.receiver ≠ .inLane) : t.receiver ≠ .inLane := by
  induction h with
  | refl => exact hr
  | tail m _ hn ih => exact receiver_of_next hn ih

theorem run_once (h₁ : s.next .run = some t) (h₂ : Steps t u) : u.next .run = none := by
  obtain ⟨-, -, -, rfl⟩ := next_run h₁
  have hr : u.receiver ≠ .inLane := h₂.receiver (by simp)
  cases hn : u.next .run with
  | none => rfl
  | some v => exact absurd (next_run hn).2.1 hr

-- What a lane keeps between its phase and the rest of its control: it is bound exactly while
-- ready; until it stops it takes units and its own context is live; the receiving end goes away
-- only with the channel closed; and a worker holds it exactly while the worker's loop runs.
structure Lifecycle (s : System ω ρ) : Prop where
  bound : s.bound = true ↔ s.phase = .ready
  intake : s.phase ≠ .stopped →
    s.senderOpen = true ∧ s.closed = false ∧ s.contextCancelled = false
  gone : s.receiver = .gone → s.closed = true
  taken : s.receiver = .taken ↔ s.worker.live = true

namespace Lifecycle

theorem init (b : Nat) (w : ω) : (System.init b w : System ω ρ).Lifecycle where
  bound := by simp [System.init]
  intake _ := ⟨rfl, rfl, rfl⟩
  gone h := by simp [System.init] at h
  taken := by simp [System.init, WorkerAt.live]

theorem of_same (hl : s.Lifecycle) (hs : SameControl s t) : t.Lifecycle where
  bound := by rw [hs.bound, hs.phase]; exact hl.bound
  intake hp := by
    rw [hs.phase] at hp
    rw [hs.senderOpen, hs.closed, hs.contextCancelled]
    exact hl.intake hp
  gone h := by
    rw [hs.receiver] at h
    rw [hs.closed]
    exact hl.gone h
  taken := by rw [hs.receiver, hs.live]; exact hl.taken

theorem halt (hl : s.Lifecycle) (hp : s.phase ≠ .stopped) : s.halt.Lifecycle := by
  obtain ⟨hph, hb, -, -, hw, hin, hout⟩ := halt_control hp
  refine ⟨by simp [hph, hb], fun h => absurd hph h, fun h => ?_, ?_⟩
  · by_cases hr : s.receiver = .inLane
    · exact (hin hr).2
    · obtain ⟨hr', hc⟩ := hout hr
      rw [hc]
      exact hl.gone (hr'.symm.trans h)
  · rw [hw]
    by_cases hr : s.receiver = .inLane
    · -- the receiving end was in the lane, so no worker held it
      have hlive : s.worker.live = false := by
        cases hl' : s.worker.live
        · rfl
        · exact absurd (hl.taken.2 hl') (by simp [hr])
      simp [(hin hr).1, hlive]
    · rw [(hout hr).1]
      exact hl.taken

theorem exit (hl : s.Lifecycle) : s.exit.Lifecycle := by
  obtain ⟨-, -, hr, hc, hph, hw, -⟩ := exit_spec s
  refine ⟨?_, fun h => absurd hph h, fun _ => hc, ?_⟩
  · constructor
    · intro hb
      obtain ⟨hp, hb'⟩ := exit_bound hb
      rw [hl.bound.1 hb'] at hp
      cases hp
    · intro h
      rw [hph] at h
      cases h
  · simp [hr, hw, WorkerAt.live]

theorem next (hl : s.Lifecycle) (h : s.next m = some t) : t.Lifecycle := by
  rcases next_control h with hs | ⟨hp, rfl⟩ | ⟨hp, rfl⟩ | rfl | ⟨hp, hr, -, rfl⟩ | ⟨-, rfl⟩
  · exact hl.of_same hs
  · have hi := hl.intake (by simp [hp])
    exact ⟨by simp, fun _ => hi, hl.gone, hl.taken⟩
  · exact hl.halt hp
  · exact ⟨hl.bound, hl.intake, hl.gone, hl.taken⟩
  · exact ⟨hl.bound, hl.intake, by simp, by simp [WorkerAt.live]⟩
  · exact hl.exit

end Lifecycle

theorem Steps.lifecycle (h : Steps s t) (hl : s.Lifecycle) : t.Lifecycle := by
  induction h with
  | refl => exact hl
  | tail m _ hn ih => exact ih.next hn

theorem Lifecycle.runRefusal_eq (hl : s.Lifecycle) :
    s.runRefusal =
      if s.phase = .uninitialized then some .notReady
      else if s.phase = .stopped then some .stopped
      else if s.worker.live then some .alreadyRunning
      else none := by
  cases hp : s.phase with
  | uninitialized => simp [runRefusal, hp]
  | stopped => simp [runRefusal, hp]
  | ready =>
    have hb : s.bound = true := hl.bound.2 hp
    have hc : s.closed = false := (hl.intake (by simp [hp])).2.1
    have hg : s.receiver ≠ .gone := fun h => by simp [hl.gone h] at hc
    cases hr : s.receiver with
    | inLane =>
      have hlive : s.worker.live = false := by
        cases hl' : s.worker.live
        · rfl
        · exact absurd (hl.taken.2 hl') (by simp [hr])
      simp [runRefusal, hp, hb, hr, hlive]
    | taken => simp [runRefusal, hp, hb, hr, hl.taken.1 hr]
    | gone => exact absurd hr hg

theorem runRefusal_eq_none_iff : s.runRefusal = none ↔ (s.next .run).isSome := by
  unfold runRefusal next
  cases s.phase <;> cases s.receiver <;> cases s.bound <;> simp

theorem Lifecycle.isReady_iff (hl : s.Lifecycle) :
    s.isReady = true ↔ s.phase = .ready ∧ s.rootCancelled = false := by
  constructor
  · intro h
    simp only [isReady, cancelled, Bool.and_eq_true, beq_iff_eq, Bool.not_eq_true',
      Bool.or_eq_false_iff] at h
    obtain ⟨⟨⟨⟨hp, -⟩, hroot, -⟩, -⟩, -⟩ := h
    exact ⟨hp, hroot⟩
  · rintro ⟨hp, hroot⟩
    obtain ⟨ho, hc, hctx⟩ := hl.intake (by simp [hp])
    simp [isReady, cancelled, hp, hl.bound.2 hp, hroot, ho, hc, hctx]

theorem rootCancelled_of_next (h : s.next m = some t) (hr : s.rootCancelled = true) :
    t.rootCancelled = true := by
  rcases next_control h with hs | ⟨-, rfl⟩ | ⟨-, rfl⟩ | rfl | ⟨-, -, -, rfl⟩ | ⟨-, rfl⟩
  · rwa [hs.rootCancelled]
  · exact hr
  · rwa [halt_rootCancelled]
  · rfl
  · exact hr
  · rwa [exit_rootCancelled]

theorem Steps.rootCancelled (h : Steps s t) (hr : s.rootCancelled = true) :
    t.rootCancelled = true := by
  induction h with
  | refl => exact hr
  | tail m _ hn ih => exact rootCancelled_of_next hn ih

theorem Steps.not_ready (h : Steps s t) (hl : s.Lifecycle)
    (hs : s.phase = .stopped ∨ s.rootCancelled = true) : t.isReady = false := by
  have ht := h.lifecycle hl
  cases hr : t.isReady
  · rfl
  · obtain ⟨hp, hroot⟩ := ht.isReady_iff.1 hr
    rcases hs with hs | hs
    · have := (hs ▸ h.phaseMove).of_stopped
      rw [hp] at this
      cases this
    · rw [h.rootCancelled hs] at hroot
      cases hroot

theorem next_begin_stopped {k : CallKind} {w : Work ω ρ} {tm : Nat} (hp : s.phase = .stopped)
    (h : s.next (.begin k w tm) = some t) :
    t = (s.enroll k w tm).refuse s.count (.lane .stopped) := by
  simp only [next, enroll_phase, enroll_senderOpen, hp] at h
  exact (Option.some.inj h).symm

theorem Steps.discarded (h : Steps s t) (hw : s.Wf) {i : Nat} (hd : (s.calls i).unit = .discarded) :
    (t.calls i).unit = .discarded ∧ i ∉ t.fifo := by
  have hu : (t.calls i).unit = .discarded := by
    induction h with
    | refl => exact hd
    | tail m hst hn ih =>
      have hw' := hst.wf hw
      exact (callMove_of_next hw' hn i).discarded (hw'.holding i) ih
  exact ⟨hu, (h.wf hw).not_mem_fifo (by simp [hu])⟩

-- Along any run of a lane from its start: the phase moves only forward; one worker at most takes
-- the receiving end, and a `run` is refused as not ready before the lane is bound, as already
-- running while that worker runs, and as stopped once the lane stopped; the lane is ready only
-- while bound, its context live and its intake open, and once that is lost through a stop or the
-- parent's cancellation it never returns; and on a stopped lane `initialize`, `run` and every call
-- that begins are refused as stopped and put nothing in the channel.
theorem lane_lifecycle {b : Nat} {w : ω} (h₀ : Steps (init b w) s) (h : Steps s t) :
    PhaseMove s.phase t.phase ∧
    (∀ t', s.next .run = some t' → Steps t' t → t.next .run = none) ∧
    (t.runRefusal = none ↔ (t.next .run).isSome) ∧
    t.runRefusal =
      (if t.phase = .uninitialized then some .notReady
      else if t.phase = .stopped then some .stopped
      else if t.worker.live then some .alreadyRunning
      else none) ∧
    (t.isReady = true →
      t.phase = .ready ∧ t.bound = true ∧ t.cancelled = false ∧ t.senderOpen = true ∧
        t.closed = false) ∧
    (s.isReady = true → t.isReady = false →
      (t.phase = .stopped ∨ t.rootCancelled = true) ∧ ∀ u, Steps t u → u.isReady = false) ∧
    (s.phase = .stopped →
      t.initAnswer = .error .stopped ∧ t.next .bindContext = none ∧
      t.runRefusal = some .stopped ∧ t.next .run = none ∧
      ∀ k wk tm u, t.next (.begin k wk tm) = some u →
        u.fifo = t.fifo ∧ (u.calls t.count).caller = .returned (.failed (.lane .stopped)) ∧
        ∀ v, Steps u v → t.count ∉ v.fifo) := by
  have hls : s.Lifecycle := h₀.lifecycle (Lifecycle.init b w)
  have hlt : t.Lifecycle := h.lifecycle hls
  refine ⟨h.phaseMove, fun t' h₁ h₂ => run_once h₁ h₂, runRefusal_eq_none_iff, hlt.runRefusal_eq, ?_, ?_, ?_⟩
  · intro hr
    simp only [isReady, cancelled, Bool.and_eq_true, beq_iff_eq, Bool.not_eq_true',
      Bool.or_eq_false_iff] at hr
    obtain ⟨⟨⟨⟨hp, hb⟩, hroot, hctx⟩, ho⟩, hc⟩ := hr
    exact ⟨hp, hb, by simp [cancelled, hroot, hctx], ho, hc⟩
  · intro hs ht
    have hph : t.phase = .stopped ∨ t.rootCancelled = true := by
      obtain ⟨hp, -⟩ := hls.isReady_iff.1 hs
      rcases (hp ▸ h.phaseMove).of_ready with hr | hst
      · exact .inr (by
          cases hroot : t.rootCancelled
          · exact absurd (hlt.isReady_iff.2 ⟨hr, hroot⟩) (by simp [ht])
          · rfl)
      · exact .inl hst
    exact ⟨hph, fun u hu => hu.not_ready hlt hph⟩
  · intro hs
    have hp : t.phase = .stopped := (hs ▸ h.phaseMove).of_stopped
    have hrun : t.runRefusal = some .stopped := by simp [runRefusal, hp]
    refine ⟨by simp [initAnswer, hp], by simp [next, hp], hrun, by simp [next, hp], ?_⟩
    · intro k wk tm u hu
      have hwt : t.Wf := (h₀.trans h).wf (Wf.init b w)
      have he := next_begin_stopped hp hu
      have hcall : (u.calls t.count) = (Call.fresh k wk tm).abort (.returned (.failed (.lane .stopped))) := by
        simp [he]
      refine ⟨by rw [he]; rfl, by simp [hcall, Call.abort], fun v hv => ?_⟩
      have hwu : u.Wf := hwt.next hu
      exact (hv.discarded hwu (by simp [hcall, Call.abort])).2

def boundLane : System Unit Nat := ((init 1 ()).run [.bindContext]).getD (init 1 ())

def stoppedLane : System Unit Nat := (boundLane.run [.run, .stop]).getD boundLane

theorem lane_lifecycle_stopped :
    Steps (init 1 ()) boundLane ∧ Steps boundLane stoppedLane ∧
      PhaseMove boundLane.phase stoppedLane.phase ∧
      (boundLane.isReady = true → stoppedLane.isReady = false →
        (stoppedLane.phase = .stopped ∨ stoppedLane.rootCancelled = true) ∧
          ∀ u, Steps stoppedLane u → u.isReady = false) :=
  have h₀ : Steps (init 1 ()) boundLane :=
    Steps.of_run (show (init 1 ()).run [.bindContext] = some boundLane from rfl)
  have h : Steps boundLane stoppedLane :=
    Steps.of_run (show boundLane.run [.run, .stop] = some stoppedLane from rfl)
  have hl := lane_lifecycle h₀ h
  ⟨h₀, h, hl.1, hl.2.2.2.2.2.1⟩

example : boundLane.isReady = true ∧ stoppedLane.isReady = false ∧
    stoppedLane.runRefusal = some .stopped := by decide

end System

end ChatArchive.Lane
