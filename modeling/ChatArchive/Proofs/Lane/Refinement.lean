import Mathlib
import ChatArchive.Proofs.Lane.Schedule
import ChatArchive.Service.State

namespace ChatArchive.Lane

variable {ω ρ : Type}

namespace Sim

variable {tk : List Nat} {m : Sim ω ρ} {t : System ω ρ}

-- The worker takes the receiving end of a lane bound and not yet run.
theorem Mirrors.spawn (h : Mirrors tk m t) (hp : m.phase = .ready) (hr : m.receiver = .inLane)
    (hb : m.bound = true) :
    ∃ t', t.next .run = some t' ∧
      Mirrors tk { m with loop := some ⟨0, none⟩, receiver := .taken } t' := by
  have htb : t.bound = true := (h.control.bound (by simp [hp])).trans hb
  obtain ⟨-, -, he⟩ := h.inLane hr
  refine ⟨_, System.next_run_of (h.control.phase.trans hp) (h.control.receiver.trans hr) htb, ?_⟩
  exact ⟨{ h.control with
      receiver := rfl
      closed := ⟨fun hc => absurd (h.control.closed.mp hc) (by simp [hr]), fun hg => (by cases hg)⟩ },
    h.world, ⟨carries_congr h.queue.carries fun _ _ => rfl, h.queue.queued, h.queue.distinct,
      fun _ => h.queue.permits (by simp [hr])⟩,
    ⟨he, rfl⟩, fun hr' => (by cases hr'), h.tickets.congr rfl le_rfl le_rfl fun _ => rfl⟩

theorem Mirrors.note (h : Mirrors tk m t) (level : Level) (message : String)
    (fields : List Field) : Mirrors tk (m.note level message fields) t :=
  h.aside _ m.tasks m.callerGone m.scheduled

theorem Mirrors.cancelRoot (h : Mirrors tk m t) :
    ∃ t', System.Steps t t' ∧ Mirrors tk { m with rootCancelled := true } t' := by
  cases hr : t.rootCancelled
  · exact ⟨_, .tail .cancelRoot (.refl t) (System.next_cancelRoot_of hr),
      ⟨{ h.control with rootCancelled := rfl }, h.world,
        h.queue.congr rfl rfl rfl rfl rfl le_rfl fun _ _ => rfl,
        h.runs.congr rfl rfl le_rfl fun _ _ => rfl, h.inLane,
        h.tickets.congr rfl le_rfl le_rfl fun _ => rfl⟩⟩
  · exact ⟨t, .refl t,
      ⟨{ h.control with rootCancelled := hr }, h.world, { h.queue with }, h.runs, h.inLane,
        { h.tickets with }⟩⟩

-- `start` takes the receiving end where the lane lets it, lets the lane move for a millisecond,
-- and sends a no-op submission through a live worker.
theorem Mirrors.start (h : Mirrors tk m t) (hsafe : t.Safe) (idle : Work ω ρ) :
    ∃ tk' t', System.Steps t t' ∧ Mirrors tk' (m.start idle).2 t' := by
  -- the outcome stays opaque while the stages of `start` are split
  generalize hP : (fun p : Started ρ × Sim ω ρ => ∃ tk' t', System.Steps t t' ∧ Mirrors tk' p.2 t') = P
  suffices hsub : P (m.start idle) by
    rw [← hP] at hsub
    exact hsub
  unfold Sim.start
  split
  next task s₁ heq =>
  obtain ⟨t₁, hst₁, h₁⟩ : ∃ t₁, System.Steps t t₁ ∧ Mirrors tk s₁ t₁ := by
    cases hp : m.phase with
    | uninitialized | stopped =>
      simp only [hp] at heq
      obtain ⟨-, rfl⟩ := Prod.mk.inj heq
      exact ⟨t, .refl t, h⟩
    | ready =>
      simp only [hp] at heq
      split at heq
      · obtain ⟨-, rfl⟩ := Prod.mk.inj heq
        exact ⟨t, .refl t, h⟩
      next hb =>
      split at heq
      · obtain ⟨-, rfl⟩ := Prod.mk.inj heq
        exact ⟨t, .refl t, h⟩
      next hr =>
      obtain ⟨-, rfl⟩ := Prod.mk.inj heq
      obtain ⟨t₁, hrun, h₁⟩ := h.spawn hp (by simpa using hr) (by simpa using hb)
      rw [hp] at h₁
      exact ⟨t₁, .tail .run (.refl t) hrun, h₁.note _ _ _⟩
  dsimp only
  obtain ⟨t₂, hs₂, h₂⟩ := (h₁.aside s₁.logs (s₁.tasks ++ [task]) s₁.callerGone s₁.scheduled).wait
    (fun _ => false) (some (s₁.now + 1)) { s₁ with tasks := s₁.tasks ++ [task] }.waitFuel
  have hsteps : System.Steps t t₂ := hst₁.trans hs₂.steps
  -- whatever the task's result, the lane read afterwards is the waited-on lane
  have cont : ∀ q : Option (Except LaneError Unit) × Sim ω ρ, Mirrors tk q.2 t₂ → ∀ b : Bool,
      P (if b = true then
          ({ exited := q.1, drain := some (q.2.submit idle 5000 false none).1 },
            (q.2.submit idle 5000 false none).2)
        else ({ exited := q.1, drain := none }, q.2)) := by
    intro q h₃ b
    split
    · obtain ⟨tk', t', hst, hm, -⟩ := h₃.submit (hsteps.safe hsafe) idle 5000 false none
      rw [← hP]
      exact ⟨tk', t', hsteps.trans hst, hm⟩
    · rw [← hP]
      exact ⟨tk, t₂, hsteps, h₃⟩
  refine cont _ ?_ _
  split
  · exact h₂.aside _ _ _ _
  · exact h₂

theorem Mirrors.joinAll (h : Mirrors tk m t) :
    ∃ t', System.Settles t t' ∧ Mirrors tk m.joinAll.2 t' :=
  (h.wait _ none m.waitFuel).imp fun _ hw => ⟨hw.1, hw.2.aside _ [] _ _⟩

theorem Mirrors.stopAndJoin (h : Mirrors tk m t) :
    ∃ t', System.Settles t t' ∧ Mirrors tk m.stopAndJoin.2 t' :=
  h.halt.joinAll.imp fun _ hw => ⟨(System.settles_halt t).trans hw.1, hw.2⟩

theorem Mirrors.cancelAndJoin (h : Mirrors tk m t) :
    ∃ t', System.Steps t t' ∧ Mirrors tk m.cancelAndJoin.2 t' := by
  obtain ⟨t₁, hs₁, h₁⟩ := h.cancelRoot
  obtain ⟨t₂, hs₂, h₂⟩ := h₁.joinAll
  exact ⟨t₂, hs₁.trans hs₂.steps, h₂⟩

-- What a caller can do with the lane.
inductive Op (ω ρ : Type) where
  | bindContext
  | start (idle : Work ω ρ)
  | tryEnqueue (w : Work ω ρ)
  | enqueue (w : Work ω ρ) (patience : Nat)
  | enqueueWithReply (w : Work ω ρ)
  | awaitReply (k : Nat) (during : Option (Nat × Action))
  | submitUntil (w : Work ω ρ) (timeout : Nat) (gone : Bool) (during : Option (Nat × Action))
      (cutoff : Option Nat)
  | submit (w : Work ω ρ) (timeout : Nat) (gone : Bool) (during : Option (Nat × Action))
  | pass
  | joinAll
  | stopAndJoin
  | cancelAndJoin
  | takeLogs
  | report (records : List LogRecord)

-- The lane after an operation, whatever the operation answered.
def apply (s : Sim ω ρ) : Op ω ρ → Sim ω ρ
  | .bindContext => s.bindContext.2
  | .start idle => (s.start idle).2
  | .tryEnqueue w => (s.tryEnqueue w).2
  | .enqueue w patience => (s.enqueue w patience).2
  | .enqueueWithReply w => (s.enqueueWithReply w).2
  | .awaitReply k during => (s.awaitReply k during).2
  | .submitUntil w timeout gone during cutoff => (s.submitUntil w timeout gone during cutoff).2
  | .submit w timeout gone during => (s.submit w timeout gone during).2
  | .pass => s.pass
  | .joinAll => s.joinAll.2
  | .stopAndJoin => s.stopAndJoin.2
  | .cancelAndJoin => s.cancelAndJoin.2
  | .takeLogs => s.takeLogs.2
  | .report records => s.report records

-- Every operation is matched by moves of the interleaved lane.
theorem Mirrors.apply (h : Mirrors tk m t) (hsafe : t.Safe) (op : Op ω ρ) :
    ∃ tk' t', System.Steps t t' ∧ Mirrors tk' (m.apply op) t' := by
  cases op with
  | bindContext =>
    obtain ⟨-, t', hs, h'⟩ := h.bindContext
    exact ⟨tk, t', hs, h'⟩
  | start idle => exact h.start hsafe idle
  | tryEnqueue w =>
    obtain ⟨t', hn, -, h'⟩ := h.tryEnqueue w
    exact ⟨tk, t', .tail _ (.refl t) hn, h'⟩
  | enqueue w patience =>
    obtain ⟨t', hs, -, h'⟩ := h.enqueue w patience
    exact ⟨tk, t', hs, h'⟩
  | enqueueWithReply w =>
    obtain ⟨tk', t', hs, h', -⟩ := h.enqueueWithReply w
    exact ⟨tk', t', hs, h'⟩
  | awaitReply k during =>
    obtain ⟨t', hs, h', -⟩ := h.awaitReply k during
    exact ⟨tk, t', hs.steps, h'⟩
  | submitUntil w timeout gone during cutoff =>
    obtain ⟨tk', t', hs, h', -⟩ := h.submitUntil hsafe w timeout gone during cutoff
    exact ⟨tk', t', hs, h'⟩
  | submit w timeout gone during =>
    obtain ⟨tk', t', hs, h', -⟩ := h.submit hsafe w timeout gone during
    exact ⟨tk', t', hs, h'⟩
  | pass =>
    obtain ⟨t', hs, h'⟩ := h.pass (2 * m.buffer.length + 4)
    exact ⟨tk, t', hs.steps, h'⟩
  | joinAll =>
    obtain ⟨t', hs, h'⟩ := h.joinAll
    exact ⟨tk, t', hs.steps, h'⟩
  | stopAndJoin =>
    obtain ⟨t', hs, h'⟩ := h.stopAndJoin
    exact ⟨tk, t', hs.steps, h'⟩
  | cancelAndJoin =>
    obtain ⟨t', hs, h'⟩ := h.cancelAndJoin
    exact ⟨tk, t', hs, h'⟩
  | takeLogs => exact ⟨tk, t, .refl t, h.aside [] m.tasks m.callerGone m.scheduled⟩
  | report records =>
    exact ⟨tk, t, .refl t, h.aside (m.logs ++ records) m.tasks m.callerGone m.scheduled⟩

-- A whole schedule of operations is matched by a run of the interleaved lane; the induction is
-- on the schedule, with the lane kept safe along the run.
theorem Mirrors.schedule (h : Mirrors tk m t) (hsafe : t.Safe) (ops : List (Op ω ρ)) :
    ∃ tk' t', System.Steps t t' ∧ Mirrors tk' (ops.foldl Sim.apply m) t' := by
  induction ops generalizing tk m t with
  | nil => exact ⟨tk, t, .refl t, h⟩
  | cons op ops ih =>
    obtain ⟨tk₁, t₁, hs₁, h₁⟩ := h.apply hsafe op
    obtain ⟨tk₂, t₂, hs₂, h₂⟩ := ih h₁ (hs₁.safe hsafe)
    exact ⟨tk₂, t₂, hs₁.trans hs₂, h₂⟩

end Sim

-- Every schedule of operations on a fresh lane is a run of the interleaved lane from its start.
theorem schedule_is_run (b : Nat) (w : ω) (now : Nat) (logs : List LogRecord) (ops : List (Sim.Op ω ρ)) :
    ∃ tk t, System.Steps (System.init b w) t ∧
      Sim.Mirrors tk (ops.foldl Sim.apply { Sim.fresh b w with now := now, logs := logs }) t :=
  (Sim.mirrors_fresh b w now logs).schedule (System.Safe.init b w) ops

end ChatArchive.Lane

namespace ChatArchive.Service

-- The lane a service launches is a run of the interleaved lane.
theorem launch_is_run (setup : Setup) (store : Store) (now : Nat) (logs : List LogRecord) :
    ∃ tk t, Lane.System.Steps (Lane.System.init setup.backlog store) t ∧
      Lane.Sim.Mirrors tk (launch setup store now logs) t :=
  Lane.schedule_is_run setup.backlog store now logs [.bindContext, .start idle]

end ChatArchive.Service
