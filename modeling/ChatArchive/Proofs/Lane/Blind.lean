import ChatArchive.Proofs.Lane.Handshake

namespace ChatArchive.Lane

variable {ω ρ : Type}

def UnitAt.blind : UnitAt ρ → UnitAt ρ
  | .running _ => .running (.error "")
  | u => u

def CallerAt.blind : CallerAt ρ → CallerAt ρ
  | .returned _ => .returned .queued
  | c => c

def Delivery.blind : Delivery ρ → Delivery ρ
  | .value _ => .dropped
  | d => d

def Call.blind (c : Call ω ρ) : Call ω ρ :=
  { c with
    caller := c.caller.blind
    unit := c.unit.blind
    reply := c.reply.blind
    outcome := c.outcome.map fun _ => .error "" }

def System.blind (s : System ω ρ) (w : ω) : System ω ρ :=
  { s with world := w, calls := fun i => (s.calls i).blind }

attribute [ext] System

@[simp] theorem UnitAt.blind_blind (u : UnitAt ρ) : u.blind.blind = u.blind := by cases u <;> rfl
@[simp] theorem CallerAt.blind_blind (c : CallerAt ρ) : c.blind.blind = c.blind := by cases c <;> rfl
@[simp] theorem Delivery.blind_blind (d : Delivery ρ) : d.blind.blind = d.blind := by cases d <;> rfl
@[simp] theorem Delivery.blind_ofOutcome (r : Except String ρ) : (Delivery.ofOutcome r).blind = .dropped := by
  cases r <;> rfl

namespace Call

variable (c : Call ω ρ)

@[simp] theorem blind_kind : c.blind.kind = c.kind := by
  cases c; rfl
@[simp] theorem blind_timeout : c.blind.timeout = c.timeout := by
  cases c; rfl
@[simp] theorem blind_work : c.blind.work = c.work := by
  cases c; rfl
@[simp] theorem blind_claim : c.blind.claim = c.claim := by
  cases c; rfl
@[simp] theorem blind_late : c.blind.late = c.late := by
  cases c; rfl
@[simp] theorem blind_cancelled : c.blind.cancelled = c.cancelled := by
  cases c; rfl
@[simp] theorem blind_reserved : c.blind.reserved = c.reserved := by
  cases c; rfl
@[simp] theorem blind_caller : c.blind.caller = c.caller.blind := by
  cases c; rfl
@[simp] theorem blind_unit : c.blind.unit = c.unit.blind := by
  cases c; rfl
@[simp] theorem blind_reply : c.blind.reply = c.reply.blind := by
  cases c; rfl
@[simp] theorem blind_blind : c.blind.blind = c.blind := by
  simp [blind, Option.map_map, Function.comp_def]

theorem blind_enter : c.enter.blind = c.blind.enter.blind := by
  cases hk : c.kind <;> simp [blind, enter, hk, Option.map_map, Function.comp_def]

theorem blind_abort (dest : CallerAt ρ) : (c.abort dest).blind = (c.blind.abort dest).blind := by
  simp [blind, abort, guard, Option.map_map, Function.comp_def]

@[simp] theorem blind_startable : c.blind.startable = c.startable := by
  cases hu : c.unit <;> simp [blind, startable, hu, UnitAt.blind]
end Call

namespace System

variable (s : System ω ρ) (w : ω)

@[simp] theorem blind_calls (i : Nat) : (s.blind w).calls i = (s.calls i).blind := by
  cases s; rfl
@[simp] theorem blind_phase : (s.blind w).phase = s.phase := by
  cases s; rfl
@[simp] theorem blind_bound : (s.blind w).bound = s.bound := by
  cases s; rfl
@[simp] theorem blind_rootCancelled : (s.blind w).rootCancelled = s.rootCancelled := by
  cases s; rfl
@[simp] theorem blind_contextCancelled : (s.blind w).contextCancelled = s.contextCancelled := by
  cases s; rfl
@[simp] theorem blind_senderOpen : (s.blind w).senderOpen = s.senderOpen := by
  cases s; rfl
@[simp] theorem blind_receiver : (s.blind w).receiver = s.receiver := by
  cases s; rfl
@[simp] theorem blind_closed : (s.blind w).closed = s.closed := by
  cases s; rfl
@[simp] theorem blind_permits : (s.blind w).permits = s.permits := by
  cases s; rfl
@[simp] theorem blind_fifo : (s.blind w).fifo = s.fifo := by
  cases s; rfl
@[simp] theorem blind_worker : (s.blind w).worker = s.worker := by
  cases s; rfl
@[simp] theorem blind_count : (s.blind w).count = s.count := by
  cases s; rfl
@[simp] theorem blind_cancelled : (s.blind w).cancelled = s.cancelled := by
  cases s; rfl

@[simp] theorem blind_sent : (s.blind w).sent = s.sent := by
  cases s; rfl
@[simp] theorem blind_taken : (s.blind w).taken = s.taken := by
  cases s; rfl
@[simp] theorem blind_started : (s.blind w).started = s.started := by
  cases s; rfl
@[simp] theorem blind_lost : (s.blind w).lost = s.lost := by
  cases s; rfl
@[simp] theorem blind_executed : (s.blind w).executed = s.executed := by
  cases s; rfl
@[simp] theorem blind_capacity : (s.blind w).capacity = s.capacity := by
  cases s; rfl

@[simp] theorem blind_self : (s.blind w).blind w = s.blind w := by
  simp [blind]

@[simp] theorem blind_world : (s.blind w).world = w := rfl

theorem blind_update (i : Nat) (f g : Call ω ρ → Call ω ρ)
    (h : ∀ c, (f c).blind = (g c.blind).blind) :
    (s.update i f).blind w = ((s.blind w).update i g).blind w := by
  ext <;> simp [update]
  split <;> simp [h]

theorem blind_discard (us : List Nat) :
    (s.discard us).blind w = ((s.blind w).discard us).blind w := by
  ext j <;> simp [discard]
  by_cases hj : j ∈ us <;> simp [hj, Call.blind, Option.map_map, Function.comp_def]

theorem blind_dropQueued : s.dropQueued.blind w = (s.blind w).dropQueued.blind w :=
  congrArg
    (fun t => { t with receiver := .gone, closed := true, lost := s.lost ++ s.fifo, fifo := [] })
    (blind_discard s w s.fifo)

theorem blind_halt : s.halt.blind w = (s.blind w).halt.blind w := by
  by_cases hp : s.phase = .stopped
  · simp [halt, hp]
  by_cases hr : s.receiver = .inLane
  · simp only [halt, hp, hr, blind_phase, blind_receiver, if_false, if_true]
    rw [blind_dropQueued]
    rfl
  · simp only [halt, hp, hr, blind_phase, blind_receiver, if_false]
    ext <;> simp

theorem blind_push (i : Nat) : (s.push i).blind w = ((s.blind w).push i).blind w := by
  unfold push
  rw [blind_update _ _ i Call.enter Call.enter Call.blind_enter]
  rfl

theorem blind_abort (i : Nat) (dest : CallerAt ρ) :
    (s.abort i dest).blind w = ((s.blind w).abort i dest).blind w := by
  unfold abort
  rw [blind_update _ _ i (·.abort dest) (·.abort dest) (fun c => Call.blind_abort c dest)]
  rfl

theorem blind_launch (i : Nat) : (s.launch i).blind w = ((s.blind w).launch i).blind w := by
  ext <;> simp [launch, update]
  split
  · simp [Call.blind, UnitAt.blind, Option.map_map, Function.comp_def]
  · simp

theorem blind_enroll (k : CallKind) (wk : Work ω ρ) (tm : Nat) :
    (s.enroll k wk tm).blind w = ((s.blind w).enroll k wk tm).blind w := by
  unfold enroll
  rw [blind_update _ _ _ (fun _ => Call.fresh k wk tm) (fun _ => Call.fresh k wk tm) fun _ => rfl]
  rfl

theorem blind_exit : s.exit.blind w = (s.blind w).exit.blind w := by
  have h : s.dropQueued.halt.blind w = (s.blind w).dropQueued.halt.blind w := by
    rw [blind_halt, blind_halt (s.blind w).dropQueued, blind_dropQueued]
  exact congrArg (fun t => { t with worker := .exited s.fifo.length }) h

theorem blind_refuse (i : Nat) (e : SubmitError) :
    (s.refuse i e).blind w = ((s.blind w).refuse i e).blind w :=
  blind_abort s w i _

@[simp] theorem enroll_phase (k : CallKind) (wk : Work ω ρ) (tm : Nat) :
    (s.enroll k wk tm).phase = s.phase := by
  cases s; rfl
@[simp] theorem enroll_senderOpen (k : CallKind) (wk : Work ω ρ) (tm : Nat) :
    (s.enroll k wk tm).senderOpen = s.senderOpen := by
  cases s; rfl
@[simp] theorem enroll_closed (k : CallKind) (wk : Work ω ρ) (tm : Nat) :
    (s.enroll k wk tm).closed = s.closed := by
  cases s; rfl
@[simp] theorem enroll_permits (k : CallKind) (wk : Work ω ρ) (tm : Nat) :
    (s.enroll k wk tm).permits = s.permits := by
  cases s; rfl

theorem blind_refuse_congr {t t' : System ω ρ} (h : t.blind w = t'.blind w) (i : Nat)
    (e : SubmitError) : (t.refuse i e).blind w = (t'.refuse i e).blind w := by
  rw [blind_refuse t, h, ← blind_refuse t']

theorem blind_push_congr {t t' : System ω ρ} (h : t.blind w = t'.blind w) (i : Nat) :
    (t.push i).blind w = (t'.push i).blind w := by
  rw [blind_push t, h, ← blind_push t']

theorem blind_next (m : Move ω ρ) :
    (s.next m).map (·.blind w) = ((s.blind w).next m).map (·.blind w) := by
  cases m with
  | bindContext =>
    simp only [next, blind_phase]
    split
    · exact congrArg some (blind_self _ w).symm
    · rfl
  | stop =>
    simp only [next]
    split <;> rename_i h <;> simp only [blind_phase, h, ↓reduceIte, Option.map_some]
    exact congrArg some (blind_halt s w)
  | cancelRoot =>
    simp only [next]
    split <;> rename_i h <;> simp only [blind_rootCancelled, h, Bool.false_eq_true, ↓reduceIte, Option.map_some]
    exact congrArg some (blind_self _ w).symm
  | begin k wk tm =>
    have he := blind_enroll s w k wk tm
    simp only [next]
    split <;> rename_i h
    · simp only [enroll_phase, enroll_senderOpen, blind_phase, blind_senderOpen] at h ⊢
      simp only [h, ↓reduceIte, Option.map_some]
      exact congrArg some (blind_refuse_congr w he _ _)
    · simp only [enroll_phase, enroll_senderOpen, blind_phase, blind_senderOpen] at h ⊢
      simp only [h, ↓reduceIte]
      cases k with
      | tryEnqueue =>
        by_cases hc : s.closed = true
        · simp only [enroll_closed, blind_closed, hc, ↓reduceIte, Option.map_some]
          exact congrArg some (blind_refuse_congr w he _ _)
        · simp only [enroll_closed, blind_closed, hc, Bool.false_eq_true, ↓reduceIte]
          by_cases hp : s.permits = 0
          · simp only [enroll_permits, blind_permits, hp, ↓reduceIte, Option.map_some]
            exact congrArg some (blind_refuse_congr w he _ _)
          · simp only [enroll_permits, blind_permits, hp, ↓reduceIte, Option.map_some]
            refine congrArg some (blind_push_congr w ?_ _)
            exact congrArg (fun u => { u with closed := false, permits := s.permits - 1 }) he
      | _ => exact congrArg some he
  | reserve i =>
    simp only [next]
    cases hc : (s.calls i).caller <;> simp only [blind_calls, Call.blind_caller, hc, CallerAt.blind]
    split <;> rename_i h
    · simp only [Call.blind_reserved, blind_closed, blind_permits, h, eq_self, and_self, ↓reduceIte, Option.map_some]
      refine congrArg some (blind_update _ w i _ _ fun c => ?_)
      simp [Call.blind, Option.map_map, Function.comp_def]
    · simp only [Call.blind_reserved, blind_closed, blind_permits, h, ↓reduceIte, Option.map_none]
  | send i =>
    simp only [next]
    cases hc : (s.calls i).caller <;> simp only [blind_calls, Call.blind_caller, hc, CallerAt.blind]
    split <;> rename_i h
    · simp only [Call.blind_reserved, blind_closed, h, eq_self, and_self, ↓reduceIte, Option.map_some]
      exact congrArg some (blind_push s w i)
    · simp only [Call.blind_reserved, blind_closed, h, ↓reduceIte, Option.map_none]
  | shut i =>
    simp only [next]
    cases hc : (s.calls i).caller <;> simp only [blind_calls, Call.blind_caller, hc, CallerAt.blind]
    split <;> rename_i h
    · simp only [blind_closed, h, eq_self, ↓reduceIte, Option.map_some]
      exact congrArg some (blind_refuse s w i _)
    · simp only [blind_closed, h, Bool.false_eq_true, ↓reduceIte, Option.map_none]
  | expire i =>
    simp only [next]
    split <;> rename_i h
    · simp only [blind_calls, Call.blind_late, blind_count, h, eq_self, and_self, ↓reduceIte, Option.map_some]
      refine congrArg some (blind_update _ w i _ _ fun c => ?_)
      simp [Call.blind, Option.map_map, Function.comp_def]
    · simp only [blind_calls, Call.blind_late, blind_count, h, ↓reduceIte, Option.map_none]
  | cancelCaller i =>
    simp only [next]
    split <;> rename_i h
    · simp only [blind_calls, Call.blind_cancelled, blind_count, h, eq_self, and_self, ↓reduceIte, Option.map_some]
      refine congrArg some (blind_update _ w i _ _ fun c => ?_)
      simp [Call.blind, Option.map_map, Function.comp_def]
    · simp only [blind_calls, Call.blind_cancelled, blind_count, h, ↓reduceIte, Option.map_none]
  | outOfTime i =>
    simp only [next]
    cases hc : (s.calls i).caller <;> cases hk : (s.calls i).kind <;>
      simp only [blind_calls, Call.blind_caller, Call.blind_kind, hc, hk, CallerAt.blind]
    split <;> rename_i h
    · simp only [Call.blind_late, Call.blind_timeout, h, eq_self, ↓reduceIte, Option.map_some]
      exact congrArg some (blind_refuse s w i _)
    · simp only [Call.blind_late, h, Bool.false_eq_true, ↓reduceIte, Option.map_none]
  | withdraw i =>
    simp only [next]
    cases hc : (s.calls i).caller <;> cases hk : (s.calls i).kind <;>
      simp only [blind_calls, Call.blind_caller, Call.blind_kind, hc, hk, CallerAt.blind]
    split <;> rename_i h
    · simp only [Call.blind_cancelled, h, eq_self, ↓reduceIte, Option.map_some]
      exact congrArg some (blind_refuse s w i _)
    · simp only [Call.blind_cancelled, h, Bool.false_eq_true, ↓reduceIte, Option.map_none]
  | collect i =>
    simp only [next]
    cases hc : (s.calls i).caller <;> cases hr : (s.calls i).reply <;>
      simp only [blind_calls, Call.blind_caller, Call.blind_reply, hc, hr, CallerAt.blind,
        Delivery.blind, Option.map_some]
    all_goals
      refine congrArg some (blind_update _ w i _ _ fun c => ?_)
      simp [Call.blind, Call.guard, CallerAt.blind, Option.map_map, Function.comp_def]
  | giveUp i =>
    simp only [next]
    cases hc : (s.calls i).caller <;> simp only [blind_calls, Call.blind_caller, hc, CallerAt.blind]
    split <;> rename_i h
    · simp only [Call.blind_late, Call.blind_cancelled, Call.blind_claim, h, ↓reduceIte]
      split
      · refine congrArg some (blind_update _ w i _ _ fun c => ?_)
        simp [Call.blind, CallerAt.blind, Option.map_map, Function.comp_def]
      · refine congrArg some (blind_update _ w i _ _ fun c => ?_)
        simp [Call.blind, CallerAt.blind, Option.map_map, Function.comp_def]
    · simp only [Call.blind_late, Call.blind_cancelled, h, ↓reduceIte, Option.map_none]
  | drop i =>
    simp only [next]
    cases hc : (s.calls i).caller <;>
      simp only [blind_calls, Call.blind_caller, hc, CallerAt.blind, Option.map_some]
    · exact congrArg some (blind_abort s w i _)
    all_goals
      refine congrArg some (blind_update _ w i _ _ fun c => ?_)
      simp [Call.blind, Call.guard, CallerAt.blind, Option.map_map, Function.comp_def]
  | run =>
    simp only [next, blind_phase, blind_receiver]
    split
    · split <;> rename_i h <;> simp only [blind_bound, h, Bool.false_eq_true, ↓reduceIte, Option.map_some]
      exact congrArg some (blind_self _ w).symm
    · rfl
  | dequeue =>
    simp only [next]
    cases hw : s.worker <;> simp only [blind_worker, hw]
    split <;> rename_i h
    · simp only [blind_cancelled, h, eq_self, ↓reduceIte, Option.map_some]
      exact congrArg some (blind_exit s w)
    · simp only [blind_cancelled, h, Bool.false_eq_true, ↓reduceIte]
      cases hf : s.fifo with
      | cons j rest =>
        simp only [blind_fifo, hf, Option.map_some]
        refine congrArg some (blind_update _ w j _ _ fun c => ?_)
        simp [Call.blind, UnitAt.blind, Option.map_map, Function.comp_def]
      | nil =>
        simp only [blind_fifo, hf]
        split <;> rename_i ho <;> simp only [blind_senderOpen, ho, ↓reduceIte, Option.map_some]
        exact congrArg some (blind_exit s w)
  | check =>
    simp only [next]
    cases hw : s.worker with
    | running j =>
      simp only [blind_worker, hw]
      cases hu : (s.calls j).unit <;> cases hk : (s.calls j).kind <;>
        simp only [blind_calls, Call.blind_unit, Call.blind_kind, hu, hk, UnitAt.blind]
      split <;> rename_i h
      · simp only [Call.blind_late, h, eq_self, ↓reduceIte, Option.map_some]
        refine congrArg some (blind_update _ w j _ _ fun c => ?_)
        simp [Call.blind, UnitAt.blind, Delivery.blind, Option.map_map, Function.comp_def]
      · simp only [Call.blind_late, h, Bool.false_eq_true, ↓reduceIte, Option.map_some]
        refine congrArg some (blind_update _ w j _ _ fun c => ?_)
        simp [Call.blind, UnitAt.blind, Option.map_map, Function.comp_def]
    | _ => simp only [blind_worker, hw]
  | claim =>
    simp only [next]
    cases hw : s.worker with
    | running j =>
      simp only [blind_worker, hw]
      cases hu : (s.calls j).unit <;> simp only [blind_calls, Call.blind_unit, hu, UnitAt.blind]
      simp only [Call.blind_claim]
      split
      · refine congrArg some (blind_update _ w j _ _ fun c => ?_)
        simp [Call.blind, UnitAt.blind, Option.map_map, Function.comp_def]
      · refine congrArg some (blind_update _ w j _ _ fun c => ?_)
        simp [Call.blind, UnitAt.blind, Delivery.blind, Option.map_map, Function.comp_def]
    | _ => simp only [blind_worker, hw]
  | start =>
    simp only [next]
    cases hw : s.worker with
    | running j =>
      simp only [blind_worker, hw]
      split <;> rename_i h <;> simp only [blind_calls, Call.blind_startable, h, Bool.false_eq_true, ↓reduceIte,
        Option.map_some]
      exact congrArg some (blind_launch s w j)
    | _ => simp only [blind_worker, hw]
  | finish =>
    simp only [next]
    cases hw : s.worker with
    | running j =>
      simp only [blind_worker, hw]
      cases hu : (s.calls j).unit <;>
        simp only [blind_calls, Call.blind_unit, hu, UnitAt.blind, Option.map_some]
      refine congrArg some (blind_update _ w j _ _ fun c => ?_)
      simp [Call.blind, UnitAt.blind]
    | _ => simp only [blind_worker, hw]
  | resume =>
    simp only [next]
    cases hw : s.worker with
    | running j =>
      simp only [blind_worker, hw]
      cases hu : (s.calls j).unit <;>
        simp only [blind_calls, Call.blind_unit, hu, UnitAt.blind, Option.map_some]
      refine congrArg some (blind_update _ w j _ _ fun c => ?_)
      simp [Call.blind, UnitAt.blind, Option.map_map, Function.comp_def]
    | _ => simp only [blind_worker, hw]


theorem blind_next_congr {s' : System ω ρ} (h : s.blind w = s'.blind w) (m : Move ω ρ) :
    (s.next m).map (·.blind w) = (s'.next m).map (·.blind w) := by
  rw [blind_next s w, h, ← blind_next s' w]

theorem blind_run {s' : System ω ρ} (h : s.blind w = s'.blind w) (ms : List (Move ω ρ)) :
    (s.run ms).map (·.blind w) = (s'.run ms).map (·.blind w) := by
  induction ms generalizing s s' with
  | nil => exact congrArg some h
  | cons m ms ih =>
    have hn := blind_next_congr s w h m
    simp only [run]
    cases ht : s.next m with
    | none =>
      rw [ht] at hn
      cases ht' : s'.next m with
      | none => rfl
      | some t' => rw [ht'] at hn; cases hn
    | some t =>
      rw [ht] at hn
      cases ht' : s'.next m with
      | none => rw [ht'] at hn; cases hn
      | some t' =>
        rw [ht'] at hn
        exact ih t (Option.some.inj hn)

end System

end ChatArchive.Lane
