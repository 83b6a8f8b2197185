import Mathlib
import ChatArchive.Proofs.Lane.Steps

namespace ChatArchive.Lane

variable {ω ρ : Type}

@[simp] theorem Delivery.ofOutcome_eq_value {r : Except String ρ} {v : ρ} :
    Delivery.ofOutcome r = .value v ↔ r = .ok v := by
  cases r <;> simp [Delivery.ofOutcome]

@[simp] theorem Delivery.ofOutcome_eq_dropped {r : Except String ρ} :
    Delivery.ofOutcome r = .dropped ↔ ∃ e, r = .error e := by
  cases r <;> simp [Delivery.ofOutcome]

@[simp] theorem Delivery.ofOutcome_ne_waiting {r : Except String ρ} :
    Delivery.ofOutcome r ≠ .waiting := by
  cases r <;> simp [Delivery.ofOutcome]

namespace Call

def began (c : Call ω ρ) : Bool :=
  match c.unit with
  | .running _ => true
  | _ => c.outcome.isSome

-- What a submission's answer tells of it.
def Answered (c : Call ω ρ) : Answer ρ → Prop
  | .value v => c.outcome = some (.ok v)
  | .failed (.fault f) => f = ⟨"submitted operation"⟩ ∧ ∃ e, c.outcome = some (.error e)
  | .failed (.timedOut d) =>
    d = Duration.ofMillis c.timeout ∧ (c.claim = .abandoned ∨ c.claim = .expired)
  | .failed .cancelled => c.claim = .abandoned
  | .failed (.lane .stopped) => c.unit = .discarded
  | _ => False

-- What the place of a submission's unit says of its claim, its reply, its outcome and the
-- number `n` of times its body started.
def UnitInv (c : Call ω ρ) (n : Nat) : Prop :=
  match c.unit with
  | .held | .queued | .taken | .checked =>
    n = 0 ∧ c.outcome = none ∧ c.reply = .waiting ∧ (c.claim = .pending ∨ c.claim = .abandoned)
  | .claimed => n = 0 ∧ c.outcome = none ∧ c.reply = .waiting ∧ c.claim = .running
  | .running _ => n = 1 ∧ c.outcome = none ∧ c.reply = .waiting ∧ c.claim = .running
  | .ended | .finished =>
    (n = 1 ∧ c.claim = .running ∧ ∃ r, c.outcome = some r ∧ c.reply = .ofOutcome r) ∨
      (n = 0 ∧ c.outcome = none ∧ c.reply = .dropped ∧
        (c.claim = .abandoned ∨ c.claim = .expired))
  | .discarded =>
    n = 0 ∧ c.outcome = none ∧ c.reply = .dropped ∧ (c.claim = .pending ∨ c.claim = .abandoned)

-- What the place of a submission's caller says of its unit and its claim.
def CallerInv (c : Call ω ρ) : Prop :=
  match c.caller with
  | .idle => False
  | .sending => c.unit = .held ∧ c.claim = .pending
  | .waiting => c.claim ≠ .abandoned
  | .resolving => c.claim ≠ .pending ∧ c.claim ≠ .abandoned
  | .returned a => c.Answered a
  | .dropped => c.claim ≠ .pending

structure Handshake (c : Call ω ρ) (n : Nat) : Prop where
  unit : c.UnitInv n
  caller : c.CallerInv

variable {c c' : Call ω ρ} {n n' : Nat}

section Guard

variable (c : Call ω ρ)

@[simp] theorem guard_claim : c.guard.claim = (c.claim.cas .pending .abandoned).2 := rfl
@[simp] theorem guard_unit : c.guard.unit = c.unit := rfl
@[simp] theorem guard_outcome : c.guard.outcome = c.outcome := rfl
@[simp] theorem guard_reply : c.guard.reply = c.reply := rfl
@[simp] theorem guard_timeout : c.guard.timeout = c.timeout := rfl
@[simp] theorem guard_kind : c.guard.kind = c.kind := rfl

theorem guard_claim_ne_pending : c.guard.claim ≠ .pending := by
  cases hc : c.claim <;> simp [Claim.cas, hc]

end Guard

theorem UnitInv.abandon (h : c.UnitInv n) (hp : c.claim = .pending) :
    ({ c with claim := .abandoned } : Call ω ρ).UnitInv n := by
  cases hu : c.unit <;> simp_all [UnitInv]

theorem UnitInv.guard (h : c.UnitInv n) : c.guard.UnitInv n := by
  by_cases hp : c.claim = .pending
  · simpa [Call.guard, Claim.cas, hp] using h.abandon hp
  · simpa [Call.guard, Claim.cas, hp] using h

theorem UnitInv.outcome_of_value (h : c.UnitInv n) {v : ρ} (hr : c.reply = .value v) :
    c.outcome = some (.ok v) := by
  cases hu : c.unit <;> simp only [UnitInv, hu] at h
  case ended | finished =>
    rcases h with ⟨-, -, r, ho, hr'⟩ | ⟨-, -, hd, -⟩
    · rw [hr, eq_comm, Delivery.ofOutcome_eq_value] at hr'
      rw [ho, hr']
    · rw [hr] at hd; cases hd
  all_goals (obtain ⟨-, -, hw, -⟩ := h; rw [hr] at hw; cases hw)

theorem UnitInv.failed (h : c.UnitInv n) (hr : c.reply = .dropped) (hc : c.claim = .running) :
    ∃ e, c.outcome = some (.error e) := by
  cases hu : c.unit <;> simp only [UnitInv, hu] at h
  case ended | finished =>
    rcases h with ⟨-, -, r, ho, hr'⟩ | ⟨-, -, -, hcl | hcl⟩
    · rw [hr, eq_comm, Delivery.ofOutcome_eq_dropped] at hr'
      obtain ⟨e, rfl⟩ := hr'
      exact ⟨e, ho⟩
    all_goals (rw [hc] at hcl; cases hcl)
  case discarded =>
    obtain ⟨-, -, -, hcl | hcl⟩ := h <;> (rw [hc] at hcl; cases hcl)
  all_goals (obtain ⟨-, -, hw, -⟩ := h; rw [hr] at hw; cases hw)

theorem UnitInv.discarded (h : c.UnitInv n) (hr : c.reply = .dropped) (hc : c.claim = .pending) :
    c.unit = .discarded := by
  cases hu : c.unit <;> simp only [UnitInv, hu] at h
  case discarded => rfl
  case ended | finished =>
    rcases h with ⟨-, hcl, -⟩ | ⟨-, -, -, hcl | hcl⟩ <;> (rw [hc] at hcl; cases hcl)
  case claimed | running =>
    obtain ⟨-, -, -, hcl⟩ := h; rw [hc] at hcl; cases hcl
  all_goals (obtain ⟨-, -, hw, -⟩ := h; rw [hr] at hw; cases hw)

theorem UnitInv.step (hm : CallMove c n c' n') (hk : c'.kind = .submit)
    (h : c.kind = .submit → c.Handshake n) : c'.UnitInv n' := by
  cases hm with
  | stay => exact (h hk).unit
  | make k w t => simp [UnitInv, fresh]
  | makeRefused k w t e he => simp [UnitInv, fresh, abort, Claim.cas]
  | makeQueued w t => cases hk
  | late | cancel | reserve _ | defer _ _ => exact (h hk).unit
  | enter hs =>
    obtain ⟨hu, hc⟩ := h hk
    simp only [CallerInv, hs] at hc
    simp only [UnitInv, hc.1] at hu
    simpa [UnitInv, enter] using hu
  | abort dest hs _ =>
    obtain ⟨hu, hc⟩ := h hk
    simp only [CallerInv, hs] at hc
    simp only [UnitInv, hc.1] at hu
    simp [UnitInv, abort, hc.2, hu, Claim.cas]
  | collect _ _ => exact (h hk).unit.guard
  | abandon _ hp => exact (h hk).unit.abandon hp
  | leave _ => exact (h hk).unit.guard
  | take hu' =>
    have hu := (h hk).unit
    simp only [UnitInv, hu'] at hu
    simpa [UnitInv] using hu
  | discard hu' =>
    have hu := (h hk).unit
    simp only [UnitInv, hu'] at hu
    simp [UnitInv, hu]
  | expire hu' _ =>
    have hu := (h hk).unit
    simp only [UnitInv, hu'] at hu
    obtain ⟨rfl, ho, -, hcl | hcl⟩ := hu <;> simp [UnitInv, ho, hcl, Claim.cas]
  | pass hu' _ =>
    have hu := (h hk).unit
    simp only [UnitInv, hu'] at hu
    simpa [UnitInv] using hu
  | claim hu' _ =>
    have hu := (h hk).unit
    simp only [UnitInv, hu'] at hu
    simp [UnitInv, hu]
  | skip hu' hp =>
    have hu := (h hk).unit
    simp only [UnitInv, hu'] at hu
    obtain ⟨rfl, ho, -, hcl | hcl⟩ := hu
    · exact absurd hcl hp
    · simp [UnitInv, ho, hcl]
  | start r hst =>
    -- a submission's body starts only from its claim
    have hu' : c.unit = .claimed := by
      revert hst; unfold startable; split <;> simp_all
    have hu := (h hk).unit
    simp only [UnitInv, hu'] at hu
    obtain ⟨rfl, hu⟩ := hu
    simpa [UnitInv] using hu
  | finish r hu' =>
    have hu := (h hk).unit
    simp only [UnitInv, hu'] at hu
    obtain ⟨rfl, -, -, hcl⟩ := hu
    simp [UnitInv, hcl]
  | resume hu' =>
    have hu := (h hk).unit
    simp only [UnitInv, hu'] at hu
    simpa [UnitInv] using hu

theorem Answered.keep {a : Answer ρ} (h : c.Answered a)
    (houtcome : ∀ r, c.outcome = some r → c'.outcome = some r) (htimeout : c'.timeout = c.timeout)
    (hclaim : c.claim ≠ .pending → c'.claim = c.claim)
    (hdisc : c.unit = .discarded → c'.unit = .discarded) : c'.Answered a := by
  cases a with
  | queued => exact h.elim
  | value v => exact houtcome _ h
  | failed e =>
    cases e with
    | timedOut d =>
      obtain ⟨rfl, hc⟩ := h
      refine ⟨by rw [htimeout], ?_⟩
      rcases hc with hc | hc <;> rw [hclaim (by simp [hc])] <;> simp [hc]
    | cancelled => exact (hclaim (by simp [show c.claim = .abandoned from h])).trans h
    | lane e => cases e <;> first | exact h.elim | exact hdisc h
    | fault f =>
      obtain ⟨rfl, e, he⟩ := h
      exact ⟨rfl, e, houtcome _ he⟩

theorem CallerInv.keep (h : c.CallerInv) (hcaller : c'.caller = c.caller) (hheld : c.unit ≠ .held)
    (houtcome : ∀ r, c.outcome = some r → c'.outcome = some r) (htimeout : c'.timeout = c.timeout)
    (hclaim : c.claim ≠ .pending → c'.claim = c.claim)
    (hab : c'.claim = .abandoned → c.claim = .abandoned)
    (hdisc : c.unit = .discarded → c'.unit = .discarded) : c'.CallerInv := by
  cases hcl : c.caller <;> simp only [CallerInv, hcl, hcaller] at h ⊢
  case sending => exact absurd h.1 hheld
  case waiting => exact fun hc => h (hab hc)
  case resolving => exact ⟨fun hp => h.1 (by rw [← hclaim h.1, hp]), fun hc => h.2 (hab hc)⟩
  case returned a => exact h.keep houtcome htimeout hclaim hdisc
  case dropped => rw [hclaim h]; exact h

theorem UnitInv.answered_result (hu : c.UnitInv n) (hab : c.claim ≠ .abandoned)
    (hr : c.reply ≠ .waiting) : c.guard.Answered (.ofResult c.result) := by
  cases hrep : c.reply with
  | waiting => exact absurd hrep hr
  | value v =>
    simp only [result, hrep, Answer.ofResult, Answered, guard_outcome]
    exact hu.outcome_of_value hrep
  | dropped =>
    simp only [result, hrep]
    cases hcl : c.claim with
    | pending => simp [Claim.resolve, Answer.ofResult, Answered, hu.discarded hrep hcl]
    | running =>
      obtain ⟨e, he⟩ := hu.failed hrep hcl
      simp [Claim.resolve, Answer.ofResult, Answered, he]
    | abandoned => exact absurd hcl hab
    | expired => simp [Claim.resolve, Answer.ofResult, Answered, Claim.cas, hcl]

theorem CallerInv.step (hm : CallMove c n c' n') (hk : c'.kind = .submit)
    (h : c.kind = .submit → c.Handshake n) : c'.CallerInv := by
  cases hm with
  | stay => exact (h hk).caller
  | make k w t => simp [CallerInv, fresh]
  | makeRefused k w t e he =>
    -- a submission is refused at once only by a stopped lane
    have he : e = .lane .stopped := by
      rcases he with he | ⟨rfl, -⟩
      · exact he
      · cases hk
    subst he
    simp [CallerInv, Answered, abort]
  | makeQueued w t => cases hk
  | late | cancel | reserve _ => exact (h hk).caller
  | enter hs =>
    have hc := (h hk).caller
    simp only [CallerInv, hs] at hc
    simp [CallerInv, enter, show c.kind = .submit from hk, hc.2]
  | abort dest hs hto =>
    have hc := (h hk).caller
    simp only [CallerInv, hs] at hc
    rcases hto with rfl | rfl | ⟨-, rfl | rfl⟩ <;>
      simp [CallerInv, Answered, abort, Claim.cas, hc.2]
  | collect hw hr =>
    obtain ⟨hu, hc⟩ := h hk
    have hab : c.claim ≠ .abandoned := by
      rcases hw with hw | hw <;> simp only [CallerInv, hw] at hc
      · exact hc
      · exact hc.2
    exact hu.answered_result hab hr
  | abandon _ _ =>
    by_cases hcn : c.cancelled <;> simp [CallerInv, Answered, hcn]
  | defer hw hp =>
    have hc := (h hk).caller
    simp only [CallerInv, hw] at hc
    simp [CallerInv, hp, hc]
  | leave _ => simpa [CallerInv] using c.guard_claim_ne_pending
  | take hu' =>
    refine (h hk).caller.keep rfl (by simp [hu']) (fun _ h => h) rfl (fun _ => rfl) id ?_
    simp [hu']
  | discard hu' =>
    exact (h hk).caller.keep rfl (by simp [hu']) (fun _ h => h) rfl (fun _ => rfl) id
      (fun _ => rfl)
  | expire hu' _ =>
    refine (h hk).caller.keep rfl (by simp [hu']) (fun _ h => h) rfl (fun hp => ?_) (fun ha => ?_)
      (by simp [hu'])
    · simp [Claim.cas, hp]
    · cases hcl : c.claim <;> simp_all [Claim.cas]
  | pass hu' _ =>
    exact (h hk).caller.keep rfl (by simp [hu']) (fun _ h => h) rfl (fun _ => rfl) id
      (by simp [hu'])
  | claim hu' hp =>
    exact (h hk).caller.keep rfl (by simp [hu']) (fun _ h => h) rfl (fun h => absurd hp h)
      (fun h => by cases h) (by simp [hu'])
  | skip hu' _ =>
    exact (h hk).caller.keep rfl (by simp [hu']) (fun _ h => h) rfl (fun _ => rfl) id
      (by simp [hu'])
  | start r hst =>
    have hu' : c.unit = .claimed := by
      revert hst; unfold startable; split <;> simp_all
    exact (h hk).caller.keep rfl (by simp [hu']) (fun _ h => h) rfl (fun _ => rfl) id
      (by simp [hu'])
  | finish r hu' =>
    -- the body had not ended before, so no answer rested on its outcome
    have hu := (h hk).unit
    simp only [UnitInv, hu'] at hu
    refine (h hk).caller.keep rfl (by simp [hu']) (fun r' ho => ?_) rfl (fun _ => rfl) id
      (by simp [hu'])
    rw [hu.2.1] at ho
    cases ho
  | resume hu' =>
    exact (h hk).caller.keep rfl (by simp [hu']) (fun _ h => h) rfl (fun _ => rfl) id
      (by simp [hu'])

def Settled (c : Call ω ρ) : Prop :=
  c.claim = .abandoned ∨ c.claim = .expired ∨ c.unit = .discarded

theorem UnitInv.runs_le (h : c.UnitInv n) : n ≤ 1 := by
  cases hu : c.unit <;> simp only [UnitInv, hu] at h
  case ended | finished => rcases h with ⟨rfl, -⟩ | ⟨rfl, -⟩ <;> omega
  all_goals (obtain ⟨rfl, -⟩ := h; omega)

theorem UnitInv.runs_eq_zero (h : c.UnitInv n) (hs : c.Settled) : n = 0 := by
  cases hu : c.unit <;> simp only [UnitInv, hu] at h
  case running =>
    obtain ⟨-, -, -, hc⟩ := h
    rcases hs with hs | hs | hs <;> simp_all
  case ended | finished =>
    rcases h with ⟨-, hc, -⟩ | ⟨rfl, -⟩
    · rcases hs with hs | hs | hs <;> simp_all
    · rfl
  all_goals exact h.1

theorem guard_settled (hc : c.claim ≠ .running) : c.guard.Settled := by
  cases hcl : c.claim <;> simp_all [Settled, Claim.cas]

theorem Handshake.ended (h : c.Handshake n) {r : Except String ρ} (ho : c.outcome = some r) :
    c.result = r.mapError (fun _ => .fault ⟨"submitted operation"⟩) ∧
      (c.caller = .dropped ∨ c.caller = .returned (.ofResult c.result) ∨
        ((c.caller = .waiting ∨ c.caller = .resolving) ∧ c.reply ≠ .waiting)) := by
  obtain ⟨hu, hc⟩ := h
  have hend : c.claim = .running ∧ c.reply = .ofOutcome r := by
    cases hun : c.unit <;> simp only [UnitInv, hun] at hu
    case ended | finished =>
      rcases hu with ⟨-, hcl, r', ho', hr⟩ | ⟨-, ho', -⟩
      · rw [ho] at ho'
        cases ho'
        exact ⟨hcl, hr⟩
      · rw [ho] at ho'; cases ho'
    all_goals (rw [hu.2.1] at ho; cases ho)
  obtain ⟨hcl, hr⟩ := hend
  have hres : c.result = r.mapError (fun _ => .fault ⟨"submitted operation"⟩) := by
    cases r <;> simp [result, hr, Delivery.ofOutcome, Claim.resolve, hcl, Except.mapError]
  refine ⟨hres, ?_⟩
  cases hcal : c.caller <;> simp only [CallerInv, hcal] at hc
  case sending => simp [hc.1, UnitInv, ho] at hu
  case waiting | resolving => simp [hr]
  case dropped => simp
  case returned a =>
    -- the answer rests on the outcome, so it is the one the reply gives
    right; left
    congr 1
    rw [hres]
    cases a with
    | queued => exact hc.elim
    | value v =>
      simp only [Answered, ho, Option.some.injEq] at hc
      subst hc
      rfl
    | failed e =>
      cases e with
      | fault f =>
        obtain ⟨rfl, e, he⟩ := hc
        rw [ho, Option.some.injEq] at he
        subst he
        rfl
      | timedOut d => rcases hc.2 with hc' | hc' <;> simp_all
      | cancelled => simp_all [Answered]
      | lane e => cases e <;> simp_all [Answered, UnitInv]

end Call

namespace CallMove

open Call

variable {c c' : Call ω ρ} {n n' : Nat}

theorem handshake (hm : CallMove c n c' n') (hk : c'.kind = .submit)
    (h : c.kind = .submit → c.Handshake n) : c'.Handshake n' :=
  ⟨UnitInv.step hm hk h, CallerInv.step hm hk h⟩

theorem kind_submit (hm : CallMove c n c' n') (hk : c.kind = .submit) :
    c'.kind = .submit := by
  cases hm <;> first | exact hk | cases hk

theorem settled (hm : CallMove c n c' n') (hk : c.kind = .submit) (h : c.Handshake n)
    (hs : c.Settled) : c'.Settled := by
  cases hm with
  | make | makeRefused | makeQueued => cases hk
  | claim hu hp => rcases hs with hs | hs | hs <;> simp_all
  | start r hst =>
    have hu : c.unit = .claimed := by
      revert hst; unfold startable; split <;> simp_all
    have hc := h.unit
    simp only [UnitInv, hu] at hc
    rcases hs with hs | hs | hs <;> simp_all
  | abandon _ hp => rcases hs with hs | hs | hs <;> simp_all [Settled]
  | expire hu _ => rcases hs with hs | hs | hs <;> simp_all [Settled, Claim.cas]
  | abort dest hs' _ | collect _ _ | leave _ =>
    rcases hs with hs | hs | hs <;> simp_all [Settled, Claim.cas, Call.abort]
  | enter hs' =>
    -- a sender still holds its unit under a pending claim
    have hc := h.caller
    simp only [CallerInv, hs'] at hc
    rcases hs with hs | hs | hs <;> simp_all
  | _ => rcases hs with hs | hs | hs <;> simp_all [Settled]

end CallMove


namespace System

variable {s t u : System ω ρ} {i : Nat}

structure Safe (s : System ω ρ) : Prop where
  wf : s.Wf
  handshake : ∀ i, (s.calls i).kind = .submit → (s.calls i).Handshake (s.runs i)

theorem Safe.init (b : Nat) (w : ω) : (System.init b w : System ω ρ).Safe :=
  ⟨Wf.init b w, fun _ hk => by cases hk⟩

theorem Safe.next (h : s.Safe) {m : Move ω ρ} (hn : s.next m = some t) : t.Safe :=
  ⟨h.wf.next hn, fun i hk => (callMove_of_next h.wf hn i).handshake hk (h.handshake i)⟩

theorem Steps.safe (hs : Steps s t) (h : s.Safe) : t.Safe := by
  induction hs with
  | refl => exact h
  | tail m _ hn ih => exact ih.next hn

theorem Steps.settled (hst : Steps s t) (h : s.Safe) (hk : (s.calls i).kind = .submit)
    (hs : (s.calls i).Settled) : (t.calls i).kind = .submit ∧ (t.calls i).Settled := by
  induction hst with
  | refl => exact ⟨hk, hs⟩
  | tail m hst' hn ih =>
    obtain ⟨hk', hs'⟩ := ih
    have hsafe := hst'.safe h
    have hm := callMove_of_next hsafe.wf hn i
    exact ⟨hm.kind_submit hk', hm.settled hk' (hsafe.handshake i hk') hs'⟩

theorem Steps.runs_eq_zero (hst : Steps s t) (h : s.Safe) (hk : (s.calls i).kind = .submit)
    (hs : (s.calls i).Settled) : t.runs i = 0 := by
  obtain ⟨hk', hs'⟩ := hst.settled h hk hs
  exact ((hst.safe h).handshake i hk').unit.runs_eq_zero hs'

def Receives (s : System ω ρ) (i : Nat) (a : Answer ρ) : Prop :=
  (s.calls i).caller = .dropped ∨ (s.calls i).caller = .returned a ∨
    ∃ t, s.next (.collect i) = some t ∧ (t.calls i).caller = .returned a

theorem Safe.receives (h : s.Safe) (hk : (s.calls i).kind = .submit) {r : Except String ρ}
    (ho : (s.calls i).outcome = some r) :
    s.Receives i (.ofResult (r.mapError fun _ => .fault ⟨"submitted operation"⟩)) := by
  obtain ⟨hres, hd | hret | ⟨hw, hr⟩⟩ := ((h.handshake i hk).ended ho)
  · exact .inl hd
  · exact .inr (.inl (hres ▸ hret))
  · refine .inr (.inr ⟨_, next_collect_eq hw hr, ?_⟩)
    simp [hres]

-- The claim protocol, as the submission `i` of lane `s` sees it.
structure ClaimProtocol (s : System ω ρ) (i : Nat) : Prop where
  -- the body starts at most once
  once : s.runs i ≤ 1
  -- a caller that timed out or was cancelled leaves a body that never starts
  givenUp : ∀ a, (s.calls i).caller = .returned a →
    (a = .failed .cancelled ∨ ∃ d, a = .failed (.timedOut d)) → ∀ u, Steps s u → u.runs i = 0
  -- so does a caller that goes away before the closure claims the unit
  droppedEarly : ∀ t, s.next (.drop i) = some t → (s.calls i).claim ≠ .running →
    ∀ u, Steps t u → u.runs i = 0
  -- the value of the body is what the caller gets
  value : ∀ v, (s.calls i).outcome = some (.ok v) → s.Receives i (.value v)
  -- a body that failed is reported as a fault
  fault : ∀ e, (s.calls i).outcome = some (.error e) →
    s.Receives i (.failed (.fault ⟨"submitted operation"⟩))
  -- a stopped lane is reported only for a unit dropped unrun
  stopped : (s.calls i).caller = .returned (.failed (.lane .stopped)) →
    (s.calls i).unit = .discarded ∧ ∀ u, Steps s u → u.runs i = 0

-- Every submission of every lane keeps the claim protocol, under any interleaving of its caller,
-- the worker, the closure of its unit, the other calls, and stops and cancellations.
theorem submit_claim_protocol {b : Nat} {w : ω} {s : System ω ρ} (hs : Steps (init b w) s)
    {i : Nat} (hk : (s.calls i).kind = .submit) : s.ClaimProtocol i := by
  have h := hs.safe (Safe.init b w)
  have hh := h.handshake i hk
  refine ⟨hh.unit.runs_le, ?_, ?_, ?_, ?_, ?_⟩
  · intro a ha hfail u hu
    have hc := hh.caller
    simp only [Call.CallerInv, ha] at hc
    have hset : (s.calls i).Settled := by
      rcases hfail with rfl | ⟨d, rfl⟩
      · exact .inl hc
      · exact hc.2.elim .inl (.inr ∘ .inl)
    exact hu.runs_eq_zero h hk hset
  · intro t ht hc u hu
    -- the guard of the dropped caller abandons a claim the closure has not taken
    have hset : (t.calls i).Settled := by
      rcases next_drop ht with ⟨-, rfl⟩ | ⟨-, rfl⟩
      · simp [Call.Settled, Call.abort]
      · simpa [Call.Settled] using Call.guard_settled hc
    exact hu.runs_eq_zero (h.next ht) ((callMove_of_next h.wf ht i).kind_submit hk) hset
  · intro v ho
    simpa [Except.mapError, Answer.ofResult] using h.receives hk ho
  · intro e ho
    simpa [Except.mapError, Answer.ofResult] using h.receives hk ho
  · intro ha
    have hd : (s.calls i).unit = .discarded := by
      have hc := hh.caller
      simpa [Call.CallerInv, ha, Call.Answered] using hc
    exact ⟨hd, fun u hu => hu.runs_eq_zero h hk (.inr (.inr hd))⟩

def answeredRun : List (Move Unit Nat) :=
  [.bindContext, .run, .begin .submit ⟨1, fun _ w => ((.ok 7, []), w)⟩ 100, .reserve 0, .send 0,
    .dequeue, .check, .claim, .start, .finish, .collect 0]

def answered : System Unit Nat := ((init 1 ()).run answeredRun).getD (init 1 ())

theorem submit_claim_protocol_answered :
    Steps (init 1 ()) answered ∧ (answered.calls 0).kind = .submit ∧ answered.ClaimProtocol 0 :=
  have hs : Steps (init 1 ()) answered :=
    Steps.of_run (show (init 1 ()).run answeredRun = some answered from rfl)
  ⟨hs, rfl, submit_claim_protocol hs rfl⟩

example : (answered.calls 0).caller = .returned (.value 7) := rfl

end System

end ChatArchive.Lane
