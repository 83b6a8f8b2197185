import Mathlib
import ChatArchive.Proofs.Lane.Mirror
import ChatArchive.Proofs.Lane.Handshake

namespace ChatArchive.Lane

variable {ω ρ : Type}

-- What a call that only queues its unit answers, read off what the lane answered.
def Answer.ofLane {α : Type} : Except LaneError α → Answer ρ
  | .ok _ => .queued
  | .error e => .failed (.lane e)

def Delivery.toOption : Delivery ρ → Option ρ
  | .value v => some v
  | _ => none

-- Where the caller of an `enqueue` that gave up waiting for room after a while is.
def CallerAt.ofEnqueue : Except LaneError Bool → CallerAt ρ
  | .ok true => .returned .queued
  | .ok false => .dropped
  | .error e => .returned (.failed (.lane e))

namespace System

variable {s : System ω ρ} {i : Nat}

section Forward

variable {k : CallKind} {w : Work ω ρ} {tm : Nat}

theorem next_begin_refused (h : s.phase = .stopped ∨ s.senderOpen = false) :
    s.next (.begin k w tm) = some ((s.enroll k w tm).refuse s.count (.lane .stopped)) := by
  simp only [next]
  rw [if_pos (by simpa [enroll, update] using h)]

theorem next_begin_sending (hp : s.phase ≠ .stopped) (ho : s.senderOpen = true)
    (hk : k ≠ .tryEnqueue) : s.next (.begin k w tm) = some (s.enroll k w tm) := by
  cases k <;> simp_all [next, enroll, update]

theorem next_begin_try (hp : s.phase ≠ .stopped) (ho : s.senderOpen = true) :
    s.next (.begin .tryEnqueue w tm) = some
      (if s.closed then (s.enroll .tryEnqueue w tm).refuse s.count (.lane .stopped)
      else if s.permits = 0 then (s.enroll .tryEnqueue w tm).refuse s.count (.lane .full)
      else { s.enroll .tryEnqueue w tm with permits := s.permits - 1 }.push s.count) := by
  by_cases hc : s.closed <;> by_cases hz : s.permits = 0 <;>
    simp [next, enroll, update, hp, ho, hc, hz]

theorem next_reserve_of (hs : (s.calls i).caller = .sending) (hr : (s.calls i).reserved = false)
    (hc : s.closed = false) (hp : 0 < s.permits) :
    s.next (.reserve i) =
      some ({ s with permits := s.permits - 1 }.update i fun c => { c with reserved := true }) := by
  simp [next, hs, hr, hc, hp]

theorem next_send_of (hs : (s.calls i).caller = .sending) (hr : (s.calls i).reserved = true)
    (hc : s.closed = false) : s.next (.send i) = some (s.push i) := by
  simp [next, hs, hr, hc]

theorem next_shut_of (hs : (s.calls i).caller = .sending) (hc : s.closed = true) :
    s.next (.shut i) = some (s.refuse i (.lane .stopped)) := by
  simp [next, hs, hc]

theorem next_cancelCaller_of (hi : i < s.count) (hc : (s.calls i).cancelled = false) :
    s.next (.cancelCaller i) = some (s.update i fun c => { c with cancelled := true }) := by
  simp [next, hi, hc]

theorem next_withdraw_of (hs : (s.calls i).caller = .sending) (hk : (s.calls i).kind = .submit)
    (hc : (s.calls i).cancelled = true) : s.next (.withdraw i) = some (s.refuse i .cancelled) := by
  simp [next, hs, hk, hc]

theorem next_outOfTime_of (hs : (s.calls i).caller = .sending) (hk : (s.calls i).kind = .submit)
    (hl : (s.calls i).late = true) :
    s.next (.outOfTime i) =
      some (s.refuse i (.timedOut (Duration.ofMillis (s.calls i).timeout))) := by
  simp [next, hs, hk, hl]

theorem next_drop_sending (hs : (s.calls i).caller = .sending) :
    s.next (.drop i) = some (s.abort i .dropped) := by
  simp [next, hs]

theorem next_drop_waiting (hw : (s.calls i).caller = .waiting) :
    s.next (.drop i) = some (s.update i fun c => { c.guard with caller := .dropped }) := by
  simp [next, hw]

theorem next_giveUp_of (hw : (s.calls i).caller = .waiting)
    (hl : (s.calls i).late = true ∨ (s.calls i).cancelled = true) :
    s.next (.giveUp i) = some (if (s.calls i).claim = .pending then
        s.update i (fun c => { c with
          claim := .abandoned
          caller := .returned (.failed
            (if c.cancelled then .cancelled else .timedOut (Duration.ofMillis c.timeout))) })
      else s.update i fun c => { c with caller := .resolving }) := by
  have hl' : ((s.calls i).late || (s.calls i).cancelled) = true := by
    rcases hl with hl | hl <;> simp [hl]
  cases hc : (s.calls i).claim <;> simp_all [next, Claim.cas]

theorem next_run_of (hp : s.phase = .ready) (hr : s.receiver = .inLane) (hb : s.bound = true) :
    s.next .run = some { s with receiver := .taken, worker := .idle } := by
  simp [next, hp, hr, hb]

theorem next_cancelRoot_of (hr : s.rootCancelled = false) :
    s.next .cancelRoot = some { s with rootCancelled := true } := by
  simp [next, hr]

theorem next_bindContext_of (hp : s.phase = .uninitialized) :
    s.next .bindContext = some { s with phase := .ready, bound := true } := by
  simp [next, hp]

end Forward

-- A caller's deadline can pass, and its token fire, at any time: the step is taken, or it
-- was already.
theorem steps_late (hi : i < s.count) : Steps s (s.update i fun c => { c with late := true }) := by
  cases hl : (s.calls i).late
  · exact .tail (.expire i) (.refl s) (next_expire_of hi hl)
  · rw [update_self _ (by simp [← hl])]
    exact .refl s

theorem steps_cancelled (hi : i < s.count) :
    Steps s (s.update i fun c => { c with cancelled := true }) := by
  cases hc : (s.calls i).cancelled
  · exact .tail (.cancelCaller i) (.refl s) (next_cancelCaller_of hi hc)
  · rw [update_self _ (by simp [← hc])]
    exact .refl s

theorem steps_push (hs : (s.calls i).caller = .sending)
    (hr : (s.calls i).reserved = false) (hc : s.closed = false) (hp : 0 < s.permits) :
    Steps s ({ s with permits := s.permits - 1 }.push i) := by
  have h₂ := next_send_of
    (s := { s with permits := s.permits - 1 }.update i fun c => { c with reserved := true }) (i := i)
    (by simp [hs]) (by simp) hc
  have heq : ({ s with permits := s.permits - 1 }.update i fun c => { c with reserved := true }).push i =
      { s with permits := s.permits - 1 }.push i := by
    simp only [push, update]
    congr 1
    funext j
    by_cases hj : j = i <;> simp [hj, Call.enter]
  rw [heq] at h₂
  exact .tail (.send i) (.tail (.reserve i) (.refl s) (next_reserve_of hs hr hc hp)) h₂

theorem abort_unreserved (hr : (s.calls i).reserved = false) (d : CallerAt ρ) :
    s.abort i d = s.update i fun c => c.abort d := by
  simp [abort, hr]

theorem update_update (f g : Call ω ρ → Call ω ρ) : (s.update i f).update i g = s.update i (g ∘ f) := by
  simp only [update]
  congr 1
  funext j
  by_cases hj : j = i <;> simp [hj]

-- A submission whose claim is still pending when its reply came was dropped unrun.
theorem Safe.discarded_of_pending (hs : s.Safe) (hk : (s.calls i).kind = .submit)
    (hp : (s.calls i).claim = .pending) (hr : (s.calls i).reply ≠ .waiting) :
    (s.calls i).unit = .discarded := by
  have hu := (hs.handshake i hk).unit
  unfold Call.UnitInv at hu
  split at hu <;> simp_all

end System

namespace Sim

variable {tk : List Nat} {m : Sim ω ρ} {t : System ω ρ}

theorem carries_imp {tk' : List Nat} {t' : System ω ρ} {js : List (Job ω ρ)} {is : List Nat}
    (h : List.Forall₂ (Carries tk t) js is)
    (hf : ∀ job i, i ∈ is → Carries tk t job i → Carries tk' t' job i) :
    List.Forall₂ (Carries tk' t') js is := by
  induction h with
  | nil => exact .nil
  | cons hx _ ih =>
    exact .cons (hf _ _ List.mem_cons_self hx)
      (ih fun job i hi hc => hf job i (List.mem_cons_of_mem _ hi) hc)

-- The call `n` that begins next is out of the worker's reach.
theorem Mirrors.not_running_count (h : Mirrors tk m t) : t.worker ≠ .running t.count := by
  intro hw
  have hruns := h.runs
  rcases hl : m.loop with _ | ⟨e, _ | ⟨job, ends⟩⟩ <;> rw [hl] at hruns
  · rcases hruns with h' | ⟨n, h'⟩ <;> simp [hw] at h'
  · have hidle := hruns.2
    rw [hw] at hidle
    cases hidle
  · obtain ⟨-, i, hi, hw', -⟩ := hruns
    rw [hw] at hw'
    cases hw'
    exact lt_irrefl _ hi

theorem Answers.keep {t' : System ω ρ} {now : Nat} {tc : Ticket ρ} {i : Nat}
    (h : Answers t now tc i) (hu : (t.calls i).unit ≠ .discarded)
    (hk : (t'.calls i).kind = (t.calls i).kind) (hc : (t'.calls i).claim = (t.calls i).claim)
    (hr : (t'.calls i).reply = (t.calls i).reply) (hl : (t'.calls i).late = (t.calls i).late) :
    Answers t' now tc i where
  kind := hk ▸ h.kind
  claim := fun hne => absurd (hc.trans (h.claim_eq hu)) hne
  delivery := fun hne => absurd (hr.trans (h.reply_eq hu)) hne
  late := by rw [hl, hc]; exact h.late

-- A change to the call `n` alone that shows the worker the same unit, if the worker can see it.
theorem Mirrors.touch (h : Mirrors tk m t) {n : Nat} {f : Call ω ρ → Call ω ρ}
    (hfix : n ∈ t.fifo ∨ t.worker = .running n → (f (t.calls n)).Shows (t.calls n))
    (hans : ∀ (k : Nat) (tc : Ticket ρ), tk[k]? = some n → m.tickets[k]? = some tc →
      Answers t m.now tc n → Answers (t.update n f) m.now tc n) :
    Mirrors tk m (t.update n f) := by
  have hshows : ∀ j, j ∈ t.fifo ∨ t.worker = .running j →
      ((t.update n f).calls j).Shows (t.calls j) := by
    intro j hj
    by_cases hjn : j = n
    · subst hjn
      simpa using hfix hj
    · simp [hjn, Call.Shows]
  exact ⟨{ h.control with }, h.world, h.queue.shows rfl rfl le_rfl fun j hj => hshows j (.inl hj),
    h.runs.shows rfl rfl le_rfl (fun j hj => hshows j (.inr hj)), h.inLane,
    h.tickets.change (i := n) rfl le_rfl le_rfl (fun j hj => by simp [hj]) (fun _ _ => rfl)
      fun k tc hk htc => hans k tc hk htc (h.tickets.answers k n tc hk htc)⟩

theorem Mirrors.enroll (h : Mirrors tk m t) (k : CallKind) (w : Work ω ρ) (tm : Nat) :
    Mirrors tk m (t.enroll k w tm) := by
  have hnew : ∀ j, j ∈ t.fifo ∨ t.worker = .running j → j ≠ t.count := by
    rintro j (hj | hj) rfl
    · exact lt_irrefl _ (h.queue.queued _ hj).2
    · exact h.not_running_count hj
  have hshows : ∀ j, j ∈ t.fifo ∨ t.worker = .running j →
      ((t.enroll k w tm).calls j).Shows (t.calls j) := fun j hj => by
    simp [hnew j hj, Call.Shows]
  exact ⟨{ h.control with }, h.world,
    h.queue.shows rfl rfl (by simp) fun j hj => hshows j (.inl hj),
    h.runs.shows rfl rfl (by simp) (fun j hj => hshows j (.inr hj)), h.inLane,
    h.tickets.change (i := t.count) rfl le_rfl (by simp) (fun j hj => by simp [hj])
      (fun _ _ => rfl) fun _ _ hk _ => absurd (h.tickets.lt _ (List.mem_of_getElem? hk))
        (lt_irrefl _)⟩

theorem Carries.extend {job : Job ω ρ} {i n : Nat} (h : Carries tk t job i) (hi : i ≠ n) :
    Carries (tk ++ [n]) t job i where
  work := h.work
  reply := h.reply
  ticket := fun k hk => by
    have hlt : k < tk.length := (List.getElem?_eq_some_iff.mp (h.ticket k hk)).1
    rw [List.getElem?_append_left hlt]
    exact h.ticket k hk
  plain := fun hj => ⟨by simpa [hi] using (h.plain hj).1, (h.plain hj).2⟩

-- A new ticket standing for the call `n`, which the worker cannot see yet.
theorem Mirrors.addTicket (h : Mirrors tk m t) {n : Nat} (hn : n < t.count) (hnt : n ∉ tk)
    (hf : n ∉ t.fifo) (hw : t.worker ≠ .running n) {tc : Ticket ρ} (ha : Answers t m.now tc n) :
    Mirrors (tk ++ [n]) { m with tickets := m.tickets ++ [tc] } t := by
  have hq : Queue (tk ++ [n]) { m with tickets := m.tickets ++ [tc] } t :=
    ⟨carries_imp h.queue.carries fun _ j hj hc => hc.extend fun h' => hf (h' ▸ hj),
      h.queue.queued, h.queue.distinct, h.queue.permits⟩
  have hruns : Runs (tk ++ [n]) t m.loop := by
    have hruns := h.runs
    rcases hl : m.loop with _ | ⟨e, _ | ⟨job, ends⟩⟩ <;> rw [hl] at hruns
    · exact hruns
    · exact hruns
    · obtain ⟨he, i, hi, hwi, hc, hs⟩ := hruns
      exact ⟨he, i, hi, hwi, hc.extend fun h' => hw (h' ▸ hwi), hs⟩
  have ht : Tickets (tk ++ [n]) { m with tickets := m.tickets ++ [tc] } t := by
    refine ⟨by simp [h.tickets.length], ?_, ?_, ?_⟩
    · refine List.nodup_append.mpr ⟨h.tickets.nodup, List.nodup_singleton n, ?_⟩
      simpa using fun a (ha : a ∈ tk) (h' : a = n) => hnt (h' ▸ ha)
    · intro j hj
      rcases List.mem_append.mp hj with hj | hj
      · exact h.tickets.lt j hj
      · simp only [List.mem_singleton] at hj
        exact hj ▸ hn
    · intro k i tc' hk htc
      by_cases hlt : k < tk.length
      · rw [List.getElem?_append_left hlt] at hk
        rw [List.getElem?_append_left (h.tickets.length ▸ hlt)] at htc
        exact h.tickets.answers k i tc' hk htc
      · have hk' := (List.getElem?_eq_some_iff.mp hk).1
        simp only [List.length_append, List.length_singleton] at hk'
        obtain rfl : k = tk.length := by omega
        simp only [List.getElem?_append_right le_rfl, Nat.sub_self, List.getElem?_cons_zero,
          Option.some.injEq] at hk
        rw [h.tickets.length] at htc
        simp only [List.getElem?_append_right le_rfl, Nat.sub_self, List.getElem?_cons_zero,
          Option.some.injEq] at htc
        subst hk htc
        exact ha
  exact ⟨{ h.control with }, h.world, hq, hruns, h.inLane, ht⟩

theorem intake_error (h : m.phase = .stopped ∨ m.senderOpen = false ∨ m.receiver = .gone) :
    m.intake = .error .stopped := by
  rcases h with h | h | h <;> simp [intake, h]

theorem intake_ok (hp : m.phase ≠ .stopped) (ho : m.senderOpen = true)
    (hg : m.receiver ≠ .gone) : m.intake = .ok () := by
  simp [intake, hp, ho, hg]

theorem Mirrors.fresh_call (h : Mirrors tk m t) :
    t.count ∉ t.fifo ∧ t.worker ≠ .running t.count ∧ t.count ∉ tk :=
  ⟨fun hj => lt_irrefl _ (h.queue.queued _ hj).2, h.not_running_count,
    fun hj => lt_irrefl _ (h.tickets.lt _ hj)⟩

-- A call refused as it begins leaves the lane as it was.
theorem Mirrors.refuseNew (h : Mirrors tk m t) (k : CallKind) (w : Work ω ρ) (tm : Nat)
    (e : SubmitError) : Mirrors tk m ((t.enroll k w tm).refuse t.count e) := by
  obtain ⟨hf, hw, hnt⟩ := h.fresh_call
  rw [System.refuse, System.abort_unreserved (by simp [Call.fresh])]
  exact (h.enroll k w tm).touch (fun hc => absurd hc (by simpa using ⟨hf, hw⟩))
    fun _ _ hk => absurd (List.mem_of_getElem? hk) hnt

-- The call `n` takes a slot and sends its unit: the lane's queue gains the job it carries.
theorem Mirrors.pushed (h : Mirrors tk m t) {n : Nat} (hn : n < t.count) (hf : n ∉ t.fifo)
    (hw : t.worker ≠ .running n) (hu : (t.calls n).unit = .held) (hroom : m.hasRoom = true)
    {job : Job ω ρ} (hcar : Carries tk t job n) :
    Mirrors tk { m with buffer := m.buffer ++ [job] }
      ({ t with permits := t.permits - 1 }.push n) := by
  let t' : System ω ρ := { t with permits := t.permits - 1 }.push n
  have hcalls : ∀ j, t'.calls j = if j = n then (t.calls n).enter else t.calls j := fun j => by
    simp [t']
  have hold : ∀ j, j ∈ t.fifo ∨ t.worker = .running j → t'.calls j = t.calls j := by
    intro j hj
    have hjn : j ≠ n := by
      rintro rfl
      rcases hj with hj | hj
      · exact hf hj
      · exact hw hj
    simp [hcalls, hjn]
  have hq : Queue tk { m with buffer := m.buffer ++ [job] } t' := by
    refine ⟨List.rel_append (carries_imp h.queue.carries fun _ j hj hc => hc.congr (hold j (.inl hj)))
      (.cons (hcar.unit ((hcalls n).trans (if_pos rfl)) rfl rfl rfl) .nil), ?_, ?_, fun hr => ?_⟩
    · intro j hj
      rcases List.mem_append.mp hj with hj | hj
      · rw [hold j (.inl hj)]
        exact h.queue.queued j hj
      · obtain rfl : j = n := by simpa using hj
        exact ⟨by simp [hcalls, Call.enter], hn⟩
    · refine List.nodup_append.mpr ⟨h.queue.distinct, List.nodup_singleton n, ?_⟩
      simpa using fun a (ha : a ∈ t.fifo) (h' : a = n) => hf (h' ▸ ha)
    · have hp := h.queue.permits hr
      simp only [hasRoom, decide_eq_true_eq] at hroom
      show t.permits - 1 + (m.buffer ++ [job]).length = m.backlog
      simp only [List.length_append, List.length_singleton]
      omega
  exact ⟨{ h.control with }, h.world, hq, h.runs.congr rfl rfl le_rfl fun j hj => hold j (.inr hj),
    h.inLane, h.tickets.change (i := n) rfl le_rfl le_rfl (fun j hj => by simp [hj])
      (fun _ _ => rfl) fun k tc hk htc => (h.tickets.answers k n tc hk htc).keep (by simp [hu])
        (by simp [Call.enter]) (by simp [Call.enter]) (by simp [Call.enter]) (by simp [Call.enter])⟩

-- A call waiting to send, still holding its unit and no slot, out of the worker's reach.
structure Sending (t : System ω ρ) (n : Nat) : Prop where
  lt : n < t.count
  outside : n ∉ t.fifo
  idle : t.worker ≠ .running n
  caller : (t.calls n).caller = .sending
  reserved : (t.calls n).reserved = false
  unit : (t.calls n).unit = .held
  reply : (t.calls n).reply = .waiting

theorem Mirrors.sending_new (h : Mirrors tk m t) (k : CallKind) (w : Work ω ρ) (tm : Nat) :
    Sending (t.enroll k w tm) t.count where
  lt := by simp
  outside := by simpa using h.fresh_call.1
  idle := by simpa using h.fresh_call.2.1
  caller := by simp [Call.fresh]
  reserved := by simp [Call.fresh]
  unit := by simp [Call.fresh]
  reply := by simp [Call.fresh]

-- While the lane moves by itself, a sending call stays as it is.
theorem Sending.settles {n : Nat} (hs : Sending t n) {t' : System ω ρ} (h : System.Settles t t') :
    Sending t' n ∧ t'.calls n = t.calls n := by
  have hf := h.frame
  obtain ⟨hc, hout, hidle⟩ := hf.outside n hs.outside hs.idle
  exact ⟨⟨hf.count ▸ hs.lt, hout, hidle, hc ▸ hs.caller, hc ▸ hs.reserved, hc ▸ hs.unit,
    hc ▸ hs.reply⟩, hc⟩

-- A sending call that stops sending drops its unit: its ticket, if it has one, still waits.
theorem Answers.abort {t' : System ω ρ} {now : Nat} {tc : Ticket ρ} {n : Nat}
    (h : Answers t now tc n) (hu : (t.calls n).unit = .held) (hr : (t.calls n).reply = .waiting)
    {c : Call ω ρ} (hk : c.kind = (t.calls n).kind) {d : CallerAt ρ} (hd : d.waits = false)
    (hc : t'.calls n = c.abort d) : Answers t' now tc n where
  kind := by rw [hc]; exact hk.trans h.kind
  claim := fun _ => by rw [hc]; exact ⟨rfl, hd⟩
  delivery := fun _ => by
    rw [hc]
    exact ⟨(h.reply_eq (by simp [hu])).symm.trans hr, rfl, rfl, hd⟩
  late := fun _ => .inl (by rw [hc]; exact Call.guard_claim_ne_pending _)

theorem Mirrors.abortSending (h : Mirrors tk m t) {n : Nat} (hs : Sending t n) {d : CallerAt ρ}
    (hd : d.waits = false) : Mirrors tk m (t.abort n d) := by
  rw [System.abort_unreserved hs.reserved]
  exact h.touch (fun hc => absurd hc (by simpa using ⟨hs.outside, hs.idle⟩))
    fun _ _ _ _ ha => ha.abort hs.unit hs.reply rfl hd (by simp)

theorem Mirrors.waitForRoom (h : Mirrors tk m t) (limit : Option Nat) :
    ∃ t', System.Settles t t' ∧ Mirrors tk (m.waitForRoom limit) t' := by
  unfold Sim.waitForRoom
  split
  · exact ⟨t, .refl t, h⟩
  · exact h.wait _ _ _

theorem Mirrors.bindContext (h : Mirrors tk m t) :
    m.bindContext.1 = t.initAnswer ∧ ∃ t', System.Steps t t' ∧ Mirrors tk m.bindContext.2 t' := by
  have hp := h.control.phase
  cases hm : m.phase with
  | uninitialized =>
    have ht : t.phase = .uninitialized := hp.trans hm
    refine ⟨by simp [Sim.bindContext, hm, System.initAnswer, ht], _,
      .tail .bindContext (.refl t) (System.next_bindContext_of ht), ?_⟩
    simp only [Sim.bindContext, hm]
    exact ⟨{ h.control with phase := rfl, bound := fun _ => rfl }, h.world,
      h.queue.congr rfl rfl rfl rfl rfl le_rfl fun _ _ => rfl, h.runs.congr rfl rfl le_rfl fun _ _ => rfl,
      h.inLane, h.tickets.congr rfl le_rfl le_rfl fun _ => rfl⟩
  | ready =>
    refine ⟨by simp [Sim.bindContext, hm, System.initAnswer, hp.trans hm], t, .refl t, ?_⟩
    simp only [Sim.bindContext, hm]
    exact h
  | stopped =>
    refine ⟨by simp [Sim.bindContext, hm, System.initAnswer, hp.trans hm], t, .refl t, ?_⟩
    simp only [Sim.bindContext, hm]
    exact h

theorem Mirrors.open_of (h : Mirrors tk m t) (hst : ¬(m.phase = .stopped ∨ m.senderOpen = false)) :
    m.phase ≠ .stopped ∧ m.senderOpen = true ∧ t.phase ≠ .stopped ∧ t.senderOpen = true := by
  simp only [not_or, Bool.not_eq_false] at hst
  exact ⟨hst.1, hst.2, by rw [h.control.phase]; exact hst.1, h.control.senderOpen.trans hst.2⟩

theorem Mirrors.refused_of (h : Mirrors tk m t) (hst : m.phase = .stopped ∨ m.senderOpen = false) :
    m.intake = .error .stopped ∧ (t.phase = .stopped ∨ t.senderOpen = false) := by
  refine ⟨intake_error (hst.elim .inl (.inr ∘ .inl)), ?_⟩
  rw [h.control.phase, h.control.senderOpen]
  exact hst

theorem Mirrors.closed_of (h : Mirrors tk m t) (hg : ¬m.receiver = .gone) : t.closed = false := by
  cases hc : t.closed
  · rfl
  · exact absurd (h.control.closed.mp hc) hg

theorem Mirrors.permits_pos (h : Mirrors tk m t) (hg : m.receiver ≠ .gone)
    (hroom : m.hasRoom = true) : 0 < t.permits := by
  have hp := h.queue.permits hg
  simp only [hasRoom, decide_eq_true_eq] at hroom
  omega

-- `tryEnqueue` is one step, the `try_send` of a call that begins.
theorem Mirrors.tryEnqueue (h : Mirrors tk m t) (w : Work ω ρ) :
    ∃ t', t.next (.begin .tryEnqueue w 0) = some t' ∧
      (t'.calls t.count).caller = .returned (Answer.ofLane (m.tryEnqueue w).1) ∧
      Mirrors tk (m.tryEnqueue w).2 t' := by
  by_cases hst : m.phase = .stopped ∨ m.senderOpen = false
  · obtain ⟨hint, ht⟩ := h.refused_of hst
    refine ⟨_, System.next_begin_refused ht, by simp [Sim.tryEnqueue, hint, Answer.ofLane,
      Call.abort], ?_⟩
    simp only [Sim.tryEnqueue, hint]
    exact h.refuseNew _ _ _ _
  obtain ⟨hp, ho, htp, hto⟩ := h.open_of hst
  rw [System.next_begin_try htp hto]
  by_cases hg : m.receiver = .gone
  · have hint := intake_error (m := m) (.inr (.inr hg))
    simp only [h.control.closed.mpr hg, if_true]
    refine ⟨_, rfl, by simp [Sim.tryEnqueue, hint, Answer.ofLane, Call.abort], ?_⟩
    simp only [Sim.tryEnqueue, hint]
    exact h.refuseNew _ _ _ _
  have hint := intake_ok hp ho hg
  simp only [h.closed_of hg, Bool.false_eq_true, if_false]
  by_cases hroom : m.hasRoom
  · simp only [(h.permits_pos hg hroom).ne', if_false]
    refine ⟨_, rfl, by simp [Sim.tryEnqueue, hint, hroom, Answer.ofLane, Call.enter, Call.fresh], ?_⟩
    simp only [Sim.tryEnqueue, hint, hroom, if_true]
    have hs := h.sending_new .tryEnqueue w 0
    exact (h.enroll .tryEnqueue w 0).pushed hs.lt hs.outside hs.idle hs.unit hroom
      ⟨by simp [Call.fresh], by simp [Call.fresh], fun _ hk => (by cases hk),
        fun _ => ⟨by simpa using h.fresh_call.2.2, by simp [Call.fresh]⟩⟩
  · have hpz : t.permits = 0 := by
      have hperm := h.queue.permits hg
      simp only [hasRoom, decide_eq_true_eq, not_lt] at hroom
      omega
    simp only [hpz, if_true]
    refine ⟨_, rfl, by simp [Sim.tryEnqueue, hint, hroom, Answer.ofLane, Call.abort], ?_⟩
    simp only [Sim.tryEnqueue, hint, hroom]
    exact h.refuseNew _ _ _ _

-- `enqueue` begins a call that waits for room, and sends, fails on a closed channel, or goes
-- away when its patience runs out.
theorem Mirrors.enqueue (h : Mirrors tk m t) (w : Work ω ρ) (patience : Nat) :
    ∃ t', System.Steps t t' ∧
      (t'.calls t.count).caller = CallerAt.ofEnqueue (m.enqueue w patience).1 ∧
      Mirrors tk (m.enqueue w patience).2 t' := by
  by_cases hst : m.phase = .stopped ∨ m.senderOpen = false
  · obtain ⟨hint, ht⟩ := h.refused_of hst
    refine ⟨_, .tail (.begin .enqueue w 0) (.refl t) (System.next_begin_refused ht),
      by simp [Sim.enqueue, hint, CallerAt.ofEnqueue, Call.abort], ?_⟩
    simp only [Sim.enqueue, hint]
    exact h.refuseNew _ _ _ _
  obtain ⟨hp, ho, htp, hto⟩ := h.open_of hst
  have hbegin : System.Steps t (t.enroll .enqueue w 0) :=
    .tail _ (.refl t) (System.next_begin_sending htp hto (by decide))
  have hs := h.sending_new .enqueue w 0
  have h₁ := h.enroll .enqueue w 0
  by_cases hg : m.receiver = .gone
  · have hint := intake_error (m := m) (.inr (.inr hg))
    refine ⟨_, .tail _ hbegin (System.next_shut_of hs.caller (h₁.control.closed.mpr hg)),
      by simp [Sim.enqueue, hint, CallerAt.ofEnqueue, Call.abort], ?_⟩
    simp only [Sim.enqueue, hint]
    exact h₁.abortSending hs rfl
  have hint := intake_ok hp ho hg
  obtain ⟨t₂, hs₂, h₂⟩ := h₁.waitForRoom (some (m.now + patience))
  obtain ⟨hsend, hcall⟩ := hs.settles hs₂
  have hwait : System.Steps t t₂ := hbegin.trans hs₂.steps
  simp only [Sim.enqueue, hint]
  by_cases hg₂ : (m.waitForRoom (some (m.now + patience))).receiver = .gone
  · simp only [hg₂, beq_self_eq_true, if_true]
    exact ⟨_, .tail _ hwait (System.next_shut_of hsend.caller (h₂.control.closed.mpr hg₂)),
      by simp [CallerAt.ofEnqueue, Call.abort], h₂.abortSending hsend rfl⟩
  have hne : ((m.waitForRoom (some (m.now + patience))).receiver == .gone) = false := by simp [hg₂]
  simp only [hne, Bool.false_eq_true, if_false]
  by_cases hroom : (m.waitForRoom (some (m.now + patience))).hasRoom
  · simp only [hroom, if_true]
    have hpos := h₂.permits_pos hg₂ hroom
    exact ⟨_, hwait.trans (System.steps_push hsend.caller hsend.reserved (h₂.closed_of hg₂) hpos),
      by simp [CallerAt.ofEnqueue, Call.enter, hcall, Call.fresh],
      h₂.pushed hsend.lt hsend.outside hsend.idle hsend.unit hroom
        ⟨by simp [hcall, Call.fresh], by simp [hcall, Call.fresh], fun _ hk => (by cases hk),
          fun _ => ⟨h.fresh_call.2.2, by simp [hcall, Call.fresh]⟩⟩⟩
  · simp only [hroom, Bool.false_eq_true, if_false]
    exact ⟨_, .tail _ hwait (System.next_drop_sending hsend.caller),
      by simp [CallerAt.ofEnqueue, Call.abort], h₂.abortSending hsend rfl⟩

-- A call with a reply and no deadline begins with a ticket that waits.
theorem Answers.fresh {n : Nat} (k : CallKind) (w : Work ω ρ) (tm : Nat)
    (deadline : Option Nat) (hk : k = if deadline.isSome then .submit else .enqueue) (now : Nat)
    (hc : t.calls n = Call.fresh k w tm) : Answers t now ⟨deadline, .pending, .waiting⟩ n where
  kind := by rw [hc]; exact hk
  claim := fun hne => absurd (by rw [hc]; rfl) hne
  delivery := fun hne => absurd (by rw [hc]; rfl) hne
  late := fun hl => by simp [hc, Call.fresh] at hl

-- `enqueueWithReply` sends a unit whose reply a ticket waits for; where the lane gives up waiting
-- for room that never comes, the caller goes away.
theorem Mirrors.enqueueWithReply (h : Mirrors tk m t) (w : Work ω ρ) :
    ∃ tk' t', System.Steps t t' ∧ Mirrors tk' (m.enqueueWithReply w).2 t' ∧
      (∀ k, (m.enqueueWithReply w).1 = .ok k →
        tk'[k]? = some t.count ∧ (t'.calls t.count).caller = .returned .queued) ∧
      (∀ e, (m.enqueueWithReply w).1 = .error e →
        (t'.calls t.count).caller = .returned (.failed (.lane e)) ∨
          (t'.calls t.count).caller = .dropped) := by
  by_cases hst : m.phase = .stopped ∨ m.senderOpen = false
  · obtain ⟨hint, ht⟩ := h.refused_of hst
    refine ⟨tk, _, .tail (.begin .enqueue w 0) (.refl t) (System.next_begin_refused ht), ?_,
      by simp [Sim.enqueueWithReply, hint], fun e he => .inl ?_⟩
    · simp only [Sim.enqueueWithReply, hint]
      exact h.refuseNew _ _ _ _
    · simp only [Sim.enqueueWithReply, hint, Except.error.injEq] at he
      simp [← he, Call.abort]
  obtain ⟨hp, ho, htp, hto⟩ := h.open_of hst
  have hbegin : System.Steps t (t.enroll .enqueue w 0) :=
    .tail _ (.refl t) (System.next_begin_sending htp hto (by decide))
  have hs := h.sending_new .enqueue w 0
  have h₁ := h.enroll .enqueue w 0
  by_cases hg : m.receiver = .gone
  · have hint := intake_error (m := m) (.inr (.inr hg))
    refine ⟨tk, _, .tail _ hbegin (System.next_shut_of hs.caller (h₁.control.closed.mpr hg)), ?_,
      by simp [Sim.enqueueWithReply, hint], fun e he => .inl ?_⟩
    · simp only [Sim.enqueueWithReply, hint]
      exact h₁.abortSending hs rfl
    · simp only [Sim.enqueueWithReply, hint, Except.error.injEq] at he
      simp [← he, Call.abort]
  have hint := intake_ok hp ho hg
  obtain ⟨t₂, hs₂, h₂⟩ := h₁.waitForRoom none
  obtain ⟨hsend, hcall⟩ := hs.settles hs₂
  have hwait : System.Steps t t₂ := hbegin.trans hs₂.steps
  simp only [Sim.enqueueWithReply, hint]
  by_cases hg₂ : (m.waitForRoom none).receiver = .gone
  · simp only [hg₂, beq_self_eq_true, Bool.true_or, if_true]
    exact ⟨tk, _, .tail _ hwait (System.next_shut_of hsend.caller (h₂.control.closed.mpr hg₂)),
      h₂.abortSending hsend rfl, by simp,
      fun e he => .inl (by simp at he; simp [← he, Call.abort])⟩
  have hne : ((m.waitForRoom none).receiver == .gone) = false := by simp [hg₂]
  simp only [hne, Bool.false_or]
  by_cases hroom : (m.waitForRoom none).hasRoom
  · simp only [hroom, Bool.not_true, Bool.false_eq_true, if_false]
    have hpos := h₂.permits_pos hg₂ hroom
    have hnt := h.fresh_call.2.2
    have hlen : tk.length = (m.waitForRoom none).tickets.length := h₂.tickets.length
    have h₃ := h₂.addTicket hsend.lt hnt hsend.outside hsend.idle
      (Answers.fresh .enqueue w 0 none rfl _ (hcall.trans (by simp)))
    refine ⟨tk ++ [t.count], _,
      hwait.trans (System.steps_push hsend.caller hsend.reserved (h₂.closed_of hg₂) hpos),
      h₃.pushed hsend.lt hsend.outside hsend.idle hsend.unit hroom
        ⟨by simp [hcall, Call.fresh], by simp [hcall, Call.fresh], fun k hk => ?_, fun hk => (by cases hk)⟩,
      fun k hk => ⟨?_, by simp [Call.enter, hcall, Call.fresh]⟩, by simp⟩
    · obtain rfl : (m.waitForRoom none).tickets.length = k := by simpa using hk
      simp [← hlen]
    · obtain rfl : (m.waitForRoom none).tickets.length = k := by simpa using hk
      simp [← hlen]
  · simp only [hroom, Bool.not_false, if_true]
    exact ⟨tk, _, .tail _ hwait (System.next_drop_sending hsend.caller),
      h₂.abortSending hsend rfl, by simp,
      fun _ _ => .inr (by simp [Call.abort])⟩

theorem Mirrors.delivery_toOption (h : Mirrors tk m t) (k : Nat) :
    (m.deliveryOf k).toOption = tk[k]?.bind fun n => (t.calls n).reply.toOption := by
  cases htc : m.tickets[k]? with
  | none =>
    have hk : tk[k]? = none := by
      rw [List.getElem?_eq_none_iff, h.tickets.length]
      exact List.getElem?_eq_none_iff.mp htc
    simp [Sim.deliveryOf, htc, hk, Delivery.toOption]
  | some tc =>
    obtain ⟨n, hk⟩ : ∃ n, tk[k]? = some n := by
      have hlt : k < tk.length := h.tickets.length ▸ (List.getElem?_eq_some_iff.mp htc).1
      exact ⟨_, List.getElem?_eq_getElem hlt⟩
    have ha := h.tickets.answers k n tc hk htc
    simp only [Sim.deliveryOf, htc, hk, Option.map_some, Option.getD_some, Option.bind_some]
    by_cases hr : (t.calls n).reply = tc.delivery
    · rw [hr]
    · obtain ⟨hw, hd, -⟩ := ha.delivery hr
      rw [hw, hd]
      rfl

theorem awaitReply_fst (k : Nat) (during : Option (Nat × Action)) :
    (m.awaitReply k during).1 = ((m.awaitReply k during).2.deliveryOf k).toOption := by
  simp only [Sim.awaitReply]
  split <;> simp_all [Delivery.toOption]

-- Waiting for a reply only lets the lane move; the reply read is the one its call got.
theorem Mirrors.awaitReply (h : Mirrors tk m t) (k : Nat) (during : Option (Nat × Action)) :
    ∃ t', System.Settles t t' ∧ Mirrors tk (m.awaitReply k during).2 t' ∧
      (m.awaitReply k during).1 = tk[k]?.bind fun n => (t'.calls n).reply.toOption := by
  let m₁ : Sim ω ρ := { m with scheduled := during.map fun p => (m.now + p.1, p.2) }
  obtain ⟨t', hs, h'⟩ :=
    (h.aside m.logs m.tasks m.callerGone m₁.scheduled).wait (fun s => s.delivered k) none m₁.waitFuel
  have hm : Mirrors tk (m.awaitReply k during).2 t' := by
    have := h'.aside (m₁.wait (fun s => s.delivered k) none m₁.waitFuel).logs
      (m₁.wait (fun s => s.delivered k) none m₁.waitFuel).tasks
      (m₁.wait (fun s => s.delivered k) none m₁.waitFuel).callerGone none
    simp only [Sim.awaitReply]
    split <;> exact this
  exact ⟨t', hs, hm, (awaitReply_fst k during).trans (hm.delivery_toOption k)⟩

theorem Call.side_eq {c c' : Call ω ρ} (h : c'.side = c.side) :
    c'.kind = c.kind ∧ c'.work = c.work ∧ c'.timeout = c.timeout ∧ c'.caller = c.caller ∧
      c'.cancelled = c.cancelled ∧ c'.reserved = c.reserved := by
  simpa [Call.side] using h

-- A sending call that first has its deadline pass or its token fire, then stops sending.
theorem Mirrors.quit (h : Mirrors tk m t) {n : Nat} (hs : Sending t n) {g : Call ω ρ → Call ω ρ}
    (hg : (g (t.calls n)).kind = (t.calls n).kind) (hres : (g (t.calls n)).reserved = false)
    (hsteps : System.Steps t (t.update n g)) {mv : Move ω ρ} {d : CallerAt ρ}
    (hnext : (t.update n g).next mv = some ((t.update n g).abort n d)) (hd : d.waits = false) :
    ∃ t', System.Steps t t' ∧ Mirrors tk m t' ∧ t'.calls n = (g (t.calls n)).abort d := by
  have heq : (t.update n g).abort n d = t.update n fun c => (g c).abort d := by
    rw [System.abort_unreserved (by simpa using hres), System.update_update]
    rfl
  refine ⟨_, .tail mv hsteps hnext, ?_, by simp⟩
  rw [heq]
  exact h.touch (fun hc => absurd hc (by simpa using ⟨hs.outside, hs.idle⟩))
    fun _ _ _ _ ha => ha.abort hs.unit hs.reply hg hd (by simp)

-- A sending submission whose token fired withdraws.
theorem Mirrors.withdraw (h : Mirrors tk m t) {n : Nat} (hs : Sending t n)
    (hk : (t.calls n).kind = .submit) :
    ∃ t', System.Steps t t' ∧ Mirrors tk m t' ∧
      t'.calls n = { t.calls n with cancelled := true }.abort (.returned (.failed .cancelled)) :=
  h.quit hs rfl hs.reserved (System.steps_cancelled hs.lt)
    (System.next_withdraw_of (by simp [hs.caller]) (by simp [hk]) (by simp)) rfl

-- A sending submission whose deadline passed gives up sending.
theorem Mirrors.outOfTime (h : Mirrors tk m t) {n : Nat} (hs : Sending t n)
    (hk : (t.calls n).kind = .submit) :
    ∃ t', System.Steps t t' ∧ Mirrors tk m t' ∧ t'.calls n = { t.calls n with late := true }.abort
      (.returned (.failed (.timedOut (Duration.ofMillis (t.calls n).timeout)))) := by
  obtain ⟨t', hst, hm, hc⟩ := h.quit hs (g := fun c => { c with late := true }) rfl hs.reserved
    (System.steps_late hs.lt) (System.next_outOfTime_of (by simp [hs.caller]) (by simp [hk]) (by simp))
    rfl
  exact ⟨t', hst, hm, by simpa using hc⟩

theorem Mirrors.ticket (h : Mirrors tk m t) {k n : Nat} (hk : tk[k]? = some n) :
    ∃ tc, m.tickets[k]? = some tc ∧ Answers t m.now tc n := by
  have hlt := h.tickets.length ▸ (List.getElem?_eq_some_iff.mp hk).1
  exact ⟨_, List.getElem?_eq_getElem hlt, h.tickets.answers k n _ hk (List.getElem?_eq_getElem hlt)⟩

section Waiting

variable {now : Nat} {tc : Ticket ρ} {n : Nat}

-- While its caller waits, a call and its ticket agree.
theorem Answers.claim_of_waits (h : Answers t now tc n) (hw : (t.calls n).caller.waits = true) :
    (t.calls n).claim = tc.claim := by
  by_contra hne
  simp [(h.claim hne).2] at hw

theorem Answers.reply_of_waits (h : Answers t now tc n) (hw : (t.calls n).caller.waits = true) :
    (t.calls n).reply = tc.delivery := by
  by_contra hne
  simp [(h.delivery hne).2.2.2] at hw

end Waiting

-- A waiting caller that takes its reply, or goes away, settles its claim: a claim still pending
-- becomes abandoned, which only a unit already dropped can have without its ticket agreeing.
theorem Answers.settle {t' : System ω ρ} {now : Nat} {tc : Ticket ρ} {n : Nat}
    (h : Answers t now tc n) (hw : (t.calls n).caller.waits = true)
    (hp : (t.calls n).claim = .pending → (t.calls n).unit = .discarded) {d : CallerAt ρ}
    (hd : d.waits = false) (hc : t'.calls n = { (t.calls n).guard with caller := d }) :
    Answers t' now tc n where
  kind := by rw [hc]; exact h.kind
  claim := fun hne => by
    rw [hc] at hne ⊢
    by_cases hpend : (t.calls n).claim = .pending
    · exact ⟨hp hpend, hd⟩
    · have hclaim := h.claim_of_waits hw
      rw [hclaim] at hpend
      simp [Call.guard, hclaim, cas_of_ne hpend] at hne
  delivery := fun hne => by
    rw [hc] at hne
    exact absurd (h.reply_of_waits hw) hne
  late := fun _ => .inl (by rw [hc]; exact Call.guard_claim_ne_pending _)

theorem Mirrors.settleCall (h : Mirrors tk m t) {n : Nat} (hw : (t.calls n).caller.waits = true)
    (hp : (t.calls n).claim = .pending → (t.calls n).unit = .discarded)
    {d : Call ω ρ → CallerAt ρ} (hd : (d (t.calls n)).waits = false) :
    Mirrors tk m (t.update n fun c => { c.guard with caller := d c }) :=
  h.touch (fun _ => ⟨rfl, rfl, rfl, rfl⟩) fun _ _ _ _ ha => ha.settle hw hp hd (by simp)

-- A waiting caller that abandons a pending claim: its ticket is abandoned with it.
theorem Answers.abandon {t' : System ω ρ} {now : Nat} {tc : Ticket ρ} {n : Nat}
    (h : Answers t now tc n) (hw : (t.calls n).caller.waits = true)
    (hc : (t'.calls n).claim = .abandoned) (hk : (t'.calls n).kind = (t.calls n).kind)
    (hr : (t'.calls n).reply = (t.calls n).reply) :
    Answers t' now { tc with claim := .abandoned } n where
  kind := hk ▸ h.kind
  claim := fun hne => absurd hc hne
  delivery := fun hne => absurd (hr.trans (h.reply_of_waits hw)) hne
  late := fun _ => .inl (by rw [hc]; simp)

theorem Mirrors.abandon (h : Mirrors tk m t) {n k : Nat} {tc : Ticket ρ} (hk : tk[k]? = some n)
    (htc : m.tickets[k]? = some tc) (hw : (t.calls n).caller.waits = true)
    {f : Call ω ρ → Call ω ρ} (hs : (f (t.calls n)).Shows (t.calls n))
    (hc : (f (t.calls n)).claim = .abandoned) :
    Mirrors tk { m with tickets := m.tickets.set k { tc with claim := .abandoned } } (t.update n f) := by
  have hshows : ∀ j, ((t.update n f).calls j).Shows (t.calls j) := by
    intro j
    by_cases hj : j = n
    · subst hj
      simpa using hs
    · simp [hj, Call.Shows]
  have hq : Queue tk m (t.update n f) := h.queue.shows rfl rfl le_rfl fun j _ => hshows j
  exact ⟨{ h.control with }, h.world, { hq with }, h.runs.shows rfl rfl le_rfl (fun j _ => hshows j),
    h.inLane,
    h.tickets.set hk htc rfl rfl le_rfl (fun j hj => by simp [hj]) fun ha =>
      ha.abandon hw (by simpa using hc) (by simpa using hs.2.2.1) (by simpa using hs.2.1)⟩

-- A waiting submission whose reply came takes it.
theorem Mirrors.collect (h : Mirrors tk m t) (hsafe : t.Safe) {n : Nat}
    (hk : (t.calls n).kind = .submit) (hw : (t.calls n).caller = .waiting)
    (hr : (t.calls n).reply ≠ .waiting) :
    ∃ t', t.next (.collect n) = some t' ∧ Mirrors tk m t' ∧
      t'.calls n = { (t.calls n).guard with caller := .returned (.ofResult (t.calls n).result) } :=
  ⟨_, System.next_collect_eq (.inl hw) hr,
    h.settleCall (by simp [hw, CallerAt.waits]) (fun hp => hsafe.discarded_of_pending hk hp hr) rfl, by simp⟩

-- A waiting caller that goes away.
theorem Mirrors.leave (h : Mirrors tk m t) {n : Nat} (hw : (t.calls n).caller = .waiting)
    (hp : (t.calls n).claim = .pending → (t.calls n).unit = .discarded) :
    ∃ t', t.next (.drop n) = some t' ∧ Mirrors tk m t' ∧
      t'.calls n = { (t.calls n).guard with caller := .dropped } :=
  ⟨_, System.next_drop_waiting hw, h.settleCall (by simp [hw, CallerAt.waits]) hp rfl, by simp⟩

-- A waiting submission that finds its deadline passed, or its token fired, while its claim is
-- still pending abandons the claim and its ticket with it.
theorem Mirrors.giveUp (h : Mirrors tk m t) {n k : Nat} {tc : Ticket ρ} (hk : tk[k]? = some n)
    (htc : m.tickets[k]? = some tc) (hw : (t.calls n).caller = .waiting)
    (hp : (t.calls n).claim = .pending) {g : Call ω ρ → Call ω ρ}
    (hs : (g (t.calls n)).Shows (t.calls n)) (hg : (g (t.calls n)).caller = (t.calls n).caller)
    (hgp : (g (t.calls n)).claim = (t.calls n).claim)
    (hl : (g (t.calls n)).late = true ∨ (g (t.calls n)).cancelled = true)
    (hsteps : System.Steps t (t.update n g)) :
    ∃ t', System.Steps t t' ∧
      Mirrors tk { m with tickets := m.tickets.set k { tc with claim := .abandoned } } t' ∧
      t'.calls n = { g (t.calls n) with
        claim := .abandoned
        caller := .returned (.failed (if (g (t.calls n)).cancelled then .cancelled
          else .timedOut (Duration.ofMillis (g (t.calls n)).timeout))) } := by
  have hnext := System.next_giveUp_of (s := t.update n g) (i := n) (by simp [hg, hw]) (by simpa using hl)
  rw [if_pos (by simp [hgp, hp]), System.update_update] at hnext
  exact ⟨_, .tail (.giveUp n) hsteps hnext,
    h.abandon hk htc (by simp [hw, CallerAt.waits]) (f := _ ∘ g) hs rfl, by simp⟩

-- Waiting for a reply only lets the lane move; the caller, still waiting, then reads its call's
-- reply: nothing while the reply waits, else the call's result.
theorem Mirrors.await (h : Mirrors tk m t) {n k : Nat} (hk : tk[k]? = some n)
    (hw : (t.calls n).caller.waits = true) (tm : Nat) (limit : Option Nat) :
    ∃ t', System.Settles t t' ∧ Mirrors tk (m.await k tm limit).2 t' ∧
      (t'.calls n).side = (t.calls n).side ∧
      ((m.await k tm limit).1 = none ↔ (t'.calls n).reply = .waiting) ∧
      ((t.calls n).timeout = tm → ∀ r, (m.await k tm limit).1 = some r →
        (t'.calls n).result = r) := by
  obtain ⟨t', hs, h'⟩ :=
    h.wait (fun s => s.delivered k || (limit.isSome && s.callerGone)) limit m.waitFuel
  have hside := hs.frame.side n
  obtain ⟨-, -, htm, hcaller, -, -⟩ := Call.side_eq hside
  have hw' : (t'.calls n).caller.waits = true := hcaller ▸ hw
  obtain ⟨tc, htc, ha⟩ := h'.ticket hk
  have hrep := ha.reply_of_waits hw'
  have hclaim := ha.claim_of_waits hw'
  have hm : Mirrors tk (m.await k tm limit).2 t' := by
    simp only [Sim.await]
    split <;> exact h'
  refine ⟨t', hs, hm, hside, ?_, fun htm' r hr => ?_⟩
  · simp only [Sim.await, Sim.deliveryOf, htc, Option.map_some, Option.getD_some, hrep]
    cases tc.delivery <;> simp
  · simp only [Sim.await, Sim.deliveryOf, htc, Option.map_some, Option.getD_some] at hr
    unfold Call.result
    rw [hrep]
    cases hd : tc.delivery <;> simp only [hd, Option.some.injEq, reduceCtorEq] at hr ⊢
    · exact hr
    · rw [← hr, hclaim, htm, htm']
      simp [Sim.resolveDropped, Sim.claimOf, htc]

theorem cas_pending_eq_true {c x y : Claim} (h : c.cas .pending x = (true, y)) :
    c = .pending ∧ y = x := by
  unfold Claim.cas at h
  split at h <;> simp_all

-- How a submission's answer shows at its caller: the answer returned, or, where the lane stopped
-- waiting on a reply that could no longer come and read it as a stopped lane, a caller gone.
def Submitted (r : Option (Except SubmitError ρ)) (c : CallerAt ρ) : Prop :=
  match r with
  | some r => c = .returned (.ofResult r) ∨ r = .error (.lane .stopped) ∧ c = .dropped
  | none => c = .dropped

-- `submitUntil` is the run of one submission: it begins a call, which sends its unit and waits
-- for the reply while the lane moves, and which ends as the lane's answer says.
theorem Mirrors.submitUntil (h : Mirrors tk m t) (hsafe : t.Safe) (w : Work ω ρ) (timeout : Nat)
    (gone : Bool) (during : Option (Nat × Action)) (cutoff : Option Nat) :
    ∃ tk' t', System.Steps t t' ∧ Mirrors tk' (m.submitUntil w timeout gone during cutoff).2 t' ∧
      (t'.calls t.count).kind = .submit ∧ (t'.calls t.count).work = w ∧
      (t'.calls t.count).timeout = timeout ∧
      Submitted (m.submitUntil w timeout gone during cutoff).1 (t'.calls t.count).caller := by
  -- the outcome stays opaque while the branches of the submission are split
  generalize hP : (fun p : Option (Except SubmitError ρ) × Sim ω ρ => ∃ tk' t', System.Steps t t' ∧
    Mirrors tk' p.2 t' ∧ (t'.calls t.count).kind = .submit ∧ (t'.calls t.count).work = w ∧
      (t'.calls t.count).timeout = timeout ∧ Submitted p.1 (t'.calls t.count).caller) = P
  suffices hsub : P (m.submitUntil w timeout gone during cutoff) by
    rw [← hP] at hsub
    exact hsub
  have fin : ∀ {tk' : List Nat} {t' : System ω ρ} (s : Sim ω ρ) (r : Option (Except SubmitError ρ)),
      System.Steps t t' → Mirrors tk' s t' →
      (t'.calls t.count).kind = .submit ∧ (t'.calls t.count).work = w ∧
        (t'.calls t.count).timeout = timeout →
      Submitted r (t'.calls t.count).caller → P (r, { s with scheduled := none, callerGone := false }) := by
    intro tk' t' s r hst hm hc hr
    rw [← hP]
    exact ⟨tk', t', hst, hm.aside s.logs s.tasks false none, hc.1, hc.2.1, hc.2.2, hr⟩
  by_cases hst : m.phase = .stopped ∨ m.senderOpen = false
  · obtain ⟨hint, ht⟩ := h.refused_of hst
    simp only [Sim.submitUntil, hint]
    exact fin m _ (.tail (.begin .submit w timeout) (.refl t) (System.next_begin_refused ht))
      (h.refuseNew _ _ _ _) (by simp [Call.abort, Call.guard, Call.fresh])
      (.inl (by simp [Call.abort, Answer.ofResult]))
  obtain ⟨hp, ho, htp, hto⟩ := h.open_of hst
  have hbegin : System.Steps t (t.enroll .submit w timeout) :=
    .tail (.begin .submit w timeout) (.refl t) (System.next_begin_sending htp hto (by decide))
  have hs := h.sending_new .submit w timeout
  have hcall : (t.enroll .submit w timeout).calls t.count = Call.fresh .submit w timeout := by simp
  by_cases hg : m.receiver = .gone
  · have hint := intake_error (m := m) (.inr (.inr hg))
    simp only [Sim.submitUntil, hint]
    exact fin m _ (.tail (.shut t.count) hbegin
        (System.next_shut_of hs.caller ((h.enroll .submit w timeout).control.closed.mpr hg)))
      ((h.enroll .submit w timeout).abortSending hs rfl)
      (by simp [Call.abort, Call.guard, Call.fresh]) (.inl (by simp [Call.abort, Answer.ofResult]))
  have h₁ : Mirrors (tk ++ [t.count]) { m with
      tickets := m.tickets ++ [⟨some (m.now + timeout), .pending, .waiting⟩]
      callerGone := gone
      scheduled := during.map fun p => (m.now + p.1, p.2) } (t.enroll .submit w timeout) :=
    ((h.enroll .submit w timeout).aside m.logs m.tasks gone _).addTicket hs.lt h.fresh_call.2.2
      hs.outside hs.idle (Answers.fresh .submit w timeout _ rfl _ hcall)
  have hk₁ : (tk ++ [t.count])[m.tickets.length]? = some t.count := by
    simp [← h.tickets.length]
  simp only [Sim.submitUntil, intake_ok hp ho hg]
  split
  next hgone =>
    obtain ⟨t', hst', hm', hc'⟩ := h₁.withdraw hs (by simp [Call.fresh])
    exact fin _ _ (hbegin.trans hst') hm' (by simp [hc', Call.abort, Call.guard, Call.fresh])
      (.inl (by simp [hc', Call.abort, Answer.ofResult]))
  next hgone =>
  split
  next hzero =>
    obtain ⟨t', hst', hm', hc'⟩ := h₁.outOfTime hs (by simp [Call.fresh])
    exact fin _ _ (hbegin.trans hst') hm' (by simp [hc', Call.abort, Call.guard, Call.fresh])
      (.inl (by simp [hc', Call.abort, Call.fresh, Answer.ofResult]))
  next hzero =>
  obtain ⟨t₂, hs₂, h₂⟩ := h₁.waitForRoom (some (within (m.now + timeout) cutoff))
  obtain ⟨hsend, hcall₂⟩ := hs.settles hs₂
  have hwait : System.Steps t t₂ := hbegin.trans hs₂.steps
  have hc₂ : t₂.calls t.count = Call.fresh .submit w timeout := hcall₂.trans hcall
  split
  next hg₂ =>
    exact fin _ _ (.tail (.shut t.count) hwait
        (System.next_shut_of hsend.caller (h₂.control.closed.mpr (by simpa using hg₂))))
      (h₂.abortSending hsend rfl) (by simp [hc₂, Call.abort, Call.guard, Call.fresh])
      (.inl (by simp [Call.abort, Answer.ofResult]))
  next hg₂ =>
  split
  next hroom =>
    split
    next hcg =>
      obtain ⟨t', hst', hm', hc'⟩ := h₂.withdraw hsend (by simp [hc₂, Call.fresh])
      exact fin _ _ (hwait.trans hst') hm' (by simp [hc', hc₂, Call.abort, Call.guard, Call.fresh])
        (.inl (by simp [hc', Call.abort, Answer.ofResult]))
    next hcg =>
    -- `split` would case on `cutoff` inside the condition
    refine iteInduction (motive := P) (fun hcut => ?_) fun hcut => ?_
    · exact fin _ none (.tail (.drop t.count) hwait (System.next_drop_sending hsend.caller))
        (h₂.abortSending hsend rfl) (by simp [hc₂, Call.abort, Call.guard, Call.fresh])
        (by simp [Submitted, Call.abort])
    · obtain ⟨t', hst', hm', hc'⟩ := h₂.outOfTime hsend (by simp [hc₂, Call.fresh])
      exact fin _ _ (hwait.trans hst') hm' (by simp [hc', hc₂, Call.abort, Call.guard, Call.fresh])
        (.inl (by simp [hc', hc₂, Call.abort, Call.fresh, Answer.ofResult]))
  next hroom =>
  -- the unit is sent; from here on the caller waits for its reply
  have hsteps₃ := hwait.trans (System.steps_push hsend.caller hsend.reserved
    (h₂.closed_of (by simpa using hg₂))
    (h₂.permits_pos (by simpa using hg₂) (by simpa using hroom)))
  have hc₃ : ({ t₂ with permits := t₂.permits - 1 }.push t.count).calls t.count =
      (Call.fresh .submit w timeout).enter := by
    simp [hc₂]
  have hcar : Carries (tk ++ [t.count]) t₂ ⟨w, some m.tickets.length⟩ t.count :=
    ⟨by simp [hc₂, Call.fresh], by simp [hc₂, Call.fresh], fun k hk => by
      obtain rfl : m.tickets.length = k := by simpa using hk
      exact hk₁, fun hk => (by cases hk)⟩
  have h₃ := h₂.pushed hsend.lt hsend.outside hsend.idle hsend.unit (by simpa using hroom) hcar
  have hside : ∀ {t' : System ω ρ},
      (t'.calls t.count).side = (Call.fresh .submit w timeout : Call ω ρ).enter.side →
      (t'.calls t.count).kind = .submit ∧ (t'.calls t.count).work = w ∧
        (t'.calls t.count).timeout = timeout ∧ (t'.calls t.count).caller = .waiting ∧
        (t'.calls t.count).cancelled = false := by
    intro t' he
    obtain ⟨h1, h2, h3, h4, h5, -⟩ := Call.side_eq he
    simp [h1, h2, h3, h4, h5, Call.enter, Call.fresh]
  obtain ⟨t₄, hs₄, h₄, hside₄, hnone₄, hres₄⟩ := h₃.await hk₁
    (by simp [hc₂, Call.enter, Call.fresh, CallerAt.waits]) timeout
    (some (within (m.now + timeout) cutoff))
  have hsteps₄ := hsteps₃.trans hs₄.steps
  obtain ⟨hk₄, hw₄, htm₄, hcl₄, hcan₄⟩ := hside (hside₄.trans (by rw [hc₃]))
  split
  next r s₄ heq =>
    rw [heq] at h₄ hnone₄ hres₄
    obtain ⟨t₅, hn₅, h₅, hc₅⟩ :=
      h₄.collect (hsteps₄.safe hsafe) hk₄ hcl₄ fun hr => absurd (hnone₄.mpr hr) (by simp)
    exact fin _ _ (.tail (.collect t.count) hsteps₄ hn₅) h₅ (by simp [hc₅, Call.guard, hk₄, hw₄, htm₄])
      (.inl (by simp [hc₅, hres₄ (by simp [hc₂, Call.enter, Call.fresh]) r rfl]))
  next s₄ heq =>
  rw [heq] at h₄ hnone₄
  obtain ⟨tc₄, htc₄, ha₄⟩ := h₄.ticket hk₁
  have hcl : (t₄.calls t.count).claim = tc₄.claim :=
    ha₄.claim_of_waits (by simp [hcl₄, CallerAt.waits])
  have hclaimOf : s₄.claimOf m.tickets.length = tc₄.claim := by simp [Sim.claimOf, htc₄]
  have hlt₄ : t.count < t₄.count := h₄.tickets.lt t.count (List.mem_of_getElem? hk₁)
  split
  next c hcas =>
    -- the caller gives up while the unit is unclaimed: the claim is abandoned
    rw [hclaimOf] at hcas
    obtain ⟨hpend, rfl⟩ := cas_pending_eq_true hcas
    have hp₄ : (t₄.calls t.count).claim = .pending := hcl.trans hpend
    have hset : s₄.setClaim m.tickets.length .abandoned =
        { s₄ with tickets := s₄.tickets.set m.tickets.length { tc₄ with claim := .abandoned } } := by
      simp only [Sim.setClaim]
      rw [modify_eq_set htc₄]
    rw [hset]
    split
    next hcg =>
      obtain ⟨t', hst', hm', hc'⟩ := h₄.giveUp hk₁ htc₄ hcl₄ hp₄
        (g := fun c => { c with cancelled := true }) ⟨rfl, rfl, rfl, rfl⟩ rfl rfl (.inr rfl)
        (System.steps_cancelled hlt₄)
      exact fin _ _ (hsteps₄.trans hst') hm' (by simp [hc', hk₄, hw₄, htm₄])
        (.inl (by simp [hc', Answer.ofResult]))
    next hcg =>
    refine iteInduction (motive := P) (fun hcut => ?_) fun hcut => ?_
    · exact fin _ none (.tail (.drop t.count) hsteps₄ (System.next_drop_waiting hcl₄))
        (h₄.abandon hk₁ htc₄ (by simp [hcl₄, CallerAt.waits]) ⟨rfl, rfl, rfl, rfl⟩
          (by simp [Call.guard, hp₄, Claim.cas]))
        (by simp [Call.guard, hk₄, hw₄, htm₄]) (by simp [Submitted])
    · obtain ⟨t', hst', hm', hc'⟩ := h₄.giveUp hk₁ htc₄ hcl₄ hp₄
        (g := fun c => { c with late := true }) ⟨rfl, rfl, rfl, rfl⟩ rfl rfl (.inl rfl)
        (System.steps_late hlt₄)
      exact fin _ _ (hsteps₄.trans hst') hm' (by simp [hc', hk₄, hw₄, htm₄])
        (.inl (by simp [hc', hcan₄, htm₄, Answer.ofResult]))
  next c hcas =>
  -- the unit was claimed already: the caller waits on for the reply
  have hnp : (t₄.calls t.count).claim ≠ .pending := by
    rw [hcl]
    rintro hp'
    rw [hclaimOf, hp'] at hcas
    simp [Claim.cas] at hcas
  refine iteInduction (motive := P) (fun hcut => ?_) fun hcut => ?_
  · obtain ⟨t', hn', hm', hc'⟩ := h₄.leave hcl₄ fun hp' => absurd hp' hnp
    exact fin _ none (.tail (.drop t.count) hsteps₄ hn') hm' (by simp [hc', Call.guard, hk₄, hw₄, htm₄])
      (by simp [Submitted, hc'])
  obtain ⟨t₆, hs₆, h₆, hside₆, hnone₆, hres₆⟩ :=
    h₄.await hk₁ (by simp [hcl₄, CallerAt.waits]) timeout cutoff
  have hsteps₆ := hsteps₄.trans hs₆.steps
  obtain ⟨hk₆, hw₆, htm₆, hcl₆, -⟩ := hside (hside₆.trans (hside₄.trans (by rw [hc₃])))
  split
  next r s₆ heq =>
    rw [heq] at h₆ hnone₆ hres₆
    obtain ⟨t₇, hn₇, h₇, hc₇⟩ :=
      h₆.collect (hsteps₆.safe hsafe) hk₆ hcl₆ fun hr => absurd (hnone₆.mpr hr) (by simp)
    exact fin _ _ (.tail (.collect t.count) hsteps₆ hn₇) h₇ (by simp [hc₇, Call.guard, hk₆, hw₆, htm₆])
      (.inl (by simp [hc₇, hres₆ htm₄ r rfl]))
  next s₆ heq =>
    rw [heq] at h₆
    obtain ⟨t₇, hn₇, h₇, hc₇⟩ := h₆.leave hcl₆ fun hp' => absurd (hs₆.frame.pending _ hp') hnp
    exact fin _ (if cutoff.isSome then none else some (.error (.lane .stopped)))
      (.tail (.drop t.count) hsteps₆ hn₇) h₇ (by simp [hc₇, Call.guard, hk₆, hw₆, htm₆])
      (by split <;> simp [Submitted, hc₇])

-- `submit` waits with no cutoff; a reply that can no longer come reads as a stopped lane.
theorem Mirrors.submit (h : Mirrors tk m t) (hsafe : t.Safe) (w : Work ω ρ) (timeout : Nat)
    (gone : Bool) (during : Option (Nat × Action)) :
    ∃ tk' t', System.Steps t t' ∧ Mirrors tk' (m.submit w timeout gone during).2 t' ∧
      (t'.calls t.count).kind = .submit ∧ (t'.calls t.count).work = w ∧
      (t'.calls t.count).timeout = timeout ∧
      Submitted (some (m.submit w timeout gone during).1) (t'.calls t.count).caller := by
  obtain ⟨tk', t', hst, hm, hk, hw, htm, hsub⟩ := h.submitUntil hsafe w timeout gone during none
  rcases hsu : m.submitUntil w timeout gone during none with ⟨r, s⟩
  rw [hsu] at hm hsub
  refine ⟨tk', t', hst, by simpa [Sim.submit, hsu] using hm, hk, hw, htm, ?_⟩
  cases r with
  | none => exact .inr ⟨by simp [Sim.submit, hsu], hsub⟩
  | some r => simpa [Sim.submit, hsu] using hsub

end Sim

end ChatArchive.Lane
