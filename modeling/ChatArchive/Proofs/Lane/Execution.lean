import ChatArchive.Proofs.Lane.Blind

namespace ChatArchive.Lane

variable {ω ρ : Type}

namespace System

def reserving (s : System ω ρ) : Nat := (List.range s.count).countP fun j => (s.calls j).reserved

theorem countP_range_update (p q : Nat → Bool) {i : Nat} (h : ∀ j, j ≠ i → p j = q j) :
    ∀ {n : Nat}, i < n →
      (List.range n).countP p + (q i).toNat = (List.range n).countP q + (p i).toNat
  | 0, hi => absurd hi (Nat.not_lt_zero _)
  | n + 1, hi => by
    rw [List.range_succ, List.countP_append, List.countP_append, List.countP_singleton,
      List.countP_singleton]
    rcases Nat.lt_succ_iff_lt_or_eq.1 hi with hlt | rfl
    · have ih := countP_range_update p q h hlt
      rw [h n (Nat.ne_of_gt hlt)]
      omega
    · have hc : (List.range i).countP p = (List.range i).countP q :=
        List.countP_congr fun j hj => by rw [h j (Nat.ne_of_lt (List.mem_range.1 hj))]
      rw [hc]
      cases p i <;> cases q i <;> simp

variable {s t : System ω ρ} {i : Nat}

theorem reserving_eq (hc : t.count = s.count)
    (h : ∀ j, (t.calls j).reserved = (s.calls j).reserved) : t.reserving = s.reserving := by
  simp only [reserving, hc, h]

theorem reserving_update (hi : i < s.count) (f : Call ω ρ → Call ω ρ) :
    (s.update i f).reserving + (s.calls i).reserved.toNat =
      s.reserving + (f (s.calls i)).reserved.toNat := by
  have h := countP_range_update (fun j => ((s.update i f).calls j).reserved)
    (fun j => (s.calls j).reserved) (fun j hj => by simp [hj]) hi
  simpa [reserving] using h

theorem reserving_enroll (k : CallKind) (wk : Work ω ρ) (tm : Nat) :
    (s.enroll k wk tm).reserving = s.reserving := by
  have hc : (List.range s.count).countP (fun j => ((s.enroll k wk tm).calls j).reserved) =
      s.reserving :=
    List.countP_congr fun j hj => by
      simp [Nat.ne_of_lt (List.mem_range.1 hj)]
  simp only [reserving, enroll_count, List.range_succ, List.countP_append, hc]
  simp [Call.fresh]

section Dropping

variable (s : System ω ρ) (j : Nat)

@[simp] theorem dropQueued_caller : (s.dropQueued.calls j).caller = (s.calls j).caller := by
  rw [dropQueued_calls]; split <;> rfl

@[simp] theorem dropQueued_reserved : (s.dropQueued.calls j).reserved = (s.calls j).reserved := by
  rw [dropQueued_calls]; split <;> rfl

theorem dropQueued_unit :
    (s.dropQueued.calls j).unit = if j ∈ s.fifo then .discarded else (s.calls j).unit := by
  rw [dropQueued_calls]; split <;> rfl

@[simp] theorem exit_caller : (s.exit.calls j).caller = (s.calls j).caller := by
  rw [exit_calls]; split <;> rfl

@[simp] theorem exit_reserved : (s.exit.calls j).reserved = (s.calls j).reserved := by
  rw [exit_calls]; split <;> rfl

theorem exit_unit : (s.exit.calls j).unit = if j ∈ s.fifo then .discarded else (s.calls j).unit := by
  rw [exit_calls]; split <;> rfl

theorem exit_spec :
    s.exit.fifo = [] ∧ s.exit.lost = s.lost ++ s.fifo ∧ s.exit.receiver = .gone ∧
      s.exit.closed = true ∧ s.exit.phase = .stopped ∧ s.exit.worker = .exited s.fifo.length ∧
      s.exit.taken = s.taken ∧ s.exit.sent = s.sent ∧ s.exit.executed = s.executed ∧
      s.exit.permits = s.permits ∧ s.exit.count = s.count ∧ s.exit.capacity = s.capacity := by
  unfold exit halt
  split <;> simp_all [dropQueued, discard]

end Dropping

-- What the channel keeps across every step: each sent unit was taken, lost or is still queued,
-- in the order it was sent and once; the worker counts what it took; a closed channel is empty and
-- belongs to a stopped lane; the units lost with the receiving end are counted when the worker
-- leaves; a body runs only on the unit the worker waits for; and the queued units, the slots held
-- and the free slots never exceed the capacity.
structure Channel (s : System ω ρ) : Prop where
  order : s.taken ++ s.lost ++ s.fifo = s.sent
  sent : ∀ i ∈ s.sent, (s.calls i).caller ≠ .sending ∧ (s.calls i).caller ≠ .idle
  sentNodup : s.sent.Nodup
  executed : s.executed = s.taken.length
  closedEmpty : s.closed = true → s.fifo = []
  closedStopped : s.closed = true → s.phase = .stopped
  openUnlessStopped : s.senderOpen = false → s.phase = .stopped
  inLane : s.receiver = .inLane → s.lost = []
  held : s.worker ≠ .absent → s.receiver ≠ .inLane
  working : (s.worker = .idle ∨ ∃ i, s.worker = .running i) → s.lost = []
  exited : ∀ left, s.worker = .exited left → s.lost.length = left ∧ s.closed = true
  running : ∀ i r, (s.calls i).unit = .running r → s.worker = .running i
  slots : s.fifo.length + s.reserving + s.permits ≤ s.capacity

namespace Channel

theorem init (b : Nat) (w : ω) : (System.init b w : System ω ρ).Channel where
  order := rfl
  sent := by simp [System.init]
  sentNodup := List.nodup_nil
  executed := rfl
  closedEmpty := fun _ => rfl
  closedStopped := by simp [System.init]
  openUnlessStopped := by simp [System.init]
  inLane := fun _ => rfl
  held := by simp [System.init]
  working := fun _ => rfl
  exited := by simp [System.init]
  running := by simp [System.init, Call.blank, Call.fresh]
  slots := by simp [System.init, reserving]

theorem update_of_slots (hc : s.Channel) (f : Call ω ρ → Call ω ρ)
    (hrun : ∀ r, (f (s.calls i)).unit = .running r → s.worker = .running i)
    (hcaller : (f (s.calls i)).caller = (s.calls i).caller ∨
      (f (s.calls i)).caller ≠ .sending ∧ (f (s.calls i)).caller ≠ .idle)
    (hslots : s.fifo.length + (s.update i f).reserving + s.permits ≤ s.capacity) :
    (s.update i f).Channel :=
  { hc with
    sent := fun j hj => by
      by_cases h : j = i
      · subst h
        simp only [update_calls, if_true]
        rcases hcaller with he | hn
        · rw [he]; exact hc.sent j hj
        · exact hn
      · simpa [h] using hc.sent j hj
    running := fun j r h => by
      by_cases hj : j = i
      · subst hj
        exact hrun r (by simpa using h)
      · exact hc.running j r (by simpa [hj] using h)
    slots := hslots }

theorem update (hc : s.Channel) (f : Call ω ρ → Call ω ρ)
    (hres : (f (s.calls i)).reserved = (s.calls i).reserved)
    (hrun : ∀ r, (f (s.calls i)).unit = .running r → (s.calls i).unit = .running r)
    (hcaller : (f (s.calls i)).caller = (s.calls i).caller ∨
      (f (s.calls i)).caller ≠ .sending ∧ (f (s.calls i)).caller ≠ .idle) :
    (s.update i f).Channel := by
  refine hc.update_of_slots f (fun r h => hc.running i r (hrun r h)) hcaller ?_
  have : (s.update i f).reserving = s.reserving :=
    reserving_eq rfl fun j => by by_cases hj : j = i <;> simp [hj, hres]
  rw [this]
  exact hc.slots

theorem permits_le (hc : s.Channel) {p : Nat} (hp : p ≤ s.permits) :
    ({ s with permits := p } : System ω ρ).Channel :=
  { hc with slots := Nat.le_trans (Nat.add_le_add_left hp _) hc.slots }

theorem reserve (hc : s.Channel) (hw : s.Wf) (hs : (s.calls i).caller = .sending)
    (hr : (s.calls i).reserved = false) (hp : 0 < s.permits) :
    ({ s with permits := s.permits - 1 }.update i fun c => { c with reserved := true }).Channel := by
  have hi : i < s.count := hw.lt_count (by rw [hs]; simp)
  have hres : ({ s with permits := s.permits - 1 }.update i fun c => { c with reserved := true }).reserving =
      s.reserving + 1 := by
    have h := reserving_update hi fun c => { c with reserved := true }
    rw [hr, Bool.toNat_false, Nat.add_zero, Bool.toNat_true] at h
    exact h
  refine (hc.permits_le (Nat.sub_le _ 1)).update_of_slots _ (fun r h => hc.running i r h)
    (.inl rfl) ?_
  show s.fifo.length + _ + (s.permits - 1) ≤ s.capacity
  rw [hres]
  have := hc.slots
  omega

theorem push (hc : s.Channel) (hw : s.Wf) (hs : (s.calls i).caller = .sending)
    (hcl : s.closed = false)
    (hroom : s.fifo.length + s.reserving + s.permits + 1 ≤ s.capacity + (s.calls i).reserved.toNat) :
    (s.push i).Channel := by
  have hi : i < s.count := hw.lt_count (by rw [hs]; simp)
  have hnot : i ∉ s.sent := fun h => (hc.sent i h).1 hs
  have hres : (s.push i).reserving + (s.calls i).reserved.toNat = s.reserving := by
    have h := reserving_update hi Call.enter
    have he : (s.calls i).enter.reserved = false := rfl
    rw [he, Bool.toNat_false, Nat.add_zero] at h
    exact h
  have henter : (s.calls i).enter.caller ≠ .sending ∧ (s.calls i).enter.caller ≠ .idle := by
    simp only [Call.enter]
    split <;> simp
  exact { hc with
    order := by
      show s.taken ++ s.lost ++ (s.fifo ++ [i]) = s.sent ++ [i]
      rw [← hc.order]
      simp only [List.append_assoc]
    sent := fun j hj => by
      simp only [push_calls]
      rcases List.mem_append.1 hj with hj | hj
      · have : j ≠ i := fun h => hnot (h ▸ hj)
        simpa [this] using hc.sent j hj
      · rw [List.mem_singleton.1 hj]
        simpa using henter
    sentNodup := by
      show (s.sent ++ [i]).Nodup
      simp only [List.nodup_append, List.nodup_cons, List.not_mem_nil, not_false_eq_true,
        List.nodup_nil, and_self, List.mem_singleton, true_and]
      exact ⟨hc.sentNodup, fun a ha b hb he => hnot (hb ▸ he ▸ ha)⟩
    closedEmpty := fun h => absurd (show s.closed = true from h) (by rw [hcl]; decide)
    running := fun j r h => by
      by_cases hj : j = i
      · subst hj
        simp [Call.enter] at h
      · exact hc.running j r (by simpa [hj] using h)
    slots := by
      show (s.fifo ++ [i]).length + (s.push i).reserving + s.permits ≤ s.capacity
      simp only [List.length_append, List.length_singleton]
      omega }

theorem abort (hc : s.Channel) (hw : s.Wf) (hs : (s.calls i).caller = .sending)
    {dest : CallerAt ρ} : (s.abort i dest).Channel := by
  have hi : i < s.count := hw.lt_count (by rw [hs]; simp)
  have hnot : i ∉ s.sent := fun h => (hc.sent i h).1 hs
  have hres : (s.abort i dest).reserving + (s.calls i).reserved.toNat = s.reserving := by
    have h := reserving_update hi (·.abort dest)
    have he : ((s.calls i).abort dest).reserved = false := rfl
    rw [he, Bool.toNat_false, Nat.add_zero] at h
    exact h
  exact { hc with
    sent := fun j hj => by
      have : j ≠ i := fun h => hnot (h ▸ hj)
      simpa [this] using hc.sent j hj
    running := fun j r h => by
      by_cases hj : j = i
      · subst hj
        simp [Call.abort] at h
      · exact hc.running j r (by simpa [hj] using h)
    slots := by
      show s.fifo.length + (s.abort i dest).reserving +
        (if (s.calls i).reserved then s.permits + 1 else s.permits) ≤ s.capacity
      have := hc.slots
      cases hr : (s.calls i).reserved <;>
        simp only [hr, Bool.toNat_true, Bool.toNat_false, Bool.false_eq_true, ↓reduceIte] at hres ⊢ <;>
        omega }

theorem enroll (hc : s.Channel) (hw : s.Wf) (k : CallKind) (wk : Work ω ρ) (tm : Nat) :
    (s.enroll k wk tm).Channel :=
  { hc with
    sent := fun j hj => by
      have : j ≠ s.count := by
        rintro rfl
        exact (hc.sent _ hj).2 (by rw [hw.blank _ (Nat.le_refl _)]; rfl)
      simpa [this] using hc.sent j hj
    running := fun j r h => by
      by_cases hj : j = s.count
      · simp [hj, Call.fresh] at h
      · exact hc.running j r (by simpa [hj] using h)
    slots := by
      rw [reserving_enroll]
      exact hc.slots }

theorem launch (hc : s.Channel) (hr : s.worker = .running i) : (s.launch i).Channel := by
  have hc' : ({ s with
      world := ((s.calls i).work.run s.cancelled s.world).2
      started := s.started ++ [(i, s.cancelled)] } : System ω ρ).Channel :=
    { hc with }
  refine hc'.update_of_slots
    (fun c => { c with unit := .running ((s.calls i).work.run s.cancelled s.world).1.1 })
    (fun _ _ => hr) (.inl rfl) ?_
  have : (s.launch i).reserving = s.reserving :=
    reserving_eq rfl fun j => by by_cases hj : j = i <;> simp [hj]
  show s.fifo.length + (s.launch i).reserving + s.permits ≤ s.capacity
  rw [this]
  exact hc.slots

theorem take (hc : s.Channel) (hk : s.worker = .idle) {j : Nat} {rest : List Nat}
    (hf : s.fifo = j :: rest) :
    ({ s with
        fifo := rest
        permits := s.permits + 1
        taken := s.taken ++ [j]
        executed := s.executed + 1
        worker := .running j }.update j fun c => { c with unit := .taken }).Channel := by
  have hlost := hc.working (.inl hk)
  have hopen : s.closed = false := by
    cases h : s.closed
    · rfl
    · rw [hc.closedEmpty h] at hf; cases hf
  have hres : ({ s with
      fifo := rest
      permits := s.permits + 1
      taken := s.taken ++ [j]
      executed := s.executed + 1
      worker := .running j }.update j fun c => { c with unit := .taken }).reserving = s.reserving :=
    reserving_eq rfl fun i => by by_cases hi : i = j <;> simp [hi]
  exact {
    order := by
      show s.taken ++ [j] ++ s.lost ++ rest = s.sent
      rw [← hc.order, hlost, hf]
      simp
    sent := fun i hi => by
      by_cases h : i = j
      · subst h; simpa using hc.sent i hi
      · simpa [h] using hc.sent i hi
    sentNodup := hc.sentNodup
    executed := by
      show s.executed + 1 = (s.taken ++ [j]).length
      rw [hc.executed, List.length_append, List.length_singleton]
    closedEmpty := fun h => absurd (show s.closed = true from h) (by rw [hopen]; decide)
    closedStopped := hc.closedStopped
    openUnlessStopped := hc.openUnlessStopped
    inLane := hc.inLane
    held := fun _ => hc.held (by simp [hk])
    working := fun _ => hlost
    exited := fun _ h => by cases h
    running := fun i r h => by
      by_cases hi : i = j
      · subst hi; simp at h
      · exact absurd (hc.running i r (by simpa [hi] using h)) (by simp [hk])
    slots := by
      rw [hres]
      show rest.length + s.reserving + (s.permits + 1) ≤ s.capacity
      have := hc.slots
      rw [hf, List.length_cons] at this
      omega }

theorem resume (hc : s.Channel) (hk : s.worker = .running i) (hu : (s.calls i).unit = .ended) :
    ({ s with worker := .idle }.update i fun c => { c with unit := .finished }).Channel := by
  have hc' : ({ s with worker := .idle } : System ω ρ).Channel :=
    { hc with
      held := fun _ => hc.held (by simp [hk])
      working := fun _ => hc.working (.inr ⟨i, hk⟩)
      exited := fun _ h => by cases h
      running := fun j r h => by
        have he := hc.running j r h
        rw [hk] at he
        cases he
        rw [hu] at h
        cases h }
  exact hc'.update _ rfl (fun r h => by cases h) (.inl rfl)

theorem dropQueued (hc : s.Channel) (hr : s.receiver = .inLane) (hp : s.phase = .stopped) :
    s.dropQueued.Channel := by
  have hk : s.worker = .absent := Decidable.byContradiction fun h => hc.held h hr
  have hres : s.dropQueued.reserving = s.reserving := reserving_eq rfl (dropQueued_reserved s)
  exact {
    order := by
      show s.taken ++ (s.lost ++ s.fifo) ++ [] = s.sent
      rw [← hc.order]
      simp
    sent := fun j hj => by
      simp only [dropQueued_caller]
      exact hc.sent j hj
    sentNodup := hc.sentNodup
    executed := hc.executed
    closedEmpty := fun _ => rfl
    closedStopped := fun _ => hp
    openUnlessStopped := fun _ => hp
    inLane := fun h => by cases h
    held := fun _ h => by cases h
    working := fun h => by
      rw [show s.dropQueued.worker = .absent from hk] at h
      simp at h
    exited := fun _ h => by
      rw [show s.dropQueued.worker = .absent from hk] at h
      cases h
    running := fun j r h => by
      rw [dropQueued_unit] at h
      split at h
      · cases h
      · exact absurd (hc.running j r h) (by simp [hk])
    slots := by
      rw [hres]
      show 0 + s.reserving + s.permits ≤ s.capacity
      have := hc.slots
      omega }

theorem halt (hc : s.Channel) : s.halt.Channel := by
  unfold System.halt
  split
  · exact hc
  · dsimp only
    have hc' : ({ s with
        phase := .stopped
        contextCancelled := s.contextCancelled || s.bound
        bound := false
        senderOpen := false } : System ω ρ).Channel :=
      { hc with closedStopped := fun _ => rfl, openUnlessStopped := fun _ => rfl }
    split
    · exact hc'.dropQueued ‹_› rfl
    · exact hc'

theorem exit (hc : s.Channel) (hk : s.worker = .idle) : s.exit.Channel := by
  obtain ⟨hf, hl, hr, hcl, hp, hw, ht, hs, he, hpm, hn, hcap⟩ := exit_spec s
  have hlost := hc.working (.inl hk)
  have hres : s.exit.reserving = s.reserving := reserving_eq hn (exit_reserved s)
  exact {
    order := by
      rw [ht, hl, hf, hs, ← hc.order, hlost]
      simp
    sent := fun j hj => by
      rw [hs] at hj
      simp only [exit_caller]
      exact hc.sent j hj
    sentNodup := hs ▸ hc.sentNodup
    executed := by rw [he, ht]; exact hc.executed
    closedEmpty := fun _ => hf
    closedStopped := fun _ => hp
    openUnlessStopped := fun _ => hp
    inLane := fun h => by rw [hr] at h; cases h
    held := fun _ => by rw [hr]; simp
    working := fun h => by rw [hw] at h; simp at h
    exited := fun left h => by
      rw [hw] at h
      cases h
      exact ⟨by rw [hl, hlost]; rfl, hcl⟩
    running := fun j r h => by
      rw [exit_unit] at h
      split at h
      · cases h
      · exact absurd (hc.running j r h) (by simp [hk])
    slots := by
      rw [hf, hres, hpm, hcap]
      have := hc.slots
      simp only [List.length_nil] at this ⊢
      omega }

theorem next (hc : s.Channel) (hw : s.Wf) {m : Move ω ρ} (h : s.next m = some t) :
    t.Channel := by
  cases m with
  | bindContext =>
    obtain ⟨hp, rfl⟩ := next_bindContext h
    exact { hc with
      closedStopped := fun h => absurd (hc.closedStopped h) (by simp [hp])
      openUnlessStopped := fun h => absurd (hc.openUnlessStopped h) (by simp [hp]) }
  | stop =>
    obtain ⟨-, rfl⟩ := next_stop h
    exact hc.halt
  | cancelRoot =>
    obtain ⟨-, rfl⟩ := next_cancelRoot h
    exact { hc with }
  | begin k wk tm =>
    have he := hc.enroll hw k wk tm
    have hwe := hw.enroll k wk tm
    have hs : ((s.enroll k wk tm).calls s.count).caller = .sending := by simp [Call.fresh]
    rcases next_begin h with ⟨e, rfl, -⟩ | ⟨-, -, -, hcl, hp, rfl⟩ | ⟨-, -, -, rfl⟩
    · exact he.abort hwe hs
    · -- a `tryEnqueue` sends at once into the free slot it takes
      refine (he.permits_le (Nat.sub_le _ 1)).push (hwe.permits _) hs hcl ?_
      have hr : ((s.enroll k wk tm).calls s.count).reserved = false := by simp [Call.fresh]
      show (s.enroll k wk tm).fifo.length + (s.enroll k wk tm).reserving + (s.permits - 1) + 1 ≤
        (s.enroll k wk tm).capacity + ((s.enroll k wk tm).calls s.count).reserved.toNat
      have := he.slots
      rw [hr, Bool.toNat_false, Nat.add_zero]
      rw [enroll_permits] at this
      omega
    · exact he
  | reserve i =>
    obtain ⟨hs, hr, -, hp, rfl⟩ := next_reserve h
    exact hc.reserve hw hs hr hp
  | send i =>
    obtain ⟨hs, hr, hcl, rfl⟩ := next_send h
    have := hc.slots
    exact hc.push hw hs hcl (by rw [hr, Bool.toNat_true]; omega)
  | shut i =>
    obtain ⟨hs, -, rfl⟩ := next_shut h
    exact hc.abort hw hs
  | expire i =>
    obtain ⟨-, -, rfl⟩ := next_expire h
    exact hc.update _ rfl (fun _ h => h) (.inl rfl)
  | cancelCaller i =>
    obtain ⟨-, -, rfl⟩ := next_cancelCaller h
    exact hc.update _ rfl (fun _ h => h) (.inl rfl)
  | outOfTime i =>
    obtain ⟨hs, -, -, rfl⟩ := next_outOfTime h
    exact hc.abort hw hs
  | withdraw i =>
    obtain ⟨hs, -, -, rfl⟩ := next_withdraw h
    exact hc.abort hw hs
  | collect i =>
    obtain ⟨-, -, rfl⟩ := next_collect h
    exact hc.update _ rfl (fun _ h => h) (.inr ⟨by simp, by simp⟩)
  | giveUp i =>
    obtain ⟨-, -, ⟨-, rfl⟩ | ⟨-, rfl⟩⟩ := next_giveUp h <;>
      exact hc.update _ rfl (fun _ h => h) (.inr ⟨by simp, by simp⟩)
  | drop i =>
    rcases next_drop h with ⟨hs, rfl⟩ | ⟨-, rfl⟩
    · exact hc.abort hw hs
    · exact hc.update _ rfl (fun _ h => h) (.inr ⟨by simp, by simp⟩)
  | run =>
    obtain ⟨-, hr, -, rfl⟩ := next_run h
    have hk : s.worker = .absent := Decidable.byContradiction fun h => hc.held h hr
    exact { hc with
      inLane := fun h => by cases h
      held := fun _ h => by cases h
      working := fun _ => hc.inLane hr
      exited := fun _ h => by cases h
      running := fun j r h => absurd (hc.running j r h) (by simp [hk]) }
  | dequeue =>
    obtain ⟨hk, ⟨-, rfl⟩ | ⟨-, -, -, rfl⟩ | ⟨-, j, rest, hf, rfl⟩⟩ := next_dequeue h
    · exact hc.exit hk
    · exact hc.exit hk
    · exact hc.take hk hf
  | check =>
    obtain ⟨j, -, -, -, ⟨-, rfl⟩ | ⟨-, rfl⟩⟩ := next_check h <;>
      exact hc.update _ rfl (fun _ h => by cases h) (.inl rfl)
  | claim =>
    obtain ⟨j, -, -, ⟨-, rfl⟩ | ⟨-, rfl⟩⟩ := next_claim h <;>
      exact hc.update _ rfl (fun _ h => by cases h) (.inl rfl)
  | start =>
    obtain ⟨j, hr, -, rfl⟩ := next_start h
    exact hc.launch hr
  | finish =>
    obtain ⟨j, r, -, -, rfl⟩ := next_finish h
    exact hc.update _ rfl (fun _ h => by cases h) (.inl rfl)
  | resume =>
    obtain ⟨j, hr, hu, rfl⟩ := next_resume h
    exact hc.resume hr hu

end Channel

theorem halt_keeps (s : System ω ρ) : s.halt.capacity = s.capacity ∧ s.halt.taken = s.taken ∧
    (s.cancelled = true → s.halt.cancelled = true) := by
  unfold halt
  split
  · exact ⟨rfl, rfl, id⟩
  · dsimp only
    split <;> simp_all [cancelled, dropQueued, discard] <;> exact fun h => h.elim .inl (.inr ∘ .inl)

theorem exit_keeps (s : System ω ρ) : s.exit.capacity = s.capacity ∧ s.exit.taken = s.taken ∧
    (s.cancelled = true → s.exit.cancelled = true) :=
  have h := halt_keeps s.dropQueued
  ⟨h.1, h.2.1, h.2.2⟩

theorem next_keeps {m : Move ω ρ} (h : s.next m = some t) :
    t.capacity = s.capacity ∧ (s.cancelled = true → t.cancelled = true ∧ t.taken = s.taken) := by
  cases m with
  | bindContext =>
    obtain ⟨-, rfl⟩ := next_bindContext h
    exact ⟨rfl, fun hc => ⟨hc, rfl⟩⟩
  | stop =>
    obtain ⟨-, rfl⟩ := next_stop h
    obtain ⟨h1, h2, h3⟩ := halt_keeps s
    exact ⟨h1, fun hc => ⟨h3 hc, h2⟩⟩
  | cancelRoot =>
    obtain ⟨-, rfl⟩ := next_cancelRoot h
    exact ⟨rfl, fun _ => ⟨by simp [cancelled], rfl⟩⟩
  | begin k wk tm =>
    rcases next_begin h with ⟨e, rfl, -⟩ | ⟨-, -, -, -, -, rfl⟩ | ⟨-, -, -, rfl⟩ <;>
      exact ⟨rfl, fun hc => ⟨hc, rfl⟩⟩
  | reserve i =>
    obtain ⟨-, -, -, -, rfl⟩ := next_reserve h
    exact ⟨rfl, fun hc => ⟨hc, rfl⟩⟩
  | send i =>
    obtain ⟨-, -, -, rfl⟩ := next_send h
    exact ⟨rfl, fun hc => ⟨hc, rfl⟩⟩
  | shut i =>
    obtain ⟨-, -, rfl⟩ := next_shut h
    exact ⟨rfl, fun hc => ⟨hc, rfl⟩⟩
  | expire i =>
    obtain ⟨-, -, rfl⟩ := next_expire h
    exact ⟨rfl, fun hc => ⟨hc, rfl⟩⟩
  | cancelCaller i =>
    obtain ⟨-, -, rfl⟩ := next_cancelCaller h
    exact ⟨rfl, fun hc => ⟨hc, rfl⟩⟩
  | outOfTime i =>
    obtain ⟨-, -, -, rfl⟩ := next_outOfTime h
    exact ⟨rfl, fun hc => ⟨hc, rfl⟩⟩
  | withdraw i =>
    obtain ⟨-, -, -, rfl⟩ := next_withdraw h
    exact ⟨rfl, fun hc => ⟨hc, rfl⟩⟩
  | collect i =>
    obtain ⟨-, -, rfl⟩ := next_collect h
    exact ⟨rfl, fun hc => ⟨hc, rfl⟩⟩
  | giveUp i =>
    obtain ⟨-, -, ⟨-, rfl⟩ | ⟨-, rfl⟩⟩ := next_giveUp h <;> exact ⟨rfl, fun hc => ⟨hc, rfl⟩⟩
  | drop i =>
    rcases next_drop h with ⟨-, rfl⟩ | ⟨-, rfl⟩ <;> exact ⟨rfl, fun hc => ⟨hc, rfl⟩⟩
  | run =>
    obtain ⟨-, -, -, rfl⟩ := next_run h
    exact ⟨rfl, fun hc => ⟨hc, rfl⟩⟩
  | dequeue =>
    -- the loop looks at its context first: cancelled, it leaves without taking
    obtain ⟨-, ⟨-, rfl⟩ | ⟨-, -, -, rfl⟩ | ⟨hnc, j, rest, -, rfl⟩⟩ := next_dequeue h
    · obtain ⟨h1, h2, h3⟩ := exit_keeps s
      exact ⟨h1, fun hc => ⟨h3 hc, h2⟩⟩
    · obtain ⟨h1, h2, h3⟩ := exit_keeps s
      exact ⟨h1, fun hc => ⟨h3 hc, h2⟩⟩
    · exact ⟨rfl, fun hc => absurd hc (by simp [hnc])⟩
  | check =>
    obtain ⟨j, -, -, -, ⟨-, rfl⟩ | ⟨-, rfl⟩⟩ := next_check h <;> exact ⟨rfl, fun hc => ⟨hc, rfl⟩⟩
  | claim =>
    obtain ⟨j, -, -, ⟨-, rfl⟩ | ⟨-, rfl⟩⟩ := next_claim h <;> exact ⟨rfl, fun hc => ⟨hc, rfl⟩⟩
  | start =>
    obtain ⟨j, -, -, rfl⟩ := next_start h
    exact ⟨rfl, fun hc => ⟨hc, rfl⟩⟩
  | finish =>
    obtain ⟨j, r, -, -, rfl⟩ := next_finish h
    exact ⟨rfl, fun hc => ⟨hc, rfl⟩⟩
  | resume =>
    obtain ⟨j, -, -, rfl⟩ := next_resume h
    exact ⟨rfl, fun hc => ⟨hc, rfl⟩⟩

theorem Steps.capacity {u : System ω ρ} (h : Steps s u) : u.capacity = s.capacity := by
  induction h with
  | refl => rfl
  | tail m _ hn ih => rw [(next_keeps hn).1, ih]

theorem Steps.taken_of_cancelled {u : System ω ρ} (h : Steps s u) (hc : s.cancelled = true) :
    u.cancelled = true ∧ u.taken = s.taken := by
  induction h with
  | refl => exact ⟨hc, rfl⟩
  | tail m _ hn ih =>
    obtain ⟨hc', ht⟩ := (next_keeps hn).2 ih.1
    exact ⟨hc', ht.trans ih.2⟩

theorem Steps.channel {b : Nat} {w : ω} (h : Steps (init b w) s) : s.Channel := by
  induction h with
  | refl => exact Channel.init b w
  | tail m hst hn ih => exact ih.next (hst.wf (Wf.init b w)) hn

theorem next_begin_ne_none (k : CallKind) (wk : Work ω ρ) (tm : Nat) :
    s.next (.begin k wk tm) ≠ none := by
  simp only [next]
  split
  · simp
  · split
    · split
      · simp
      · split <;> simp
    · simp

theorem Channel.tryEnqueue_full (hc : s.Channel) (hp : s.phase ≠ .stopped) (wk : Work ω ρ)
    (tm : Nat) :
    ∃ t, s.next (.begin .tryEnqueue wk tm) = some t ∧
      ((t.calls s.count).caller = .returned (.failed (.lane .full)) ↔ s.permits = 0) := by
  have hso : s.senderOpen = true := by
    cases h : s.senderOpen
    · exact absurd (hc.openUnlessStopped h) hp
    · rfl
  have hcl : s.closed = false := by
    cases h : s.closed
    · rfl
    · exact absurd (hc.closedStopped h) hp
  cases hn : s.next (.begin .tryEnqueue wk tm) with
  | none => exact absurd hn (next_begin_ne_none _ _ _)
  | some t =>
    refine ⟨t, rfl, ?_⟩
    rcases next_begin hn with ⟨e, rfl, ⟨-, hst⟩ | ⟨rfl, -, -, -, -, hz⟩⟩ | ⟨-, -, -, -, hz, rfl⟩ |
      ⟨hk, -⟩
    · -- refused as stopped: the lane was stopped or closed
      simp [hp, hso, hcl] at hst
    · simp [hz, Call.abort]
    · simp [Nat.pos_iff_ne_zero.1 hz, Call.enter, Call.fresh]
    · exact absurd rfl hk

theorem schedule_of_result {r : Except String ρ} (hu : (s.calls i).unit = .running r)
    (r' : Except String ρ) (w' : ω) (ms : List (Move ω ρ)) :
    (s.run ms).map (fun t : System ω ρ => (t.taken, t.started)) =
      (({ s with world := w' }.update i fun c => { c with unit := .running r' }).run ms).map
        fun t : System ω ρ => (t.taken, t.started) := by
  have hb : s.blind s.world =
      ({ s with world := w' }.update i fun c => { c with unit := .running r' }).blind s.world := by
    ext j <;> simp [update]
    by_cases hj : j = i
    · subst hj
      simp [Call.blind, hu, UnitAt.blind]
    · simp [hj]
  have key := congrArg (Option.map fun t : System ω ρ => (t.taken, t.started))
    (blind_run s s.world hb ms)
  simpa [Option.map_map, Function.comp_def] using key

-- What a lane shows of its schedule.
structure Schedule (b : Nat) (s : System ω ρ) : Prop where
  -- the worker took units in the order their sends completed, and each unit was sent once
  inOrder : s.taken <+: s.sent
  sentOnce : s.sent.Nodup
  -- the only body running is the one the worker waits for
  oneBody : ∀ i r, (s.calls i).unit = .running r → s.worker = .running i
  failureBlind : ∀ i r r' (w' : ω) (ms : List (Move ω ρ)), (s.calls i).unit = .running r →
    (s.run ms).map (fun t : System ω ρ => (t.taken, t.started)) =
      (({ s with world := w' }.update i fun c => { c with unit := .running r' }).run ms).map
        fun t : System ω ρ => (t.taken, t.started)
  cancelledTakesNothing : s.cancelled = true → ∀ u, Steps s u → u.taken = s.taken
  bounded : s.fifo.length ≤ max b 1
  fullIffNoSlot : s.phase ≠ .stopped → ∀ wk tm, ∃ t, s.next (.begin .tryEnqueue wk tm) = some t ∧
    ((t.calls s.count).caller = .returned (.failed (.lane .full)) ↔ s.permits = 0)
  -- when the worker returns, what it ran and what it dropped are all that was sent
  accounted : ∀ left, s.worker = .exited left → s.executed + left = s.sent.length

def failingRun : List (Move Unit Nat) :=
  [.bindContext, .run, .begin .enqueue ⟨1, fun _ w => ((.error "boom", []), w)⟩ 0, .reserve 0,
    .send 0, .dequeue, .start, .finish, .resume, .stop, .dequeue]

def failing : System Unit Nat := ((init 1 ()).run failingRun).getD (init 1 ())

example : failing.worker = .exited 0 ∧ failing.executed = 1 ∧ failing.sent = [0] := by decide

end System

end ChatArchive.Lane
