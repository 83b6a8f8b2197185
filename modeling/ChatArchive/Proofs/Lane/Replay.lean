import ChatArchive.Proofs.Lane.Execution

namespace ChatArchive.Lane

open scoped List

variable {ω ρ : Type}

def UnitAt.unstarted : UnitAt ρ → Bool
  | .held | .queued | .taken | .checked | .claimed => true
  | _ => false

namespace Call

def ran (c : Call ω ρ) : Option (Except String ρ) :=
  match c.unit with
  | .running r => some r
  | _ => c.outcome

-- What the place of a unit says of the number `n` of times its body started. Only a submission is
-- checked and claimed, and only a submission's unit ends without running.
def Starts (c : Call ω ρ) (n : Nat) : Prop :=
  match c.unit with
  | .held | .queued | .taken | .discarded => n = 0
  | .checked | .claimed => n = 0 ∧ c.kind = .submit
  | .running _ => n = 1
  | .ended | .finished => n = 1 ∨ n = 0 ∧ c.kind = .submit

variable {c c' : Call ω ρ} {n n' : Nat}

theorem unstarted_of_startable (h : c.startable = true) : c.unit.unstarted = true := by
  unfold startable at h
  split at h <;> simp_all [UnitAt.unstarted]

theorem Starts.eq_zero (h : c.Starts n) (hu : c.unit.unstarted = true) : n = 0 := by
  cases hc : c.unit <;> simp_all [Starts, UnitAt.unstarted]

theorem Starts.finished (h : c.Starts n) (hf : c.unit = .finished) (hk : c.kind ≠ .submit) :
    n = 1 := by
  simp only [Starts, hf] at h
  exact h.resolve_right fun h' => hk h'.2

end Call

namespace CallMove

open Call

variable {c c' : Call ω ρ} {n n' : Nat} {a : Answer ρ}

theorem starts (hm : CallMove c n c' n') (hh : c.caller = .sending → c.unit = .held)
    (h : c.Starts n) : c'.Starts n' := by
  cases hm with
  | make | makeRefused | makeQueued => simp [Starts, Call.fresh, Call.abort, Call.enter]
  | enter hs =>
    have hn := h.eq_zero (by simp [hh hs, UnitAt.unstarted])
    simp [Starts, Call.enter, hn]
  | abort _ hs _ =>
    have hn := h.eq_zero (by simp [hh hs, UnitAt.unstarted])
    simp [Starts, Call.abort, hn]
  | start r hst => simp [Starts, h.eq_zero (unstarted_of_startable hst)]
  | take hu | discard hu | expire hu _ | pass hu _ | claim hu _ | skip hu _ | finish _ hu
  | resume hu => simp_all [Starts]
  | _ => exact h

theorem ran_eq (hm : CallMove c n c' n') (hn : n' = n)
    (hh : c.caller = .sending → c.unit = .held) : c'.ran = c.ran := by
  cases hm with
  | make | makeRefused | makeQueued => simp [ran, Call.fresh, Call.blank, Call.abort, Call.enter]
  | enter hs => simp [ran, Call.enter, hh hs]
  | abort _ hs _ => simp [ran, Call.abort, Call.guard, hh hs]
  | start => omega
  | take hu | discard hu | expire hu _ | pass hu _ | claim hu _ | skip hu _ | finish _ hu
  | resume hu => simp [ran, hu]
  | _ => rfl

theorem work_eq (hm : CallMove c n c' n') (hn : 0 < n) : c'.work = c.work := by
  cases hm with
  | make | makeRefused | makeQueued => omega
  | _ => rfl

theorem finished (hm : CallMove c n c' n') (hh : c.caller = .sending → c.unit = .held)
    (hf : c.unit = .finished) : c'.unit = .finished := by
  cases hm with
  | make | makeRefused | makeQueued => simp [Call.blank, Call.fresh] at hf
  | reserve hs | enter hs | abort _ hs _ => simp [hh hs] at hf
  | start r hst => simp [hf, startable] at hst
  | take hu | discard hu | expire hu _ | pass hu _ | claim hu _ | skip hu _ | finish _ hu
  | resume hu => simp [hf] at hu
  | _ => exact hf

theorem returned (hm : CallMove c n c' n') (h : c.caller = .returned a) :
    c'.caller = .returned a := by
  cases hm with
  | make | makeRefused | makeQueued => simp [Call.blank] at h
  | reserve hs | enter hs | abort _ hs _ => simp [hs] at h
  | collect hc _ | leave hc => rcases hc with hc | hc <;> simp [hc] at h
  | abandon hc _ | defer hc _ => simp [hc] at h
  | _ => exact h

end CallMove

namespace System

def replay (calls : Nat → Call ω ρ) : List (Nat × Bool) → ω → ω
  | [], w => w
  | p :: steps, w => replay calls steps ((calls p.1).work.run p.2 w).2

theorem replay_append (calls : Nat → Call ω ρ) (xs ys : List (Nat × Bool)) (w : ω) :
    replay calls (xs ++ ys) w = replay calls ys (replay calls xs w) := by
  induction xs generalizing w with
  | nil => rfl
  | cons p xs ih => exact ih _

theorem replay_congr {c₁ c₂ : Nat → Call ω ρ} {steps : List (Nat × Bool)}
    (h : ∀ p ∈ steps, (c₁ p.1).work = (c₂ p.1).work) (w : ω) :
    replay c₁ steps w = replay c₂ steps w := by
  induction steps generalizing w with
  | nil => rfl
  | cons p steps ih =>
    simp only [replay, h p List.mem_cons_self]
    exact ih (fun q hq => h q (List.mem_cons_of_mem p hq)) _

section Order

variable {α : Type} {L S l : List α} {a b x : α}

private theorem pair_sublist_swap (hn : L.Nodup) (h : [a, b] <+ L) : ¬[b, a] <+ L := by
  induction L with
  | nil => simp at h
  | cons y L ih =>
    rw [List.nodup_cons] at hn
    intro h'
    rcases List.sublist_cons_iff.1 h with hab | ⟨r, hr, hb⟩
    · rcases List.sublist_cons_iff.1 h' with hba | ⟨r', hr', -⟩
      · exact ih hn.2 hab hba
      · -- `b` comes first, so it is `y`, which the rest of the list does not hold
        obtain ⟨hby, -⟩ := List.cons.inj hr'
        exact hn.1 (hby ▸ hab.subset (show b ∈ [a, b] by simp))
    · -- `a` comes first, so it is `y`
      obtain ⟨hay, hrb⟩ := List.cons.inj hr
      rcases List.sublist_cons_iff.1 h' with hba | ⟨r', hr', ha⟩
      · exact hn.1 (hay ▸ hba.subset (show a ∈ [b, a] by simp))
      · obtain ⟨-, hra⟩ := List.cons.inj hr'
        exact hn.1 (hay ▸ ha.subset (show a ∈ r' by simp [← hra]))

private theorem eq_nil_or_of_sublist_singleton (h : l <+ [x]) : l = [] ∨ l = [x] := by
  rcases List.sublist_cons_iff.1 h with h | ⟨r, rfl, hr⟩
  · exact .inl (List.sublist_nil.1 h)
  · exact .inr (by rw [List.sublist_nil.1 hr])

private theorem getLast?_ne_of_pair_sublist (hn : L.Nodup) (h : [a, b] <+ L) :
    L.getLast? ≠ some a := by
  intro hl
  obtain ⟨L', rfl⟩ := List.getLast?_eq_some_iff.1 hl
  have ha : a ∉ L' := by
    rw [List.nodup_append] at hn
    exact fun hm => hn.2.2 a hm a (by simp) rfl
  obtain ⟨l₁, l₂, he, h₁, h₂⟩ := List.sublist_append_iff.1 h
  -- either the whole pair lies in `L'`, or it ends in the last `a` and begins in `L'`
  rcases eq_nil_or_of_sublist_singleton h₂ with rfl | rfl
  · have hl₁ : l₁ = [a, b] := by simpa using he.symm
    exact ha (h₁.subset (show a ∈ l₁ by simp [hl₁]))
  · obtain ⟨hl₁, -⟩ := List.append_inj' (show l₁ ++ [a] = [a] ++ [b] from he.symm) rfl
    exact ha (h₁.subset (show a ∈ l₁ by simp [hl₁]))

private theorem pair_sublist_of_prefix (hp : L <+: S) (hn : S.Nodup) (h : [a, b] <+ S)
    (hb : b ∈ L) : [a, b] <+ L := by
  obtain ⟨M, rfl⟩ := hp
  obtain ⟨l₁, l₂, he, h₁, h₂⟩ := List.sublist_append_iff.1 h
  rw [List.nodup_append] at hn
  have hbM : b ∉ M := fun hm => hn.2.2 b hb b hm rfl
  -- the part of the pair in `M` is empty, for `b` ends the pair and lies in `L`
  have hl₂ : l₂ = [] := by
    rcases l₂ with _ | ⟨y, l₂⟩
    · rfl
    · have hy : b ∈ y :: l₂ := by
        rcases l₁ with _ | ⟨x, _ | ⟨x', l₁⟩⟩
        · obtain ⟨rfl, rfl⟩ := List.cons.inj (he.trans (List.nil_append _))
          simp
        · obtain ⟨-, hr⟩ := List.cons.inj he
          obtain ⟨rfl, -⟩ := List.cons.inj hr
          simp
        · simp at he
      exact absurd (h₂.subset hy) hbM
  subst hl₂
  have hl₁ : l₁ = [a, b] := by simpa using he.symm
  exact hl₁ ▸ h₁

private theorem sublist_of_sublist_concat (h : l <+ L ++ [x]) (hx : x ∉ l) : l <+ L := by
  obtain ⟨l₁, l₂, rfl, h₁, h₂⟩ := List.sublist_append_iff.1 h
  rcases eq_nil_or_of_sublist_singleton h₂ with rfl | rfl
  · simpa using h₁
  · simp at hx

end Order

variable {s t : System ω ρ} {m : Move ω ρ} {w : ω} {i j k : Nat}

-- A step in which no body starts and the worker neither takes a unit nor lets one go: the world,
-- the bodies started and the units taken stay, the units sent only grow, and a caller comes back
-- from queueing only as its unit is sent.
structure Quiet (s t : System ω ρ) : Prop where
  world : t.world = s.world
  started : t.started = s.started
  taken : t.taken = s.taken
  worker : ∀ k, t.worker = .running k ↔ s.worker = .running k
  sent : s.sent <+: t.sent
  queued : ∀ k, (t.calls k).caller = .returned .queued →
    (s.calls k).caller = .returned .queued ∨ k ∈ t.sent

namespace Quiet

theorem of_eq (hc : t.calls = s.calls) (hw : t.world = s.world) (hs : t.started = s.started)
    (ht : t.taken = s.taken) (hk : t.worker = s.worker) (hsent : t.sent = s.sent) : Quiet s t :=
  ⟨hw, hs, ht, fun _ => by rw [hk], hsent ▸ List.prefix_refl _, fun k h => .inl (hc ▸ h)⟩

theorem permits (p : Nat) : Quiet s { s with permits := p } := of_eq rfl rfl rfl rfl rfl rfl

theorem trans {u : System ω ρ} (h₁ : Quiet s t) (h₂ : Quiet t u) : Quiet s u where
  world := h₂.world.trans h₁.world
  started := h₂.started.trans h₁.started
  taken := h₂.taken.trans h₁.taken
  worker k := (h₂.worker k).trans (h₁.worker k)
  sent := h₁.sent.trans h₂.sent
  queued k h := (h₂.queued k h).elim
    (fun h => (h₁.queued k h).imp_right fun hm => h₂.sent.subset hm) .inr

theorem update (f : Call ω ρ → Call ω ρ)
    (hf : (f (s.calls i)).caller = .returned .queued → (s.calls i).caller = .returned .queued) :
    Quiet s (s.update i f) where
  world := rfl
  started := rfl
  taken := rfl
  worker _ := Iff.rfl
  sent := List.prefix_refl _
  queued k h := by
    by_cases hk : k = i
    · subst hk; simp only [update_calls, if_true] at h; exact .inl (hf h)
    · simp only [update_calls, hk, if_false] at h; exact .inl h

theorem abort {dest : CallerAt ρ} (hto : dest ≠ .returned .queued) : Quiet s (s.abort i dest) where
  world := rfl
  started := rfl
  taken := rfl
  worker _ := Iff.rfl
  sent := List.prefix_refl _
  queued k h := by
    by_cases hk : k = i
    · subst hk; simp [Call.abort] at h; exact absurd h hto
    · simp only [abort_calls, hk, if_false] at h; exact .inl h

theorem push (i : Nat) : Quiet s (s.push i) where
  world := rfl
  started := rfl
  taken := rfl
  worker _ := Iff.rfl
  sent := List.prefix_append _ _
  queued k h := by
    by_cases hk : k = i
    · exact .inr (by simp [hk])
    · simp only [push_calls, hk, if_false] at h; exact .inl h

theorem enroll (k : CallKind) (wk : Work ω ρ) (tm : Nat) : Quiet s (s.enroll k wk tm) where
  world := rfl
  started := rfl
  taken := rfl
  worker _ := Iff.rfl
  sent := List.prefix_refl _
  queued j h := by
    by_cases hj : j = s.count
    · simp [hj, Call.fresh] at h
    · simp only [enroll_calls, hj, if_false] at h; exact .inl h

theorem halt : Quiet s s.halt where
  world := by simp
  started := by simp
  taken := by simp
  worker _ := by simp
  sent := by simp
  queued k h := by
    rcases s.halt_calls_eq k with he | ⟨-, he⟩ <;> rw [he] at h <;> exact .inl h

theorem exit (hk : s.worker = .idle) : Quiet s s.exit where
  world := by simp
  started := by simp
  taken := (exit_spec s).2.2.2.2.2.2.1
  worker _ := by simp [(exit_spec s).2.2.2.2.2.1, hk]
  sent := ⟨[], by rw [List.append_nil, (exit_spec s).2.2.2.2.2.2.2.1]⟩
  queued k h := .inl (by rw [exit_caller] at h; exact h)

end Quiet

theorem next_cases (hc : s.Channel) (h : s.next m = some t) :
    (∃ i, s.worker = .running i ∧ (s.calls i).startable = true ∧ t = s.launch i) ∨
    (∃ i rest, s.worker = .idle ∧ s.cancelled = false ∧ s.fifo = i :: rest ∧
      t = { s with
        fifo := rest
        permits := s.permits + 1
        taken := s.taken ++ [i]
        executed := s.executed + 1
        worker := .running i }.update i fun c => { c with unit := .taken }) ∨
    (∃ i, s.worker = .running i ∧ (s.calls i).unit = .ended ∧
      t = { s with worker := .idle }.update i fun c => { c with unit := .finished }) ∨
    Quiet s t := by
  have quiet : ∀ {P Q R : Prop}, Quiet s t → P ∨ Q ∨ R ∨ Quiet s t :=
    fun hq => .inr (.inr (.inr hq))
  cases m with
  | start =>
    obtain ⟨i, hr, hst, rfl⟩ := next_start h
    exact .inl ⟨i, hr, hst, rfl⟩
  | dequeue =>
    obtain ⟨hk, ⟨-, rfl⟩ | ⟨-, -, -, rfl⟩ | ⟨hnc, i, rest, hf, rfl⟩⟩ := next_dequeue h
    · exact quiet (Quiet.exit hk)
    · exact quiet (Quiet.exit hk)
    · exact .inr (.inl ⟨i, rest, hk, hnc, hf, rfl⟩)
  | resume =>
    obtain ⟨i, hr, hu, rfl⟩ := next_resume h
    exact .inr (.inr (.inl ⟨i, hr, hu, rfl⟩))
  | bindContext =>
    obtain ⟨-, rfl⟩ := next_bindContext h
    exact quiet (Quiet.of_eq rfl rfl rfl rfl rfl rfl)
  | stop =>
    obtain ⟨-, rfl⟩ := next_stop h
    exact quiet Quiet.halt
  | cancelRoot =>
    obtain ⟨-, rfl⟩ := next_cancelRoot h
    exact quiet (Quiet.of_eq rfl rfl rfl rfl rfl rfl)
  | begin k wk tm =>
    rcases next_begin h with ⟨e, rfl, -⟩ | ⟨-, -, -, -, -, rfl⟩ | ⟨-, -, -, rfl⟩
    · exact quiet ((Quiet.enroll k wk tm).trans (Quiet.abort (by simp)))
    · exact quiet ((Quiet.enroll k wk tm).trans ((Quiet.permits _).trans (Quiet.push _)))
    · exact quiet (Quiet.enroll k wk tm)
  | reserve i =>
    obtain ⟨-, -, -, -, rfl⟩ := next_reserve h
    exact quiet ((Quiet.permits _).trans (Quiet.update _ fun h => h))
  | send i =>
    obtain ⟨-, -, -, rfl⟩ := next_send h
    exact quiet (Quiet.push i)
  | shut i =>
    obtain ⟨-, -, rfl⟩ := next_shut h
    exact quiet (Quiet.abort (by simp))
  | expire i =>
    obtain ⟨-, -, rfl⟩ := next_expire h
    exact quiet (Quiet.update _ fun h => h)
  | cancelCaller i =>
    obtain ⟨-, -, rfl⟩ := next_cancelCaller h
    exact quiet (Quiet.update _ fun h => h)
  | outOfTime i =>
    obtain ⟨-, -, -, rfl⟩ := next_outOfTime h
    exact quiet (Quiet.abort (by simp))
  | withdraw i =>
    obtain ⟨-, -, -, rfl⟩ := next_withdraw h
    exact quiet (Quiet.abort (by simp))
  | collect i =>
    obtain ⟨-, -, rfl⟩ := next_collect h
    -- the caller returns what it got, never a queueing
    refine quiet (Quiet.update _ fun h => ?_)
    cases hr : (s.calls i).result <;> simp [hr, Answer.ofResult] at h
  | giveUp i =>
    obtain ⟨-, -, ⟨-, rfl⟩ | ⟨-, rfl⟩⟩ := next_giveUp h <;>
      exact quiet (Quiet.update _ fun h => by simp at h)
  | drop i =>
    rcases next_drop h with ⟨-, rfl⟩ | ⟨-, rfl⟩
    · exact quiet (Quiet.abort (by simp))
    · exact quiet (Quiet.update _ fun h => by simp at h)
  | run =>
    obtain ⟨-, hr, -, rfl⟩ := next_run h
    -- the receiving end is in the lane, so no worker runs yet
    have ha : s.worker = .absent := Decidable.byContradiction fun hw => hc.held hw hr
    exact quiet ⟨rfl, rfl, rfl, fun k => by simp [ha], List.prefix_refl _, fun _ h => .inl h⟩
  | check =>
    obtain ⟨i, -, -, -, ⟨-, rfl⟩ | ⟨-, rfl⟩⟩ := next_check h <;> exact quiet (Quiet.update _ fun h => h)
  | claim =>
    obtain ⟨i, -, -, ⟨-, rfl⟩ | ⟨-, rfl⟩⟩ := next_claim h <;> exact quiet (Quiet.update _ fun h => h)
  | finish =>
    obtain ⟨i, r, -, -, rfl⟩ := next_finish h
    exact quiet (Quiet.update _ fun h => h)

theorem next_sent (hc : s.Channel) (h : s.next m = some t) : s.sent <+: t.sent := by
  rcases next_cases hc h with ⟨i, -, -, rfl⟩ | ⟨i, rest, -, -, -, rfl⟩ | ⟨i, -, -, rfl⟩ | hq
  · exact List.prefix_refl _
  · exact List.prefix_refl _
  · exact List.prefix_refl _
  · exact hq.sent

theorem next_queued (hc : s.Channel) (h : s.next m = some t)
    (hk : (t.calls k).caller = .returned .queued) :
    (s.calls k).caller = .returned .queued ∨ k ∈ t.sent := by
  rcases next_cases hc h with ⟨i, -, -, rfl⟩ | ⟨i, rest, -, -, -, rfl⟩ | ⟨i, -, -, rfl⟩ | hq
  · exact .inl (by rwa [launch_caller] at hk)
  · rw [update_caller] at hk
    exacts [.inl hk, fun _ => rfl]
  · rw [update_caller] at hk
    exacts [.inl hk, fun _ => rfl]
  · exact hq.queued k hk

theorem Channel.taken_prefix (hc : s.Channel) : s.taken <+: s.sent :=
  ⟨s.lost ++ s.fifo, by rw [← List.append_assoc]; exact hc.order⟩

theorem runs_pos {p : Nat × Bool} (h : p ∈ s.started) : 0 < s.runs p.1 :=
  List.count_pos_iff.2 (List.mem_map_of_mem h)

theorem not_started_of_startable (hst : ∀ i, (s.calls i).Starts (s.runs i))
    (hi : (s.calls i).startable = true) : i ∉ s.started.map Prod.fst := fun hm => by
  have h0 := (hst i).eq_zero (Call.unstarted_of_startable hi)
  have := List.count_pos_iff.2 hm
  simp only [runs] at h0
  omega

-- What the worker keeps of the order of things.
structure Serial (s : System ω ρ) : Prop where
  inTaken : s.started.map Prod.fst <+ s.taken
  holds : ∀ k, s.worker = .running k → s.taken.getLast? = some k
  done : ∀ k ∈ s.taken, s.worker ≠ .running k → (s.calls k).unit = .finished
  cancelled : ∀ p ∈ s.started, p.2 = true → s.cancelled = true ∧ s.taken.getLast? = some p.1
  queued : ∀ k, (s.calls k).caller = .returned .queued → k ∈ s.sent

namespace Serial

theorem init (b : Nat) (w : ω) : (System.init b w : System ω ρ).Serial where
  inTaken := by simp [System.init]
  holds _ h := by simp [System.init] at h
  done _ h := by simp [System.init] at h
  cancelled _ h := by simp [System.init] at h
  queued _ h := by simp [System.init, Call.blank, Call.fresh] at h

theorem next (hs : s.Serial) (hw : s.Wf) (hc : s.Channel)
    (hst : ∀ i, (s.calls i).Starts (s.runs i)) (h : s.next m = some t) : t.Serial := by
  -- a caller back from queueing had its unit sent, before this step or by it
  have hqueued : ∀ k, (t.calls k).caller = .returned .queued → k ∈ t.sent := fun k hk =>
    (next_queued hc h hk).elim (fun hq => (next_sent hc h).subset (hs.queued k hq)) id
  rcases next_cases hc h with ⟨i, hr, hstart, rfl⟩ | ⟨i, rest, hidle, hnc, hf, rfl⟩ |
    ⟨i, hr, hu, rfl⟩ | hq
  · -- a body starts: its unit is the last one taken, and it had not started before
    have hnot := not_started_of_startable hst hstart
    obtain ⟨T, hT⟩ := List.getLast?_eq_some_iff.1 (hs.holds i hr)
    refine ⟨?_, hs.holds, fun k hk hne => ?_, fun p hp hp2 => ?_, hqueued⟩
    · simp only [launch_started, List.map_append, List.map_cons, List.map_nil, launch_taken, hT]
      exact (sublist_of_sublist_concat (hT ▸ hs.inTaken) hnot).append (List.Sublist.refl _)
    · have hki : k ≠ i := fun he => hne (he ▸ hr)
      simpa [hki] using hs.done k hk hne
    · simp only [launch_started, List.mem_append, List.mem_singleton] at hp
      rcases hp with hp | rfl
      · exact hs.cancelled p hp hp2
      · exact ⟨hp2, hs.holds i hr⟩
  · -- the worker takes a unit: it was done with every unit before
    have hfin : (s.calls i).unit ≠ .finished := by
      rw [hw.queued i (by simp [hf])]; simp
    refine ⟨?_, fun k hk => ?_, fun k hk hne => ?_, fun p hp hp2 => ?_, hqueued⟩
    · simpa using hs.inTaken.trans (List.sublist_append_left _ _)
    · simp at hk; simp [hk]
    · have hki : k ≠ i := by rintro rfl; simp at hne
      have hk' : k ∈ s.taken := by simpa [hki] using hk
      simpa [hki] using hs.done k hk' (by simp [hidle])
    · exact absurd (hs.cancelled p (by simpa using hp) hp2).1 (by simp [hnc])
  · -- the worker lets its unit go, finished
    refine ⟨by simpa using hs.inTaken, fun k hk => by simp at hk, fun k hk hne => ?_,
      fun p hp hp2 => hs.cancelled p (by simpa using hp) hp2, hqueued⟩
    · by_cases hki : k = i
      · simp [hki]
      · have hne' : s.worker ≠ .running k := by rw [hr]; simpa using Ne.symm hki
        simpa [hki] using hs.done k (by simpa using hk) hne'
  · have hfin : ∀ k, (s.calls k).unit = .finished → (t.calls k).unit = .finished := fun k hf =>
      (callMove_of_next hw h k).finished (hw.holding k) hf
    refine ⟨?_, fun k hk => ?_, fun k hk hne => ?_, fun p hp hp2 => ?_, hqueued⟩
    · rw [hq.started, hq.taken]; exact hs.inTaken
    · rw [hq.taken]; exact hs.holds k ((hq.worker k).1 hk)
    · exact hfin k (hs.done k (hq.taken ▸ hk) fun h => hne ((hq.worker k).2 h))
    · obtain ⟨hcan, hl⟩ := hs.cancelled p (hq.started ▸ hp) hp2
      exact ⟨((next_keeps h).2 hcan).1, hq.taken ▸ hl⟩

end Serial

structure Replays (w : ω) (s : System ω ρ) : Prop where
  world : s.world = replay s.calls s.started w
  sees : ∀ pre p post, s.started = pre ++ p :: post →
    (s.calls p.1).ran = some ((s.calls p.1).work.run p.2 (replay s.calls pre w)).1.1

namespace Replays

theorem init (b : Nat) (w : ω) : (System.init b w : System ω ρ).Replays w where
  world := rfl
  sees _ _ _ h := by simp [System.init] at h

theorem launch (hr : s.Replays w) (hst : ∀ i, (s.calls i).Starts (s.runs i))
    (hi : (s.calls i).startable = true) : (s.launch i).Replays w := by
  have hnot := not_started_of_startable hst hi
  have hreplay : ∀ L, replay (s.launch i).calls L w = replay s.calls L w := fun L =>
    replay_congr (fun p _ => by by_cases hp : p.1 = i <;> simp [hp]) w
  refine ⟨?_, fun pre p post he => ?_⟩
  · rw [launch_world, launch_started, hreplay, replay_append, ← hr.world]
    rfl
  · simp only [launch_started] at he
    rcases List.eq_nil_or_concat post with rfl | ⟨post, q, rfl⟩
    · -- the body that starts now
      obtain ⟨rfl, hp⟩ := List.append_inj' he rfl
      obtain rfl : p = (i, s.cancelled) := by simpa using hp.symm
      simp [Call.ran, hreplay, ← hr.world]
    · -- a body that started before, on a call this step leaves alone
      have he' : s.started ++ [(i, s.cancelled)] = (pre ++ p :: post) ++ [q] := by simp [he]
      obtain ⟨hpre, -⟩ := List.append_inj' he' rfl
      have hpi : p.1 ≠ i := fun hpi => hnot (hpi ▸ List.mem_map_of_mem (by simp [hpre]))
      simpa [hpi, hreplay] using hr.sees pre p post hpre

theorem keep (hr : s.Replays w) (hw : s.Wf) (h : s.next m = some t) (hworld : t.world = s.world)
    (hs : t.started = s.started) : t.Replays w := by
  have hwork : ∀ p ∈ s.started, (t.calls p.1).work = (s.calls p.1).work := fun p hp =>
    (callMove_of_next hw h p.1).work_eq (runs_pos hp)
  have hran : ∀ p ∈ s.started, (t.calls p.1).ran = (s.calls p.1).ran := fun p _ =>
    (callMove_of_next hw h p.1).ran_eq (by simp [runs, hs]) (hw.holding p.1)
  refine ⟨?_, fun pre p post he => ?_⟩
  · rw [hworld, hs, hr.world]
    exact replay_congr (fun p hp => (hwork p hp).symm) w
  · rw [hs] at he
    have hp : p ∈ s.started := by simp [he]
    rw [hran p hp, hwork p hp, hr.sees pre p post he,
      replay_congr (fun q hq => hwork q (by simp [he, hq])) w]

theorem next (hr : s.Replays w) (hw : s.Wf) (hc : s.Channel)
    (hst : ∀ i, (s.calls i).Starts (s.runs i)) (h : s.next m = some t) : t.Replays w := by
  rcases next_cases hc h with ⟨i, -, hi, rfl⟩ | ⟨i, rest, -, -, -, he⟩ | ⟨i, -, -, he⟩ | hq
  · exact hr.launch hst hi
  · exact hr.keep hw h (by simp [he]) (by simp [he])
  · exact hr.keep hw h (by simp [he]) (by simp [he])
  · exact hr.keep hw h hq.world hq.started

end Replays

-- What a lane keeps from its start that the order of its bodies rests on.
structure Ordered (w : ω) (s : System ω ρ) : Prop where
  safe : s.Safe
  channel : s.Channel
  starts : ∀ i, (s.calls i).Starts (s.runs i)
  serial : s.Serial
  replays : s.Replays w

namespace Ordered

theorem init (b : Nat) (w : ω) : (System.init b w : System ω ρ).Ordered w :=
  ⟨Safe.init b w, Channel.init b w, fun _ => rfl, Serial.init b w, Replays.init b w⟩

theorem next (h : s.Ordered w) (hn : s.next m = some t) : t.Ordered w :=
  ⟨h.safe.next hn, h.channel.next h.safe.wf hn,
    fun i => (callMove_of_next h.safe.wf hn i).starts (h.safe.wf.holding i) (h.starts i),
    h.serial.next h.safe.wf h.channel h.starts hn,
    h.replays.next h.safe.wf h.channel h.starts hn⟩

theorem steps (h : s.Ordered w) (hs : Steps s t) : t.Ordered w := by
  induction hs with
  | refl => exact h
  | tail m _ hn ih => exact ih.next hn

theorem sent_prefix (h : s.Ordered w) (hs : Steps s t) : s.sent <+: t.sent := by
  induction hs with
  | refl => exact List.prefix_refl _
  | tail m hst hn ih => exact ih.trans (next_sent (h.steps hst).channel hn)

theorem returned (h : s.Ordered w) (hs : Steps s t) {a : Answer ρ}
    (hj : (s.calls j).caller = .returned a) : (t.calls j).caller = .returned a := by
  induction hs with
  | refl => exact hj
  | tail m hst hn ih => exact (callMove_of_next (h.steps hst).safe.wf hn j).returned ih

theorem takenNodup (h : s.Ordered w) : s.taken.Nodup :=
  h.channel.sentNodup.sublist h.channel.taken_prefix.sublist

theorem answered (h : s.Ordered w) (hk : (s.calls i).kind = .submit) {r : ρ}
    (hr : (s.calls i).caller = .returned (.value r)) :
    (s.calls i).ran = some (.ok r) ∧ i ∈ s.started.map Prod.fst := by
  have hh := h.safe.handshake i hk
  have ho : (s.calls i).outcome = some (.ok r) := by
    simpa [Call.CallerInv, hr, Call.Answered] using hh.caller
  have hu := hh.unit
  cases hun : (s.calls i).unit <;> simp only [Call.UnitInv, hun] at hu
  case ended | finished =>
    rcases hu with ⟨hn, -⟩ | ⟨-, ho', -⟩
    · refine ⟨by simp [Call.ran, hun, ho], List.count_pos_iff.1 ?_⟩
      simp only [runs] at hn
      omega
    · rw [ho] at ho'; cases ho'
  all_goals simp [ho] at hu

theorem kind_of_queued (h : s.Ordered w) (hj : (s.calls j).caller = .returned .queued) :
    (s.calls j).kind ≠ .submit := fun hk => by
  simpa [Call.CallerInv, hj, Call.Answered] using (h.safe.handshake j hk).caller

theorem taken_before {s₁ : System ω ρ} (h₁ : s₁.Ordered w) (hs : Steps s₁ s)
    (hj : j ∈ s₁.sent) (hi : s₁.count ≤ i) (hit : i ∈ s.taken) : [j, i] <+ s.taken := by
  have h := h₁.steps hs
  have hnot : i ∉ s₁.sent := fun hm =>
    (h₁.channel.sent i hm).2 (by rw [h₁.safe.wf.blank i hi]; rfl)
  obtain ⟨rest, hrest⟩ := h₁.sent_prefix hs
  have hpre := h.channel.taken_prefix
  have his : i ∈ rest := by
    have hm : i ∈ s.sent := hpre.subset hit
    rw [← hrest, List.mem_append] at hm
    exact hm.resolve_left hnot
  have hsent : [j, i] <+ s.sent := by
    rw [← hrest]
    exact (List.singleton_sublist.2 hj).append (List.singleton_sublist.2 his)
  exact pair_sublist_of_prefix hpre h.channel.sentNodup hsent hit

theorem started_before (h : s.Ordered w) (htaken : [j, i] <+ s.taken)
    (hkj : (s.calls j).kind ≠ .submit) (hi : i ∈ s.started.map Prod.fst) :
    ∃ pre mid post c, s.started = pre ++ (j, false) :: mid ++ (i, c) :: post ∧
      ∀ p ∈ mid, p.2 = false := by
  have hnodup := h.takenNodup
  have hne : j ≠ i := by
    have := hnodup.sublist htaken
    simpa using this
  have hjs : j ∈ s.started.map Prod.fst := by
    have hfree : s.worker ≠ .running j := fun hw =>
      getLast?_ne_of_pair_sublist hnodup htaken (h.serial.holds j hw)
    have h1 := (h.starts j).finished (h.serial.done j (htaken.subset (by simp)) hfree) hkj
    simp only [runs] at h1
    exact List.count_pos_iff.1 (by omega)
  obtain ⟨⟨j', cj⟩, hmem, rfl⟩ := List.mem_map.1 hjs
  obtain ⟨pre, rest, hpre⟩ := List.append_of_mem hmem
  have hi' : i ∈ rest.map Prod.fst := by
    rw [hpre] at hi
    simp only [List.map_append, List.map_cons, List.mem_append, List.mem_cons] at hi
    rcases hi with hi | rfl | hi
    · -- the submission first would take the two the other way
      have hij : [i, j'] <+ s.taken := by
        refine List.Sublist.trans ?_ h.serial.inTaken
        rw [hpre, List.map_append, List.map_cons]
        exact (List.singleton_sublist.2 hi).append (List.singleton_sublist.2 List.mem_cons_self)
      exact absurd hij (pair_sublist_swap hnodup htaken)
    · exact absurd rfl hne
    · exact hi
  obtain ⟨⟨i', c⟩, hmem', rfl⟩ := List.mem_map.1 hi'
  obtain ⟨mid, post, hrest⟩ := List.append_of_mem hmem'
  have he : s.started = pre ++ (j', cj) :: mid ++ (i', c) :: post := by simp [hpre, hrest]
  have hflag : ∀ p ∈ pre ++ (j', cj) :: mid, p.2 = false := by
    intro p hp
    cases hb : p.2
    · rfl
    · have hpi : [p.1, i'] <+ s.taken := by
        refine List.Sublist.trans ?_ h.serial.inTaken
        rw [he, List.map_append, List.map_cons]
        exact (List.singleton_sublist.2 (List.mem_map_of_mem hp)).append
          (List.singleton_sublist.2 List.mem_cons_self)
      exact absurd (h.serial.cancelled p (by rw [he]; exact List.mem_append_left _ hp) hb).2
        (getLast?_ne_of_pair_sublist hnodup hpi)
  have hcj : cj = false := hflag (j', cj) (by simp)
  subst hcj
  exact ⟨pre, mid, post, c, he, fun p hp => hflag p (by simp [hp])⟩

end Ordered

theorem Steps.ordered {b : Nat} {w : ω} (hs : Steps (init b w) s) : s.Ordered w :=
  (Ordered.init b w).steps hs

theorem read_your_writes {b : Nat} {w : ω} {s₁ s : System ω ρ} (h₁ : Steps (init b w) s₁)
    (h : Steps s₁ s) :
    s.started.map Prod.fst <+ s.taken ∧ s.Replays w ∧
      ∀ {j i : Nat} {r : ρ}, (s₁.calls j).caller = .returned .queued → s₁.count ≤ i →
        (s.calls i).kind = .submit → (s.calls i).caller = .returned (.value r) →
        ∃ pre mid post c, s.started = pre ++ (j, false) :: mid ++ (i, c) :: post ∧
          (∀ p ∈ mid, p.2 = false) ∧
          Except.ok r = ((s.calls i).work.run c
            (replay s.calls mid ((s.calls j).work.run false (replay s.calls pre w)).2)).1.1 := by
  have o₁ := h₁.ordered
  have o := o₁.steps h
  refine ⟨o.serial.inTaken, o.replays, fun {j i r} hj hi hk hr => ?_⟩
  obtain ⟨hran, hstarted⟩ := o.answered hk hr
  have htaken := o₁.taken_before h (o₁.serial.queued j hj) hi (o.serial.inTaken.subset hstarted)
  obtain ⟨pre, mid, post, c, he, hmid⟩ :=
    o.started_before htaken (o.kind_of_queued (o₁.returned h hj)) hstarted
  refine ⟨pre, mid, post, c, he, hmid, ?_⟩
  have hsees := o.replays.sees (pre ++ (j, false) :: mid) (i, c) post he
  rw [hran, replay_append] at hsees
  exact Option.some.inj hsees

end System

end ChatArchive.Lane
