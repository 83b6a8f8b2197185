import Mathlib
import ChatArchive.Proofs.Lane.Handshake
import ChatArchive.Service.Query

namespace ChatArchive

namespace Lane

def CallerAt.ofRead {ρ : Type} : Option (Except SubmitError ρ) → CallerAt ρ
  | none => .dropped
  | some r => .returned (.ofResult r)

end Lane

namespace ApiError

theorem ofStorage_status_ne (e : StorageError) : (ofStorage e).status ≠ 503 := by
  cases e <;> simp [ofStorage, status]

theorem ofSubmit_eq_busy {e : SubmitError} :
    ofSubmit e = .busy ↔ (∃ d, e = .timedOut d) ∨ e = .lane .full := by
  cases e with
  | lane l => cases l <;> simp [ofSubmit]
  | _ => simp [ofSubmit]

theorem ofSubmit_eq_notReady {e : SubmitError} :
    ofSubmit e = .notReady ↔ ∃ l, l ≠ .full ∧ e = .lane l := by
  cases e with
  | lane l => cases l <;> simp [ofSubmit]
  | _ => simp [ofSubmit]

theorem ofSubmit_eq_shuttingDown {e : SubmitError} : ofSubmit e = .shuttingDown ↔ e = .cancelled := by
  cases e with
  | lane l => cases l <;> simp [ofSubmit]
  | _ => simp [ofSubmit]

theorem ofSubmit_status_ne {e : SubmitError} (h : (ofSubmit e).status ≠ 503) :
    ∃ f, e = .fault f := by
  cases e with
  | fault f => exact ⟨f, rfl⟩
  | lane l => cases l <;> simp [ofSubmit, status] at h
  | _ => simp [ofSubmit, status] at h

end ApiError

namespace Service

section ReadResult

variable {ρ : Type} (title : String) (records : ρ → Option (Except StorageError (List Json.Value)))

def answerStatus : Except ApiError (List Json.Value) → Nat
  | .ok _ => 200
  | .error e => e.status

theorem readResult_ok_status (v : ρ) : answerStatus (readResult title records (some (.ok v))) ≠ 503 := by
  cases hv : records v with
  | none => simp [readResult, hv, answerStatus, ApiError.status]
  | some x =>
    cases x with
    | ok values => simp [readResult, hv, answerStatus]
    | error e => simpa [readResult, hv, answerStatus] using ApiError.ofStorage_status_ne e

theorem readResult_ok_ne (v : ρ) {e : ApiError} (he : e.status = 503) :
    readResult title records (some (.ok v)) ≠ .error e := by
  intro h
  have hs := readResult_ok_status title records v
  rw [h] at hs
  exact hs he

theorem readResult_status_ne {r : Option (Except SubmitError ρ)}
    (h : answerStatus (readResult title records r) ≠ 503) :
    (∃ v, r = some (.ok v)) ∨ ∃ f, r = some (.error (.fault f)) := by
  cases r with
  | none => simp [readResult, answerStatus, ApiError.status] at h
  | some x =>
    cases x with
    | ok v => exact .inl ⟨v, rfl⟩
    | error e =>
      obtain ⟨f, rfl⟩ := ApiError.ofSubmit_status_ne (by simpa [readResult, answerStatus] using h)
      exact .inr ⟨f, rfl⟩

theorem readResult_eq_unavailable {r : Option (Except SubmitError ρ)} {e : ApiError}
    (he : e.status = 503) :
    readResult title records r = .error e ↔
      (r = none ∧ e = .busy) ∨ ∃ x, r = some (.error x) ∧ ApiError.ofSubmit x = e := by
  cases r with
  | none => simp [readResult, eq_comm]
  | some x =>
    cases x with
    | ok v => simpa using readResult_ok_ne title records v he
    | error x => simp [readResult]

end ReadResult

theorem route_sources_of_bad_body (s : Service) (l : Logger) {req : Api.Request}
    {e : Api.BodyRejection} (hm : req.method = "POST")
    (hb : Api.readJsonBody Wire.sourcesRequest req.contentType req.body = .error e) :
    s.route l req .sources = (.answer (errorResponse (.badRequest e.text)), s) := by
  simp [route, hm, hb]

theorem call_sources_of_bad_body (sv : Service) {req : Api.Request} {e : Api.BodyRejection}
    (hp : Route.ofPath req.target.path = some .sources) (hm : req.method = "POST")
    (hb : Api.readJsonBody Wire.sourcesRequest req.contentType req.body = .error e) :
    (sv.call req).1.status = 400 ∧ (sv.call req).1.body = (errorResponse (.badRequest e.text)).body ∧
      ∃ logs, (sv.call req).2.lane = sv.lane.report logs := by
  have hallow : Route.sources.allows "POST" = true := by simp [Route.allows]
  simp only [call, hp, hallow, route_sources_of_bad_body _ _ hm hb, hm]
  simp [errorResponse, jsonResponse, ApiError.status, report, freshId, Lane.Sim.report]

end Service

namespace Lane

namespace Call

variable {ω ρ : Type} {c : Call ω ρ} {n : Nat}

theorem UnitInv.runs_of_outcome (h : c.UnitInv n) {x : Except String ρ}
    (ho : c.outcome = some x) : n = 1 := by
  cases hu : c.unit <;> simp only [UnitInv, hu] at h
  case ended | finished =>
    rcases h with ⟨rfl, -⟩ | ⟨-, ho', -⟩
    · rfl
    · rw [ho] at ho'; cases ho'
  all_goals (rw [h.2.1] at ho; cases ho)

theorem Handshake.answered (h : c.Handshake n) {a : Answer ρ} (hc : c.caller = .returned a) :
    c.Answered a := by
  simpa only [CallerInv, hc] using h.caller

end Call

namespace System

variable {ω ρ : Type} {s : System ω ρ} {i : Nat}

-- What the answer `a`, given when the submission `i` of a read came to `r`, tells of the read.
structure AnswerTells (s : System ω ρ) (i : Nat) (r : Option (Except SubmitError ρ))
    (a : Except ApiError (List Json.Value)) : Prop where
  -- the read runs at most once
  once : s.runs i ≤ 1
  -- records, a bad uid and failures come from a read that ran to its end, through its result
  ended : Service.answerStatus a ≠ 503 → ∃ x, (s.calls i).outcome = some x ∧ s.runs i = 1 ∧
    r = some (x.mapError fun _ => .fault ⟨"submitted operation"⟩)
  -- a call that gave up waiting is busy, whatever the read went on to do
  gaveUp : (s.calls i).caller = .dropped → a = .error .busy
  -- otherwise busy is a read whose deadline passed before it was claimed: it never runs
  busy : a = .error .busy → (s.calls i).caller = .dropped ∨
    (((s.calls i).claim = .abandoned ∨ (s.calls i).claim = .expired) ∧
      ∀ u, Steps s u → u.runs i = 0)
  -- not ready is a unit the lane dropped unrun
  notReady : a = .error .notReady →
    (s.calls i).unit = .discarded ∧ ∀ u, Steps s u → u.runs i = 0
  -- shutting down is a caller that gave up at its token: the read never runs
  shuttingDown : a = .error .shuttingDown →
    (s.calls i).claim = .abandoned ∧ ∀ u, Steps s u → u.runs i = 0

section Told

variable (title : String) (records : ρ → Option (Except StorageError (List Json.Value)))

theorem Safe.answerTells (h : s.Safe) (hk : (s.calls i).kind = .submit)
    {r : Option (Except SubmitError ρ)} (hc : (s.calls i).caller = .ofRead r) :
    s.AnswerTells i r (Service.readResult title records r) := by
  have hh := h.handshake i hk
  -- a caller that returned a failure stands on what `Answered` says of it
  have hfail : ∀ e, r = some (.error e) → (s.calls i).Answered (.failed e) := by
    rintro e rfl
    exact hh.answered hc
  refine ⟨hh.unit.runs_le, ?_, ?_, ?_, ?_, ?_⟩
  · intro hst
    rcases Service.readResult_status_ne title records hst with ⟨v, rfl⟩ | ⟨f, rfl⟩
    · have ho : (s.calls i).outcome = some (.ok v) := hh.answered hc
      exact ⟨.ok v, ho, hh.unit.runs_of_outcome ho, rfl⟩
    · obtain ⟨rfl, e, he⟩ := hfail _ rfl
      exact ⟨.error e, he, hh.unit.runs_of_outcome he, rfl⟩
  · intro hd
    -- only a call that gave up leaves its caller gone
    cases r with
    | none => rfl
    | some x => rw [hc] at hd; cases hd
  · intro hb
    rcases (Service.readResult_eq_unavailable title records rfl).1 hb with ⟨rfl, -⟩ | ⟨x, rfl, hx⟩
    · exact .inl hc
    rcases ApiError.ofSubmit_eq_busy.1 hx with ⟨d, rfl⟩ | rfl
    · obtain ⟨-, hcl⟩ := hfail _ rfl
      exact .inr ⟨hcl, fun u hu => hu.runs_eq_zero h hk (hcl.elim .inl (.inr ∘ .inl))⟩
    · exact (hfail _ rfl).elim
  · intro hn
    rcases (Service.readResult_eq_unavailable title records rfl).1 hn with ⟨-, hne⟩ | ⟨x, rfl, hx⟩
    · cases hne
    obtain ⟨l, hl, rfl⟩ := ApiError.ofSubmit_eq_notReady.1 hx
    have ha := hfail _ rfl
    cases l with
    | stopped => exact ⟨ha, fun u hu => hu.runs_eq_zero h hk (.inr (.inr ha))⟩
    | full => exact absurd rfl hl
    | notReady | alreadyRunning => exact ha.elim
  · intro hsd
    rcases (Service.readResult_eq_unavailable title records rfl).1 hsd with ⟨-, hne⟩ | ⟨x, rfl, hx⟩
    · cases hne
    obtain rfl := ApiError.ofSubmit_eq_shuttingDown.1 hx
    have ha : (s.calls i).claim = .abandoned := hfail _ rfl
    exact ⟨ha, fun u hu => hu.runs_eq_zero h hk (.inl ha)⟩

end Told

-- Every read of a lane, under any interleaving of the lane's tasks, is answered as what happened
-- to it says; and a request for sources whose body is no request is refused before any read.
theorem read_route_outcomes {b : Nat} {w : ω} {s : System ω ρ} (hs : Steps (init b w) s)
    {i : Nat} (hk : (s.calls i).kind = .submit) (title : String)
    (records : ρ → Option (Except StorageError (List Json.Value)))
    {r : Option (Except SubmitError ρ)} (hc : (s.calls i).caller = .ofRead r) :
    s.AnswerTells i r (Service.readResult title records r) ∧
      ∀ (sv : Service) (req : Api.Request) (e : Api.BodyRejection),
        Service.Route.ofPath req.target.path = some .sources → req.method = "POST" →
        Api.readJsonBody Wire.sourcesRequest req.contentType req.body = .error e →
        (sv.call req).1.status = 400 ∧
          (sv.call req).1.body = (Service.errorResponse (.badRequest e.text)).body ∧
          ∃ logs, (sv.call req).2.lane = sv.lane.report logs :=
  ⟨(hs.safe (Safe.init b w)).answerTells title records hk hc,
    fun sv _ _ hp hm hb => Service.call_sources_of_bad_body sv hp hm hb⟩

def stalledReadRun : List (Move Unit Reply) :=
  [.bindContext, .run, .begin .submit ⟨1, fun _ w => ((.ok (.sources (.ok [])), []), w)⟩ 100,
    .reserve 0, .send 0, .dequeue, .check, .claim, .start, .drop 0, .finish]

def stalledRead : System Unit Reply := ((init 1 ()).run stalledReadRun).getD (init 1 ())

theorem stalled_read_answers_busy :
    Steps (init 1 ()) stalledRead ∧ (stalledRead.calls 0).kind = .submit ∧
      (stalledRead.calls 0).caller = .ofRead none ∧
      (stalledRead.calls 0).outcome = some (.ok (.sources (.ok []))) ∧
      (stalledRead.AnswerTells 0 none (Service.readResult "ReadSources" Service.sourceRecords none) ∧
        ∀ (sv : Service) (req : Api.Request) (e : Api.BodyRejection),
          Service.Route.ofPath req.target.path = some .sources → req.method = "POST" →
          Api.readJsonBody Wire.sourcesRequest req.contentType req.body = .error e →
          (sv.call req).1.status = 400 ∧
            (sv.call req).1.body = (Service.errorResponse (.badRequest e.text)).body ∧
            ∃ logs, (sv.call req).2.lane = sv.lane.report logs) :=
  have hs : Steps (init 1 ()) stalledRead :=
    Steps.of_run (show (init 1 ()).run stalledReadRun = some stalledRead from rfl)
  have hc : (stalledRead.calls 0).caller = .ofRead none := rfl
  ⟨hs, rfl, hc, rfl, read_route_outcomes hs rfl "ReadSources" Service.sourceRecords hc⟩

end System

end Lane

end ChatArchive
