import Mathlib
import ChatArchive.Server.Process

namespace ChatArchive

namespace Lane

theorem fits_iff (backlog : Nat) : fits backlog = true ↔ backlog ≤ permitLimit := by
  rw [fits, decide_eq_true_iff, permitLimit]
  omega

end Lane

namespace Server

-- The start of `l` gets as far as setting up its lane: its settings are `cfg`, its storage opens
-- as `storage`, its TLS material passes, and it binds `addr`.
structure Reaches (l : Launch) (cfg : Settings) (storage : Storage) (addr : Net.SocketAddr) :
    Prop where
  settings : Settings.fromLookup (fun k => ((environment l).find? (·.1 == k)).map (·.2)) = .ok cfg
  opens : openStorage l.disk cfg.dbPath = .ok storage
  tls : Tls.check l.disk cfg.tlsAuthority = .ok ()
  listens : cfg.listenAddr = .ok addr
  binds : bindFailure l.busyPorts addr = none

theorem serve_started (l : Launch) (cfg : Settings) (storage : Storage) (addr : Net.SocketAddr)
    (directives : List Directive) :
    (serve l cfg storage addr directives).started = true ∧
      (serve l cfg storage addr directives).code = 0 := by
  unfold serve
  split <;> exact ⟨rfl, rfl⟩

section Reached

variable {l : Launch} {cfg : Settings} {storage : Storage} {addr : Net.SocketAddr}

theorem run_of_reaches (h : Reaches l cfg storage addr) :
    run l = if Lane.fits cfg.backlog then
      serve l cfg storage addr (directivesOf (((environment l).find? (·.1 == "RUST_LOG")).map (·.2)))
      else panicked Lane.tooLargeMessage (archiveOf storage (Store.fresh 0)) := by
  simp only [run, h.settings, h.opens, h.tls, h.listens, h.binds]

theorem started_of_reaches (h : Reaches l cfg storage addr) :
    (run l).started = Lane.fits cfg.backlog := by
  rw [run_of_reaches h]
  cases Lane.fits cfg.backlog
  · rfl
  · exact (serve_started _ _ _ _ _).1

theorem code_of_reaches (h : Reaches l cfg storage addr) :
    (run l).code = if Lane.fits cfg.backlog then 0 else 101 := by
  rw [run_of_reaches h]
  cases Lane.fits cfg.backlog
  · rfl
  · exact (serve_started _ _ _ _ _).2

end Reached

theorem failed_or_reaches (l : Launch) :
    (∃ f a, run l = failed f a) ∨ ∃ cfg storage addr, Reaches l cfg storage addr := by
  unfold run
  dsimp only
  split
  · exact .inl ⟨_, _, rfl⟩
  next cfg hcfg =>
    split
    · exact .inl ⟨_, _, rfl⟩
    next storage hstorage =>
      split
      · exact .inl ⟨_, _, rfl⟩
      next htls =>
        split
        · exact .inl ⟨_, _, rfl⟩
        next addr haddr =>
          split
          · exact .inl ⟨_, _, rfl⟩
          next hbind => exact .inr ⟨cfg, storage, addr, ⟨hcfg, hstorage, htls, haddr, hbind⟩⟩

-- A server serves exactly when its start reaches its lane with a backlog of at most `2^61 - 1`,
-- and panics, exit code 101, exactly when its start reaches its lane with a larger one.
theorem serves_iff_backlog_fits (l : Launch) :
    ((run l).started = true ↔
      ∃ cfg storage addr, Reaches l cfg storage addr ∧ cfg.backlog ≤ Lane.permitLimit) ∧
    ((run l).code = 101 ↔
      ∃ cfg storage addr, Reaches l cfg storage addr ∧ Lane.permitLimit < cfg.backlog) := by
  constructor
  · constructor
    · intro hstarted
      obtain ⟨f, a, hfailed⟩ | ⟨cfg, storage, addr, hreach⟩ := failed_or_reaches l
      · rw [hfailed] at hstarted
        cases hstarted
      rw [started_of_reaches hreach, Lane.fits_iff] at hstarted
      exact ⟨cfg, storage, addr, hreach, hstarted⟩
    · rintro ⟨cfg, storage, addr, hreach, hle⟩
      rw [started_of_reaches hreach, Lane.fits_iff]
      exact hle
  · constructor
    · intro hcode
      obtain ⟨f, a, hfailed⟩ | ⟨cfg, storage, addr, hreach⟩ := failed_or_reaches l
      · rw [hfailed] at hcode
        cases hcode
      rw [code_of_reaches hreach] at hcode
      -- a backlog that fits a lane ends in exit code 0
      split at hcode
      next => cases hcode
      next hfits =>
        rw [Lane.fits_iff] at hfits
        exact ⟨cfg, storage, addr, hreach, Nat.lt_of_not_le hfits⟩
    · rintro ⟨cfg, storage, addr, hreach, hlt⟩
      rw [code_of_reaches hreach, if_neg (by rw [Lane.fits_iff]; omega)]

-- A server given a port, TLS material and a backlog of `2^61`: its settings are accepted, and a
-- lane does not hold that backlog.
theorem backlog_two_pow_61_accepted_unfit :
    Settings.fromLookup (fun k => ([("FLOTG_HOST", "127.0.0.1"), ("FLOTG_PORT", "7400"),
        ("TLS_AUTHORITY", "tls"), ("FLOTG_QUEUE_BACKLOG", "2305843009213693952")].find?
          (·.1 == k)).map (·.2)) =
      .ok ⟨"127.0.0.1", 7400, "flo_tg.db", 2 ^ 61, 5, 30, "tls", none, Profile.telegram⟩ ∧
    Lane.fits (2 ^ 61) = false := by
  decide

end Server

end ChatArchive
