import Mathlib
import ChatArchive.Proofs.Service.Ingest
import ChatArchive.Service.Feed

namespace ChatArchive

namespace Service

variable {s : Service}

def lineText (line : List UInt8) : String :=
  (String.fromUTF8? (ByteArray.mk (stripEnding line).toArray)).getD ""

def isBlank (text : String) : Bool := (trimSpace text).isEmpty

def reads (lines : List (List UInt8)) : List (Except Json.Fault FeedLine) :=
  ((lines.map lineText).filter (!isBlank ·)).map (Json.readText Wire.feedLine)

theorem reads_cons (line : List UInt8) (lines : List (List UInt8)) :
    reads (line :: lines) = reads [line] ++ reads lines := by
  simp only [reads, List.map_cons, List.map_nil, List.filter_cons, List.filter_nil]
  split <;> simp

def countsAsPeer : Except Json.Fault FeedLine → Bool
  | .ok (.peer p) => p.ref.isSome
  | _ => false

def countsAsMalformed : Except Json.Fault FeedLine → Bool
  | .error _ => true
  | .ok (.peer p) => p.ref.isNone
  | .ok (.event _) => false

def isEvent : Except Json.Fault FeedLine → Bool
  | .ok (.event _) => true
  | _ => false

def peerOf : Except Json.Fault FeedLine → Option Peer
  | .ok (.peer p) => some p
  | _ => none

theorem countP_add_countP_add_countP (rs : List (Except Json.Fault FeedLine)) :
    rs.countP countsAsPeer + rs.countP isEvent + rs.countP countsAsMalformed = rs.length := by
  induction rs with
  | nil => rfl
  | cons r rest ih =>
    rcases r with _ | (p | u)
    · simp [List.countP_cons, countsAsPeer, isEvent, countsAsMalformed]
      omega
    · cases hp : p.ref <;> simp [countsAsPeer, isEvent, countsAsMalformed, hp] <;>
        omega
    · simp [List.countP_cons, countsAsPeer, isEvent, countsAsMalformed]
      omega

def wasStored : Except IngestError StoreOutcome → Bool
  | .ok o => o.isStored
  | .error _ => false

-- The read lines of a feed taken one at a time in file order, with nothing reported: a
-- conversation is remembered and an update ingested. For each update, whether it was stored.
def absorb (s : Service) : List (Except Json.Fault FeedLine) → List Bool × Service
  | [] => ([], s)
  | .error _ :: rest => s.absorb rest
  | .ok (.peer p) :: rest => (s.remember p).2.absorb rest
  | .ok (.event u) :: rest =>
    ((wasStored (s.ingest u none).1) :: ((s.ingest u none).2.absorb rest).1,
      ((s.ingest u none).2.absorb rest).2)

theorem absorb_append (s : Service) (a b : List (Except Json.Fault FeedLine)) :
    s.absorb (a ++ b) =
      ((s.absorb a).1 ++ ((s.absorb a).2.absorb b).1, ((s.absorb a).2.absorb b).2) := by
  induction a generalizing s with
  | nil => rfl
  | cons r rest ih =>
    rcases r with _ | (p | u) <;> simp [absorb, ih]

theorem length_absorb (s : Service) (rs : List (Except Json.Fault FeedLine)) :
    (s.absorb rs).1.length = rs.countP isEvent := by
  induction rs generalizing s with
  | nil => rfl
  | cons r rest ih =>
    rcases r with _ | (p | u) <;> simp [absorb, ih, isEvent, List.countP_cons]

theorem absorb_idle (h : s.lane.Idle) (rs : List (Except Json.Fault FeedLine)) :
    (s.absorb rs).2.lane.Idle := by
  induction rs generalizing s with
  | nil => exact h
  | cons r rest ih =>
    rcases r with _ | (p | u)
    · exact ih h
    · exact ih (remember_idle h p)
    · exact ih (ingest_idle h u).2.1

theorem absorb_directory (h : s.lane.Idle) (rs : List (Except Json.Fault FeedLine)) :
    (s.absorb rs).2.directory =
      (rs.filterMap peerOf).foldl (fun d p => (d.insert p).2) s.directory := by
  induction rs generalizing s with
  | nil => rfl
  | cons r rest ih =>
    rcases r with _ | (p | u)
    · exact ih h
    · exact ih (remember_idle h p)
    · rw [← (ingest_idle h u).2.2]
      exact ih (ingest_idle h u).2.1

theorem absorb_quiet (h : s.lane.Idle) (rs : List (Except Json.Fault FeedLine)) :
    ((s.quiet.absorb rs).1, (s.quiet.absorb rs).2.quiet) =
      ((s.absorb rs).1, (s.absorb rs).2.quiet) := by
  induction rs generalizing s with
  | nil => rfl
  | cons r rest ih =>
    rcases r with _ | (p | u)
    · exact ih h
    · exact ih (remember_idle h p)
    · -- the update comes to the same, and the rest is taken from services alike but for records
      obtain ⟨hr, ht⟩ := Prod.mk.inj (ingest_quiet h u)
      have h1 := ih (ingest_idle (quiet_idle h) u).2.1
      have h2 := ih (ingest_idle h u).2.1
      rw [ht] at h1
      obtain ⟨hout, hsvc⟩ := Prod.mk.inj (h1.symm.trans h2)
      simp only [absorb, hr, hout, hsvc]

theorem absorb_congr {t : Service} (hs : s.lane.Idle) (ht : t.lane.Idle) (hq : s.quiet = t.quiet)
    (rs : List (Except Json.Fault FeedLine)) :
    ((s.absorb rs).1, (s.absorb rs).2.quiet) = ((t.absorb rs).1, (t.absorb rs).2.quiet) := by
  rw [← absorb_quiet hs, hq, absorb_quiet ht]

def tally (stats : FeedStats) (rs : List (Except Json.Fault FeedLine)) (outs : List Bool) :
    FeedStats :=
  ⟨stats.peers + rs.countP countsAsPeer, stats.stored + outs.count true,
    stats.dropped + outs.count false, stats.malformed + rs.countP countsAsMalformed⟩

theorem tally_tally (stats : FeedStats) (rs rs' : List (Except Json.Fault FeedLine))
    (outs outs' : List Bool) :
    tally (tally stats rs outs) rs' outs' = tally stats (rs ++ rs') (outs ++ outs') := by
  simp only [tally, List.countP_append, List.count_append, Nat.add_assoc]

theorem feedLines_step (h : s.lane.Idle) (path : String) (no : Nat) (stats : FeedStats)
    {line : List UInt8} (hl : utf8Fault line = none) (rest : List (List UInt8)) :
    ∃ t : Service, s.feedLines path no stats (line :: rest) =
        t.feedLines path (no + 1) (tally stats (reads [line]) (s.absorb (reads [line])).1) rest ∧
      t.lane.Idle ∧ t.quiet = (s.absorb (reads [line])).2.quiet := by
  by_cases hb : isBlank (lineText line) = true
  · have hr : reads [line] = [] := by simp [reads, hb]
    refine ⟨s, ?_, h, by rw [hr]; rfl⟩
    simp only [isBlank, lineText] at hb
    simp only [feedLines, hl, hb, ↓reduceIte, hr]
    rfl
  · have hr : reads [line] = [Json.readText Wire.feedLine (lineText line)] := by
      simp [reads, hb]
    simp only [isBlank, lineText] at hb hr
    simp only [feedLines, hl, hb, Bool.false_eq_true, ↓reduceIte, hr]
    rcases hx : Json.readText Wire.feedLine ((String.fromUTF8? ⟨(stripEnding line).toArray⟩).getD "")
      with f | (p | u)
    · -- a line that does not read is malformed
      exact ⟨_, rfl, h.report _, rfl⟩
    · -- a conversation counts when it has a reference
      have hfst := s.remember_fst p
      have hidle := remember_idle h p
      rcases hm : s.remember p with ⟨_ | ref, t⟩ <;> rw [hm] at hfst hidle <;>
        exact ⟨t, by simp [tally, absorb, countsAsPeer, countsAsMalformed, hm, ← hfst], hidle,
          by simp [absorb, hm]⟩
    · -- an update counts as stored or dropped, and the lane never refuses it
      obtain ⟨hlane, hidle, -⟩ := ingest_idle h u
      rcases hi : s.ingest u none with ⟨r, t⟩
      rw [hi] at hlane hidle
      dsimp only
      rw [hi]
      split
      · next outcome t' heq =>
        obtain ⟨rfl, rfl⟩ := Prod.mk.inj heq
        refine ⟨t, ?_, hidle, by simp [absorb, hi]⟩
        cases hs : outcome.isStored <;>
          simp [tally, absorb, hi, wasStored, countsAsPeer, countsAsMalformed, hs]
      · next e t' heq =>
        obtain ⟨rfl, rfl⟩ := Prod.mk.inj heq
        exact absurd rfl (hlane e)
      · next e t' hne heq =>
        obtain ⟨rfl, rfl⟩ := Prod.mk.inj heq
        refine ⟨t.feedNote .debug "Event not stored" [("line", toString (no + 1)), ("err", e.text)],
          ?_, hidle.report _, by simp [absorb, hi]; rfl⟩
        simp [tally, absorb, hi, wasStored, countsAsPeer, countsAsMalformed]

theorem feedLines_of_utf8 (h : s.lane.Idle) (path : String) (lines : List (List UInt8))
    (hutf : ∀ line ∈ lines, utf8Fault line = none) (no : Nat) (stats : FeedStats) :
    ∃ t : Service, s.feedLines path no stats lines =
        (.ok (tally stats (reads lines) (s.absorb (reads lines)).1), t) ∧
      t.quiet = (s.absorb (reads lines)).2.quiet := by
  induction lines generalizing s no stats with
  | nil => exact ⟨_, rfl, rfl⟩
  | cons line rest ih =>
    obtain ⟨t, hstep, ht, hq⟩ :=
      feedLines_step h path no stats (hutf line List.mem_cons_self) rest
    obtain ⟨u, hrun, hu⟩ := ih ht (fun l hl => hutf l (List.mem_cons_of_mem _ hl)) (no + 1)
      (tally stats (reads [line]) (s.absorb (reads [line])).1)
    -- the rest is taken alike from `t` and from the service the line alone leaves
    obtain ⟨hout, hsvc⟩ := Prod.mk.inj (absorb_congr ht (absorb_idle h _) hq (reads rest))
    refine ⟨u, ?_, ?_⟩
    · rw [hstep, hrun, reads_cons line rest, absorb_append, tally_tally, hout]
    · rw [hu, hsvc, reads_cons line rest, absorb_append]

theorem feedLines_of_not_utf8 (h : s.lane.Idle) (path : String) {lines : List (List UInt8)}
    (hbad : ∃ line ∈ lines, utf8Fault line ≠ none) (no : Nat) (stats : FeedStats) :
    ∃ e t, s.feedLines path no stats lines = (.error e, t) := by
  induction lines generalizing s no stats with
  | nil => simp at hbad
  | cons line rest ih =>
    cases hl : utf8Fault line with
    | some message => exact ⟨.io path message, s, by simp [feedLines, hl]⟩
    | none =>
      obtain ⟨t, hstep, ht, -⟩ := feedLines_step h path no stats hl rest
      obtain ⟨bad, hmem, hbad'⟩ := hbad
      have hrest : ∃ line ∈ rest, utf8Fault line ≠ none := by
        rcases List.mem_cons.mp hmem with rfl | hmem
        · exact absurd hl hbad'
        · exact ⟨bad, hmem, hbad'⟩
      rw [hstep]
      exact ih ht hrest _ _

theorem feed_bytes (h : s.lane.Idle) (path : String) (bytes : ByteArray) :
    s.feed path (.bytes bytes) false =
      (s.feedNote .info "Event feed started" [("path", path)]).feedLines path 0 FeedStats.zero
        (splitLines bytes.toList) := by
  have hs : ({ s with lane := s.lane.pass } : Service) = s := by rw [Lane.Sim.Idle.pass_eq h]
  simp only [feed, hs, Bool.false_eq_true, ↓reduceIte]

-- A feed of UTF-8 lines on an idle lane ends with counts that add up to its lines that are not
-- blank: conversations with a reference, updates stored or dropped as they came out, and lines
-- that do not read or name a conversation without a reference. It leaves the directory and the
-- store that taking those lines one at a time in file order leaves, so every reference resolves
-- to the last conversation entered under it. A line that is not UTF-8 ends the feed with an
-- error instead.
theorem feed_accounting (s : Service) (h : s.lane.Idle) (path : String) (bytes : ByteArray) :
    ((∀ line ∈ splitLines bytes.toList, utf8Fault line = none) →
      ∃ stats t, s.feed path (.bytes bytes) false = (.ok stats, t) ∧
        stats.peers + stats.stored + stats.dropped + stats.malformed =
          (reads (splitLines bytes.toList)).length ∧
        stats.peers = (reads (splitLines bytes.toList)).countP countsAsPeer ∧
        stats.malformed = (reads (splitLines bytes.toList)).countP countsAsMalformed ∧
        stats.stored + stats.dropped = (reads (splitLines bytes.toList)).countP isEvent ∧
        stats.stored = (s.absorb (reads (splitLines bytes.toList))).1.count true ∧
        t.directory = (s.absorb (reads (splitLines bytes.toList))).2.directory ∧
        t.lane.world = (s.absorb (reads (splitLines bytes.toList))).2.lane.world ∧
        ∀ r, t.directory.resolve r =
          match (((reads (splitLines bytes.toList)).filterMap peerOf).filter
            (·.ref == some r)).getLast? with
          | some p => .ok p
          | none => s.directory.resolve r) ∧
    ((∃ line ∈ splitLines bytes.toList, utf8Fault line ≠ none) →
      ∃ e t, s.feed path (.bytes bytes) false = (.error e, t)) := by
  have hn : (s.feedNote .info "Event feed started" [("path", path)]).lane.Idle := h.report _
  refine ⟨fun hutf => ?_, fun hbad => ?_⟩
  · obtain ⟨t, hrun, hq⟩ := feedLines_of_utf8 hn path _ hutf 0 FeedStats.zero
    -- the note that the feed started changes nothing the lines are taken from
    obtain ⟨hout, hsvc⟩ := Prod.mk.inj (absorb_congr hn h rfl (reads (splitLines bytes.toList)))
    rw [← hq] at hsvc
    rw [hout] at hrun
    have hdir : t.directory = (s.absorb (reads (splitLines bytes.toList))).2.directory :=
      congrArg (·.directory) hsvc
    have hcount := List.count_true_add_count_false (s.absorb (reads (splitLines bytes.toList))).1
    rw [length_absorb] at hcount
    have hsum := countP_add_countP_add_countP (reads (splitLines bytes.toList))
    refine ⟨_, t, by rw [feed_bytes h, hrun], ?_, Nat.zero_add _, Nat.zero_add _, ?_,
      Nat.zero_add _, hdir,
      congrArg (·.lane.world) hsvc, fun r => ?_⟩
    · simp only [tally, FeedStats.zero]
      omega
    · simp only [tally, FeedStats.zero]
      omega
    · rw [hdir, absorb_directory h]
      exact Directory.resolve_foldl_insert _ _ _
  · rw [feed_bytes h]
    exact feedLines_of_not_utf8 hn path hbad 0 FeedStats.zero

-- A feed of one line that is not UTF-8, on a fresh service, ends with an error.
theorem fresh_feed_of_bad_line_fails :
    (Service.create ⟨Profile.telegram, 16, 5000, 5000, false, fun _ => 0⟩ (.fixed "x")).lane.Idle ∧
    ∃ e t, (Service.create ⟨Profile.telegram, 16, 5000, 5000, false, fun _ => 0⟩ (.fixed "x")).feed
      "feed.jsonl" (.bytes ⟨#[0xff, 0x0a]⟩) false = (.error e, t) := by
  have h : (Service.create ⟨Profile.telegram, 16, 5000, 5000, false, fun _ => 0⟩ (.fixed "x")).lane.Idle :=
    ⟨by decide, by decide, by decide, by decide, by decide, by decide, by decide, ⟨1, rfl⟩, rfl,
      by decide⟩
  have hbytes : (⟨#[0xff, 0x0a]⟩ : ByteArray).toList = [0xff, 0x0a] := by
    simp [ByteArray.toList, ByteArray.toList.loop, ByteArray.size]
    exact ⟨rfl, rfl⟩
  refine ⟨h, (feed_accounting _ h "feed.jsonl" ⟨#[0xff, 0x0a]⟩).2 ⟨[0xff, 0x0a], ?_, by decide⟩⟩
  rw [hbytes]
  decide

end Service

end ChatArchive
