import Mathlib
import ChatArchive.Proofs.Ingest.Names
import ChatArchive.Proofs.Store.Containers
import ChatArchive.Record.Uid

namespace ChatArchive

namespace Flags

theorem isInvalid_eq_testBit (f : Flags) : f.isInvalid = f.bits.toNat.testBit 15 := by
  have h : (f.bits &&& invalid.bits).toNat = (f.bits.toNat.testBit 15).toNat * 2 ^ 15 := by
    rw [UInt32.toNat_and]
    exact Nat.and_two_pow _ 15
  rw [isInvalid, contains, Bool.eq_iff_iff, beq_iff_eq, ← UInt32.toNat_inj, h]
  cases f.bits.toNat.testBit 15 <;> decide

@[simp] theorem isInvalid_or (a b : Flags) :
    (a ||| b).isInvalid = (a.isInvalid || b.isInvalid) := by
  rw [isInvalid_eq_testBit, isInvalid_eq_testBit, isInvalid_eq_testBit, bits_or, UInt32.toNat_or,
    Nat.testBit_or]

@[simp] theorem v1_isInvalid : v1.isInvalid = false := by decide
@[simp] theorem channel_isInvalid : channel.isInvalid = false := by decide
@[simp] theorem user_isInvalid : user.isInvalid = false := by decide
@[simp] theorem group_isInvalid : group.isInvalid = false := by decide
@[simp] theorem invalid_isInvalid : invalid.isInvalid = true := by decide

end Flags

theorem Instant.ofSeconds_isSome_iff (d : Int) : (Instant.ofSeconds d).isSome = true ↔
    Civil.daysFromCivil (-262143) 1 1 * 86400 ≤ d ∧
      d < Civil.daysFromCivil 262143 1 1 * 86400 := by
  have hmin : Civil.daysFromCivil (-262143) 1 1 * 86400 = Instant.minSeconds := by decide
  have hmax : Civil.daysFromCivil 262143 1 1 * 86400 = Instant.maxSeconds + 1 := by decide
  rw [hmin, hmax, Instant.ofSeconds]
  split <;> simp_all

theorem Instant.ofSeconds_eq_of_isSome {d : Int} (h : (Instant.ofSeconds d).isSome = true) :
    Instant.ofSeconds d = some ⟨d, 0⟩ := by
  rw [Instant.ofSeconds] at h ⊢
  split at h <;> simp_all

theorem Peer.ref_eq_none_iff {peer : Peer} : peer.ref = none ↔ peer = .unknown := by
  cases peer <;> simp [Peer.ref]

namespace Profile

variable (p : Profile)

theorem sourceUid_isEmpty (id : Int) : (p.sourceUid id).isEmpty = false := by
  simp [sourceUid]

theorem sourceOf_of_ref {peer : Peer} {ref : PeerRef} (h : peer.ref = some ref) :
    (p.sourceOf peer).uid = p.sourceUid ref.id ∧
      (p.sourceOf peer).flags.isInvalid = p.flag.isInvalid := by
  cases peer <;> cases h <;> simp [sourceOf, PeerRef.id]

theorem messageOf_createdAt (m : TextMessage) (s : Source) :
    (p.messageOf m s).createdAt = (Instant.ofSeconds m.date).getD Instant.epoch := by
  simp only [messageOf]
  split <;> simp_all

theorem messageOf_flags (m : TextMessage) (s : Source) :
    (p.messageOf m s).flags =
      if (Instant.ofSeconds m.date).isSome && !s.uid.isEmpty then s.flags
      else s.flags ||| Flags.invalid := by
  simp only [messageOf]
  split <;> simp_all

theorem valid_source_sourceOf (peer : Peer) :
    (Write.source (p.sourceOf peer)).Valid ↔ peer ≠ .unknown ∧ p.flag.isInvalid = false := by
  cases href : peer.ref with
  | none =>
    rw [Peer.ref_eq_none_iff] at href
    subst href
    simp [Write.Valid, sourceOf]
  | some ref =>
    obtain ⟨huid, hflags⟩ := p.sourceOf_of_ref href
    have hpeer : peer ≠ .unknown := fun h => by simp [h, Peer.ref] at href
    simp [Write.Valid, huid, hflags, hpeer, sourceUid_isEmpty]

theorem valid_message_messageOf (peer : Peer) (m : TextMessage) :
    (Write.message (p.sourceOf peer) (p.messageOf m (p.sourceOf peer))).Valid ↔
      (Write.source (p.sourceOf peer)).Valid ∧ (Instant.ofSeconds m.date).isSome = true := by
  simp only [Write.Valid, messageOf_flags, messageOf_uid, messageOf_sourceUid, and_true]
  by_cases hv : (p.sourceOf peer).flags.isInvalid = false ∧
      (p.sourceOf peer).uid.isEmpty = false
  · obtain ⟨hf, hu⟩ := hv
    cases ht : (Instant.ofSeconds m.date).isSome <;> simp [hf, hu]
  · refine iff_of_false (fun hw => hv ⟨hw.1, ?_⟩) fun h => hv h.1
    -- a source without a uid marks its messages
    obtain ⟨-, hm, -⟩ := hw
    cases hu : (p.sourceOf peer).uid.isEmpty
    · rfl
    · simp [hu] at hm

end Profile

-- Conversion and storage agree, for every profile flag, conversation and date: what conversion
-- leaves unmarked passes the checks of its write, what it marks fails them, and a message that
-- passes carries its source's uid and flags and the instant of its date.
theorem storage_checks_agree_with_conversion (p : Profile) (peer : Peer) (m : TextMessage) :
    ((Write.source (p.sourceOf peer)).Valid ↔ peer ≠ .unknown ∧ p.flag.isInvalid = false) ∧
    ((Write.message (p.sourceOf peer) (p.messageOf m (p.sourceOf peer))).Valid ↔
      peer ≠ .unknown ∧ p.flag.isInvalid = false ∧
        Civil.daysFromCivil (-262143) 1 1 * 86400 ≤ m.date ∧
        m.date < Civil.daysFromCivil 262143 1 1 * 86400) ∧
    ((Write.message (p.sourceOf peer) (p.messageOf m (p.sourceOf peer))).Valid →
      (p.messageOf m (p.sourceOf peer)).sourceUid = (p.sourceOf peer).uid ∧
      (p.messageOf m (p.sourceOf peer)).flags = (p.sourceOf peer).flags ∧
      (p.messageOf m (p.sourceOf peer)).createdAt = ⟨m.date, 0⟩) := by
  refine ⟨p.valid_source_sourceOf peer, ?_, fun hv => ?_⟩
  · rw [p.valid_message_messageOf, p.valid_source_sourceOf, Instant.ofSeconds_isSome_iff,
      and_assoc]
  · obtain ⟨⟨-, hu⟩, ht⟩ := (p.valid_message_messageOf peer m).mp hv
    refine ⟨rfl, ?_, ?_⟩
    · simp [Profile.messageOf_flags, ht, hu]
    · rw [Profile.messageOf_createdAt, Instant.ofSeconds_eq_of_isSome ht, Option.getD_some]

theorem telegram_channel_post_passes_checks :
    (Write.message (Profile.telegram.sourceOf (.channel 42 "News" none))
      (Profile.telegram.messageOf ⟨7, 1700000000, .channel 42, "hi", true, none⟩
        (Profile.telegram.sourceOf (.channel 42 "News" none)))).Valid ∧
    (Profile.telegram.messageOf ⟨7, 1700000000, .channel 42, "hi", true, none⟩
        (Profile.telegram.sourceOf (.channel 42 "News" none))).createdAt = ⟨1700000000, 0⟩ := by
  have h := storage_checks_agree_with_conversion Profile.telegram (.channel 42 "News" none)
    ⟨7, 1700000000, .channel 42, "hi", true, none⟩
  have hv := h.2.1.mpr ⟨by simp, by decide, by decide, by decide⟩
  exact ⟨hv, (h.2.2 hv).2.2⟩

namespace Decimal

theorem isDigit_eq (c : Char) : isDigit c = c.isDigit := by
  simp [isDigit, Char.isDigit, Char.le_def]

theorem digitsValue_eq_ofDigitChars (cs : List Char) :
    digitsValue cs = Nat.ofDigitChars 10 cs 0 := by
  simp only [digitsValue, Nat.ofDigitChars, Nat.mul_comm]

theorem natOf?_toDigits (n : Nat) : natOf? (Nat.toDigits 10 n) = some n := by
  have hall : (Nat.toDigits 10 n).all isDigit = true := by
    simp only [List.all_eq_true, isDigit_eq]
    exact fun c hc => Nat.isDigit_of_mem_toDigits (by decide) (by decide) hc
  simp [natOf?, Nat.toDigits_ne_nil, hall, digitsValue_eq_ofDigitChars]

theorem i64OfDigits?_of_not_digit {cs : List Char} {c : Char} (hc : c ∈ cs)
    (h : c.isDigit = false) : i64OfDigits? cs = none := by
  have hall : cs.all isDigit = false := by
    simp only [List.all_eq_false, isDigit_eq]
    exact ⟨c, hc, by simp [h]⟩
  simp [i64OfDigits?, natOf?, hall]

theorem i64OfDigits?_toString {d : Int} (hd : FitsI64 d) :
    i64OfDigits? (toString d).toList = if 0 ≤ d then some d else none := by
  cases d with
  | ofNat n =>
    have hle : (n : Int) ≤ i64Max := hd.2
    simp [Int.toString_eq_repr, Int.repr, Nat.toList_repr, i64OfDigits?, natOf?_toDigits, hle]
  | negSucc n =>
    rw [if_neg (by omega)]
    refine i64OfDigits?_of_not_digit (show '-' ∈ (toString (Int.negSucc n)).toList by
      simp [Int.toString_eq_repr, Int.repr]) (by decide)

end Decimal

theorem Int.toList_toString_natCast (n : Nat) :
    (toString (n : Int)).toList = Nat.toDigits 10 n := by
  simp [Int.toString_eq_repr, Int.repr, Nat.toList_repr]

theorem Int.toList_toString_negSucc (n : Nat) :
    (toString (Int.negSucc n)).toList = '-' :: Nat.toDigits 10 (n + 1) := by
  simp [Int.toString_eq_repr, Int.repr, Nat.toList_repr]

theorem dash_not_mem_toDigits (n : Nat) : '-' ∉ Nat.toDigits 10 n := fun h =>
  absurd (Nat.isDigit_of_mem_toDigits (by decide) (by decide) h) (by decide)

namespace Uid

theorem splitFirst_of_first {sep pre : List Char} (rest : List Char)
    (h : ∀ i < pre.length, ¬ sep <+: (pre ++ sep).drop i) :
    splitFirst sep (pre ++ sep ++ rest) = some (pre, rest) := by
  induction pre with
  | nil =>
    cases sep with
    | nil => cases rest <;> rfl
    | cons c cs => simp [splitFirst, List.isPrefixOf_iff_prefix]
  | cons a pre ih =>
    have hhead : ¬ sep <+: a :: (pre ++ sep ++ rest) := by
      intro hp
      refine h 0 (Nat.zero_lt_succ _) (List.prefix_of_prefix_length_le hp ⟨rest, by simp⟩ ?_)
      simp only [List.drop_zero, List.cons_append, List.length_cons, List.length_append]
      omega
    have hrest : ∀ i < pre.length, ¬ sep <+: (pre ++ sep).drop i := fun i hi =>
      h (i + 1) (Nat.succ_lt_succ hi)
    rw [List.cons_append, List.cons_append, splitFirst,
      if_neg (by rw [List.isPrefixOf_iff_prefix]; exact hhead), ih hrest]
    rfl

theorem breakAt_of_not_mem {c : Char} {a : List Char} (b : List Char) (h : c ∉ a) :
    breakAt c (a ++ c :: b) = some (a, b) := by
  induction a with
  | nil => simp [breakAt]
  | cons x a ih =>
    have hx : x ≠ c := fun hx => h (hx ▸ List.mem_cons_self)
    have hrest : c ∉ a := fun hc => h (List.mem_cons_of_mem _ hc)
    rw [List.cons_append, breakAt, if_neg hx, ih hrest]
    rfl

end Uid

namespace Profile

variable {p : Profile}

section ReadBack

-- The prefix reads back whole: it is not empty, and the marker does not start inside it.
variable (hne : p.uidPrefix ≠ "")
  (hfirst : ∀ i < p.uidPrefix.length,
    ¬ "-fromid-".toList <+: (p.uidPrefix ++ "-fromid-").toList.drop i)
include hne hfirst

theorem sourceId?_uidPrefix_append (rest : String) :
    Uid.sourceId? (p.uidPrefix ++ "-fromid-" ++ rest) = Decimal.i64OfDigits? rest.toList := by
  have hsplit : Uid.splitFirst "-fromid-".toList (p.uidPrefix ++ "-fromid-" ++ rest).toList =
      some (p.uidPrefix.toList, rest.toList) := by
    rw [String.toList_append, String.toList_append]
    exact Uid.splitFirst_of_first _ fun i hi => by
      simpa using hfirst i (by rwa [String.length_toList] at hi)
  have hlead : p.uidPrefix.toList.isEmpty = false := by simpa using hne
  rw [Uid.sourceId?, show Uid.fromIdMarker = "-fromid-".toList from rfl, hsplit]
  simp only [hlead, Bool.false_eq_true, ↓reduceIte]

theorem sourceId?_sourceUid {d : Int} (hd : Decimal.FitsI64 d) :
    Uid.sourceId? (p.sourceUid d) = if 0 ≤ d then some d else none := by
  rw [sourceUid, sourceId?_uidPrefix_append hne hfirst, Decimal.i64OfDigits?_toString hd]

theorem messageId?_messageUid {d n : Int} (hd : Decimal.FitsI64 d) (hn : Decimal.FitsI64 n) :
    Uid.messageId? (p.sourceUid d ++ "-" ++ toString n) =
      if 0 ≤ d ∧ 0 ≤ n then some n else none := by
  cases n with
  | ofNat k =>
    rw [Int.ofNat_eq_natCast] at hn ⊢
    -- the id has no dash, so the last dash is the one before it
    have hbreak : Uid.breakAt '-' (p.sourceUid d ++ "-" ++ toString (k : Int)).toList.reverse =
        some ((Nat.toDigits 10 k).reverse, (p.sourceUid d).toList.reverse) := by
      rw [String.toList_append, String.toList_append, Int.toList_toString_natCast,
        List.reverse_append, List.reverse_append]
      exact Uid.breakAt_of_not_mem _ (by simpa using dash_not_mem_toDigits k)
    rw [Uid.messageId?, hbreak]
    simp only [List.reverse_reverse, String.ofList_toList, sourceId?_sourceUid hne hfirst hd]
    by_cases h0 : 0 ≤ d
    · have hk := Decimal.i64OfDigits?_toString hn
      rw [Int.toList_toString_natCast] at hk
      simp [h0, hk]
    · simp [h0]
  | negSucc k =>
    -- the last dash is the minus sign, and the part before it ends in a dash
    have hbreak : Uid.breakAt '-'
        (p.sourceUid d ++ "-" ++ toString (Int.negSucc k)).toList.reverse =
        some ((Nat.toDigits 10 (k + 1)).reverse, '-' :: (p.sourceUid d).toList.reverse) := by
      rw [String.toList_append, String.toList_append, Int.toList_toString_negSucc]
      simpa using Uid.breakAt_of_not_mem ('-' :: (p.sourceUid d).toList.reverse)
        (by simpa using dash_not_mem_toDigits (k + 1))
    have hsource : Uid.sourceId? (String.ofList ('-' :: (p.sourceUid d).toList.reverse).reverse) =
        none := by
      rw [List.reverse_cons, List.reverse_reverse, String.ofList_append, String.ofList_toList,
        sourceUid, String.append_assoc, sourceId?_uidPrefix_append hne hfirst]
      exact Decimal.i64OfDigits?_of_not_digit (show '-' ∈ _ by simp) (by decide)
    rw [Uid.messageId?, hbreak]
    simp only [hsource]
    simp

end ReadBack

end Profile

-- The ids of a classified conversation and of its messages read back out of their uids, for
-- every prefix that reads back whole: a negative id never does, nor does the id of a message of
-- a conversation whose id is negative.
theorem ids_read_back_from_uids (p : Profile) (hne : p.uidPrefix ≠ "")
    (hfirst : ∀ i < p.uidPrefix.length,
      ¬ "-fromid-".toList <+: (p.uidPrefix ++ "-fromid-").toList.drop i)
    {peer : Peer} {ref : PeerRef} (href : peer.ref = some ref) (hd : Decimal.FitsI64 ref.id)
    (m : TextMessage) (hn : Decimal.FitsI64 m.id) :
    Uid.sourceId? (p.sourceOf peer).uid = (if 0 ≤ ref.id then some ref.id else none) ∧
      Uid.messageId? (p.messageOf m (p.sourceOf peer)).uid =
        if 0 ≤ ref.id ∧ 0 ≤ m.id then some m.id else none := by
  have huid := (p.sourceOf_of_ref href).1
  refine ⟨?_, ?_⟩
  · rw [huid, Profile.sourceId?_sourceUid hne hfirst hd]
  · rw [Profile.messageOf_uid, huid, Profile.messageId?_messageUid hne hfirst hd hn]

theorem telegram_ids_read_back :
    Profile.telegram.uidPrefix ≠ "" ∧
    (∀ i < Profile.telegram.uidPrefix.length,
      ¬ "-fromid-".toList <+: (Profile.telegram.uidPrefix ++ "-fromid-").toList.drop i) ∧
    (Peer.channel 42 "News" none).ref = some (.channel 42) ∧
    Decimal.FitsI64 42 ∧ Decimal.FitsI64 7 ∧
    Uid.sourceId? (Profile.telegram.sourceOf (.channel 42 "News" none)).uid = some 42 ∧
    Uid.messageId? (Profile.telegram.messageOf ⟨7, 1700000000, .channel 42, "hi", true, none⟩
      (Profile.telegram.sourceOf (.channel 42 "News" none))).uid = some 7 := by
  have hne : Profile.telegram.uidPrefix ≠ "" := by decide
  have hfirst : ∀ i < Profile.telegram.uidPrefix.length,
      ¬ "-fromid-".toList <+: (Profile.telegram.uidPrefix ++ "-fromid-").toList.drop i := by
    decide
  have href : (Peer.channel 42 "News" none).ref = some (.channel 42) := rfl
  have hd : Decimal.FitsI64 42 := by decide
  have hn : Decimal.FitsI64 7 := by decide
  have h := ids_read_back_from_uids Profile.telegram hne hfirst href hd
    ⟨7, 1700000000, .channel 42, "hi", true, none⟩ hn
  exact ⟨hne, hfirst, href, hd, hn, by simpa [PeerRef.id] using h.1,
    by simpa [PeerRef.id] using h.2⟩

end ChatArchive
