import Mathlib
import ChatArchive.Proofs.Snapshot.Wire
import ChatArchive.Text.Decimal

namespace ChatArchive

open Proto

structure Source.InRange (s : Source) : Prop where
  uid : s.uid.utf8ByteSize < 2 ^ 64
  title : s.title.utf8ByteSize < 2 ^ 64
  deepId : Decimal.FitsI64 s.deepId

structure Instant.InRange (t : Instant) : Prop where
  min : Instant.minSeconds ≤ t.seconds
  max : t.seconds ≤ Instant.maxSeconds
  nanos : t.nanos < 2000000000

-- A message as the program's types hold it.
structure Message.InRange (m : Message) : Prop where
  createdAt : m.createdAt.InRange
  sourceUid : m.sourceUid.utf8ByteSize < 2 ^ 64
  uid : m.uid.utf8ByteSize < 2 ^ 64
  text : m.text.utf8ByteSize < 2 ^ 64
  links : ∀ l ∈ m.links, l.utf8ByteSize < 2 ^ 64

structure SourceSnapshot.InRange (d : SourceSnapshot) : Prop where
  uid : d.uid.utf8ByteSize < 2 ^ 64
  title : d.title.utf8ByteSize < 2 ^ 64
  deepId : Decimal.FitsI64 d.deepId

structure MessageSnapshot.InRange (d : MessageSnapshot) : Prop where
  sourceUid : d.sourceUid.utf8ByteSize < 2 ^ 64
  uid : d.uid.utf8ByteSize < 2 ^ 64
  text : d.text.utf8ByteSize < 2 ^ 64
  links : ∀ l ∈ d.links, l.utf8ByteSize < 2 ^ 64

theorem Instant.InRange.millis_fits {t : Instant} (ht : t.InRange) : Decimal.FitsI64 t.millis := by
  obtain ⟨hmin, hmax, hnanos⟩ := ht
  simp only [Decimal.FitsI64, Decimal.i64Min, Decimal.i64Max, Instant.millis, Instant.minSeconds,
    Instant.maxSeconds] at hmin hmax ⊢
  omega

namespace Instant

theorem ofMillis_millis {t : Instant} (ht : t.InRange)
    (hmax : t.seconds + (t.nanos / 1000000000 : Nat) ≤ maxSeconds) :
    ofMillis t.millis =
      some ⟨t.seconds + (t.nanos / 1000000000 : Nat),
        t.nanos % 1000000000 / 1000000 * 1000000⟩ := by
  obtain ⟨hmin, -, -⟩ := ht
  have hdiv : t.millis / 1000 = t.seconds + (t.nanos / 1000000000 : Nat) := by
    simp only [millis]
    omega
  have hmod : (t.millis % 1000).toNat = t.nanos % 1000000000 / 1000000 := by
    simp only [millis]
    omega
  simp only [ofMillis, hdiv, hmod]
  rw [if_pos ⟨by omega, hmax⟩]

theorem ofMillis_millis_of_lt {t : Instant} (ht : t.InRange) (hleap : t.nanos < 1000000000) :
    ofMillis t.millis = some ⟨t.seconds, t.nanos / 1000000 * 1000000⟩ := by
  have hq : t.nanos / 1000000000 = 0 := Nat.div_eq_of_lt hleap
  rw [ofMillis_millis ht (by rw [hq]; simpa using ht.max), hq, Nat.mod_eq_of_lt hleap]
  simp

theorem ofMillis_millis_of_leap {t : Instant} (ht : t.InRange) (hleap : 1000000000 ≤ t.nanos)
    (hlast : t.seconds < maxSeconds) :
    ofMillis t.millis = some ⟨t.seconds + 1, (t.nanos - 1000000000) / 1000000 * 1000000⟩ := by
  have hnanos := ht.nanos
  have hq : t.nanos / 1000000000 = 1 := by omega
  have hr : t.nanos % 1000000000 = t.nanos - 1000000000 := by omega
  rw [ofMillis_millis ht (by rw [hq]; omega), hq, hr]
  simp

theorem ofMillis_millis_of_last {t : Instant} (ht : t.InRange) (hleap : 1000000000 ≤ t.nanos)
    (hlast : t.seconds = maxSeconds) : ofMillis t.millis = none := by
  have hnanos := ht.nanos
  have hdiv : t.millis / 1000 = maxSeconds + 1 := by
    simp only [millis]
    omega
  simp only [ofMillis, hdiv]
  rw [if_neg (by omega)]

theorem ofMillis_inRange {ms : Int} {t : Instant} (h : ofMillis ms = some t) :
    t.InRange ∧ t.nanos < 1000000000 ∧ t.nanos % 1000000 = 0 := by
  simp only [ofMillis] at h
  split at h
  · rename_i hrange
    cases h
    have hms : (ms % 1000).toNat < 1000 := by omega
    exact ⟨⟨hrange.1, hrange.2, by dsimp only; omega⟩, by dsimp only; omega, by simp⟩
  · cases h

end Instant

namespace Snapshot

section Steps

variable {D : Type} {F : Nat → D → Nat → Except Trouble D} {b : ByteArray} {i : Nat}

def Steps (F : Nat → D → Nat → Except Trouble D) (b : ByteArray) (i : Nat) (E : List UInt8)
    (d d' : D) : Prop :=
  ∀ fuel, b.size < i + fuel →
    ∃ fuel', b.size < i + E.length + fuel' ∧ F i d fuel = F (i + E.length) d' fuel'

theorem Steps.nil {d : D} : Steps F b i [] d d :=
  fun fuel hfuel => ⟨fuel, by simpa using hfuel, rfl⟩

theorem Steps.trans {E₁ E₂ : List UInt8} {d d₁ d₂ : D} (h₁ : Steps F b i E₁ d d₁)
    (h₂ : Steps F b (i + E₁.length) E₂ d₁ d₂) : Steps F b i (E₁ ++ E₂) d d₂ := by
  intro fuel hfuel
  obtain ⟨fuel₁, hfuel₁, heq₁⟩ := h₁ fuel hfuel
  obtain ⟨fuel₂, hfuel₂, heq₂⟩ := h₂ fuel₁ hfuel₁
  refine ⟨fuel₂, ?_, ?_⟩
  · rw [List.length_append, ← Nat.add_assoc]
    exact hfuel₂
  · rw [heq₁, heq₂, List.length_append, Nat.add_assoc]

theorem Steps.of_at {E : List UInt8} {d d' : D} (h : At b i E) (hnil : E = [] → d' = d)
    (hstep : E ≠ [] → i < b.size → ∀ fuel, F i d (fuel + 1) = F (i + E.length) d' fuel) :
    Steps F b i E d d' := by
  cases E with
  | nil =>
    rw [hnil rfl]
    exact Steps.nil
  | cons x E =>
    intro fuel hfuel
    -- the field's first byte is in `b`, so the fuel is not spent yet
    have hi := h.lt_size 0 (Nat.succ_pos _)
    obtain ⟨fuel', rfl⟩ : ∃ fuel', fuel = fuel' + 1 := Nat.exists_eq_succ_of_ne_zero (by omega)
    refine ⟨fuel', ?_, hstep (List.cons_ne_nil x E) (by simpa using hi) fuel'⟩
    simp only [List.length_cons]
    omega

theorem Steps.run {E : List UInt8} {d d' : D} (h : Steps F b i E d d')
    (hdone : ∀ fuel, F (i + E.length) d' fuel = .ok d') (fuel : Nat) (hfuel : b.size < i + fuel) :
    F i d fuel = .ok d' := by
  obtain ⟨fuel', -, heq⟩ := h fuel hfuel
  rw [heq, hdone]

theorem Steps.stop {E : List UInt8} {d d' : D} (h : Steps F b i E d d')
    (hlt : i + E.length < b.size) (hstop : ∀ fuel, ∃ e, F (i + E.length) d' (fuel + 1) = .error e)
    (fuel : Nat) (hfuel : b.size < i + fuel) : ∃ e, F i d fuel = .error e := by
  obtain ⟨fuel', hfuel', heq⟩ := h fuel hfuel
  obtain ⟨fuel'', rfl⟩ : ∃ f, fuel' = f + 1 := Nat.exists_eq_succ_of_ne_zero (by omega)
  rw [heq]
  exact hstop fuel''

end Steps

theorem int64Field_eq (tag : Nat) (n : Int) :
    int64Field tag n = varintField tag (if n ≥ 0 then n.toNat else (Int.pow 2 64 + n).toNat) := rfl

section TwosComplement

variable {n : Int} (h : Decimal.FitsI64 n)
include h

theorem twos_lt : (if n ≥ 0 then n.toNat else (Int.pow 2 64 + n).toNat) < 2 ^ 64 := by
  obtain ⟨hmin, hmax⟩ := h
  simp only [Decimal.i64Min, Decimal.i64Max] at hmin hmax
  have hpow : Int.pow 2 64 = 18446744073709551616 := rfl
  split <;> omega

theorem twos_eq_zero : (if n ≥ 0 then n.toNat else (Int.pow 2 64 + n).toNat) = 0 ↔ n = 0 := by
  obtain ⟨hmin, -⟩ := h
  simp only [Decimal.i64Min] at hmin
  have hpow : Int.pow 2 64 = 18446744073709551616 := rfl
  split <;> omega

theorem toInt64_twos : toInt64 (if n ≥ 0 then n.toNat else (Int.pow 2 64 + n).toNat) = n := by
  obtain ⟨hmin, hmax⟩ := h
  simp only [Decimal.i64Min, Decimal.i64Max] at hmin hmax
  have hpow : Int.pow 2 64 = 18446744073709551616 := rfl
  simp only [toInt64, Nat.pow_eq, hpow]
  split <;> split <;> omega

end TwosComplement

theorem toInt64_fits {v : Nat} (h : v < 2 ^ 64) : Decimal.FitsI64 (toInt64 v) := by
  have hpow : Int.pow 2 64 = 18446744073709551616 := rfl
  simp only [Decimal.FitsI64, Decimal.i64Min, Decimal.i64Max, toInt64, Nat.pow_eq, hpow]
  split <;> omega

section SourceFields

variable {b : ByteArray} {i : Nat} {d : SourceSnapshot}

theorem sourceFields_of_size_le {fuel : Nat} (h : b.size ≤ i) :
    sourceFields b i d fuel = .ok d := by
  cases fuel with
  | zero => rfl
  | succ fuel => simp [sourceFields, h, pure, Except.pure]

theorem steps_sourceFlags {n : Nat} (h : At b i (varintField 1 n)) (hn : n < 2 ^ 32)
    (hd : d.flags = 0) : Steps (sourceFields b) b i (varintField 1 n) d { d with flags := n } := by
  refine Steps.of_at h (fun hnil => ?_) (fun hne hi fuel => ?_)
  · obtain rfl := varintField_eq_nil.mp hnil
    cases d
    simp_all
  · rw [varintField_of_ne (fun h0 => hne (varintField_eq_nil.mpr h0))] at h ⊢
    obtain ⟨hkey, hval⟩ := varintEntry_at h (by decide) (by decide)
    simp only [sourceFields, Nat.not_le.mpr hi, ↓reduceIte, hkey, hval, bind, Except.bind, within,
      Nat.pow_eq, Nat.mod_eq_of_lt (show n < 2 ^ 64 by omega), Nat.mod_eq_of_lt hn]

theorem steps_sourceUid {s : String} (h : At b i (stringField 2 s)) (hs : s.utf8ByteSize < 2 ^ 64)
    (hd : d.uid = "") : Steps (sourceFields b) b i (stringField 2 s) d { d with uid := s } := by
  refine Steps.of_at h (fun hnil => ?_) (fun hne hi fuel => ?_)
  · obtain rfl := stringField_eq_nil.mp hnil
    cases d
    simp_all
  · rw [stringField_of_ne (fun h0 => hne (stringField_eq_nil.mpr h0))] at h ⊢
    obtain ⟨hkey, htext⟩ := stringEntry_at h (by decide) (by decide) hs
    simp only [sourceFields, Nat.not_le.mpr hi, ↓reduceIte, hkey, htext, bind, Except.bind, within]

theorem steps_sourceTitle {s : String} (h : At b i (stringField 3 s))
    (hs : s.utf8ByteSize < 2 ^ 64) (hd : d.title = "") :
    Steps (sourceFields b) b i (stringField 3 s) d { d with title := s } := by
  refine Steps.of_at h (fun hnil => ?_) (fun hne hi fuel => ?_)
  · obtain rfl := stringField_eq_nil.mp hnil
    cases d
    simp_all
  · rw [stringField_of_ne (fun h0 => hne (stringField_eq_nil.mpr h0))] at h ⊢
    obtain ⟨hkey, htext⟩ := stringEntry_at h (by decide) (by decide) hs
    simp only [sourceFields, Nat.not_le.mpr hi, ↓reduceIte, hkey, htext, bind, Except.bind, within]

theorem steps_sourceDeepId {n : Int} (h : At b i (int64Field 4 n)) (hn : Decimal.FitsI64 n)
    (hd : d.deepId = 0) : Steps (sourceFields b) b i (int64Field 4 n) d { d with deepId := n } := by
  rw [int64Field_eq] at h ⊢
  refine Steps.of_at h (fun hnil => ?_) (fun hne hi fuel => ?_)
  · obtain rfl := (twos_eq_zero hn).mp (varintField_eq_nil.mp hnil)
    cases d
    simp_all
  · rw [varintField_of_ne (fun h0 => hne (varintField_eq_nil.mpr h0))] at h ⊢
    obtain ⟨hkey, hval⟩ := varintEntry_at h (by decide) (by decide)
    simp only [sourceFields, Nat.not_le.mpr hi, ↓reduceIte, hkey, hval, bind, Except.bind, within,
      Nat.mod_eq_of_lt (twos_lt hn), toInt64_twos hn]

theorem sourceFields_of_number_uid {n : Nat} (h : At b i (keyBytes 2 .varint ++ varintBytes n))
    (fuel : Nat) : ∃ e, sourceFields b i d (fuel + 1) = .error e := by
  have hi : i < b.size := by simpa using h.lt_size 0 (by simp [keyBytes, length_varintBytes_pos])
  obtain ⟨hkey, -⟩ := varintEntry_at h (by decide) (by decide)
  simp only [sourceFields, Nat.not_le.mpr hi, ↓reduceIte, hkey, bind, Except.bind, within, string,
    delimited, expectWire]
  exact ⟨_, rfl⟩

theorem sourceFields_of_text_deepId {s : String} (h : At b i (stringEntry 4 s))
    (hs : s.utf8ByteSize < 2 ^ 64) (fuel : Nat) : ∃ e, sourceFields b i d (fuel + 1) = .error e := by
  have hi : i < b.size := by
    simpa using h.lt_size 0 (by simp [stringEntry, keyBytes, length_varintBytes_pos])
  obtain ⟨hkey, -⟩ := stringEntry_at h (by decide) (by decide) hs
  simp only [sourceFields, Nat.not_le.mpr hi, ↓reduceIte, hkey, bind, Except.bind, within,
    varintValue, expectWire]
  exact ⟨_, rfl⟩

end SourceFields

theorem sourceFields_encodeSource (s : Source) (hs : s.InRange) :
    sourceFields (encodeSource s) 0 ⟨0, "", "", 0⟩ ((encodeSource s).size + 1) =
      .ok ⟨s.flags.bits.toNat, s.uid, s.title, s.deepId⟩ := by
  have hat : At (encodeSource s) 0 (varintField 1 s.flags.bits.toNat ++ stringField 2 s.uid
      ++ stringField 3 s.title ++ int64Field 4 s.deepId) := at_mk _
  obtain ⟨h123, h4⟩ := At.append.mp hat
  obtain ⟨h12, h3⟩ := At.append.mp h123
  obtain ⟨h1, h2⟩ := At.append.mp h12
  -- the four fields, each read into the record the one before left
  have hsteps : Steps (sourceFields (encodeSource s)) (encodeSource s) 0
      (varintField 1 s.flags.bits.toNat ++ stringField 2 s.uid ++ stringField 3 s.title
        ++ int64Field 4 s.deepId) ⟨0, "", "", 0⟩ ⟨s.flags.bits.toNat, s.uid, s.title, s.deepId⟩ :=
    (((steps_sourceFlags h1 s.flags.bits.toNat_lt rfl).trans (steps_sourceUid h2 hs.uid rfl)).trans
      (steps_sourceTitle h3 hs.title rfl)).trans (steps_sourceDeepId h4 hs.deepId rfl)
  refine hsteps.run (fun _ => sourceFields_of_size_le ?_) _ (by omega)
  simp [encodeSource, ByteArray.size]

theorem decodeSource_encodeSource (s : Source) (hs : s.InRange) (hu : s.uid ≠ "") :
    decodeSource (encodeSource s) = .ok s := by
  simp only [decodeSource, sourceFields_encodeSource s hs]
  simp [hu, String.isEmpty_iff]

theorem decodeSource_encodeMessage (m : Message) (hm : m.InRange) (hu : m.uid ≠ "") :
    ∃ e, decodeSource (encodeMessage m) = .error e := by
  have hat : At (encodeMessage m) 0 (varintField 1 m.flags.bits.toNat
      ++ int64Field 2 m.createdAt.millis ++ stringField 3 m.sourceUid ++ stringField 4 m.uid
      ++ stringField 5 m.text ++ m.links.flatMap (stringEntry 6)) := at_mk _
  obtain ⟨h1234, -⟩ := At.append.mp (At.append.mp hat).1
  obtain ⟨h123, h4⟩ := At.append.mp h1234
  obtain ⟨h12, h3⟩ := At.append.mp h123
  obtain ⟨h1, h2⟩ := At.append.mp h12
  have hflags := steps_sourceFlags (d := ⟨0, "", "", 0⟩) h1 m.flags.bits.toNat_lt rfl
  have hloop : ∃ e, sourceFields (encodeMessage m) 0 ⟨0, "", "", 0⟩
      ((encodeMessage m).size + 1) = .error e := by
    by_cases hz : (if m.createdAt.millis ≥ 0 then m.createdAt.millis.toNat
        else (Int.pow 2 64 + m.createdAt.millis).toNat) = 0
    · -- no time is written, so the conversation is read as a title and the uid as a deep id
      have hnil : int64Field 2 m.createdAt.millis = [] := varintField_eq_nil.mpr hz
      have htime : Steps (sourceFields (encodeMessage m)) (encodeMessage m)
          (0 + (varintField 1 m.flags.bits.toNat).length) (int64Field 2 m.createdAt.millis)
          { (⟨0, "", "", 0⟩ : SourceSnapshot) with flags := m.flags.bits.toNat }
          { (⟨0, "", "", 0⟩ : SourceSnapshot) with flags := m.flags.bits.toNat } :=
        Steps.of_at h2 (fun _ => rfl) fun hne => absurd hnil hne
      have hsteps := (hflags.trans htime).trans (steps_sourceTitle h3 hm.sourceUid rfl)
      rw [stringField_of_ne hu] at h4
      have hlt := h4.lt_size 0 (List.length_pos_of_ne_nil (stringEntry_ne_nil _ _))
      exact hsteps.stop (by simpa using hlt)
        (fun fuel => sourceFields_of_text_deepId h4 hm.uid fuel) _ (by omega)
    · rw [int64Field_eq, varintField_of_ne hz] at h2
      exact hflags.stop (by simpa using h2.lt_size 0 (by simp [keyBytes, length_varintBytes_pos]))
        (fun fuel => sourceFields_of_number_uid h2 fuel) _ (by omega)
  obtain ⟨e, he⟩ := hloop
  exact ⟨.decode e, by simp only [decodeSource, he]⟩

section MessageFields

variable {b : ByteArray} {i : Nat} {d : MessageSnapshot}

theorem messageFields_of_size_le {fuel : Nat} (h : b.size ≤ i) :
    messageFields b i d fuel = .ok d := by
  cases fuel with
  | zero => rfl
  | succ fuel => simp [messageFields, h, pure, Except.pure]

theorem steps_messageFlags {n : Nat} (h : At b i (varintField 1 n)) (hn : n < 2 ^ 32)
    (hd : d.flags = 0) : Steps (messageFields b) b i (varintField 1 n) d { d with flags := n } := by
  refine Steps.of_at h (fun hnil => ?_) (fun hne hi fuel => ?_)
  · obtain rfl := varintField_eq_nil.mp hnil
    cases d
    simp_all
  · rw [varintField_of_ne (fun h0 => hne (varintField_eq_nil.mpr h0))] at h ⊢
    obtain ⟨hkey, hval⟩ := varintEntry_at h (by decide) (by decide)
    simp only [messageFields, Nat.not_le.mpr hi, ↓reduceIte, hkey, hval, bind, Except.bind, within,
      Nat.pow_eq, Nat.mod_eq_of_lt (show n < 2 ^ 64 by omega), Nat.mod_eq_of_lt hn]

theorem steps_messageMillis {n : Int} (h : At b i (int64Field 2 n)) (hn : Decimal.FitsI64 n)
    (hd : d.millis = 0) :
    Steps (messageFields b) b i (int64Field 2 n) d { d with millis := n } := by
  rw [int64Field_eq] at h ⊢
  refine Steps.of_at h (fun hnil => ?_) (fun hne hi fuel => ?_)
  · obtain rfl := (twos_eq_zero hn).mp (varintField_eq_nil.mp hnil)
    cases d
    simp_all
  · rw [varintField_of_ne (fun h0 => hne (varintField_eq_nil.mpr h0))] at h ⊢
    obtain ⟨hkey, hval⟩ := varintEntry_at h (by decide) (by decide)
    simp only [messageFields, Nat.not_le.mpr hi, ↓reduceIte, hkey, hval, bind, Except.bind, within,
      Nat.mod_eq_of_lt (twos_lt hn), toInt64_twos hn]

theorem steps_messageSourceUid {s : String} (h : At b i (stringField 3 s))
    (hs : s.utf8ByteSize < 2 ^ 64) (hd : d.sourceUid = "") :
    Steps (messageFields b) b i (stringField 3 s) d { d with sourceUid := s } := by
  refine Steps.of_at h (fun hnil => ?_) (fun hne hi fuel => ?_)
  · obtain rfl := stringField_eq_nil.mp hnil
    cases d
    simp_all
  · rw [stringField_of_ne (fun h0 => hne (stringField_eq_nil.mpr h0))] at h ⊢
    obtain ⟨hkey, htext⟩ := stringEntry_at h (by decide) (by decide) hs
    simp only [messageFields, Nat.not_le.mpr hi, ↓reduceIte, hkey, htext, bind, Except.bind, within]

theorem steps_messageUid {s : String} (h : At b i (stringField 4 s))
    (hs : s.utf8ByteSize < 2 ^ 64) (hd : d.uid = "") :
    Steps (messageFields b) b i (stringField 4 s) d { d with uid := s } := by
  refine Steps.of_at h (fun hnil => ?_) (fun hne hi fuel => ?_)
  · obtain rfl := stringField_eq_nil.mp hnil
    cases d
    simp_all
  · rw [stringField_of_ne (fun h0 => hne (stringField_eq_nil.mpr h0))] at h ⊢
    obtain ⟨hkey, htext⟩ := stringEntry_at h (by decide) (by decide) hs
    simp only [messageFields, Nat.not_le.mpr hi, ↓reduceIte, hkey, htext, bind, Except.bind, within]

theorem steps_messageText {s : String} (h : At b i (stringField 5 s))
    (hs : s.utf8ByteSize < 2 ^ 64) (hd : d.text = "") :
    Steps (messageFields b) b i (stringField 5 s) d { d with text := s } := by
  refine Steps.of_at h (fun hnil => ?_) (fun hne hi fuel => ?_)
  · obtain rfl := stringField_eq_nil.mp hnil
    cases d
    simp_all
  · rw [stringField_of_ne (fun h0 => hne (stringField_eq_nil.mpr h0))] at h ⊢
    obtain ⟨hkey, htext⟩ := stringEntry_at h (by decide) (by decide) hs
    simp only [messageFields, Nat.not_le.mpr hi, ↓reduceIte, hkey, htext, bind, Except.bind, within]

theorem steps_messageLink {s : String} (h : At b i (stringEntry 6 s))
    (hs : s.utf8ByteSize < 2 ^ 64) :
    Steps (messageFields b) b i (stringEntry 6 s) d { d with links := d.links ++ [s] } := by
  refine Steps.of_at h (fun hnil => absurd hnil (stringEntry_ne_nil 6 s)) (fun _ hi fuel => ?_)
  obtain ⟨hkey, htext⟩ := stringEntry_at h (by decide) (by decide) hs
  simp only [messageFields, Nat.not_le.mpr hi, ↓reduceIte, hkey, htext, bind, Except.bind, within]

theorem steps_messageLinks {ls : List String} (h : At b i (ls.flatMap (stringEntry 6)))
    (hls : ∀ l ∈ ls, l.utf8ByteSize < 2 ^ 64) :
    Steps (messageFields b) b i (ls.flatMap (stringEntry 6)) d
      { d with links := d.links ++ ls } := by
  induction ls generalizing i d with
  | nil =>
    rw [List.append_nil]
    exact Steps.nil
  | cons l ls ih =>
    rw [List.flatMap_cons] at h ⊢
    obtain ⟨hl, hrest⟩ := At.append.mp h
    have hone : Steps (messageFields b) b i (stringEntry 6 l) d
        { d with links := d.links ++ [l] } :=
      steps_messageLink hl (hls l List.mem_cons_self)
    have := hone.trans (ih hrest (fun l' hl' => hls l' (List.mem_cons_of_mem l hl')))
    simpa using this

end MessageFields

theorem messageFields_encodeMessage (m : Message) (hm : m.InRange) :
    messageFields (encodeMessage m) 0 ⟨0, 0, "", "", "", []⟩ ((encodeMessage m).size + 1) =
      .ok ⟨m.flags.bits.toNat, m.createdAt.millis, m.sourceUid, m.uid, m.text, m.links⟩ := by
  have hat : At (encodeMessage m) 0 (varintField 1 m.flags.bits.toNat
      ++ int64Field 2 m.createdAt.millis ++ stringField 3 m.sourceUid ++ stringField 4 m.uid
      ++ stringField 5 m.text ++ m.links.flatMap (stringEntry 6)) := at_mk _
  obtain ⟨h12345, h6⟩ := At.append.mp hat
  obtain ⟨h1234, h5⟩ := At.append.mp h12345
  obtain ⟨h123, h4⟩ := At.append.mp h1234
  obtain ⟨h12, h3⟩ := At.append.mp h123
  obtain ⟨h1, h2⟩ := At.append.mp h12
  -- the five single fields, then the links one by one
  have hsteps : Steps (messageFields (encodeMessage m)) (encodeMessage m) 0
      (varintField 1 m.flags.bits.toNat ++ int64Field 2 m.createdAt.millis
        ++ stringField 3 m.sourceUid ++ stringField 4 m.uid ++ stringField 5 m.text
        ++ m.links.flatMap (stringEntry 6)) ⟨0, 0, "", "", "", []⟩
      ⟨m.flags.bits.toNat, m.createdAt.millis, m.sourceUid, m.uid, m.text, m.links⟩ :=
    (((((steps_messageFlags h1 m.flags.bits.toNat_lt rfl).trans
      (steps_messageMillis h2 hm.createdAt.millis_fits rfl)).trans
      (steps_messageSourceUid h3 hm.sourceUid rfl)).trans (steps_messageUid h4 hm.uid rfl)).trans
      (steps_messageText h5 hm.text rfl)).trans (steps_messageLinks h6 hm.links)
  refine hsteps.run (fun _ => messageFields_of_size_le ?_) _ (by omega)
  simp [encodeMessage, ByteArray.size]

theorem decodeMessage_encodeMessage_eq (m : Message) (hm : m.InRange) (hu : m.uid ≠ "")
    (hsu : m.sourceUid ≠ "") :
    decodeMessage (encodeMessage m) =
      match Instant.ofMillis m.createdAt.millis with
      | some t => .ok { m with createdAt := t }
      | none => .error (.timestamp m.createdAt.millis) := by
  have hempty : (m.uid.isEmpty || m.sourceUid.isEmpty) = false := by
    simp [hu, hsu]
  have hflags : (⟨m.flags.bits.toNat.toUInt32⟩ : Flags) = m.flags := by simp
  simp only [decodeMessage, messageFields_encodeMessage m hm, hempty, Bool.false_eq_true,
    ↓reduceIte, hflags]
  cases Instant.ofMillis m.createdAt.millis <;> rfl

theorem decodeMessage_encodeMessage (m : Message) (hm : m.InRange)
    (hleap : m.createdAt.nanos < 1000000000) (hu : m.uid ≠ "") (hsu : m.sourceUid ≠ "") :
    decodeMessage (encodeMessage m) =
      .ok { m with createdAt := ⟨m.createdAt.seconds, m.createdAt.nanos / 1000000 * 1000000⟩ } := by
  rw [decodeMessage_encodeMessage_eq m hm hu hsu, Instant.ofMillis_millis_of_lt hm.createdAt hleap]

theorem decodeMessage_encodeMessage_of_whole (m : Message) (hm : m.InRange)
    (hleap : m.createdAt.nanos < 1000000000) (hwhole : m.createdAt.nanos % 1000000 = 0)
    (hu : m.uid ≠ "") (hsu : m.sourceUid ≠ "") : decodeMessage (encodeMessage m) = .ok m := by
  rw [decodeMessage_encodeMessage m hm hleap hu hsu,
    Nat.div_mul_cancel (Nat.dvd_of_mod_eq_zero hwhole)]

theorem decodeMessage_encodeMessage_of_leap (m : Message) (hm : m.InRange)
    (hleap : 1000000000 ≤ m.createdAt.nanos) (hlast : m.createdAt.seconds < Instant.maxSeconds)
    (hu : m.uid ≠ "") (hsu : m.sourceUid ≠ "") :
    decodeMessage (encodeMessage m) = .ok { m with createdAt :=
      ⟨m.createdAt.seconds + 1, (m.createdAt.nanos - 1000000000) / 1000000 * 1000000⟩ } := by
  rw [decodeMessage_encodeMessage_eq m hm hu hsu,
    Instant.ofMillis_millis_of_leap hm.createdAt hleap hlast]

theorem decodeMessage_encodeMessage_of_last (m : Message) (hm : m.InRange)
    (hleap : 1000000000 ≤ m.createdAt.nanos) (hlast : m.createdAt.seconds = Instant.maxSeconds)
    (hu : m.uid ≠ "") (hsu : m.sourceUid ≠ "") :
    decodeMessage (encodeMessage m) = .error (.timestamp m.createdAt.millis) := by
  rw [decodeMessage_encodeMessage_eq m hm hu hsu,
    Instant.ofMillis_millis_of_last hm.createdAt hleap hlast]

theorem sourceFields_inRange {b : ByteArray} : ∀ {fuel i : Nat} {d d' : SourceSnapshot},
    sourceFields b i d fuel = .ok d' → d.InRange → d'.InRange
  | 0, _, _, _, h, hd => by
    cases h
    exact hd
  | fuel + 1, i, d, d', h, hd => by
    simp only [sourceFields] at h
    split at h
    · cases h
      exact hd
    · rw [bind_eq_ok] at h
      obtain ⟨⟨⟨tag, wire⟩, j⟩, -, h⟩ := h
      -- one case a field number: each field read keeps the bounds, and a skipped one reads nothing
      split at h
      · obtain ⟨_, -, h⟩ := bind_eq_ok.mp h
        exact sourceFields_inRange h ⟨hd.uid, hd.title, hd.deepId⟩
      · obtain ⟨_, hv, h⟩ := bind_eq_ok.mp h
        exact sourceFields_inRange h ⟨string_size_lt (within_eq_ok.mp hv), hd.title, hd.deepId⟩
      · obtain ⟨_, hv, h⟩ := bind_eq_ok.mp h
        exact sourceFields_inRange h ⟨hd.uid, string_size_lt (within_eq_ok.mp hv), hd.deepId⟩
      · obtain ⟨_, hv, h⟩ := bind_eq_ok.mp h
        exact sourceFields_inRange h
          ⟨hd.uid, hd.title, toInt64_fits (varintValue_lt (within_eq_ok.mp hv))⟩
      · obtain ⟨_, -, h⟩ := bind_eq_ok.mp h
        exact sourceFields_inRange h hd

theorem messageFields_inRange {b : ByteArray} : ∀ {fuel i : Nat} {d d' : MessageSnapshot},
    messageFields b i d fuel = .ok d' → d.InRange → d'.InRange
  | 0, _, _, _, h, hd => by
    cases h
    exact hd
  | fuel + 1, i, d, d', h, hd => by
    simp only [messageFields] at h
    split at h
    · cases h
      exact hd
    · obtain ⟨_, -, h⟩ := bind_eq_ok.mp h
      split at h
      · obtain ⟨_, -, h⟩ := bind_eq_ok.mp h
        exact messageFields_inRange h ⟨hd.sourceUid, hd.uid, hd.text, hd.links⟩
      · obtain ⟨_, -, h⟩ := bind_eq_ok.mp h
        exact messageFields_inRange h ⟨hd.sourceUid, hd.uid, hd.text, hd.links⟩
      · obtain ⟨_, hv, h⟩ := bind_eq_ok.mp h
        exact messageFields_inRange h
          ⟨string_size_lt (within_eq_ok.mp hv), hd.uid, hd.text, hd.links⟩
      · obtain ⟨_, hv, h⟩ := bind_eq_ok.mp h
        exact messageFields_inRange h
          ⟨hd.sourceUid, string_size_lt (within_eq_ok.mp hv), hd.text, hd.links⟩
      · obtain ⟨_, hv, h⟩ := bind_eq_ok.mp h
        exact messageFields_inRange h
          ⟨hd.sourceUid, hd.uid, string_size_lt (within_eq_ok.mp hv), hd.links⟩
      · -- a link goes onto the end of those read before
        obtain ⟨_, hv, h⟩ := bind_eq_ok.mp h
        refine messageFields_inRange h ⟨hd.sourceUid, hd.uid, hd.text, fun l hl => ?_⟩
        rcases List.mem_append.mp hl with hl | hl
        · exact hd.links l hl
        · rw [List.mem_singleton.mp hl]
          exact string_size_lt (within_eq_ok.mp hv)
      · obtain ⟨_, -, h⟩ := bind_eq_ok.mp h
        exact messageFields_inRange h hd

theorem decodeSource_inRange {b : ByteArray} {s : Source} (h : decodeSource b = .ok s) :
    s.InRange ∧ s.uid ≠ "" := by
  simp only [decodeSource] at h
  split at h
  · cases h
  · rename_i d hd
    split at h
    · cases h
    · rename_i hne
      cases h
      have hr := sourceFields_inRange hd ⟨by simp, by simp, by decide⟩
      exact ⟨⟨hr.uid, hr.title, hr.deepId⟩, by simpa [String.isEmpty_iff] using hne⟩

theorem decodeMessage_inRange {b : ByteArray} {m : Message} (h : decodeMessage b = .ok m) :
    m.InRange ∧ m.createdAt.nanos < 1000000000 ∧ m.createdAt.nanos % 1000000 = 0 ∧
      m.uid ≠ "" ∧ m.sourceUid ≠ "" := by
  simp only [decodeMessage] at h
  split at h
  · cases h
  · rename_i d hd
    split at h
    · cases h
    · rename_i hne
      split at h
      · cases h
      · rename_i t ht
        cases h
        have hr := messageFields_inRange hd ⟨by simp, by simp, by simp, by simp⟩
        obtain ⟨htr, hleap, hwhole⟩ := Instant.ofMillis_inRange ht
        simp only [Bool.or_eq_true, not_or, String.isEmpty_iff] at hne
        exact ⟨⟨htr, hr.sourceUid, hr.uid, hr.text, hr.links⟩, hleap, hwhole, hne.1, hne.2⟩

theorem decodeSource_encodeSource_of_decode {b : ByteArray} {s : Source}
    (h : decodeSource b = .ok s) : decodeSource (encodeSource s) = .ok s := by
  obtain ⟨hs, hu⟩ := decodeSource_inRange h
  exact decodeSource_encodeSource s hs hu

theorem decodeMessage_encodeMessage_of_decode {b : ByteArray} {m : Message}
    (h : decodeMessage b = .ok m) : decodeMessage (encodeMessage m) = .ok m := by
  obtain ⟨hm, hleap, hwhole, hu, hsu⟩ := decodeMessage_inRange h
  exact decodeMessage_encodeMessage_of_whole m hm hleap hwhole hu hsu

-- Snapshots read back as they were written. A source with a uid comes back as itself. A message
-- with both uids comes back with its time taken to the millisecond: rounded down outside a leap
-- second, so unchanged when whole in milliseconds; within a leap second, moved to the same
-- fraction of the second after it, and refused when that second is past the range. Whatever a
-- snapshot reads back as, written again, reads back the same.
theorem snapshot_round_trip :
    (∀ s : Source, s.InRange → s.uid ≠ "" → decodeSource (encodeSource s) = .ok s) ∧
    (∀ m : Message, m.InRange → m.uid ≠ "" → m.sourceUid ≠ "" →
      (m.createdAt.nanos < 1000000000 →
        decodeMessage (encodeMessage m) =
          .ok { m with
            createdAt := ⟨m.createdAt.seconds, m.createdAt.nanos / 1000000 * 1000000⟩ }) ∧
      (m.createdAt.nanos < 1000000000 → m.createdAt.nanos % 1000000 = 0 →
        decodeMessage (encodeMessage m) = .ok m) ∧
      (1000000000 ≤ m.createdAt.nanos → m.createdAt.seconds < Instant.maxSeconds →
        decodeMessage (encodeMessage m) = .ok { m with createdAt :=
          ⟨m.createdAt.seconds + 1, (m.createdAt.nanos - 1000000000) / 1000000 * 1000000⟩ }) ∧
      (1000000000 ≤ m.createdAt.nanos → m.createdAt.seconds = Instant.maxSeconds →
        decodeMessage (encodeMessage m) = .error (.timestamp m.createdAt.millis))) ∧
    (∀ b s, decodeSource b = .ok s → decodeSource (encodeSource s) = .ok s) ∧
    (∀ b m, decodeMessage b = .ok m → decodeMessage (encodeMessage m) = .ok m) := by
  refine ⟨decodeSource_encodeSource, fun m hm hu hsu => ⟨?_, ?_, ?_, ?_⟩,
    fun _ _ h => decodeSource_encodeSource_of_decode h,
    fun _ _ h => decodeMessage_encodeMessage_of_decode h⟩
  · exact fun hleap => decodeMessage_encodeMessage m hm hleap hu hsu
  · exact fun hleap hwhole => decodeMessage_encodeMessage_of_whole m hm hleap hwhole hu hsu
  · exact fun hleap hlast => decodeMessage_encodeMessage_of_leap m hm hleap hlast hu hsu
  · exact fun hleap hlast => decodeMessage_encodeMessage_of_last m hm hleap hlast hu hsu

-- A channel's source and a message of it with an empty link read back as themselves.
theorem snapshot_round_trip_news :
    decodeSource (encodeSource ⟨⟨7⟩, "tg-fromid-42", "News", -42⟩) =
        .ok ⟨⟨7⟩, "tg-fromid-42", "News", -42⟩ ∧
      decodeMessage (encodeMessage ⟨⟨7⟩, ⟨1700000007, 0⟩, "tg-fromid-42", "tg-fromid-42-7", "hi",
          ["", "https://t.me/c/42/7"]⟩) =
        .ok ⟨⟨7⟩, ⟨1700000007, 0⟩, "tg-fromid-42", "tg-fromid-42-7", "hi",
          ["", "https://t.me/c/42/7"]⟩ :=
  ⟨snapshot_round_trip.1 _ ⟨by decide, by decide, by decide⟩ (by decide),
    (snapshot_round_trip.2.1 _ ⟨⟨by decide, by decide, by decide⟩, by decide, by decide, by decide,
      by decide⟩ (by decide) (by decide)).2.1 (by decide) (by decide)⟩

-- 2016-12-31T23:59:60.500Z, within the leap second that ended 2016 and whole in milliseconds, does
-- not read back as itself: it comes back as 2017-01-01T00:00:00.500Z.
theorem leap_second_reads_back_later :
    decodeMessage (encodeMessage
        ⟨⟨7⟩, ⟨1483228799, 1500000000⟩, "tg-fromid-1", "tg-fromid-1-1", "x", []⟩) =
        .ok ⟨⟨7⟩, ⟨1483228800, 500000000⟩, "tg-fromid-1", "tg-fromid-1-1", "x", []⟩ ∧
      decodeMessage (encodeMessage
        ⟨⟨7⟩, ⟨1483228799, 1500000000⟩, "tg-fromid-1", "tg-fromid-1-1", "x", []⟩) ≠
        .ok ⟨⟨7⟩, ⟨1483228799, 1500000000⟩, "tg-fromid-1", "tg-fromid-1-1", "x", []⟩ := by
  have hread := decodeMessage_encodeMessage_of_leap
    ⟨⟨7⟩, ⟨1483228799, 1500000000⟩, "tg-fromid-1", "tg-fromid-1-1", "x", []⟩
    ⟨⟨by decide, by decide, by decide⟩, by decide, by decide, by decide, by decide⟩ (by decide)
    (by decide) (by decide) (by decide)
  refine ⟨hread, ?_⟩
  rw [hread]
  decide

end Snapshot

end ChatArchive
