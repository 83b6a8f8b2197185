import Mathlib
import ChatArchive.Snapshot.Codec

namespace ChatArchive

namespace Proto

theorem bind_eq_ok {ε α β : Type} {x : Except ε α} {f : α → Except ε β} {b : β} :
    (x >>= f) = .ok b ↔ ∃ a, x = .ok a ∧ f a = .ok b := by
  cases x with
  | error e => simp [bind, Except.bind]
  | ok a => simp [bind, Except.bind]

def At (b : ByteArray) (i : Nat) (L : List UInt8) : Prop :=
  ∀ t (h : t < L.length), b[i + t]? = some L[t]

theorem At.cons {b : ByteArray} {i : Nat} {x : UInt8} {L : List UInt8} :
    At b i (x :: L) ↔ b[i]? = some x ∧ At b (i + 1) L := by
  constructor
  · intro h
    refine ⟨h 0 (Nat.succ_pos _), fun t ht => ?_⟩
    rw [Nat.add_assoc, Nat.add_comm 1 t]
    exact h (t + 1) (Nat.succ_lt_succ ht)
  · rintro ⟨h0, h⟩ t ht
    cases t with
    | zero => exact h0
    | succ t =>
      rw [show i + (t + 1) = i + 1 + t by omega, List.getElem_cons_succ]
      exact h t (Nat.lt_of_succ_lt_succ ht)

theorem At.append {b : ByteArray} {i : Nat} {L₁ L₂ : List UInt8} :
    At b i (L₁ ++ L₂) ↔ At b i L₁ ∧ At b (i + L₁.length) L₂ := by
  induction L₁ generalizing i with
  | nil => simp [At]
  | cons x L₁ ih =>
    rw [List.cons_append, At.cons, ih, At.cons, List.length_cons, Nat.add_assoc,
      Nat.add_comm 1 L₁.length, and_assoc]

theorem at_mk (L : List UInt8) : At ⟨L.toArray⟩ 0 L := by
  intro t ht
  rw [getElem?_pos (⟨L.toArray⟩ : ByteArray) (0 + t) (by simpa [ByteArray.size] using ht)]
  simp only [Nat.zero_add]
  rfl

theorem At.lt_size {b : ByteArray} {i : Nat} {L : List UInt8} (h : At b i L) (t : Nat)
    (ht : t < L.length) : i + t < b.size := by
  have hb := h t ht
  by_contra hlt
  rw [getElem?_neg b _ hlt] at hb
  cases hb

theorem At.extract {b : ByteArray} {i : Nat} {L : List UInt8} (h : At b i L) :
    b.extract i (i + L.length) = ⟨L.toArray⟩ := by
  have hsize : L.length = 0 ∨ i + L.length ≤ b.data.size := by
    rcases Nat.eq_zero_or_pos L.length with h0 | hpos
    · exact .inl h0
    · have := h.lt_size _ (Nat.sub_lt hpos Nat.one_pos)
      exact .inr (by simp only [ByteArray.size] at this; omega)
  apply ByteArray.ext
  apply Array.ext
  · simp only [ByteArray.data_extract, Array.size_extract, List.size_toArray]
    omega
  · intro t h₁ h₂
    have ht : t < L.length := by simpa using h₂
    have hb := h t ht
    rw [getElem?_pos b (i + t) (h.lt_size t ht), Option.some.injEq] at hb
    simp only [ByteArray.data_extract, Array.getElem_extract, List.getElem_toArray]
    exact hb

theorem toNat_toUInt8_of_lt {n : Nat} (h : n < 256) : n.toUInt8.toNat = n := by
  rw [Nat.toUInt8, UInt8.toNat_ofNat', Nat.mod_eq_of_lt h]

theorem varintFrom_last {b : ByteArray} {i count acc fuel m : Nat} (hm : m < 128)
    (hcount : count ≤ 9) (hfuel : 0 < fuel) (hfit : acc + m * 2 ^ (7 * count) < 2 ^ 64)
    (hb : b[i]? = some m.toUInt8) :
    varintFrom b i count acc fuel = .ok (acc + m * 2 ^ (7 * count), i + 1) := by
  obtain ⟨f, rfl⟩ := Nat.exists_eq_succ_of_ne_zero (Nat.pos_iff_ne_zero.mp hfuel)
  have hval : m.toUInt8.toNat = m := toNat_toUInt8_of_lt (by omega)
  have hlt : m.toUInt8 < 128 := by
    rw [UInt8.lt_iff_toNat_lt, hval]
    exact hm
  have hcheck : (count == 9 && decide (m.toUInt8 ≥ 2)) = false := by
    cases hc : count == 9
    · rfl
    · have h9 : count = 9 := by simpa using hc
      subst h9
      have h2 : m < 2 := by
        by_contra h2
        have : 2 * 2 ^ 63 ≤ m * 2 ^ (7 * 9) := Nat.mul_le_mul_right _ (by omega)
        omega
      simp only [Bool.true_and, decide_eq_false_iff_not, ge_iff_le, UInt8.le_iff_toNat_le, hval]
      simpa using h2
  simp only [varintFrom, hb, hval, Nat.mod_eq_of_lt hm, hlt, ↓reduceIte, hcheck,
    Bool.false_eq_true, Nat.pow_eq, Nat.mod_eq_of_lt hfit]

theorem varintFrom_go (b : ByteArray) : ∀ (k m i count acc fuel : Nat), m < 2 ^ (7 * (k + 1)) →
    count + k ≤ 9 → k < fuel → acc + m * 2 ^ (7 * count) < 2 ^ 64 →
    At b i (varintBytes.go m (k + 1)) →
    varintFrom b i count acc fuel =
      .ok (acc + m * 2 ^ (7 * count), i + (varintBytes.go m (k + 1)).length) := by
  intro k
  induction k with
  | zero =>
    intro m i count acc fuel hm hcount hfuel hfit hat
    have hm : m < 128 := by simpa using hm
    simp only [varintBytes.go, hm, ↓reduceIte, At.cons] at hat ⊢
    exact varintFrom_last hm (by omega) hfuel hfit hat.1
  | succ k ih =>
    intro m i count acc fuel hm hcount hfuel hfit hat
    by_cases hsmall : m < 128
    · simp only [varintBytes.go, hsmall, ↓reduceIte, At.cons] at hat ⊢
      exact varintFrom_last hsmall (by omega) (by omega) hfit hat.1
    · have hgo : varintBytes.go m (k + 1 + 1) =
          (m % 128 + 128).toUInt8 :: varintBytes.go (m / 128) (k + 1) := by
        rw [varintBytes.go, if_neg hsmall]
      rw [hgo, At.cons] at hat
      rw [hgo]
      obtain ⟨f, rfl⟩ :=
        Nat.exists_eq_succ_of_ne_zero (Nat.pos_iff_ne_zero.mp (Nat.zero_lt_of_lt hfuel))
      have hval : (m % 128 + 128).toUInt8.toNat = m % 128 + 128 :=
        toNat_toUInt8_of_lt (by omega)
      have hge : ¬ (m % 128 + 128).toUInt8 < 128 := by
        rw [UInt8.lt_iff_toNat_lt, hval]
        simp
      -- the rest of the value, shifted by seven bits, adds up to the same
      have hsplit : acc + m % 128 * 2 ^ (7 * count) + m / 128 * 2 ^ (7 * (count + 1)) =
          acc + m * 2 ^ (7 * count) := by
        have hm' := Nat.mod_add_div m 128
        rw [Nat.mul_succ, Nat.pow_add]
        nth_rewrite 3 [← hm']
        ring
      -- the value less its low group needs one group fewer
      have hhigh : m / 128 < 2 ^ (7 * (k + 1)) := by
        rw [Nat.div_lt_iff_lt_mul (by norm_num)]
        rw [Nat.mul_succ 7 (k + 1), Nat.pow_add] at hm
        simpa using hm
      have hrest := ih (m / 128) (i + 1) (count + 1) (acc + m % 128 * 2 ^ (7 * count)) f hhigh
        (by omega) (by omega) (by rw [hsplit]; exact hfit) hat.2
      simp only [varintFrom, hat.1, hval, Nat.add_mod_right, Nat.mod_mod, hge, ↓reduceIte,
        Nat.pow_eq]
      rw [hrest, hsplit, List.length_cons]
      congr 2
      omega

theorem length_varintBytes_pos (n : Nat) : 0 < (varintBytes n).length := by
  show 0 < (varintBytes.go (n % Nat.pow 2 64) (9 + 1)).length
  rw [varintBytes.go]
  split <;> simp

theorem varint_at {b : ByteArray} {i n : Nat} (h : At b i (varintBytes n)) :
    varint b i = .ok (n % 2 ^ 64, i + (varintBytes n).length) := by
  have hgo : varintBytes n = varintBytes.go (n % 2 ^ 64) (9 + 1) := rfl
  have hlt : n % 2 ^ 64 < 2 ^ 64 := Nat.mod_lt _ (by norm_num)
  rw [hgo] at h ⊢
  have hread := varintFrom_go b 9 (n % 2 ^ 64) i 0 0 10 (lt_of_lt_of_le hlt (by norm_num))
    (by norm_num) (by norm_num) (by simpa using hlt) h
  simpa [varint] using hread

theorem varintFrom_lt {b : ByteArray} : ∀ {fuel i count acc v j : Nat},
    varintFrom b i count acc fuel = .ok (v, j) → v < 2 ^ 64
  | 0, _, _, _, _, _, h => by simp [varintFrom] at h
  | fuel + 1, i, count, acc, v, j, h => by
    unfold varintFrom at h
    split at h
    · cases h
    · split at h
      · split at h
        · cases h
        · simp only [Except.ok.injEq, Prod.mk.injEq] at h
          rw [← h.1]
          exact Nat.mod_lt _ (by norm_num)
      · exact varintFrom_lt h

theorem varint_lt {b : ByteArray} {i v j : Nat} (h : varint b i = .ok (v, j)) : v < 2 ^ 64 :=
  varintFrom_lt h

theorem WireType.code_lt (w : WireType) : w.code < 8 := by
  cases w <;> decide

theorem WireType.ofCode?_code (w : WireType) : WireType.ofCode? w.code = some w := by
  cases w <;> rfl

theorem key_at {b : ByteArray} {i tag : Nat} {w : WireType} (h : At b i (keyBytes tag w))
    (h0 : 0 < tag) (hlt : tag < 2 ^ 29) :
    key b i = .ok ((tag, w), i + (keyBytes tag w).length) := by
  have hcode := w.code_lt
  have hmod : (tag * 8 + w.code) % 2 ^ 64 = tag * 8 + w.code := Nat.mod_eq_of_lt (by omega)
  have hsmall : ¬ tag * 8 + w.code ≥ Nat.pow 2 32 := by
    simp only [Nat.pow_eq]
    omega
  have hwire : WireType.ofCode? ((tag * 8 + w.code) % 8) = some w := by
    rw [show (tag * 8 + w.code) % 8 = w.code by omega, WireType.ofCode?_code]
  have htag : ((tag * 8 + w.code) / 8 == 0) = false := by
    rw [show (tag * 8 + w.code) / 8 = tag by omega]
    simpa using Nat.pos_iff_ne_zero.mp h0
  simp only [key, keyBytes] at h ⊢
  rw [varint_at h, hmod]
  simp only [bind, Except.bind, hsmall, ↓reduceIte, hwire, htag, Bool.false_eq_true]
  rw [show (tag * 8 + w.code) / 8 = tag by omega]
  rfl

theorem within_eq_ok {α : Type} {message field : String} {r : Except Trouble α} {a : α} :
    within message field r = .ok a ↔ r = .ok a := by
  cases r <;> simp [within]

theorem varintValue_at {b : ByteArray} {i n : Nat} (h : At b i (varintBytes n)) :
    varintValue b .varint i = .ok (n % 2 ^ 64, i + (varintBytes n).length) := by
  simp only [varintValue, expectWire]
  rw [varint_at h]
  rfl

theorem varintValue_lt {b : ByteArray} {w : WireType} {i v j : Nat}
    (h : varintValue b w i = .ok (v, j)) : v < 2 ^ 64 := by
  obtain ⟨-, -, hv⟩ := bind_eq_ok.mp h
  exact varint_lt hv

theorem ByteArray.toList_loop (b : ByteArray) (i : Nat) (r : List UInt8) :
    ByteArray.toList.loop b i r = r.reverse ++ b.data.toList.drop i := by
  fun_induction ByteArray.toList.loop b i r with
  | case1 i r h ih =>
    have hi : i < b.data.toList.length := by simpa using h
    rw [ih, List.drop_eq_getElem_cons hi]
    simp [ByteArray.get!, h]
  | case2 i r h =>
    rw [List.drop_eq_nil_of_le (by simpa using Nat.le_of_not_lt h)]
    simp

theorem ByteArray.toList_eq (b : ByteArray) : b.toList = b.data.toList := by
  simp [ByteArray.toList, ByteArray.toList_loop]

theorem length_toUTF8_toList (s : String) : s.toUTF8.toList.length = s.utf8ByteSize := by
  rw [ByteArray.toList_eq, Array.length_toList]
  rfl

theorem fromUTF8?_toUTF8 (s : String) : String.fromUTF8? s.toUTF8 = some s := by
  simp only [String.fromUTF8?, String.toUTF8_eq_toByteArray, s.isValidUTF8, ↓reduceDIte]
  rfl

theorem delimited_at {b : ByteArray} {i : Nat} {L : List UInt8}
    (h : At b i (varintBytes L.length ++ L)) (hL : L.length < 2 ^ 64) :
    delimited b .delimited i = .ok (⟨L.toArray⟩, i + (varintBytes L.length).length + L.length) := by
  obtain ⟨hlen, hbytes⟩ := At.append.mp h
  have hfits : i + (varintBytes L.length).length + L.length ≤ b.size := by
    have hpos := length_varintBytes_pos L.length
    have hlast := h.lt_size ((varintBytes L.length ++ L).length - 1)
      (by rw [List.length_append]; omega)
    rw [List.length_append] at hlast
    omega
  have hadv : advance b (i + (varintBytes L.length).length) L.length =
      .ok (i + (varintBytes L.length).length + L.length) := by
    simp only [advance]
    rw [if_neg (by omega)]
  have hwire : expectWire .delimited .delimited = .ok () := rfl
  simp only [delimited, hwire, varint_at hlen, Nat.mod_eq_of_lt hL, bind, Except.bind, hadv, pure,
    Except.pure, hbytes.extract]

theorem string_at {b : ByteArray} {i : Nat} {s : String}
    (h : At b i (varintBytes s.utf8ByteSize ++ s.toUTF8.toList)) (hs : s.utf8ByteSize < 2 ^ 64) :
    string b .delimited i =
      .ok (s, i + (varintBytes s.utf8ByteSize ++ s.toUTF8.toList).length) := by
  rw [← length_toUTF8_toList] at h hs
  have hraw : (⟨s.toUTF8.toList.toArray⟩ : ByteArray) = s.toUTF8 := by
    rw [ByteArray.toList_eq, Array.toArray_toList]
  simp only [string, delimited_at h hs, hraw, bind, Except.bind, fromUTF8?_toUTF8, pure,
    Except.pure, List.length_append, length_toUTF8_toList, Nat.add_assoc]

theorem utf8ByteSize_of_fromUTF8? {a : ByteArray} {s : String} (h : String.fromUTF8? a = some s) :
    s.utf8ByteSize = a.size := by
  simp only [String.fromUTF8?] at h
  split at h
  · cases h
    rfl
  · cases h

theorem delimited_size_lt {b : ByteArray} {w : WireType} {i j : Nat} {raw : ByteArray}
    (h : delimited b w i = .ok (raw, j)) : raw.size < 2 ^ 64 := by
  simp only [delimited, bind_eq_ok] at h
  obtain ⟨-, -, ⟨len, k⟩, hlen, m, hadv, hraw⟩ := h
  obtain ⟨rfl, rfl⟩ : b.extract k m = raw ∧ m = j := by
    simpa [pure, Except.pure] using hraw
  have hk : m = k + len := by
    simp only [advance] at hadv
    split at hadv
    · cases hadv
    · cases hadv
      rfl
  rw [ByteArray.size_extract, hk]
  have := varint_lt hlen
  omega

theorem string_size_lt {b : ByteArray} {w : WireType} {i j : Nat} {s : String}
    (h : string b w i = .ok (s, j)) : s.utf8ByteSize < 2 ^ 64 := by
  simp only [string, bind_eq_ok] at h
  obtain ⟨⟨raw, k⟩, hd, hs⟩ := h
  split at hs
  · rename_i s' hs'
    cases hs
    rw [utf8ByteSize_of_fromUTF8? hs']
    exact delimited_size_lt hd
  · cases hs

theorem varintField_of_ne {tag n : Nat} (hn : n ≠ 0) :
    varintField tag n = keyBytes tag .varint ++ varintBytes n := by
  simp [varintField, hn]

theorem varintField_eq_nil {tag n : Nat} : varintField tag n = [] ↔ n = 0 := by
  by_cases hn : n = 0
  · simp [varintField, hn]
  · have hpos := length_varintBytes_pos n
    rw [varintField_of_ne hn, List.append_eq_nil_iff]
    simp only [hn, iff_false, not_and]
    intro _ hnil
    simp [hnil] at hpos

theorem stringEntry_ne_nil (tag : Nat) (s : String) : stringEntry tag s ≠ [] := by
  have hpos := length_varintBytes_pos (tag * 8 + WireType.delimited.code)
  intro hnil
  simp only [stringEntry, keyBytes, List.append_eq_nil_iff] at hnil
  simp [hnil.1.1] at hpos

theorem stringField_of_ne {tag : Nat} {s : String} (hs : s ≠ "") :
    stringField tag s = stringEntry tag s := by
  simp [stringField, hs]

theorem stringField_eq_nil {tag : Nat} {s : String} : stringField tag s = [] ↔ s = "" := by
  by_cases hs : s = ""
  · simp [stringField, hs]
  · simp only [stringField_of_ne hs, stringEntry_ne_nil, hs]

theorem varintEntry_at {b : ByteArray} {i tag n : Nat}
    (h : At b i (keyBytes tag .varint ++ varintBytes n)) (h0 : 0 < tag) (hlt : tag < 2 ^ 29) :
    key b i = .ok ((tag, .varint), i + (keyBytes tag .varint).length) ∧
      varintValue b .varint (i + (keyBytes tag .varint).length) =
        .ok (n % 2 ^ 64, i + (keyBytes tag .varint ++ varintBytes n).length) := by
  obtain ⟨hkey, hval⟩ := At.append.mp h
  refine ⟨key_at hkey h0 hlt, ?_⟩
  rw [varintValue_at hval, List.length_append, Nat.add_assoc]

theorem stringEntry_at {b : ByteArray} {i tag : Nat} {s : String} (h : At b i (stringEntry tag s))
    (h0 : 0 < tag) (hlt : tag < 2 ^ 29) (hs : s.utf8ByteSize < 2 ^ 64) :
    key b i = .ok ((tag, .delimited), i + (keyBytes tag .delimited).length) ∧
      string b .delimited (i + (keyBytes tag .delimited).length) =
        .ok (s, i + (stringEntry tag s).length) := by
  rw [stringEntry, List.append_assoc] at h ⊢
  obtain ⟨hkey, htext⟩ := At.append.mp h
  refine ⟨key_at hkey h0 hlt, ?_⟩
  rw [string_at htext hs]
  simp only [List.length_append, Nat.add_assoc]

end Proto

end ChatArchive
