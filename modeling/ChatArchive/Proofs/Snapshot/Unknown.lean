import Mathlib
import ChatArchive.Proofs.Snapshot.RoundTrip

namespace ChatArchive

namespace Proto

def groupsValue : List UInt8 → Nat
  | [] => 0
  | x :: L => x.toNat % 128 + 128 * groupsValue L

inductive VarintForm : Nat → List UInt8 → Prop
  | last {k : Nat} {x : UInt8} : x < 128 → k ≤ 9 → (k = 9 → x < 2) → VarintForm k [x]
  | more {k : Nat} {x : UInt8} {L : List UInt8} :
      128 ≤ x → k < 9 → VarintForm (k + 1) L → VarintForm k (x :: L)

structure KeyForm (tag : Nat) (w : WireType) (K : List UInt8) : Prop where
  varint : VarintForm 0 K
  value : groupsValue K = tag * 8 + w.code
  pos : 0 < tag
  lt : tag < 2 ^ 29

-- A field of number `tag` whose value holds no nested fields: its key, then a varint, eight
-- bytes, a varint length and that many bytes, or four bytes.
inductive FieldForm (tag : Nat) : List UInt8 → Prop
  | varint {K V : List UInt8} : KeyForm tag .varint K → VarintForm 0 V → FieldForm tag (K ++ V)
  | fixed64 {K V : List UInt8} : KeyForm tag .fixed64 K → V.length = 8 → FieldForm tag (K ++ V)
  | delimited {K N V : List UInt8} : KeyForm tag .delimited K → VarintForm 0 N →
      groupsValue N = V.length → FieldForm tag (K ++ N ++ V)
  | fixed32 {K V : List UInt8} : KeyForm tag .fixed32 K → V.length = 4 → FieldForm tag (K ++ V)

theorem getElem?_mk (L : List UInt8) (t : Nat) : (⟨L.toArray⟩ : ByteArray)[t]? = L[t]? := by
  by_cases ht : t < L.length
  · rw [getElem?_pos (⟨L.toArray⟩ : ByteArray) t (by simpa [ByteArray.size] using ht),
      List.getElem?_eq_getElem ht]
    rfl
  · rw [getElem?_neg (⟨L.toArray⟩ : ByteArray) t (by simpa [ByteArray.size] using ht),
      List.getElem?_eq_none (by omega)]

theorem At.nil {b : ByteArray} {i : Nat} : At b i [] := fun _ h => absurd h (Nat.not_lt_zero _)

theorem eq_drop_of_at_mk {L E : List UInt8} {p : Nat} (h : At ⟨L.toArray⟩ p E)
    (hlen : p + E.length = L.length) : E = L.drop p := by
  apply List.ext_getElem?
  intro t
  rw [List.getElem?_drop]
  by_cases ht : t < E.length
  · have hat := h t ht
    rw [getElem?_mk] at hat
    rw [List.getElem?_eq_getElem ht, hat]
  · rw [List.getElem?_eq_none (by omega), List.getElem?_eq_none (by omega)]

theorem exists_at {b : ByteArray} {i : Nat} : ∀ {n : Nat}, i + n ≤ b.size →
    ∃ E : List UInt8, E.length = n ∧ At b i E
  | 0, _ => ⟨[], rfl, At.nil⟩
  | n + 1, h => by
    obtain ⟨E, hlen, hE⟩ := @exists_at b i n (by omega)
    obtain ⟨x, hx⟩ : ∃ x, b[i + n]? = some x := ⟨b[i + n], getElem?_pos b (i + n) (by omega)⟩
    refine ⟨E ++ [x], by simp [hlen], At.append.mpr ⟨hE, At.cons.mpr ⟨?_, At.nil⟩⟩⟩
    rw [hlen]
    exact hx

theorem At.le_size {b : ByteArray} {i : Nat} {E : List UInt8} (h : At b i E) (hE : E ≠ []) :
    i + E.length ≤ b.size := by
  have := h.lt_size (E.length - 1) (by have := List.length_pos_of_ne_nil hE; omega)
  omega

section Portable

variable {α : Type}

def ReadsFrom (R : ByteArray → Nat → Except Trouble (α × Nat)) (E : List UInt8) (a : α) : Prop :=
  ∀ b i, At b i E → R b i = .ok (a, i + E.length)

def Local (R : ByteArray → Nat → Except Trouble (α × Nat)) : Prop :=
  ∀ {b i a j}, R b i = .ok (a, j) → ∃ E, j = i + E.length ∧ At b i E ∧ ReadsFrom R E a

end Portable

theorem varintFrom_local (count acc fuel : Nat) : ∀ {b : ByteArray} {i v j : Nat},
    varintFrom b i count acc fuel = .ok (v, j) →
      ∃ E, E ≠ [] ∧ j = i + E.length ∧ At b i E ∧
        ReadsFrom (fun b i => varintFrom b i count acc fuel) E v := by
  induction fuel generalizing count acc with
  | zero => intro b i v j h; simp [varintFrom] at h
  | succ fuel ih =>
    intro b i v j h
    unfold varintFrom at h
    split at h
    · cases h
    · rename_i x hx
      split at h
      · -- a last byte: the varint is that byte alone
        split at h
        · cases h
        · rename_i hlt hcheck
          obtain ⟨rfl, rfl⟩ := Prod.mk.inj (Except.ok.inj h)
          refine ⟨[x], List.cons_ne_nil _ _, rfl, At.cons.mpr ⟨hx, At.nil⟩, fun b' i' hat => ?_⟩
          show varintFrom b' i' count acc (fuel + 1) = _
          unfold varintFrom
          rw [(At.cons.mp hat).1]
          simp [hlt, hcheck]
      · -- a byte with its top bit set: the varint goes on after it
        rename_i hge
        obtain ⟨E, -, rfl, hE, hread⟩ := ih (count + 1) _ h
        refine ⟨x :: E, List.cons_ne_nil _ _, by simp; omega, At.cons.mpr ⟨hx, hE⟩,
          fun b' i' hat => ?_⟩
        obtain ⟨hx', hE'⟩ := At.cons.mp hat
        show varintFrom b' i' count acc (fuel + 1) = _
        unfold varintFrom
        rw [hx']
        simp only [hge, ↓reduceIte]
        rw [List.length_cons, show i' + (E.length + 1) = i' + 1 + E.length by omega]
        exact hread b' (i' + 1) hE'

theorem varint_local : Local varint := by
  intro b i v j h
  obtain ⟨E, -, hj, hE, hread⟩ := varintFrom_local 0 0 10 h
  exact ⟨E, hj, hE, hread⟩

theorem key_local {b : ByteArray} {i j : Nat} {a : Nat × WireType} (h : key b i = .ok (a, j)) :
    ∃ E, E ≠ [] ∧ j = i + E.length ∧ At b i E ∧ ReadsFrom key E a := by
  unfold key at h
  obtain ⟨⟨k, j₀⟩, hv, h⟩ := bind_eq_ok.mp h
  obtain ⟨E, hne, rfl, hE, hread⟩ := varintFrom_local 0 0 10 hv
  -- what follows the varint looks at its value only, and hands on the index after it
  by_cases hbig : k ≥ Nat.pow 2 32
  · simp [hbig, throw, throwThe, MonadExceptOf.throw, bind, Except.bind] at h
  cases hw : WireType.ofCode? (k % 8) with
  | none => simp [hbig, hw, throw, throwThe, MonadExceptOf.throw] at h
  | some w =>
    by_cases h0 : (k / 8 == 0) = true
    · simp [hbig, hw, h0, throw, throwThe, MonadExceptOf.throw] at h
    · simp only [hbig, hw, h0, ↓reduceIte, Bool.false_eq_true, pure, Except.pure,
        Except.ok.injEq, Prod.mk.injEq] at h
      obtain ⟨rfl, rfl⟩ := h
      refine ⟨E, hne, rfl, hE, fun b' i' hat => ?_⟩
      show key b' i' = _
      unfold key
      rw [show varint b' i' = .ok (k, i' + E.length) from hread b' i' hat]
      simp only [hbig, hw, h0, ↓reduceIte, Bool.false_eq_true, bind, Except.bind, pure,
        Except.pure]

theorem advance_local {b : ByteArray} {i len j : Nat} (h : advance b i len = .ok j) :
    j = i + len ∧ ∃ E, E.length = len ∧ At b i E ∧
      ∀ b' i', At b' i' E → advance b' i' len = .ok (i' + len) := by
  simp only [advance] at h
  split at h
  · cases h
  · rename_i hfit
    refine ⟨(Except.ok.inj h).symm, ?_⟩
    by_cases hlen : len = 0
    · subst hlen
      refine ⟨[], rfl, At.nil, fun b' i' _ => ?_⟩
      simp [advance]
    · obtain ⟨E, rfl, hE⟩ := @exists_at b i len (by omega)
      refine ⟨E, rfl, hE, fun b' i' hat => ?_⟩
      have := hat.le_size (by rintro rfl; exact hlen rfl)
      simp only [advance]
      rw [if_neg (by omega)]

theorem varintValue_local {w : WireType} : Local fun b i => varintValue b w i := by
  intro b i v j h
  obtain ⟨u, hw, h⟩ := bind_eq_ok.mp h
  obtain ⟨E, -, hj, hE, hread⟩ := varintFrom_local 0 0 10 h
  refine ⟨E, hj, hE, fun b' i' hat => ?_⟩
  show varintValue b' w i' = _
  simp only [varintValue, hw, bind, Except.bind]
  exact hread b' i' hat

theorem delimited_local {w : WireType} : Local fun b i => delimited b w i := by
  intro b i a j h
  obtain ⟨u, hw, h⟩ := bind_eq_ok.mp h
  obtain ⟨⟨len, k⟩, hv, h⟩ := bind_eq_ok.mp h
  obtain ⟨m, hadv, h⟩ := bind_eq_ok.mp h
  obtain ⟨N, -, rfl, hN, hreadN⟩ := varintFrom_local 0 0 10 hv
  obtain ⟨rfl, V, rfl, hV, hadvV⟩ := advance_local hadv
  obtain ⟨rfl, rfl⟩ : b.extract (i + N.length) (i + N.length + V.length) = a ∧
      i + N.length + V.length = j := by
    simpa [pure, Except.pure] using h
  refine ⟨N ++ V, by simp [Nat.add_assoc], At.append.mpr ⟨hN, hV⟩, fun b' i' hat => ?_⟩
  obtain ⟨hN', hV'⟩ := At.append.mp hat
  show delimited b' w i' = _
  simp only [delimited, hw, bind, Except.bind]
  rw [show varint b' i' = .ok (V.length, i' + N.length) from hreadN b' i' hN']
  simp only [hadvV b' _ hV', pure, Except.pure]
  rw [hV.extract, hV'.extract, List.length_append, Nat.add_assoc]

theorem string_local {w : WireType} : Local fun b i => string b w i := by
  intro b i s j h
  obtain ⟨⟨raw, k⟩, hd, h⟩ := bind_eq_ok.mp h
  obtain ⟨E, rfl, hE, hread⟩ := delimited_local hd
  cases hs : String.fromUTF8? raw with
  | none => simp [hs, throw, throwThe, MonadExceptOf.throw] at h
  | some s' =>
    simp only [hs, pure, Except.pure, Except.ok.injEq, Prod.mk.injEq] at h
    obtain ⟨rfl, rfl⟩ := h
    refine ⟨E, rfl, hE, fun b' i' hat => ?_⟩
    show string b' w i' = _
    simp only [string, bind, Except.bind]
    rw [show delimited b' w i' = .ok (raw, i' + E.length) from hread b' i' hat]
    simp only [hs, pure, Except.pure]

def Skips (S : ByteArray → Nat → Nat → Except Trouble Nat) (fuel : Nat) : Prop :=
  ∀ {b i j}, S b i fuel = .ok j → ∃ E, j = i + E.length ∧ At b i E ∧
    ∀ b' i' fuel', fuel ≤ fuel' → At b' i' E → S b' i' fuel' = .ok (i' + E.length)

theorem skip_local : ∀ fuel,
    (∀ w tag depth, Skips (fun b i fuel => skipField b w tag i depth fuel) fuel) ∧
      ∀ tag depth, Skips (fun b i fuel => skipGroup b tag i depth fuel) fuel
  | 0 => ⟨fun _ _ _ _ _ _ h => by simp [skipField] at h, fun _ _ _ _ _ h => by simp [skipGroup] at h⟩
  | fuel + 1 => by
    obtain ⟨hfield, hgroup⟩ := skip_local fuel
    refine ⟨fun w tag depth b i j h => ?_, fun tag depth b i j h => ?_⟩
    · by_cases hd : depth = 0
      · cases w <;> simp [skipField, hd, throw, throwThe, MonadExceptOf.throw, bind,
          Except.bind] at h
      have hd' : (depth == 0) = false := by simpa using hd
      cases w with
      | varint =>
        simp only [skipField, hd', Bool.false_eq_true, ↓reduceIte] at h
        obtain ⟨⟨v, k⟩, hv, h⟩ := bind_eq_ok.mp h
        obtain rfl : k = j := by simpa [pure, Except.pure] using h
        obtain ⟨E, rfl, hE, hread⟩ := varint_local hv
        refine ⟨E, rfl, hE, fun b' i' fuel' hle hat => ?_⟩
        obtain ⟨f', rfl⟩ : ∃ f', fuel' = f' + 1 := ⟨fuel' - 1, by omega⟩
        simp only [skipField, hd', Bool.false_eq_true, ↓reduceIte, bind, Except.bind]
        rw [hread b' i' hat]
        rfl
      | fixed32 =>
        simp only [skipField, hd', Bool.false_eq_true, ↓reduceIte] at h
        obtain ⟨rfl, E, hlen, hE, hadv⟩ := advance_local h
        refine ⟨E, by rw [hlen], hE, fun b' i' fuel' hle hat => ?_⟩
        obtain ⟨f', rfl⟩ : ∃ f', fuel' = f' + 1 := ⟨fuel' - 1, by omega⟩
        simp only [skipField, hd', Bool.false_eq_true, ↓reduceIte, hadv b' i' hat, hlen]
      | fixed64 =>
        simp only [skipField, hd', Bool.false_eq_true, ↓reduceIte] at h
        obtain ⟨rfl, E, hlen, hE, hadv⟩ := advance_local h
        refine ⟨E, by rw [hlen], hE, fun b' i' fuel' hle hat => ?_⟩
        obtain ⟨f', rfl⟩ : ∃ f', fuel' = f' + 1 := ⟨fuel' - 1, by omega⟩
        simp only [skipField, hd', Bool.false_eq_true, ↓reduceIte, hadv b' i' hat, hlen]
      | delimited =>
        simp only [skipField, hd', Bool.false_eq_true, ↓reduceIte] at h
        obtain ⟨⟨len, k⟩, hv, h⟩ := bind_eq_ok.mp h
        obtain ⟨N, rfl, hN, hread⟩ := varint_local hv
        obtain ⟨rfl, V, rfl, hV, hadv⟩ := advance_local h
        refine ⟨N ++ V, by simp [Nat.add_assoc], At.append.mpr ⟨hN, hV⟩,
          fun b' i' fuel' hle hat => ?_⟩
        obtain ⟨hN', hV'⟩ := At.append.mp hat
        obtain ⟨f', rfl⟩ : ∃ f', fuel' = f' + 1 := ⟨fuel' - 1, by omega⟩
        simp only [skipField, hd', Bool.false_eq_true, ↓reduceIte, bind, Except.bind]
        rw [hread b' i' hN']
        simp only [hadv b' _ hV', List.length_append, Nat.add_assoc]
      | startGroup =>
        simp only [skipField, hd', Bool.false_eq_true, ↓reduceIte] at h
        obtain ⟨E, rfl, hE, hskip⟩ := hgroup tag depth h
        refine ⟨E, rfl, hE, fun b' i' fuel' hle hat => ?_⟩
        obtain ⟨f', rfl⟩ : ∃ f', fuel' = f' + 1 := ⟨fuel' - 1, by omega⟩
        simp only [skipField, hd', Bool.false_eq_true, ↓reduceIte]
        exact hskip b' i' f' (by omega) hat
      | endGroup =>
        simp [skipField, hd', throw, throwThe, MonadExceptOf.throw] at h
    · -- a group: a key, then either the end key of its number or a field and more of the group
      simp only [skipGroup] at h
      obtain ⟨⟨⟨inner, wire⟩, k⟩, hkey, h⟩ := bind_eq_ok.mp h
      obtain ⟨K, -, rfl, hK, hreadK⟩ := key_local hkey
      split at h
      · split at h
        · simp [throw, throwThe, MonadExceptOf.throw] at h
        · rename_i hend hinner
          simp only at hend hinner
          subst hend
          obtain rfl : i + K.length = j := by simpa [pure, Except.pure] using h
          refine ⟨K, rfl, hK, fun b' i' fuel' hle hat => ?_⟩
          obtain ⟨f', rfl⟩ : ∃ f', fuel' = f' + 1 := ⟨fuel' - 1, by omega⟩
          simp only [skipGroup, bind, Except.bind]
          rw [hreadK b' i' hat]
          simp [hinner, pure, Except.pure]
      · rename_i hend
        simp only at hend h
        obtain ⟨m, hm, h⟩ := bind_eq_ok.mp h
        obtain ⟨E₁, rfl, hE₁, hskip₁⟩ := hfield wire inner (depth - 1) hm
        obtain ⟨E₂, rfl, hE₂, hskip₂⟩ := hgroup tag depth h
        refine ⟨K ++ E₁ ++ E₂, by simp [Nat.add_assoc],
          At.append.mpr ⟨At.append.mpr ⟨hK, hE₁⟩, by rw [List.length_append, ← Nat.add_assoc]; exact hE₂⟩,
          fun b' i' fuel' hle hat => ?_⟩
        obtain ⟨hKE₁, hE₂'⟩ := At.append.mp hat
        obtain ⟨hK', hE₁'⟩ := At.append.mp hKE₁
        obtain ⟨f', rfl⟩ : ∃ f', fuel' = f' + 1 := ⟨fuel' - 1, by omega⟩
        simp only [skipGroup, bind, Except.bind]
        have hE₂'' : At b' (i' + K.length + E₁.length) E₂ := by
          rw [Nat.add_assoc, ← List.length_append]
          exact hE₂'
        have h₁ : skipField b' wire inner (i' + K.length) (depth - 1) f' =
            .ok (i' + K.length + E₁.length) := hskip₁ b' _ f' (by omega) hE₁'
        have h₂ : skipGroup b' tag (i' + K.length + E₁.length) depth f' =
            .ok (i' + K.length + E₁.length + E₂.length) := hskip₂ b' _ f' (by omega) hE₂''
        rw [hreadK b' i' hK']
        simp only [h₁, h₂]
        simp [Nat.add_assoc]

theorem VarintForm.length_le {k : Nat} {L : List UInt8} (h : VarintForm k L) :
    k + L.length ≤ 10 := by
  induction h with
  | last _ hk _ => simp; omega
  | more _ hk _ ih => simp at ih ⊢; omega

theorem VarintForm.value_lt {k : Nat} {L : List UInt8} (h : VarintForm k L) :
    groupsValue L * 2 ^ (7 * k) < 2 ^ 64 := by
  induction h with
  | @last k x hx hk h9 =>
    have hx128 : x.toNat < 128 := UInt8.lt_iff_toNat_lt.mp hx
    have hval : groupsValue [x] = x.toNat := by
      simp [groupsValue, Nat.mod_eq_of_lt hx128]
    rw [hval]
    by_cases hk9 : k = 9
    · subst hk9
      have : x.toNat < 2 := UInt8.lt_iff_toNat_lt.mp (h9 rfl)
      calc x.toNat * 2 ^ (7 * 9) ≤ 1 * 2 ^ 63 := Nat.mul_le_mul (by omega) le_rfl
        _ < 2 ^ 64 := by norm_num
    · have hx' : x.toNat < 2 ^ 7 := UInt8.lt_iff_toNat_lt.mp hx
      calc x.toNat * 2 ^ (7 * k) < 2 ^ 7 * 2 ^ (7 * k) :=
            Nat.mul_lt_mul_of_pos_right hx' (Nat.two_pow_pos _)
        _ = 2 ^ (7 * (k + 1)) := by rw [← Nat.pow_add]; congr 1; ring
        _ ≤ 2 ^ 63 := Nat.pow_le_pow_right (by norm_num) (by omega)
        _ < 2 ^ 64 := by norm_num
  | @more k x L _ hk _ ih =>
    -- the later groups fill a multiple of `2^(7(k+1))` below `2^64`, and this one less than that
    obtain ⟨q, hq⟩ : ∃ q, 2 ^ 64 = 2 ^ (7 * (k + 1)) * q :=
      ⟨2 ^ (64 - 7 * (k + 1)), by rw [← Nat.pow_add]; congr 1; omega⟩
    have hstep : 2 ^ (7 * (k + 1)) = 128 * 2 ^ (7 * k) := by
      rw [show 7 * (k + 1) = 7 * k + 7 by ring, Nat.pow_add]
      ring
    have hlt : groupsValue L < q := by
      rw [hq, Nat.mul_comm] at ih
      exact Nat.lt_of_mul_lt_mul_left ih
    have hlow : x.toNat % 128 < 128 := Nat.mod_lt _ (by norm_num)
    have hpos : 0 < 2 ^ (7 * k) := Nat.two_pow_pos _
    rw [groupsValue, hq, hstep]
    nlinarith

theorem varintFrom_form {k : Nat} {L : List UInt8} (hL : VarintForm k L) :
    ∀ {b : ByteArray} {i acc fuel : Nat}, At b i L → L.length ≤ fuel →
      varintFrom b i k acc fuel = .ok ((acc + groupsValue L * 2 ^ (7 * k)) % 2 ^ 64, i + L.length) := by
  induction hL with
  | @last k x hx hk h9 =>
    intro b i acc fuel hat hfuel
    obtain ⟨f, rfl⟩ : ∃ f, fuel = f + 1 := ⟨fuel - 1, by simp at hfuel; omega⟩
    have hcheck : (k == 9 && decide (x ≥ 2)) = false := by
      by_cases hk9 : k = 9
      · have := h9 hk9
        simp [hk9, UInt8.le_iff_toNat_le, UInt8.lt_iff_toNat_lt] at this ⊢
        omega
      · simp [hk9]
    unfold varintFrom
    rw [(At.cons.mp hat).1]
    simp [hx, hcheck, groupsValue, Nat.pow_eq]
  | @more k x L hx hk _ ih =>
    intro b i acc fuel hat hfuel
    obtain ⟨f, rfl⟩ : ∃ f, fuel = f + 1 := ⟨fuel - 1, by simp at hfuel; omega⟩
    obtain ⟨hx', hL'⟩ := At.cons.mp hat
    have hge : ¬ x < 128 := by simpa using hx
    unfold varintFrom
    rw [hx']
    simp only [hge, ↓reduceIte, Nat.pow_eq]
    rw [ih hL' (by simp at hfuel; omega), groupsValue, List.length_cons]
    congr 2
    · rw [show 7 * (k + 1) = 7 * k + 7 by ring, Nat.pow_add]
      congr 1
      ring
    · omega

theorem varint_form {L : List UInt8} (hL : VarintForm 0 L) {b : ByteArray} {i : Nat}
    (hat : At b i L) : varint b i = .ok (groupsValue L, i + L.length) := by
  have hlt := hL.value_lt
  rw [Nat.mul_zero, Nat.pow_zero, Nat.mul_one] at hlt
  have hread := @varintFrom_form 0 L hL b i 0 10 hat (by have := hL.length_le; omega)
  rw [Nat.zero_add, Nat.mul_zero, Nat.pow_zero, Nat.mul_one, Nat.mod_eq_of_lt hlt] at hread
  exact hread

theorem key_form {tag : Nat} {w : WireType} {K : List UInt8} (hK : KeyForm tag w K)
    {b : ByteArray} {i : Nat} (hat : At b i K) : key b i = .ok ((tag, w), i + K.length) := by
  have hcode := w.code_lt
  have htag := hK.lt
  have hsmall : ¬ tag * 8 + w.code ≥ Nat.pow 2 32 := by
    simp only [Nat.pow_eq]
    omega
  have hwire : WireType.ofCode? ((tag * 8 + w.code) % 8) = some w := by
    rw [show (tag * 8 + w.code) % 8 = w.code by omega, WireType.ofCode?_code]
  have hzero : ((tag * 8 + w.code) / 8 == 0) = false := by
    rw [show (tag * 8 + w.code) / 8 = tag by omega]
    simpa using Nat.pos_iff_ne_zero.mp hK.pos
  unfold key
  rw [varint_form hK.varint hat, hK.value]
  simp only [bind, Except.bind, hsmall, ↓reduceIte, hwire, hzero, Bool.false_eq_true, pure,
    Except.pure]
  rw [show (tag * 8 + w.code) / 8 = tag by omega]

theorem KeyForm.ne_nil {tag : Nat} {w : WireType} {K : List UInt8} (hK : KeyForm tag w K) :
    K ≠ [] := by
  rintro rfl
  cases hK.varint

theorem FieldForm.ne_nil {tag : Nat} {E : List UInt8} (hf : FieldForm tag E) : E ≠ [] := by
  cases hf <;> simp [KeyForm.ne_nil ‹_›]

theorem FieldForm.skips {tag : Nat} {E : List UInt8} (hf : FieldForm tag E) :
    ∃ (w : WireType) (K : List UInt8), K ≠ [] ∧ ∀ b i, At b i E →
      key b i = .ok ((tag, w), i + K.length) ∧
        ∀ depth fuel, depth ≠ 0 → skipField b w tag (i + K.length) depth (fuel + 1) =
          .ok (i + E.length) := by
  have hne : ∀ {w K}, KeyForm tag w K → K ≠ [] := fun hK => hK.ne_nil
  cases hf with
  | @varint K V hK hV =>
    refine ⟨.varint, K, hne hK, fun b i hat => ?_⟩
    obtain ⟨hK', hV'⟩ := At.append.mp hat
    refine ⟨key_form hK hK', fun depth fuel hd => ?_⟩
    simp [skipField, hd, varint_form hV hV', bind, Except.bind, pure, Except.pure, Nat.add_assoc]
  | @fixed64 K V hK hV =>
    refine ⟨.fixed64, K, hne hK, fun b i hat => ?_⟩
    obtain ⟨hK', hV'⟩ := At.append.mp hat
    have hfit := hV'.le_size (by rintro rfl; simp at hV)
    refine ⟨key_form hK hK', fun depth fuel hd => ?_⟩
    simp only [skipField, hd, advance, beq_iff_eq, ↓reduceIte]
    rw [if_neg (by omega)]
    simp [hV, Nat.add_assoc]
  | @delimited K N V hK hN hlen =>
    refine ⟨.delimited, K, hne hK, fun b i hat => ?_⟩
    obtain ⟨hKN, hV'⟩ := At.append.mp hat
    obtain ⟨hK', hN'⟩ := At.append.mp hKN
    refine ⟨key_form hK hK', fun depth fuel hd => ?_⟩
    simp only [skipField, hd, beq_iff_eq, ↓reduceIte, bind, Except.bind]
    rw [varint_form hN hN', hlen]
    simp only [advance]
    rcases Nat.eq_zero_or_pos V.length with h0 | hpos
    · rw [if_neg (by omega)]
      simp [h0, Nat.add_assoc]
    · have hfit := hV'.le_size (by rintro rfl; simp at hpos)
      rw [if_neg (by simp at hfit ⊢; omega)]
      simp [Nat.add_assoc]
  | @fixed32 K V hK hV =>
    refine ⟨.fixed32, K, hne hK, fun b i hat => ?_⟩
    obtain ⟨hK', hV'⟩ := At.append.mp hat
    have hfit := hV'.le_size (by rintro rfl; simp at hV)
    refine ⟨key_form hK hK', fun depth fuel hd => ?_⟩
    simp only [skipField, hd, advance, beq_iff_eq, ↓reduceIte]
    rw [if_neg (by omega)]
    simp [hV, Nat.add_assoc]

end Proto

namespace Snapshot

open Proto

section Loop

variable {D : Type} (F : ByteArray → Nat → D → Nat → Except Trouble D)

def Turn (n : Nat) (E : List UInt8) (d d' : D) : Prop :=
  ∀ b i, At b i E → n ≤ b.size → ∀ fuel, F b i d (fuel + 1) = F b (i + E.length) d' fuel

def Moves (n : Nat) (E : List UInt8) (d d' : D) : Prop :=
  ∀ b i, At b i E → n ≤ b.size → Steps (F b) b i E d d'

structure FieldLoop : Prop where
  done : ∀ {b i d fuel}, b.size ≤ i → F b i d fuel = .ok d
  turn : ∀ {b i d fuel r}, i < b.size → F b i d (fuel + 1) = .ok r →
    ∃ E d', E ≠ [] ∧ At b i E ∧ Turn F b.size E d d' ∧ F b (i + E.length) d' fuel = .ok r

variable {F}

theorem Moves.nil {n : Nat} {d : D} : Moves F n [] d d := fun _ _ _ _ => Steps.nil

theorem Moves.trans {n : Nat} {E₁ E₂ : List UInt8} {d d₁ d₂ : D} (h₁ : Moves F n E₁ d d₁)
    (h₂ : Moves F n E₂ d₁ d₂) : Moves F n (E₁ ++ E₂) d d₂ := fun b i hat hn =>
  (h₁ b i (At.append.mp hat).1 hn).trans (h₂ b _ (At.append.mp hat).2 hn)

theorem Moves.mono {n n' : Nat} {E : List UInt8} {d d' : D} (h : Moves F n E d d')
    (hle : n ≤ n') : Moves F n' E d d' := fun b i hat hn => h b i hat (le_trans hle hn)

theorem Turn.moves {n : Nat} {E : List UInt8} {d d' : D} (h : Turn F n E d d') (hE : E ≠ []) :
    Moves F n E d d' := fun b i hat hn =>
  Steps.of_at hat (fun hnil => absurd hnil hE) fun _ _ fuel => h b i hat hn fuel

theorem FieldLoop.trace (hF : FieldLoop F) {b : ByteArray} : ∀ {fuel i : Nat} {d r : D},
    F b i d fuel = .ok r → b.size < i + fuel → i ≤ b.size →
      ∃ E, At b i E ∧ i + E.length = b.size ∧ Moves F b.size E d r
  | 0, _, _, _, _, hfuel, hi => by omega
  | fuel + 1, i, d, r, h, hfuel, hi => by
    rcases Nat.lt_or_ge i b.size with hlt | hge
    · obtain ⟨E₁, d₁, hne, hE₁, hturn, hrest⟩ := hF.turn hlt h
      have hfit := hE₁.le_size hne
      obtain ⟨E₂, hE₂, hend, hmoves⟩ := hF.trace hrest
        (by have := List.length_pos_of_ne_nil hne; omega) hfit
      exact ⟨E₁ ++ E₂, At.append.mpr ⟨hE₁, hE₂⟩, by simp; omega,
        (hturn.moves hne).trans hmoves⟩
    · obtain rfl : i = b.size := by omega
      rw [hF.done le_rfl] at h
      cases h
      exact ⟨[], At.nil, rfl, Moves.nil⟩

theorem FieldLoop.insert (hF : FieldLoop F) {f : List UInt8} (hf : f ≠ [])
    (hskip : ∀ d, Turn F 0 f d d) {L : List UInt8} {p : Nat} (hp : p ≤ L.length) {d₀ d r : D}
    (hpre : F ⟨(L.take p).toArray⟩ 0 d₀ (p + 1) = .ok d)
    (hall : F ⟨L.toArray⟩ 0 d₀ (L.length + 1) = .ok r) :
    F ⟨(L.take p ++ f ++ L.drop p).toArray⟩ 0 d₀ ((L.take p ++ f ++ L.drop p).length + 1) =
      .ok r := by
  have hsize : ∀ M : List UInt8, (⟨M.toArray⟩ : ByteArray).size = M.length := fun _ => rfl
  have htake : (L.take p).length = p := List.length_take_of_le hp
  -- the fields of the first `p` bytes alone, as the loop reads them
  obtain ⟨E₁, hE₁, hlen₁, hmoves₁⟩ := hF.trace hpre (by rw [hsize]; omega) (Nat.zero_le _)
  obtain rfl : E₁ = L.take p := by
    simpa using eq_drop_of_at_mk hE₁ (by rw [hlen₁, hsize])
  -- in the whole bytes the loop reads those fields first, then the rest to the end
  have hatL : At ⟨L.toArray⟩ 0 (L.take p ++ L.drop p) := by
    rw [List.take_append_drop]
    exact at_mk L
  obtain ⟨fuel', hfuel', heq⟩ := hmoves₁ _ 0 (At.append.mp hatL).1 (by rw [hsize, hsize]; omega)
    (L.length + 1) (by rw [hsize]; omega)
  rw [heq] at hall
  obtain ⟨E₂, hE₂, hlen₂, hmoves₂⟩ := hF.trace hall hfuel' (by rw [hsize]; omega)
  obtain rfl : E₂ = L.drop (0 + (L.take p).length) := eq_drop_of_at_mk hE₂ (by rw [hlen₂, hsize])
  rw [Nat.zero_add, htake] at hmoves₂ hE₂
  -- with the new bytes in between, the loop reads the first fields, steps over them, and reads on
  have m₁ : Moves F L.length (L.take p) d₀ d := hmoves₁.mono (List.length_take_le' p L)
  have m : Moves F L.length f d d := ((hskip d).moves hf).mono (Nat.zero_le _)
  have m₂ : Moves F L.length (L.drop p) d r := hmoves₂.mono le_rfl
  have hsteps := (m₁.trans m).trans m₂
  refine (hsteps _ 0 (at_mk _) (by simp [hsize]; omega)).run (fun _ => hF.done ?_) _
    (by rw [hsize]; omega)
  simp [hsize]

theorem Turn.of_key_value {n : Nat} {K V : List UInt8} {d d' : D} (hK : K ≠ [])
    (hstep : ∀ b i, At b i K → At b (i + K.length) V → i < b.size → n ≤ b.size → ∀ fuel,
      F b i d (fuel + 1) = F b (i + K.length + V.length) d' fuel) :
    Turn F n (K ++ V) d d' := by
  intro b i hat hn fuel
  obtain ⟨hK', hV'⟩ := At.append.mp hat
  have hi := hK'.lt_size 0 (List.length_pos_of_ne_nil hK)
  rw [hstep b i hK' hV' (by omega) hn fuel, List.length_append, Nat.add_assoc]


theorem turn_of_field {α : Type} {R : ByteArray → Nat → Except Trouble (α × Nat)} (hR : Local R)
    (m f : String) {tag : Nat} {wire : WireType} {g : D → α → D}
    (hF : ∀ b i j d fuel, i < b.size → key b i = .ok ((tag, wire), j) →
      F b i d (fuel + 1) = within m f (R b j) >>= fun p => F b p.2 (g d p.1) fuel)
    {b : ByteArray} {i j : Nat} {d r : D} {fuel : Nat} (hi : i < b.size)
    (hkey : key b i = .ok ((tag, wire), j)) (h : F b i d (fuel + 1) = .ok r) :
    ∃ E d', E ≠ [] ∧ At b i E ∧ Turn F b.size E d d' ∧ F b (i + E.length) d' fuel = .ok r := by
  obtain ⟨K, hK0, rfl, hK, hreadK⟩ := key_local hkey
  rw [hF b i _ d fuel hi hkey] at h
  obtain ⟨⟨v, k⟩, hv, h⟩ := bind_eq_ok.mp h
  obtain ⟨V, rfl, hV, hreadV⟩ := hR (within_eq_ok.mp hv)
  refine ⟨K ++ V, g d v, by simp [hK0], At.append.mpr ⟨hK, hV⟩,
    Turn.of_key_value hK0 fun b' i' hK' hV' hi' _ fuel' => ?_, by simpa [Nat.add_assoc] using h⟩
  rw [hF b' i' _ d fuel' hi' (hreadK b' i' hK'), hreadV b' _ hV']
  rfl

theorem Turn.of_skip {n tag : Nat} {w : WireType} {E : List UInt8} {d : D} (hE : E ≠ [])
    (hF : ∀ b i j fuel, i < b.size → key b i = .ok ((tag, w), j) →
      F b i d (fuel + 1) = skipField b w tag j groupLimit (b.size + 1) >>= fun k => F b k d fuel)
    (hreads : ∀ b i, At b i E → n ≤ b.size → ∃ j, key b i = .ok ((tag, w), j) ∧
      skipField b w tag j groupLimit (b.size + 1) = .ok (i + E.length)) :
    Turn F n E d d := by
  intro b i hat hn fuel
  obtain ⟨j, hkey, hskip⟩ := hreads b i hat hn
  have hi := hat.lt_size 0 (by simpa using List.length_pos_of_ne_nil hE)
  rw [hF b i j fuel (by omega) hkey, hskip]
  rfl

theorem turn_of_skipped {tag : Nat} {wire : WireType}
    (hF : ∀ b i j d fuel, i < b.size → key b i = .ok ((tag, wire), j) →
      F b i d (fuel + 1) = skipField b wire tag j groupLimit (b.size + 1) >>= fun k => F b k d fuel)
    {b : ByteArray} {i j : Nat} {d r : D} {fuel : Nat} (hi : i < b.size)
    (hkey : key b i = .ok ((tag, wire), j)) (h : F b i d (fuel + 1) = .ok r) :
    ∃ E d', E ≠ [] ∧ At b i E ∧ Turn F b.size E d d' ∧ F b (i + E.length) d' fuel = .ok r := by
  obtain ⟨K, hK0, rfl, hK, hreadK⟩ := key_local hkey
  rw [hF b i _ d fuel hi hkey] at h
  obtain ⟨k, hk, h⟩ := bind_eq_ok.mp h
  obtain ⟨E, rfl, hE, hskip⟩ := (skip_local _).1 wire tag groupLimit hk
  refine ⟨K ++ E, d, by simp [hK0], At.append.mpr ⟨hK, hE⟩,
    Turn.of_skip (by simp [hK0]) (fun b i j fuel => hF b i j d fuel) fun b' i' hat hn => ?_,
    by simpa [Nat.add_assoc] using h⟩
  obtain ⟨hK', hE'⟩ := At.append.mp hat
  have hs : skipField b' wire tag (i' + K.length) groupLimit (b'.size + 1) =
      .ok (i' + K.length + E.length) := hskip b' _ _ (by omega) hE'
  refine ⟨i' + K.length, hreadK b' i' hK', ?_⟩
  rw [hs, List.length_append, Nat.add_assoc]

end Loop

section SourceLoop

variable {b : ByteArray} {i : Nat} {d : SourceSnapshot}

theorem sourceFields_of_other {fuel tag j : Nat} {wire : WireType} (hi : i < b.size)
    (hkey : key b i = .ok ((tag, wire), j)) (htag : ¬ (1 ≤ tag ∧ tag ≤ 4)) :
    sourceFields b i d (fuel + 1) =
      skipField b wire tag j groupLimit (b.size + 1) >>= fun k => sourceFields b k d fuel := by
  simp only [sourceFields, Nat.not_le.mpr hi, ↓reduceIte, hkey, bind, Except.bind]
  split <;> first | omega | rfl

theorem sourceFields_loop : FieldLoop sourceFields where
  done h := sourceFields_of_size_le h
  turn := by
    intro b i d fuel r hi h
    obtain ⟨⟨⟨tag, wire⟩, j⟩, hkey⟩ : ∃ x, key b i = .ok x := by
      simp only [sourceFields, Nat.not_le.mpr hi, ↓reduceIte] at h
      obtain ⟨x, hx, -⟩ := bind_eq_ok.mp h
      exact ⟨x, hx⟩
    -- the four known fields each read their value by a local reader; any other is skipped
    rcases (show tag = 1 ∨ tag = 2 ∨ tag = 3 ∨ tag = 4 ∨ ¬ (1 ≤ tag ∧ tag ≤ 4) by omega)
      with rfl | rfl | rfl | rfl | htag
    · exact turn_of_field (varintValue_local (w := wire)) "SourceSnapshot" "flags"
        (g := fun d v => { d with flags := v % Nat.pow 2 32 })
        (fun b i j d fuel hi hkey => by
          simp only [sourceFields, Nat.not_le.mpr hi, ↓reduceIte, hkey, bind, Except.bind])
        hi hkey h
    · exact turn_of_field (string_local (w := wire)) "SourceSnapshot" "source_uid"
        (g := fun d v => { d with uid := v })
        (fun b i j d fuel hi hkey => by
          simp only [sourceFields, Nat.not_le.mpr hi, ↓reduceIte, hkey, bind, Except.bind])
        hi hkey h
    · exact turn_of_field (string_local (w := wire)) "SourceSnapshot" "title"
        (g := fun d v => { d with title := v })
        (fun b i j d fuel hi hkey => by
          simp only [sourceFields, Nat.not_le.mpr hi, ↓reduceIte, hkey, bind, Except.bind])
        hi hkey h
    · exact turn_of_field (varintValue_local (w := wire)) "SourceSnapshot" "deep_id"
        (g := fun d v => { d with deepId := toInt64 v })
        (fun b i j d fuel hi hkey => by
          simp only [sourceFields, Nat.not_le.mpr hi, ↓reduceIte, hkey, bind, Except.bind])
        hi hkey h
    · -- a field of another number, skipped over
      exact turn_of_skipped (F := sourceFields)
        (fun b i j d fuel hi hkey => sourceFields_of_other hi hkey htag) hi hkey h

end SourceLoop

section MessageLoop

variable {b : ByteArray} {i : Nat} {d : MessageSnapshot}

theorem messageFields_of_other {fuel tag j : Nat} {wire : WireType} (hi : i < b.size)
    (hkey : key b i = .ok ((tag, wire), j)) (htag : ¬ (1 ≤ tag ∧ tag ≤ 6)) :
    messageFields b i d (fuel + 1) =
      skipField b wire tag j groupLimit (b.size + 1) >>= fun k => messageFields b k d fuel := by
  simp only [messageFields, Nat.not_le.mpr hi, ↓reduceIte, hkey, bind, Except.bind]
  split <;> first | omega | rfl

theorem messageFields_loop : FieldLoop messageFields where
  done h := messageFields_of_size_le h
  turn := by
    intro b i d fuel r hi h
    obtain ⟨⟨⟨tag, wire⟩, j⟩, hkey⟩ : ∃ x, key b i = .ok x := by
      simp only [messageFields, Nat.not_le.mpr hi, ↓reduceIte] at h
      obtain ⟨x, hx, -⟩ := bind_eq_ok.mp h
      exact ⟨x, hx⟩
    -- the six known fields each read their value by a local reader; any other is skipped
    rcases (show tag = 1 ∨ tag = 2 ∨ tag = 3 ∨ tag = 4 ∨ tag = 5 ∨ tag = 6 ∨
        ¬ (1 ≤ tag ∧ tag ≤ 6) by omega) with rfl | rfl | rfl | rfl | rfl | rfl | htag
    · exact turn_of_field (varintValue_local (w := wire)) "MessageSnapshot" "flags"
        (g := fun d v => { d with flags := v % Nat.pow 2 32 })
        (fun b i j d fuel hi hkey => by
          simp only [messageFields, Nat.not_le.mpr hi, ↓reduceIte, hkey, bind, Except.bind])
        hi hkey h
    · exact turn_of_field (varintValue_local (w := wire)) "MessageSnapshot" "created_at_unix_ms"
        (g := fun d v => { d with millis := toInt64 v })
        (fun b i j d fuel hi hkey => by
          simp only [messageFields, Nat.not_le.mpr hi, ↓reduceIte, hkey, bind, Except.bind])
        hi hkey h
    · exact turn_of_field (string_local (w := wire)) "MessageSnapshot" "source_uid"
        (g := fun d v => { d with sourceUid := v })
        (fun b i j d fuel hi hkey => by
          simp only [messageFields, Nat.not_le.mpr hi, ↓reduceIte, hkey, bind, Except.bind])
        hi hkey h
    · exact turn_of_field (string_local (w := wire)) "MessageSnapshot" "message_uid"
        (g := fun d v => { d with uid := v })
        (fun b i j d fuel hi hkey => by
          simp only [messageFields, Nat.not_le.mpr hi, ↓reduceIte, hkey, bind, Except.bind])
        hi hkey h
    · exact turn_of_field (string_local (w := wire)) "MessageSnapshot" "text"
        (g := fun d v => { d with text := v })
        (fun b i j d fuel hi hkey => by
          simp only [messageFields, Nat.not_le.mpr hi, ↓reduceIte, hkey, bind, Except.bind])
        hi hkey h
    · exact turn_of_field (string_local (w := wire)) "MessageSnapshot" "links"
        (g := fun d v => { d with links := d.links ++ [v] })
        (fun b i j d fuel hi hkey => by
          simp only [messageFields, Nat.not_le.mpr hi, ↓reduceIte, hkey, bind, Except.bind])
        hi hkey h
    · -- a field of another number, skipped over
      exact turn_of_skipped (F := messageFields)
        (fun b i j d fuel hi hkey => messageFields_of_other hi hkey htag) hi hkey h

end MessageLoop

def insertAt (b : ByteArray) (p : Nat) (f : List UInt8) : ByteArray :=
  b.extract 0 p ++ ⟨f.toArray⟩ ++ b.extract p b.size

theorem insertAt_mk (L : List UInt8) (p : Nat) (f : List UInt8) :
    insertAt ⟨L.toArray⟩ p f = ⟨(L.take p ++ f ++ L.drop p).toArray⟩ := by
  apply ByteArray.ext
  have hsize : (⟨L.toArray⟩ : ByteArray).size = L.length := rfl
  simp [insertAt, ByteArray.data_extract, hsize]

theorem extract_mk (L : List UInt8) (p : Nat) :
    (⟨L.toArray⟩ : ByteArray).extract 0 p = ⟨(L.take p).toArray⟩ := by
  apply ByteArray.ext
  simp [ByteArray.data_extract]

theorem FieldLoop.insertAt {D : Type} {F : ByteArray → Nat → D → Nat → Except Trouble D}
    (hF : FieldLoop F) {f : List UInt8} (hf : f ≠ []) (hskip : ∀ d, Turn F 0 f d d)
    {b : ByteArray} {p : Nat} (hp : p ≤ b.size) {d₀ d r : D}
    (hpre : F (b.extract 0 p) 0 d₀ ((b.extract 0 p).size + 1) = .ok d)
    (hall : F b 0 d₀ (b.size + 1) = .ok r) :
    F (insertAt b p f) 0 d₀ ((insertAt b p f).size + 1) = .ok r := by
  obtain ⟨L, rfl⟩ : ∃ L : List UInt8, b = ⟨L.toArray⟩ := ⟨b.data.toList, by simp⟩
  have hsize : ∀ M : List UInt8, (⟨M.toArray⟩ : ByteArray).size = M.length := fun _ => rfl
  rw [hsize] at hp hall
  rw [extract_mk, hsize, List.length_take_of_le hp] at hpre
  rw [insertAt_mk, hsize]
  exact hF.insert hf hskip hp hpre hall

theorem FieldForm.sourceTurn {tag : Nat} {f : List UInt8} (hf : FieldForm tag f) (htag : 4 < tag)
    (d : SourceSnapshot) : Turn sourceFields 0 f d d := by
  obtain ⟨w, K, _, hreads⟩ := hf.skips
  have hF : ∀ b i j fuel, i < b.size → key b i = .ok ((tag, w), j) →
      sourceFields b i d (fuel + 1) = skipField b w tag j groupLimit (b.size + 1) >>= fun k => sourceFields b k d fuel :=
    fun b i j fuel hi hkey => sourceFields_of_other hi hkey (by omega)
  refine Turn.of_skip hf.ne_nil hF fun b i hat _ => ⟨i + K.length, ?_⟩
  obtain ⟨hkey, hskip⟩ := hreads b i hat
  exact ⟨hkey, hskip groupLimit b.size (by decide)⟩

theorem FieldForm.messageTurn {tag : Nat} {f : List UInt8} (hf : FieldForm tag f) (htag : 6 < tag)
    (d : MessageSnapshot) : Turn messageFields 0 f d d := by
  obtain ⟨w, K, _, hreads⟩ := hf.skips
  have hF : ∀ b i j fuel, i < b.size → key b i = .ok ((tag, w), j) →
      messageFields b i d (fuel + 1) = skipField b w tag j groupLimit (b.size + 1) >>= fun k => messageFields b k d fuel :=
    fun b i j fuel hi hkey => messageFields_of_other hi hkey (by omega)
  refine Turn.of_skip hf.ne_nil hF fun b i hat _ => ⟨i + K.length, ?_⟩
  obtain ⟨hkey, hskip⟩ := hreads b i hat
  exact ⟨hkey, hskip groupLimit b.size (by decide)⟩

theorem sourceFields_of_decodeSource {b : ByteArray}
    (hb : ∀ t, decodeSource b ≠ .error (.decode t)) :
    ∃ r, sourceFields b 0 ⟨0, "", "", 0⟩ (b.size + 1) = .ok r := by
  cases h : sourceFields b 0 ⟨0, "", "", 0⟩ (b.size + 1) with
  | error t => exact absurd (by simp [decodeSource, h]) (hb t)
  | ok r => exact ⟨r, rfl⟩

theorem messageFields_of_decodeMessage {b : ByteArray}
    (hb : ∀ t, decodeMessage b ≠ .error (.decode t)) :
    ∃ r, messageFields b 0 ⟨0, 0, "", "", "", []⟩ (b.size + 1) = .ok r := by
  cases h : messageFields b 0 ⟨0, 0, "", "", "", []⟩ (b.size + 1) with
  | error t => exact absurd (by simp [decodeMessage, h]) (hb t)
  | ok r => exact ⟨r, rfl⟩

-- A well-formed field of a number the record does not know, of any wire type but a group, put in
-- between two fields of a snapshot whose fields decode, leaves the snapshot's reading as it was,
-- an error of a missing id or of a bad time included. A position between two fields is one
-- before which the bytes decode without an error of the wire format.
theorem unknown_field_ignored :
    (∀ (b : ByteArray) (p tag : Nat) (f : List UInt8),
      (∀ t, decodeSource b ≠ .error (.decode t)) → p ≤ b.size →
      (∀ t, decodeSource (b.extract 0 p) ≠ .error (.decode t)) →
      FieldForm tag f → 4 < tag → decodeSource (insertAt b p f) = decodeSource b) ∧
    (∀ (b : ByteArray) (p tag : Nat) (f : List UInt8),
      (∀ t, decodeMessage b ≠ .error (.decode t)) → p ≤ b.size →
      (∀ t, decodeMessage (b.extract 0 p) ≠ .error (.decode t)) →
      FieldForm tag f → 6 < tag → decodeMessage (insertAt b p f) = decodeMessage b) := by
  constructor
  · intro b p tag f hb hp hpre hf htag
    obtain ⟨r, hall⟩ := sourceFields_of_decodeSource hb
    obtain ⟨d, hd⟩ := sourceFields_of_decodeSource hpre
    have hins := sourceFields_loop.insertAt hf.ne_nil (FieldForm.sourceTurn hf htag) hp hd hall
    simp only [decodeSource, hins, hall]
  · intro b p tag f hb hp hpre hf htag
    obtain ⟨r, hall⟩ := messageFields_of_decodeMessage hb
    obtain ⟨d, hd⟩ := messageFields_of_decodeMessage hpre
    have hins := messageFields_loop.insertAt hf.ne_nil (FieldForm.messageTurn hf htag) hp hd hall
    simp only [decodeMessage, hins, hall]

-- A source with an id and a title, and a varint of number 5 put in between the two; a message
-- with the ids of its source and itself, and four bytes of number 9 put in between the two.
theorem unknown_field_ignored_between :
    decodeSource (insertAt ⟨#[0x12, 1, 0x75, 0x1a, 1, 0x74]⟩ 3 [0x28, 7]) =
        .ok ⟨⟨0⟩, "u", "t", 0⟩ ∧
      decodeMessage (insertAt ⟨#[0x1a, 1, 0x73, 0x22, 1, 0x6d]⟩ 3 [0x4d, 1, 2, 3, 4]) =
        decodeMessage ⟨#[0x1a, 1, 0x73, 0x22, 1, 0x6d]⟩ := by
  have hsrc : decodeSource ⟨#[0x12, 1, 0x75, 0x1a, 1, 0x74]⟩ = .ok ⟨⟨0⟩, "u", "t", 0⟩ := by
    decide
  have hsrc₃ : decodeSource (ByteArray.extract ⟨#[0x12, 1, 0x75, 0x1a, 1, 0x74]⟩ 0 3) =
      .ok ⟨⟨0⟩, "u", "", 0⟩ := by decide
  obtain ⟨msg, hmsg⟩ : ∃ msg, decodeMessage ⟨#[0x1a, 1, 0x73, 0x22, 1, 0x6d]⟩ = .ok msg :=
    ⟨_, rfl⟩
  have hmsg₃ : decodeMessage (ByteArray.extract ⟨#[0x1a, 1, 0x73, 0x22, 1, 0x6d]⟩ 0 3) =
      .error .missingUid := rfl
  -- a key of one byte, for a field number below 16
  have hkey : ∀ {tag : Nat} {w : WireType} {x : UInt8}, x.toNat = tag * 8 + w.code → 0 < tag →
      tag < 16 → KeyForm tag w [x] := fun {_ w _} hx hpos hlt =>
    have := w.code_lt
    ⟨.last (by simp [UInt8.lt_iff_toNat_lt, hx]; omega) (by omega) (by omega),
      by simp [groupsValue, hx]; omega, hpos, by omega⟩
  have h5 : FieldForm 5 [0x28, 7] :=
    FieldForm.varint (hkey (w := .varint) rfl (by decide) (by decide))
      (.last (by decide) (by decide) (by decide))
  have h9 : FieldForm 9 [0x4d, 1, 2, 3, 4] :=
    FieldForm.fixed32 (hkey (w := .fixed32) rfl (by decide) (by decide)) rfl
  refine ⟨?_, unknown_field_ignored.2 _ 3 9 _ (by simp [hmsg]) (by decide)
    (by simp [hmsg₃]) h9 (by decide)⟩
  rw [unknown_field_ignored.1 _ 3 5 _ (by simp [hsrc]) (by decide) (by simp [hsrc₃]) h5
    (by decide), hsrc]

end Snapshot

end ChatArchive
