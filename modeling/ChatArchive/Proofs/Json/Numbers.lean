import Mathlib
import ChatArchive.Json.Number
import ChatArchive.Proofs.Json.Strings

namespace ChatArchive

namespace Json

open Proto

def Delimited (text : ByteArray) (j : Nat) : Prop :=
  ∀ b, text[j]? = some b → b = 44 ∨ b = 93 ∨ b = 125

variable {text : ByteArray} {i j : Nat}

theorem wouldPass_eq (acc d bound : Nat) (hd : d < 10) :
    wouldPass acc d bound = decide (bound < acc * 10 + d) := by
  have hb := Nat.div_add_mod bound 10
  have hm := Nat.mod_lt bound (show 10 > 0 by decide)
  by_cases h : bound < acc * 10 + d <;> simp only [wouldPass, h, decide_true, decide_false] <;>
    simp only [Bool.and_eq_true, Bool.or_eq_true, decide_eq_true_eq, Bool.and_eq_false_iff,
      Bool.or_eq_false_iff, decide_eq_false_iff_not, ge_iff_le, gt_iff_lt, not_le, not_lt] <;> omega

theorem le_foldl_digits (bs : List UInt8) (acc : Nat) :
    acc ≤ bs.foldl (fun a b => a * 10 + digitValue b) acc := by
  induction bs generalizing acc with
  | nil => exact Nat.le_refl acc
  | cons b rest ih => exact Nat.le_trans (by omega) (ih (acc * 10 + digitValue b))

theorem digitValue_lt {b : UInt8} (h : isDigit b = true) : digitValue b < 10 := by
  simp only [isDigit, Bool.and_eq_true, decide_eq_true_eq, UInt8.le_iff_toNat_le] at h
  simp only [digitValue]
  have : (57 : UInt8).toNat = 57 := rfl
  omega

theorem gatherDigits_run (bound : Nat) (bs : List UInt8) (h : At text j bs)
    (hdig : ∀ b ∈ bs, isDigit b = true)
    (hend : ∀ b, text[j + bs.length]? = some b → isDigit b = false) (acc : Nat)
    (hle : bs.foldl (fun a b => a * 10 + digitValue b) acc ≤ bound) :
    gatherDigits text bound j acc =
      (bs.foldl (fun a b => a * 10 + digitValue b) acc, j + bs.length, false) := by
  induction bs generalizing j acc with
  | nil =>
    rw [gatherDigits]
    split
    · next hj =>
      have := hend _ (getElem?_pos text j hj)
      simp [this]
    · rfl
  | cons b rest ih =>
    rw [At.cons] at h
    obtain ⟨hj, hget⟩ := getElem?_eq_some_iff.mp h.1
    have hb : isDigit b = true := hdig b List.mem_cons_self
    have hstep : rest.foldl (fun a b => a * 10 + digitValue b) (acc * 10 + digitValue b) ≤ bound :=
      hle
    have hpass : wouldPass acc (digitValue b) bound = false := by
      rw [wouldPass_eq _ _ _ (digitValue_lt hb), decide_eq_false_iff_not, not_lt]
      exact Nat.le_trans (le_foldl_digits rest _) hstep
    have hlen : j + 1 + rest.length = j + (b :: rest).length := by
      rw [List.length_cons]
      omega
    rw [gatherDigits, dif_pos hj]
    simp only [hget, hb, ↓reduceIte, hpass, Bool.false_eq_true]
    rw [ih h.2 (fun c hc => hdig c (List.mem_cons_of_mem b hc)) (by rwa [← hlen] at hend) _ hstep,
      hlen, List.foldl_cons]


theorem scanAfterInteger_delimited (positive : Bool) (sig : Nat) (hend : Delimited text j) :
    scanAfterInteger text positive sig j = .ok (integerValue positive sig, j) := by
  rw [scanAfterInteger]
  cases hj : text[j]? with
  | none => rfl
  | some b =>
    rcases hend b hj with rfl | rfl | rfl <;> rfl

theorem isDigit_of_delimited {b : UInt8} (hend : Delimited text j) (hb : text[j]? = some b) :
    isDigit b = false := by
  rcases hend b hb with rfl | rfl | rfl <;> decide

theorem toUTF8_toList_of_ascii (cs : List Char) (h : ∀ c ∈ cs, c.toNat < 128) :
    (String.ofList cs).toUTF8.toList = cs.map Char.toUInt8 := by
  rw [String.toUTF8_eq_toByteArray, String.toByteArray_ofList]
  induction cs with
  | nil => rw [List.utf8Encode_nil, ByteArray.toList_eq]; rfl
  | cons c cs ih =>
    have hc : c.utf8Size = 1 := by
      rw [Char.utf8Size_eq_one_iff, UInt32.le_iff_toNat_le]
      exact Nat.le_of_lt_succ (h c List.mem_cons_self)
    rw [List.utf8Encode_cons, List.utf8Encode_singleton, String.utf8EncodeChar_eq_singleton hc,
      ByteArray.toList_eq, ByteArray.data_append, Array.toList_append, ← ByteArray.toList_eq,
      toList_toByteArray, ← ByteArray.toList_eq, ih (fun d hd => h d (List.mem_cons_of_mem c hd)),
      List.map_cons, Char.toUInt8_val]
    rfl

theorem toNat_lt_of_mem_toDigits {n : Nat} {c : Char} (hc : c ∈ Nat.toDigits 10 n) :
    48 ≤ c.toNat ∧ c.toNat ≤ 57 := by
  have h := Nat.isDigit_of_mem_toDigits (by decide) (by decide) hc
  simp only [Char.isDigit, Bool.and_eq_true, decide_eq_true_eq] at h
  exact ⟨h.1, h.2⟩

theorem toString_bytes (n : Nat) :
    (toString n).toUTF8.toList = (Nat.toDigits 10 n).map Char.toUInt8 :=
  toUTF8_toList_of_ascii _ fun c hc => by have := toNat_lt_of_mem_toDigits hc; omega

theorem digitValue_toUInt8 {c : Char} (hc : c.toNat < 256) : digitValue c.toUInt8 = c.toNat - 48 := by
  simp only [digitValue, Char.toUInt8, UInt32.toNat_toUInt8, Char.toNat_val]
  rw [Nat.mod_eq_of_lt hc]

theorem isDigit_toUInt8 {c : Char} (hc : 48 ≤ c.toNat ∧ c.toNat ≤ 57) : isDigit c.toUInt8 = true := by
  have hv : c.toUInt8.toNat = c.toNat := by
    simp only [Char.toUInt8, UInt32.toNat_toUInt8, Char.toNat_val]
    exact Nat.mod_eq_of_lt (by omega)
  simp only [isDigit, Bool.and_eq_true, decide_eq_true_eq, UInt8.le_iff_toNat_le, hv]
  exact ⟨hc.1, hc.2⟩

theorem foldl_toDigits (n : Nat) :
    ((Nat.toDigits 10 n).map Char.toUInt8).foldl (fun a b => a * 10 + digitValue b) 0 = n := by
  rw [List.foldl_map]
  have hcongr : (Nat.toDigits 10 n).foldl (fun a c => a * 10 + digitValue c.toUInt8) 0 =
      Nat.ofDigitChars 10 (Nat.toDigits 10 n) 0 := by
    rw [Nat.ofDigitChars_eq_foldl]
    apply List.foldl_ext
    intro a c hc
    rw [digitValue_toUInt8 (by have := toNat_lt_of_mem_toDigits hc; omega), Nat.mul_comm]
    rfl
  rw [hcongr, Nat.ofDigitChars_ten_toDigits]


theorem toDigits_head_ne_zero {n : Nat} (hn : 0 < n) :
    ∃ d rest, Nat.toDigits 10 n = d :: rest ∧ d ≠ '0' := by
  induction n using Nat.strong_induction_on with
  | _ n ih =>
    rw [Nat.toDigits_eq_if (by decide)]
    split
    · next hlt =>
      have hdigit : ∀ k < 10, 0 < k → Nat.digitChar k ≠ '0' := by decide
      exact ⟨_, [], rfl, hdigit n hlt hn⟩
    · next hge =>
      obtain ⟨d, rest, hd, hne⟩ := ih (n / 10) (by omega) (by omega)
      exact ⟨d, rest ++ [Nat.digitChar (n % 10)], by rw [hd, List.cons_append], hne⟩

theorem scanNumber_toString (positive : Bool) {n : Nat} (hn : n ≤ significandMax)
    (h : At text i (toString n).toUTF8.toList)
    (hend : Delimited text (i + (toString n).toUTF8.toList.length)) :
    scanNumber text positive i =
      .ok (integerValue positive n, i + (toString n).toUTF8.toList.length) := by
  rw [toString_bytes] at h hend ⊢
  rcases Nat.eq_zero_or_pos n with rfl | hpos
  · rw [Nat.toDigits_zero] at h hend ⊢
    have h0 : text[i]? = some 48 := h 0 (by simp)
    have hafter := scanAfterInteger_delimited positive 0 hend
    rw [scanNumber, h0]
    cases h1 : text[i + 1]? with
    | none => exact hafter
    | some b =>
      have hb : isDigit b = false := isDigit_of_delimited hend h1
      simp only [hb, Bool.false_eq_true, ↓reduceIte]
      exact hafter
  · obtain ⟨d, rest, hd, hne⟩ := toDigits_head_ne_zero hpos
    have hdig : ∀ c ∈ Nat.toDigits 10 n, isDigit c.toUInt8 = true :=
      fun c hc => isDigit_toUInt8 (toNat_lt_of_mem_toDigits hc)
    rw [hd, List.map_cons] at h hend ⊢
    have hlen : i + (d.toUInt8 :: rest.map Char.toUInt8).length =
        i + 1 + (rest.map Char.toUInt8).length := by
      rw [List.length_cons]
      omega
    rw [hlen] at hend ⊢
    obtain ⟨hfirst, hrest⟩ := At.cons.mp h
    have hd48 : (d.toUInt8 == 48) = false := by
      have hdd := toNat_lt_of_mem_toDigits (hd ▸ List.mem_cons_self)
      rw [beq_eq_false_iff_ne]
      intro heq
      apply hne
      apply Char.toNat_inj.mp
      have := congrArg UInt8.toNat heq
      simp only [Char.toUInt8, UInt32.toNat_toUInt8, Char.toNat_val] at this
      rw [Nat.mod_eq_of_lt (by omega)] at this
      exact this
    have hvalue := foldl_toDigits n
    rw [hd, List.map_cons, List.foldl_cons] at hvalue
    have hgather := gatherDigits_run significandMax (rest.map Char.toUInt8) hrest
      (fun b hb => by
        obtain ⟨c, hc, rfl⟩ := List.mem_map.mp hb
        exact hdig c (hd ▸ List.mem_cons_of_mem d hc))
      (fun b hb => isDigit_of_delimited hend hb)
      (0 * 10 + digitValue d.toUInt8) (by rw [hvalue]; exact hn)
    rw [hvalue] at hgather
    rw [scanNumber, hfirst]
    simp only [hd48, Bool.false_eq_true, ↓reduceIte, hdig d (hd ▸ List.mem_cons_self),
      Nat.zero_mul, Nat.zero_add] at hgather ⊢
    rw [hgather]
    exact scanAfterInteger_delimited positive n hend


theorem reads_number {need : Nat} (positive : Bool) {n : Nat} (hn : n ≤ significandMax)
    (h : At text i (toString n).toUTF8.toList)
    (hend : Delimited text (i + (toString n).toUTF8.toList.length)) :
    (Scan.number positive).Reads text need i (integerValue positive n)
      (i + (toString n).toUTF8.toList.length) := by
  intro d hd
  simp only [Scan.number, Scan.runFrom_bind, Scan.runFrom_read, Scan.runFrom_get,
    scanNumber_toString positive hn h hend, Scan.jump, Scan.runFrom_modify, Scan.runFrom_pure]

theorem toString_neg {n : Int} (hn : n < 0) : toString n = "-" ++ toString n.natAbs := by
  obtain ⟨m, rfl⟩ := Int.exists_eq_neg_ofNat (Int.le_of_lt hn)
  cases m with
  | zero => simp at hn
  | succ m => rfl

end Json

end ChatArchive
