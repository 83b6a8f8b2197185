import Mathlib
import ChatArchive.Time.Parse
import ChatArchive.Proofs.Time.Calendar

namespace ChatArchive

theorem toNat_of_isDigit {c : Char} (hc : c.isDigit = true) : 48 ≤ c.toNat ∧ c.toNat ≤ 57 := by
  simp only [Char.isDigit, Bool.and_eq_true, decide_eq_true_eq] at hc
  exact ⟨hc.1, hc.2⟩

theorem isDigit_of_mem_toDigits {n : Nat} {c : Char} (hc : c ∈ Nat.toDigits 10 n) :
    c.isDigit = true :=
  Nat.isDigit_of_mem_toDigits (by decide) (by decide) hc

namespace Instant

structure Valid (t : Instant) : Prop where
  range : minSeconds ≤ t.seconds ∧ t.seconds ≤ maxSeconds
  nanos : t.nanos < 2000000000
  leap : 1000000000 ≤ t.nanos → t.seconds % 60 = 59


theorem padded_toList (w n : Nat) :
    (padded w n).toList = List.replicate (w - (Nat.toDigits 10 n).length) '0' ++ Nat.toDigits 10 n := by
  simp only [padded, String.toList_append, String.toList_ofList]
  rw [← String.length_toList, show (toString n).toList = Nat.toDigits 10 n from Nat.toList_repr]

theorem isDigit_of_mem_padded {w n : Nat} {c : Char} (hc : c ∈ (padded w n).toList) :
    c.isDigit = true := by
  rw [padded_toList, List.mem_append, List.mem_replicate] at hc
  rcases hc with ⟨-, rfl⟩ | hc
  · rfl
  · exact isDigit_of_mem_toDigits hc

theorem length_padded (w n : Nat) :
    (padded w n).toList.length = max w (Nat.toDigits 10 n).length := by
  rw [padded_toList, List.length_append, List.length_replicate]
  omega

theorem length_toDigits_pos (n : Nat) : 0 < (Nat.toDigits 10 n).length :=
  List.length_pos_iff.mpr Nat.toDigits_ne_nil

theorem padded_cons (w n : Nat) : ∃ c tail, (padded w n).toList = c :: tail ∧ c.isDigit = true := by
  obtain ⟨c, tail, h⟩ := List.exists_cons_of_length_pos (by
    rw [length_padded]
    have := length_toDigits_pos n
    omega : 0 < (padded w n).toList.length)
  exact ⟨c, tail, h, isDigit_of_mem_padded (h ▸ List.mem_cons_self)⟩

theorem text_toList (Y M D H Mi S F : String) :
    (Y ++ "-" ++ M ++ "-" ++ D ++ "T" ++ H ++ ":" ++ Mi ++ ":" ++ S ++ F ++ "Z").toList =
      Y.toList ++ '-' :: (M.toList ++ '-' :: (D.toList ++ 'T' :: (H.toList ++ ':' ::
        (Mi.toList ++ ':' :: (S.toList ++ (F.toList ++ ['Z'])))))) := by
  simp only [String.toList_append, List.append_assoc, show "-".toList = ['-'] from rfl,
    show "T".toList = ['T'] from rfl, show ":".toList = [':'] from rfl,
    show "Z".toList = ['Z'] from rfl, List.nil_append, List.cons_append]

end Instant

namespace Rfc3339

open Instant

theorem zero_toNat : '0'.toNat = 48 := rfl

def digitsFrom (acc : Int) (ds : List Char) : Int :=
  ds.foldl (fun a c => a * 10 + (c.toNat - '0'.toNat)) acc

theorem le_digitsFrom {acc : Int} (hacc : 0 ≤ acc) {ds : List Char}
    (hdig : ∀ c ∈ ds, c.isDigit = true) : acc ≤ digitsFrom acc ds := by
  induction ds generalizing acc with
  | nil => exact le_refl acc
  | cons c ds ih =>
    have hc := toNat_of_isDigit (hdig c List.mem_cons_self)
    have hstep : acc ≤ acc * 10 + (c.toNat - '0'.toNat) := by
      rw [zero_toNat]
      omega
    exact hstep.trans (ih (by omega) fun d hd => hdig d (List.mem_cons_of_mem c hd))

theorem digits_run {least most taken : Nat} {acc : Int} {ds rest : List Char}
    (hdig : ∀ c ∈ ds, c.isDigit = true) (hmost : taken + ds.length ≤ most)
    (hleast : least ≤ taken + ds.length)
    (hstop : taken + ds.length = most ∨ ∀ c ∈ rest.head?, c.isDigit = false)
    (hacc : 0 ≤ acc) (hbound : digitsFrom acc ds ≤ int64Max) :
    digits least most taken acc (ds ++ rest) = .ok (digitsFrom acc ds, rest) := by
  induction ds generalizing taken acc with
  | nil =>
    cases rest with
    | nil =>
      simp only [List.length_nil, Nat.add_zero] at hleast
      simp [digits, digitsFrom, Nat.not_lt.mpr hleast]
    | cons c rest =>
      simp only [List.length_nil, Nat.add_zero, List.head?_cons, Option.mem_def,
        Option.some.injEq, forall_eq'] at hstop hmost hleast
      rcases hstop with hstop | hstop
      · simp [digits, digitsFrom, hstop]
      · simp [digits, digitsFrom, hstop, Nat.not_lt.mpr hleast]
  | cons c ds ih =>
    have hc := hdig c List.mem_cons_self
    have hnext : 0 ≤ acc * 10 + (c.toNat - '0'.toNat) := by
      have := toNat_of_isDigit hc
      rw [zero_toNat]
      omega
    have hle : acc * 10 + (c.toNat - '0'.toNat) ≤ int64Max :=
      (le_digitsFrom hnext fun d hd => hdig d (List.mem_cons_of_mem c hd)).trans hbound
    simp only [List.length_cons] at hmost hleast hstop
    rw [List.cons_append, digits, if_neg (by omega), if_pos hc, if_neg (Int.not_lt.mpr hle)]
    exact ih (fun d hd => hdig d (List.mem_cons_of_mem c hd)) (by omega) (by omega)
      (hstop.imp_left fun h => by omega) hnext hbound

theorem digitsFrom_natCast (m : Nat) {ds : List Char} (hdig : ∀ c ∈ ds, c.isDigit = true) :
    digitsFrom m ds = (Nat.ofDigitChars 10 ds m : Nat) := by
  induction ds generalizing m with
  | nil => rfl
  | cons c ds ih =>
    have hc := toNat_of_isDigit (hdig c List.mem_cons_self)
    have hstep : (m : Int) * 10 + (c.toNat - '0'.toNat) = ((10 * m + (c.toNat - '0'.toNat) : Nat) : Int) := by
      rw [zero_toNat]
      omega
    rw [digitsFrom, List.foldl_cons, hstep, ← digitsFrom, ih _ fun d hd => hdig d (List.mem_cons_of_mem c hd),
      Nat.ofDigitChars_eq_foldl, Nat.ofDigitChars_eq_foldl, List.foldl_cons]

theorem ofDigitChars_zeros (k : Nat) : Nat.ofDigitChars 10 (List.replicate k '0') 0 = 0 := by
  induction k with
  | zero => rfl
  | succ k ih =>
    rw [List.replicate_succ', Nat.ofDigitChars_append, ih]
    rfl

theorem isSpace_of_isDigit {c : Char} (hc : c.isDigit = true) : isSpace c = false := by
  have := toNat_of_isDigit hc
  unfold isSpace
  simp only [Bool.or_eq_false_iff, Bool.and_eq_false_iff, decide_eq_false_iff_not,
    beq_eq_false_iff_ne]
  omega

theorem trim_cons {c : Char} (hc : isSpace c = false) (s : List Char) : trim (c :: s) = c :: s := by
  simp [trim, hc]

theorem literal_cons {c : Char} (hc : isSpace c = false) (s : List Char) :
    literal c (c :: s) = .ok s := by
  simp [literal, trim_cons hc]


theorem digitsFrom_padded (w n : Nat) : digitsFrom 0 (padded w n).toList = n := by
  rw [show (0 : Int) = ((0 : Nat) : Int) from rfl, digitsFrom_natCast 0 fun c hc => isDigit_of_mem_padded hc,
    padded_toList, Nat.ofDigitChars_append, ofDigitChars_zeros, Nat.ofDigitChars_ten_toDigits]

theorem number_padded {least most w n : Nat} {rest : List Char}
    (hleast : least ≤ (padded w n).toList.length) (hmost : (padded w n).toList.length ≤ most)
    (hstop : (padded w n).toList.length = most ∨ ∀ c ∈ rest.head?, c.isDigit = false)
    (hbound : (n : Int) ≤ int64Max) :
    number least most ((padded w n).toList ++ rest) = .ok (n, rest) := by
  have hpos : 0 < (padded w n).toList.length := by
    rw [length_padded]
    have := length_toDigits_pos n
    omega
  have hne : ((padded w n).toList ++ rest).isEmpty = false := by
    rw [List.isEmpty_eq_false_iff, ne_eq, List.append_eq_nil_iff, not_and]
    exact fun h => absurd h (List.ne_nil_of_length_pos hpos)
  have hrun : digits least most 0 0 ((padded w n).toList ++ rest) =
      .ok (digitsFrom 0 (padded w n).toList, rest) :=
    digits_run (fun c hc => isDigit_of_mem_padded hc) (by omega) (by omega)
      (hstop.imp_left fun h => by omega) (le_refl 0) (by rw [digitsFrom_padded]; exact hbound)
  rw [number, hne, Bool.false_and, if_neg Bool.false_ne_true, hrun, digitsFrom_padded]

theorem trim_padded (w n : Nat) (rest : List Char) :
    trim ((padded w n).toList ++ rest) = (padded w n).toList ++ rest := by
  obtain ⟨c, tail, h, hc⟩ := padded_cons w n
  rw [h, List.cons_append, trim_cons (isSpace_of_isDigit hc)]

theorem field_padded {w n : Nat} {lo hi : Int} (rest : List Char) (hw : 0 < w) (hn : n < 10 ^ w)
    (hlo : lo ≤ n) (hhi : n ≤ hi) (h64 : (n : Int) ≤ int64Max) :
    field w lo hi ((padded w n).toList ++ rest) = .ok (n, rest) := by
  have hlen : (padded w n).toList.length = w := by
    rw [length_padded]
    have := Nat.toDigits_length 10 n w hw hn
    omega
  have hnum : number 1 w ((padded w n).toList ++ rest) = .ok (n, rest) :=
    number_padded (by omega) (le_of_eq hlen) (.inl hlen) h64
  simp only [field, trim_padded, hnum, bind, Except.bind]
  rw [if_pos ⟨hlo, hhi⟩]
  rfl

theorem number_sign {n : Nat} {rest : List Char} (hn : n < 10 ^ 6)
    (hstop : ∀ c ∈ rest.head?, c.isDigit = false) :
    number 1 1000 ((padded 4 n).toList ++ rest) = .ok (n, rest) := by
  have hlen := length_padded 4 n
  have := length_toDigits_pos n
  have := Nat.toDigits_length 10 n 6 (by decide) hn
  exact number_padded (by omega) (by omega) (.inr hstop) (by simp only [int64Max]; omega)

theorem year_yearText {y : Int} (hy : -262143 ≤ y ∧ y ≤ 262142) (rest : List Char) :
    year ((yearText y).toList ++ '-' :: rest) = .ok (y, '-' :: rest) := by
  have hdash : ∀ c ∈ ('-' :: rest).head?, c.isDigit = false := by
    intro c hc
    simp only [List.head?_cons, Option.mem_def, Option.some.injEq] at hc
    exact hc ▸ rfl
  by_cases hsmall : 0 ≤ y ∧ y ≤ 9999
  · -- four digits, no sign
    have hlen := length_padded 4 y.toNat
    have := Nat.toDigits_length 10 y.toNat 4 (by decide) (by omega)
    have := length_toDigits_pos y.toNat
    have hnum : number 1 4 ((padded 4 y.toNat).toList ++ '-' :: rest) = .ok (y.toNat, '-' :: rest) :=
      number_padded (by omega) (by omega) (.inl (by omega)) (by simp only [int64Max]; omega)
    obtain ⟨c, tail, hpc, hc⟩ := padded_cons 4 y.toNat
    rw [yearText, if_pos hsmall, year, trim_padded]
    split
    · next r heq =>
      rw [hpc, List.cons_append, List.cons.injEq] at heq
      exact absurd (heq.1 ▸ hc) (by decide)
    · next r heq =>
      rw [hpc, List.cons_append, List.cons.injEq] at heq
      exact absurd (heq.1 ▸ hc) (by decide)
    · rw [hnum]
      simp only [bind, Except.bind]
      rw [if_pos (by omega), Int.toNat_of_nonneg hsmall.1]
      rfl
  · -- a sign, then at least four digits
    have hnum := number_sign (by omega : y.natAbs < 10 ^ 6) hdash
    rw [yearText, if_neg hsmall, String.toList_append, List.append_assoc]
    by_cases hneg : y < 0
    · rw [if_pos hneg, show "-".toList = ['-'] from rfl, List.singleton_append, year,
        trim_cons (by decide)]
      simp only [hnum, bind, Except.bind, pure, Except.pure]
      rw [if_pos (by omega), show -(y.natAbs : Int) = y by omega]
    · rw [if_neg hneg, show "+".toList = ['+'] from rfl, List.singleton_append, year,
        trim_cons (by decide)]
      simp only [hnum, bind, Except.bind, pure, Except.pure]
      rw [if_pos (by omega), show (y.natAbs : Int) = y by omega]

theorem fraction_padded {k v : Nat} (hk : 0 < k ∧ k ≤ 9) (hv : v < 10 ^ k) (rest : List Char) :
    fraction ('.' :: ((padded k v).toList ++ 'Z' :: rest)) = .ok (v * 10 ^ (9 - k), 'Z' :: rest) := by
  have hlen : (padded k v).toList.length = k := by
    rw [length_padded]
    have := Nat.toDigits_length 10 v k hk.1 hv
    omega
  have hbound : (v : Int) ≤ int64Max := by
    have : v < 10 ^ 9 := lt_of_lt_of_le hv (Nat.pow_le_pow_right (by decide) hk.2)
    simp only [int64Max]
    omega
  have hnum : number 1 9 ((padded k v).toList ++ 'Z' :: rest) = .ok (v, 'Z' :: rest) :=
    number_padded (by omega) (by omega) (.inr fun c hc => by
      simp only [List.head?_cons, Option.mem_def, Option.some.injEq] at hc
      exact hc ▸ rfl) hbound
  simp only [fraction, hnum, bind, Except.bind, pure, Except.pure, List.length_append,
    List.length_cons, hlen]
  rw [show k + (rest.length + 1) - (rest.length + 1) = k by omega]
  simp

theorem fraction_fractionText {nanos : Nat} (hn : nanos < 10 ^ 9) (rest : List Char) :
    fraction ((fractionText nanos).toList ++ 'Z' :: rest) = .ok (nanos, 'Z' :: rest) := by
  have hdot (k v : Nat) : ("." ++ padded k v).toList ++ 'Z' :: rest =
      '.' :: ((padded k v).toList ++ 'Z' :: rest) := by
    rw [String.toList_append, List.append_assoc, show ".".toList = ['.'] from rfl,
      List.singleton_append]
  unfold fractionText
  split
  · next h0 =>
    rw [beq_iff_eq] at h0
    subst h0
    rfl
  · split
    · next h6 =>
      rw [hdot, fraction_padded (by decide) (by omega)]
      rw [beq_iff_eq] at h6
      congr 2
      omega
    · split
      · next h3 =>
        rw [hdot, fraction_padded (by decide) (by omega)]
        rw [beq_iff_eq] at h3
        congr 2
        omega
      · rw [hdot, fraction_padded (by decide) hn, Nat.sub_self, Nat.pow_zero, Nat.mul_one]

theorem field_two {n : Nat} {lo hi : Int} (hlo : lo ≤ n) (hhi : n ≤ hi) (hn : n < 100)
    (rest : List Char) : field 2 lo hi ((padded 2 n).toList ++ rest) = .ok (n, rest) :=
  field_padded rest (by decide) (by norm_num; omega) hlo hhi (by simp only [int64Max]; omega)

theorem fields_text {y : Int} {mo d h mi sec nanos : Nat} (hy : -262143 ≤ y ∧ y ≤ 262142)
    (hmo : 1 ≤ mo ∧ mo ≤ 12) (hd : 1 ≤ d ∧ d ≤ 31) (hh : h ≤ 23) (hmi : mi ≤ 59) (hsec : sec ≤ 60)
    (hn : nanos < 10 ^ 9) :
    fields ((yearText y).toList ++ '-' :: ((padded 2 mo).toList ++ '-' :: ((padded 2 d).toList ++
      'T' :: ((padded 2 h).toList ++ ':' :: ((padded 2 mi).toList ++ ':' :: ((padded 2 sec).toList ++
      ((fractionText nanos).toList ++ ['Z']))))))) = .ok ⟨y, mo, d, h, mi, sec, nanos, 0⟩ := by
  have hdash : isSpace '-' = false := by decide
  have hcolon : isSpace ':' = false := by decide
  have hT : isSpace 'T' = false := by decide
  have hZ : isSpace 'Z' = false := by decide
  have hutc : isUtc ['Z'] = false := rfl
  have hoff : offset ['Z'] = .ok (0, []) := rfl
  have htrim : trim [] = [] := rfl
  simp only [fields, year_yearText hy, literal_cons hdash, literal_cons hcolon,
    field_two (by omega : (1 : Int) ≤ mo) (by omega : (mo : Int) ≤ 12) (by omega),
    field_two (by omega : (1 : Int) ≤ d) (by omega : (d : Int) ≤ 31) (by omega),
    field_two (by omega : (0 : Int) ≤ h) (by omega : (h : Int) ≤ 23) (by omega),
    field_two (by omega : (0 : Int) ≤ mi) (by omega : (mi : Int) ≤ 59) (by omega),
    field_two (by omega : (0 : Int) ≤ sec) (by omega : (sec : Int) ≤ 60) (by omega),
    fraction_fractionText hn, trim_cons hT, trim_cons hZ, bind, Except.bind, List.isEmpty_cons,
    Bool.false_eq_true, ↓reduceIte, beq_self_eq_true, Bool.true_or, pure, Except.pure, hutc, hoff,
    htrim, List.isEmpty_nil, Bool.not_true, Int.toNat_natCast]

theorem second_readBack {t : Instant} (ht : t.Valid) :
    ∃ sec nanos, (if t.nanos ≥ 1000000000 then
        ((t.seconds % 86400).toNat % 60 + 1, t.nanos - 1000000000)
      else ((t.seconds % 86400).toNat % 60, t.nanos)) = (sec, nanos) ∧ sec ≤ 60 ∧ nanos < 10 ^ 9 ∧
      (if sec == 60 then (59, nanos + 1000000000) else (sec, nanos)) =
        ((t.seconds % 86400).toNat % 60, t.nanos) := by
  by_cases hl : 1000000000 ≤ t.nanos
  · have h59 := ht.leap hl
    have hnanos := ht.nanos
    refine ⟨_, _, if_pos hl, by omega, by omega, ?_⟩
    rw [if_pos (by rw [beq_iff_eq]; omega), Nat.sub_add_cancel hl]
    congr 1
    omega
  · refine ⟨_, _, if_neg hl, by omega, by omega, ?_⟩
    rw [if_neg (by rw [beq_iff_eq]; omega)]

theorem parse_render {t : Instant} (ht : t.Valid) : parse t.render = .ok t := by
  have hmin : minSeconds = -8334601228800 := rfl
  have hmax : maxSeconds = 8210266876799 := rfl
  have hrange := ht.range
  have hdate := Civil.civilFromDays_valid (t.seconds / 86400)
  have hyear := Civil.civilFromDays_year_bounds (show -96465292 ≤ t.seconds / 86400 by omega)
    (by omega)
  have hround := Civil.daysFromCivil_civilFromDays (t.seconds / 86400)
  rcases hc : Civil.civilFromDays (t.seconds / 86400) with ⟨y, m, d⟩
  rw [hc] at hdate hyear hround
  simp only at hdate hyear hround
  have hday : ¬ d > Civil.monthLength y m := by omega
  have h31 := Civil.monthLength_le y m
  have hsecs : 0 ≤ t.seconds % 86400 ∧ t.seconds % 86400 < 86400 :=
    ⟨Int.emod_nonneg _ (by decide), Int.emod_lt_of_pos _ (by decide)⟩
  -- the seconds of the day come back from the hour, the minute and the second
  have hwall : Civil.daysFromCivil y m d * 86400 + (((t.seconds % 86400).toNat / 3600 * 3600 +
      (t.seconds % 86400).toNat / 60 % 60 * 60 + (t.seconds % 86400).toNat % 60 : Nat) : Int) - 0 =
      t.seconds := by
    omega
  obtain ⟨sec, nanos, hsn, hsec, hn, hback⟩ := second_readBack ht
  unfold render parse
  simp only [hc, hsn]
  rw [text_toList, fields_text hyear ⟨hdate.1, hdate.2.1⟩ ⟨hdate.2.2.1, by omega⟩ (by omega)
    (by omega) hsec hn]
  simp only [bind, Except.bind, hday, hback, hwall]
  simp [hyear, hrange]
  rfl

end Rfc3339

end ChatArchive
