import Mathlib
import ChatArchive.Store.Sql.Run

namespace ChatArchive

namespace Sql

theorem lexCompare_eq_compare {α : Type} [Ord α] (xs ys : List α) :
    lexCompare xs ys = compare xs ys := by
  induction xs generalizing ys with
  | nil => cases ys <;> rfl
  | cons x xs ih =>
    cases ys with
    | nil => rfl
    | cons y ys =>
      rw [List.compare_cons_cons, lexCompare, ← ih]
      cases compare x y <;> rfl

namespace Exact

def side : Exact → Nat
  | .infinite true => 0
  | .finite _ _ => 1
  | .infinite false => 2

def value : Exact → ℚ
  | .finite n d => n / d
  | .infinite _ => 0

def Proper : Exact → Prop
  | .finite _ d => 0 < d
  | .infinite _ => True

theorem compare_finite {n m : Int} {d e : Nat} (hd : 0 < d) (he : 0 < e) :
    Ord.compare (n * (e : Int)) (m * (d : Int)) =
      Ord.compare ((n : ℚ) / (d : ℚ)) ((m : ℚ) / (e : ℚ)) := by
  have hd' : (0 : ℚ) < d := by exact_mod_cast hd
  have he' : (0 : ℚ) < e := by exact_mod_cast he
  rw [compare_iff]
  have h := (compare_iff ((n : ℚ) / (d : ℚ)) ((m : ℚ) / (e : ℚ))).mp rfl
  cases hc : Ord.compare ((n : ℚ) / (d : ℚ)) ((m : ℚ) / (e : ℚ)) <;> rw [hc] at h <;>
    simp only [Ordering.Compares] at h ⊢
  · rw [div_lt_div_iff₀ hd' he'] at h
    exact_mod_cast h
  · rw [div_eq_div_iff hd'.ne' he'.ne'] at h
    exact_mod_cast h
  · rw [gt_iff_lt, div_lt_div_iff₀ he' hd'] at h
    exact_mod_cast h

theorem compare_eq_keys {x y : Exact} (hx : x.Proper) (hy : y.Proper) :
    x.compare y = (Ord.compare x.side y.side).then (Ord.compare x.value y.value) := by
  cases x with
  | finite n d =>
    cases y with
    | finite m e => simp [Exact.compare, side, value, compare_finite hx hy]
    | infinite b => cases b <;> rfl
  | infinite a =>
    cases y with
    | finite m e => cases a <;> rfl
    | infinite b => cases a <;> cases b <;> simp [Exact.compare, side, value] <;> decide

theorem proper_ofBits (bits : UInt64) : (Exact.ofBits bits).Proper := by
  simp only [Exact.ofBits, Binary64.fraction]
  split_ifs <;> simp [Proper]

end Exact

namespace Datum

def sideKey (d : Datum) : Nat := (Option.map Exact.side <| Datum.exact? d).getD 1

def valueKey (d : Datum) : ℚ := (Option.map Exact.value <| Datum.exact? d).getD 0

def textKey : Datum → List Char
  | .text s => s.toList
  | _ => []

def bytesKey : Datum → List UInt8
  | .blob b => b.toList
  | _ => []

def keyCompare : Datum → Datum → Ordering :=
  compareLex (compareOn rank) <| compareLex (compareOn sideKey) <|
    compareLex (compareOn valueKey) <| compareLex (compareOn textKey) (compareOn bytesKey)

theorem proper_of_exact {d : Datum} {x : Exact} (h : Datum.exact? d = some x) : x.Proper := by
  cases d with
  | integer n =>
    cases h
    exact Nat.one_pos
  | real bits =>
    cases h
    exact Exact.proper_ofBits bits
  | _ => cases h

theorem compare_of_exact {a b : Datum} {x y : Exact} (ha : Datum.exact? a = some x)
    (hb : Datum.exact? b = some y) : a.compare b = x.compare y := by
  cases a <;> cases b <;> simp_all [Datum.compare, Datum.exact?]

theorem keyCompare_of_exact {a b : Datum} {x y : Exact} (ha : Datum.exact? a = some x)
    (hb : Datum.exact? b = some y) :
    keyCompare a b = (Ord.compare x.side y.side).then (Ord.compare x.value y.value) := by
  cases a <;> cases b <;>
    simp_all [keyCompare, compareLex, compareOn, Datum.exact?, rank, sideKey, valueKey, textKey, bytesKey]

theorem compare_eq_keyCompare (a b : Datum) : a.compare b = keyCompare a b := by
  cases ha : Datum.exact? a with
  | some x =>
    cases hb : Datum.exact? b with
    | some y =>
      rw [compare_of_exact ha hb, keyCompare_of_exact ha hb,
        Exact.compare_eq_keys (proper_of_exact ha) (proper_of_exact hb)]
    | none =>
      cases a <;> cases b <;> simp_all [Datum.compare, keyCompare, compareLex, compareOn, Datum.exact?,
        rank, sideKey, valueKey, textKey, bytesKey, Nat.compare_eq_ite_lt]
  | none =>
    cases a <;> cases b <;> simp_all [Datum.compare, keyCompare, compareLex, compareOn, Datum.exact?, rank,
      sideKey, valueKey, textKey, bytesKey, lexCompare_eq_compare, Nat.compare_eq_ite_lt]

instance : Std.TransCmp Datum.compare := by
  have h : Datum.compare = keyCompare := funext fun a => funext fun b => compare_eq_keyCompare a b
  rw [h]
  exact inferInstanceAs (Std.TransCmp (compareLex (compareOn rank) <|
    compareLex (compareOn sideKey) <| compareLex (compareOn valueKey) <|
      compareLex (compareOn textKey) (compareOn bytesKey)))

instance : Ord Datum := ⟨Datum.compare⟩

instance : Std.TransOrd Datum := inferInstanceAs (Std.TransCmp Datum.compare)

theorem compare_integer (m n : Int) : (Datum.integer m).compare (.integer n) = Ord.compare m n := by
  simp [Datum.compare, Datum.exact?, Exact.compare]

theorem isLE_compare_integer (a b : Int) :
    ((Datum.integer a).compare (.integer b)).isLE = decide (a ≤ b) := by
  rw [Datum.compare_integer, Bool.eq_iff_iff, decide_eq_true_eq]
  exact Int.isLE_compare

end Datum

namespace Row

def orderBy (i : Nat) : Row → Row → Ordering :=
  compareLex (compareOn fun r : Row => r.values.getD i .null) (compareOn Row.rowid)

instance (i : Nat) : Std.TransCmp (orderBy i) :=
  inferInstanceAs (Std.TransCmp
    (compareLex (compareOn fun r : Row => r.values.getD i .null) (compareOn Row.rowid)))

def NotAfter (i : Nat) (a b : Row) : Prop :=
  (a.values.getD i .null).compare (b.values.getD i .null) = .lt ∨
    ((a.values.getD i .null).compare (b.values.getD i .null) = .eq ∧ a.rowid ≤ b.rowid)

theorem notAfter_iff_isLE {i : Nat} {a b : Row} : NotAfter i a b ↔ (orderBy i a b).isLE := by
  simp only [NotAfter, orderBy, compareLex, compareOn, Ordering.isLE_then_iff_or, Int.isLE_compare]
  rfl

theorem orderBy_total (i : Nat) (a b : Row) : (orderBy i a b).isLE || (orderBy i b a).isLE := by
  cases h : orderBy i a b
  · rfl
  · rfl
  · simp [Std.OrientedCmp.lt_of_gt h]

def OrderedBy (i : Nat) (rows sorted : List Row) : Prop :=
  sorted.Perm rows ∧ sorted.Pairwise (NotAfter i)

theorem orderedBy_mergeSort (i : Nat) (rows : List Row) :
    OrderedBy i rows (rows.mergeSort fun a b => (orderBy i a b).isLE) := by
  have hsorted : (rows.mergeSort fun a b => (orderBy i a b).isLE).Pairwise
      (fun a b => (orderBy i a b).isLE) :=
    List.pairwise_mergeSort (fun a b c hab hbc => (Std.TransCmp.isLE_trans hab hbc :
      (orderBy i a c).isLE)) (orderBy_total i) rows
  exact ⟨List.mergeSort_perm _ _, hsorted.imp notAfter_iff_isLE.mpr⟩

theorem OrderedBy.unique {i : Nat} {rows s t : List Row} (hnd : (rows.map Row.rowid).Nodup)
    (hs : OrderedBy i rows s) (ht : OrderedBy i rows t) : s = t := by
  refine (hs.1.trans ht.1.symm).eq_of_pairwise (fun a b ha hb hab hba => ?_) hs.2 ht.2
  have heq : orderBy i a b = .eq :=
    Std.OrientedCmp.isLE_antisymm (notAfter_iff_isLE.mp hab) (notAfter_iff_isLE.mp hba)
  simp only [orderBy, compareLex, compareOn, Ordering.then_eq_eq] at heq
  exact List.inj_on_of_nodup_map hnd (hs.1.mem_iff.mp ha) (ht.1.mem_iff.mp hb)
    (Std.LawfulEqOrd.eq_of_compare heq.2)

theorem OrderedBy.filter {i : Nat} {rows sorted : List Row} (h : OrderedBy i rows sorted)
    (p : Row → Bool) : OrderedBy i (rows.filter p) (sorted.filter p) :=
  ⟨h.1.filter p, h.2.filter p⟩

theorem isLE_total_values (i : Nat) (a b : Row) :
    ((a.values.getD i .null).compare (b.values.getD i .null)).isLE ||
      ((b.values.getD i .null).compare (a.values.getD i .null)).isLE := by
  cases h : (a.values.getD i .null).compare (b.values.getD i .null)
  · rfl
  · rfl
  · have h' : (b.values.getD i .null).compare (a.values.getD i .null) = .lt :=
      Std.OrientedCmp.lt_of_gt h
    rw [h']
    rfl

theorem orderedBy_self {i : Nat} {rows : List Row} (hid : (rows.map Row.rowid).Pairwise (· < ·))
    (hle : (rows.map fun r => r.values.getD i .null).Pairwise fun a b => (a.compare b).isLE) :
    OrderedBy i rows rows := by
  refine ⟨List.Perm.refl _, ((List.pairwise_map.mp hle).and (List.pairwise_map.mp hid)).imp ?_⟩
  rintro a b ⟨hab, hid⟩
  cases h : (a.values.getD i .null).compare (b.values.getD i .null)
  · exact .inl h
  · exact .inr ⟨h, Int.le_of_lt hid⟩
  · rw [h] at hab
    cases hab

theorem rowid_le_of_getElem? {rows : List Row} (hid : (rows.map Row.rowid).Pairwise (· < ·))
    {i j : Nat} {a b : Row} (ha : rows[i]? = some a) (hb : rows[j]? = some b) (hij : i ≤ j) :
    a.rowid ≤ b.rowid := by
  obtain ⟨hi, rfl⟩ := List.getElem?_eq_some_iff.mp ha
  obtain ⟨hj, rfl⟩ := List.getElem?_eq_some_iff.mp hb
  rcases Nat.lt_or_eq_of_le hij with hlt | rfl
  · have h := List.pairwise_iff_getElem.mp hid i j (by simpa using hi) (by simpa using hj) hlt
    simp only [List.getElem_map] at h
    exact Int.le_of_lt h
  · exact Int.le_refl _

theorem orderedBy_mergeSort_values (i : Nat) {rows : List Row}
    (hid : (rows.map Row.rowid).Pairwise (· < ·)) :
    OrderedBy i rows (rows.mergeSort fun a b =>
      ((a.values.getD i .null).compare (b.values.getD i .null)).isLE) := by
  refine ⟨List.mergeSort_perm _ _, ?_⟩
  rw [← List.mergeSort_zipIdx, List.pairwise_map]
  have hsorted := List.pairwise_mergeSort
    (List.zipIdxLE_trans fun a b c (hab : ((a.values.getD i .null).compare _).isLE) hbc =>
      (Std.TransCmp.isLE_trans hab hbc : ((a.values.getD i .null).compare (c.values.getD i .null)).isLE))
    (List.zipIdxLE_total (isLE_total_values i)) rows.zipIdx
  refine hsorted.imp_of_mem fun {p q} hp hq hpq => ?_
  rw [List.mem_mergeSort, List.mem_zipIdx_iff_getElem?] at hp hq
  cases h : (p.1.values.getD i .null).compare (q.1.values.getD i .null)
  · exact .inl h
  · -- equal values: the sort kept the order of places, which is that of row ids
    have hqp : (q.1.values.getD i .null).compare (p.1.values.getD i .null) = .eq :=
      Std.OrientedCmp.eq_symm h
    simp only [List.zipIdxLE, h, hqp, Ordering.isLE, ↓reduceIte, decide_eq_true_eq] at hpq
    exact .inr ⟨h, rowid_le_of_getElem? hid hp hq hpq⟩
  · simp only [List.zipIdxLE, h, Ordering.isLE, Bool.false_eq_true, ↓reduceIte] at hpq

end Row

end Sql

end ChatArchive
