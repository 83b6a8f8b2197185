import Mathlib
import ChatArchive.Json.Reader
import ChatArchive.Json.Render
import ChatArchive.Proofs.Json.Numbers

namespace ChatArchive.Json

open Proto Scan

variable {α β : Type} {text : ByteArray} {need i : Nat}

abbrev Value.bytes (v : Value) : List UInt8 := v.render.toUTF8.toList

theorem str_bytes (s : String) : (Value.str s).bytes = 34 :: (escaped s.toList ++ [34]) := by
  simp only [Value.bytes, Value.render, renderString_bytes]

theorem reads_text (expected : String) {accept : String → Except String α} {s : String} {a : α}
    (ha : accept s = .ok a) (h : At text i (Value.str s).bytes) :
    (Scan.text expected accept).Reads text need i a (i + (Value.str s).bytes.length) := by
  rw [str_bytes] at h ⊢
  obtain ⟨h34, hs⟩ := At.cons.mp h
  refine Reads.settle ((reads_blank h34 (by decide)).bind (reads_advance.bind
    ((reads_string s hs).bind ?_)))
  rw [ha]
  exact reads_pure_of_eq (by simp only [List.length_cons, List.length_append, List.length_nil]; omega)


def intNumber (n : Int) : Number := if 0 ≤ n then .nat n.toNat else .neg n

theorem int_eq (n : Int) : Value.int n = .num (intNumber n) := by
  unfold Value.int intNumber
  split <;> rfl

theorem int_bytes_of_nonneg {n : Int} (hn : 0 ≤ n) :
    (Value.int n).bytes = (toString n.toNat).toUTF8.toList := by
  simp only [Value.bytes, Value.int, ge_iff_le, hn, ↓reduceIte, Value.render, Number.render]

theorem int_bytes_of_neg {n : Int} (hn : n < 0) :
    (Value.int n).bytes = 45 :: (toString n.natAbs).toUTF8.toList := by
  simp only [Value.bytes, Value.int, ge_iff_le, Int.not_le.mpr hn, ↓reduceIte, Value.render,
    Number.render, toString_neg hn, toUTF8_toList_append]
  rw [show "-".toUTF8.toList = [45] by decide +kernel]
  rfl

theorem isDigit_bounds {b : UInt8} (hb : isDigit b = true) : 48 ≤ b.toNat ∧ b.toNat ≤ 57 := by
  simp only [isDigit, Bool.and_eq_true, decide_eq_true_eq, UInt8.le_iff_toNat_le,
    UInt8.reduceToNat] at hb
  exact hb

theorem digit_beq {b : UInt8} (hb : isDigit b = true) (c : UInt8) (hc : c.toNat < 48 ∨ 57 < c.toNat) :
    (b == c) = false := by
  have := isDigit_bounds hb
  rw [beq_eq_false_iff_ne, ne_eq, ← UInt8.toNat_inj]
  omega

theorem digit_not_blank {b : UInt8} (hb : isDigit b = true) :
    (b == 32 || b == 10 || b == 9 || b == 13) = false := by
  simp only [Bool.or_eq_false_iff, digit_beq hb 32 (by decide), digit_beq hb 10 (by decide),
    digit_beq hb 9 (by decide), digit_beq hb 13 (by decide), and_self]

theorem int_start {n : Int} (hlo : -2 ^ 63 ≤ n) (hhi : n ≤ significandMax)
    (h : At text i (Value.int n).bytes) (hend : Delimited text (i + (Value.int n).bytes.length)) :
    (∃ b, text[i]? = some b ∧ isDigit b = true ∧
      (number true).Reads text need i (intNumber n) (i + (Value.int n).bytes.length)) ∨
    (text[i]? = some 45 ∧
      (number false).Reads text need (i + 1) (intNumber n) (i + (Value.int n).bytes.length)) := by
  by_cases hn : 0 ≤ n
  · left
    rw [int_bytes_of_nonneg hn] at h hend ⊢
    have hk : n.toNat ≤ significandMax := by omega
    obtain ⟨b, rest, hbs, hb⟩ : ∃ b rest, (toString n.toNat).toUTF8.toList = b :: rest ∧
        isDigit b = true := by
      rw [toString_bytes]
      obtain ⟨d, ds, hd⟩ := List.exists_cons_of_ne_nil (Nat.toDigits_ne_nil (b := 10) (n := n.toNat))
      exact ⟨d.toUInt8, ds.map Char.toUInt8, by rw [hd, List.map_cons],
        isDigit_toUInt8 (toNat_lt_of_mem_toDigits (hd ▸ List.mem_cons_self))⟩
    have hint : intNumber n = integerValue true n.toNat := by simp [intNumber, integerValue, hn]
    exact ⟨b, (At.cons.mp (hbs ▸ h)).1, hb, hint ▸ reads_number true hk h hend⟩
  · right
    have hneg : n < 0 := Int.not_le.mp hn
    rw [int_bytes_of_neg hneg] at h hend ⊢
    obtain ⟨h45, hdigits⟩ := At.cons.mp h
    have hm : n.natAbs ≤ significandMax := by
      simp only [significandMax]
      omega
    have hend' : Delimited text (i + 1 + (toString n.natAbs).toUTF8.toList.length) := by
      rw [List.length_cons] at hend
      rwa [Nat.add_assoc, Nat.add_comm 1]
    have hint : integerValue false n.natAbs = intNumber n := by
      have hne : (n.natAbs == 0) = false := by
        rw [beq_eq_false_iff_ne]
        omega
      have hle : n.natAbs ≤ Nat.pow 2 63 := by
        simp only [Nat.pow_eq]
        omega
      simp only [integerValue, Bool.false_eq_true, ↓reduceIte, hne, hle, intNumber, hn]
      congr 1
      omega
    refine ⟨h45, ?_⟩
    rw [← hint, List.length_cons]
    exact (reads_number false hm hdigits hend').ends_at (by omega)

theorem reads_numeric (expected : String) {accept : Number → Except String α} {n : Int} {a : α}
    (hlo : -2 ^ 63 ≤ n) (hhi : n ≤ significandMax) (ha : accept (intNumber n) = .ok a)
    (h : At text i (Value.int n).bytes) (hend : Delimited text (i + (Value.int n).bytes.length)) :
    (Scan.numeric expected accept).Reads text need i a (i + (Value.int n).bytes.length) := by
  -- Both signs end in the same check of the number read, which `ha` settles.
  rcases int_start hlo hhi h hend with ⟨b, hb, hdigit, hnum⟩ | ⟨h45, hnum⟩
  · refine Reads.settle ((reads_blank hb (digit_not_blank hdigit)).bind ?_)
    simp only [digit_beq hdigit 45 (by decide), hdigit,
      Bool.false_eq_true, ↓reduceIte]
    refine hnum.bind ?_
    simp only [ha]
    exact reads_pure a
  · refine Reads.settle ((reads_blank h45 (by decide)).bind (reads_advance.bind (hnum.bind ?_)))
    simp only [ha]
    exact reads_pure a

theorem reads_word {b : UInt8} {w : List UInt8} {x : α} (hat : At text i (b :: w)) :
    (do advance; expectWord w; pure x : Scan α).Reads text need i x (i + (b :: w).length) :=
  reads_advance.bind ((reads_expectWord (At.cons.mp hat).2).seq
    (reads_pure_of_eq (by simp only [List.length_cons]; omega)))

inductive Value.Plain : Value → Prop
  | null : Value.Plain .null
  | str (s : String) : Value.Plain (.str s)
  | int {n : Int} : -2 ^ 63 ≤ n → n < 2 ^ 63 → Value.Plain (.int n)

theorem Value.Plain.option_str (o : Option String) : (Value.option .str o).Plain := by
  cases o with
  | none => exact .null
  | some s => exact .str s

theorem reads_value {v : Value} (hp : v.Plain) (h : At text i v.bytes)
    (hend : Delimited text (i + v.bytes.length)) :
    Scan.value.Reads text need i v (i + v.bytes.length) := by
  refine reads_fuel.bind ?_
  rw [valueWith]
  cases hp with
  | null =>
    have hnull : Value.null.bytes = [110, 117, 108, 108] := by decide +kernel
    rw [hnull] at h ⊢
    exact Reads.settle ((reads_blank (At.cons.mp h).1 (by decide)).bind (reads_word h))
  | str s =>
    rw [str_bytes] at h ⊢
    obtain ⟨h34, hs⟩ := At.cons.mp h
    exact Reads.settle ((reads_blank h34 (by decide)).bind (reads_advance.bind
      ((reads_string s hs).bind (reads_pure_of_eq (by
        simp only [List.length_cons, List.length_append, List.length_nil]; omega)))))
  | @int n hlo hhi =>
    have hle : n ≤ significandMax := by
      simp only [significandMax]
      omega
    have hdone : (pure (Value.num (intNumber n)) : Scan Value).Reads text need
        (i + (Value.int n).bytes.length) (Value.int n) (i + (Value.int n).bytes.length) :=
      int_eq n ▸ reads_pure _
    rcases int_start hlo hle h hend with ⟨b, hb, hdigit, hnum⟩ | ⟨h45, hnum⟩
    · refine Reads.settle ((reads_blank hb (digit_not_blank hdigit)).bind ?_)
      simp only [digit_beq hdigit 110 (by decide), digit_beq hdigit 116 (by decide),
        digit_beq hdigit 102 (by decide), digit_beq hdigit 45 (by decide), hdigit,
        Bool.false_eq_true, ↓reduceIte]
      exact hnum.bind hdone
    · exact Reads.settle ((reads_blank h45 (by decide)).bind (reads_advance.bind (hnum.bind hdone)))

structure Reader.ReadsBack (r : Reader α) (need : Nat) (v : Value) (a : α) : Prop where
  tree : r.tree v = .ok a
  scan : ∀ {text : ByteArray} {i : Nat}, At text i v.bytes → Delimited text (i + v.bytes.length) →
    r.scan.Reads text need i a (i + v.bytes.length)

namespace Reader

theorem ReadsBack.map {r : Reader α} {v : Value} {a : α} (h : r.ReadsBack need v a) (f : α → β) :
    (r.map f).ReadsBack need v (f a) := by
  refine ⟨?_, fun hat hend => (h.scan hat hend).map f⟩
  simp only [Reader.map, h.tree]
  rfl

theorem parsed_readsBack (expected : String) {parse : String → Except String α} {s : String}
    {a : α} (ha : parse s = .ok a) : (parsed expected parse).ReadsBack need (.str s) a := by
  refine ⟨?_, fun hat _ => reads_text expected ha hat⟩
  simp only [parsed, Tree.text, Tree.check, ha]

theorem string_readsBack (s : String) : Reader.string.ReadsBack need (.str s) s :=
  parsed_readsBack "a string" rfl

theorem i64_readsBack {n : Int} (hlo : -2 ^ 63 ≤ n) (hhi : n < 2 ^ 63) :
    Reader.i64.ReadsBack need (Value.int n) n := by
  have ha : Number.asI64 (intNumber n) = .ok n := by
    unfold intNumber
    split
    · next hn =>
      have hle : n.toNat ≤ i64Max := by
        simp only [i64Max]
        omega
      rw [Number.asI64, if_pos hle]
      congr 1
      omega
    · rfl
  refine ⟨?_, fun hat hend => reads_numeric "i64" hlo (by simp only [significandMax]; omega) ha
    hat hend⟩
  rw [int_eq]
  simp only [Reader.i64, Tree.numeric, Tree.check, ha]

theorem u32_readsBack (x : UInt32) : Reader.u32.ReadsBack need (.num (.nat x.toNat)) x := by
  have hv : Value.num (.nat x.toNat) = Value.int x.toNat := by
    rw [int_eq, intNumber, if_pos (Int.natCast_nonneg _), Int.toNat_natCast]
  have hlt := x.toNat_lt
  have ha : Number.asU32 (intNumber x.toNat) = .ok x := by
    rw [intNumber, if_pos (Int.natCast_nonneg _), Int.toNat_natCast]
    have hle : x.toNat ≤ u32Max := by
      simp only [u32Max]
      omega
    rw [Number.asU32, if_pos hle]
    congr 1
    apply UInt32.toNat_inj.mp
    simp only [Nat.toUInt32_eq, UInt32.toNat_ofNat', Nat.mod_eq_of_lt hlt]
  rw [hv]
  refine ⟨?_, fun hat hend => reads_numeric "u32" (by omega) (by simp [significandMax]; omega) ha
    hat hend⟩
  rw [int_eq]
  simp only [Reader.u32, Tree.numeric, Tree.check, ha]

theorem bool_readsBack (b : Bool) : Reader.bool.ReadsBack need (.bool b) b := by
  refine ⟨rfl, fun hat _ => ?_⟩
  cases b with
  | true =>
    rw [show (Value.bool true).bytes = [116, 114, 117, 101] by decide +kernel] at hat ⊢
    exact Reads.settle ((reads_blank (At.cons.mp hat).1 (by decide)).bind (reads_word hat))
  | false =>
    rw [show (Value.bool false).bytes = [102, 97, 108, 115, 101] by decide +kernel] at hat ⊢
    exact Reads.settle ((reads_blank (At.cons.mp hat).1 (by decide)).bind (reads_word hat))

theorem optional_string_readsBack (o : Option String) :
    (Reader.optional Reader.string).ReadsBack need (Value.option .str o) o := by
  cases o with
  | none =>
    refine ⟨rfl, fun hat _ => ?_⟩
    rw [show (Value.option Value.str none).bytes = [110, 117, 108, 108] by decide +kernel] at hat ⊢
    exact (reads_blank (At.cons.mp hat).1 (by decide)).bind (reads_word hat)
  | some s =>
    have hs : Reader.string.ReadsBack need (.str s) s := string_readsBack s
    refine ⟨by simp only [Reader.optional, Value.option, Tree.optional, hs.tree]; rfl,
      @fun text i hat hend => ?_⟩
    have h34 : text[i]? = some 34 := by
      simp only [Value.option, str_bytes] at hat
      exact (At.cons.mp hat).1
    exact (reads_blank h34 (by decide)).bind ((hs.scan hat hend).map some)

end Reader

def Value.Opens (v : Value) : Prop :=
  ∃ b rest, v.bytes = b :: rest ∧ (b == 32 || b == 10 || b == 9 || b == 13) = false ∧ b ≠ 93 ∧
    b ≠ 44

theorem str_opens (s : String) : (Value.str s).Opens :=
  ⟨34, _, str_bytes s, by decide, by decide, by decide⟩

def itemsBytes : Bool → List Value → List UInt8
  | _, [] => []
  | first, v :: rest => (if first then [] else [44]) ++ v.bytes ++ itemsBytes false rest

theorem renderItems_bytes (items : List Value) :
    (renderItems items).toUTF8.toList = itemsBytes true items := by
  induction items with
  | nil => decide +kernel
  | cons v rest ih =>
    cases rest with
    | nil =>
      simp only [renderItems, itemsBytes, ↓reduceIte, List.nil_append, List.append_nil]
    | cons w rest =>
      simp only [renderItems] at ih ⊢
      rw [toUTF8_toList_append, toUTF8_toList_append, ih,
        show ",".toUTF8.toList = [44] by decide +kernel]
      simp only [itemsBytes, ↓reduceIte, Bool.false_eq_true, List.nil_append, List.append_assoc,
        List.cons_append]

theorem arr_bytes (items : List Value) :
    (Value.arr items).bytes = 91 :: (itemsBytes true items ++ [93]) := by
  simp only [Value.bytes, Value.render, toUTF8_toList_append, renderItems_bytes,
    show "[".toUTF8.toList = [91] by decide +kernel, show "]".toUTF8.toList = [93] by decide +kernel]
  rfl


theorem length_le_itemsBytes {items : List Value} (hopen : ∀ v ∈ items, v.Opens) (first : Bool) :
    items.length ≤ (itemsBytes first items).length := by
  induction items generalizing first with
  | nil => exact Nat.le_refl 0
  | cons v rest ih =>
    obtain ⟨b, bs, hv, -⟩ := hopen v List.mem_cons_self
    have := ih (fun w hw => hopen w (List.mem_cons_of_mem v hw)) false
    simp only [itemsBytes, hv, List.length_append, List.length_cons, List.length_cons]
    omega

theorem itemsBytes_false_delimits (rest : List Value) :
    ∃ b bs, itemsBytes false rest ++ [93] = b :: bs ∧ (b = 44 ∨ b = 93 ∨ b = 125) := by
  cases rest with
  | nil => exact ⟨93, [], rfl, .inr (.inl rfl)⟩
  | cons w rest =>
    exact ⟨44, w.bytes ++ (itemsBytes false rest ++ [93]), by simp [itemsBytes], .inl rfl⟩

theorem delimited_of_at {p : Nat} {bs : List UInt8} {b : UInt8} (hat : At text p (b :: bs))
    (hb : b = 44 ∨ b = 93 ∨ b = 125) : Delimited text p := by
  intro c hc
  rw [(At.cons.mp hat).1, Option.some.injEq] at hc
  exact hc ▸ hb

theorem reads_elementsWith {r : Reader α} {items : List Value} {as : List α}
    (h : List.Forall₂ (fun v a => r.ReadsBack need v a) items as) (hopen : ∀ v ∈ items, v.Opens)
    (first : Bool) (acc : List α) {p : Nat} (fuel : Nat) (hfuel : items.length < fuel)
    (hat : At text p (itemsBytes first items ++ [93])) :
    (elementsWith r.scan fuel first acc).Reads text need p (acc.reverse ++ as)
      (p + (itemsBytes first items).length) := by
  induction h generalizing first acc p fuel with
  | nil =>
    obtain ⟨f, rfl⟩ := Nat.exists_eq_succ_of_ne_zero (by omega : fuel ≠ 0)
    have h93 : text[p]? = some 93 := (At.cons.mp hat).1
    rw [List.append_nil]
    exact (reads_nextElement_close first h93).bind (reads_pure_of_eq rfl)
  | @cons v a vs as' hv hrest ih =>
    obtain ⟨f, rfl⟩ := Nat.exists_eq_succ_of_ne_zero (by omega : fuel ≠ 0)
    obtain ⟨b, bs, hvb, hblank, h93, h44⟩ := hopen v List.mem_cons_self
    obtain ⟨d, ds, hds, hd⟩ := itemsBytes_false_delimits vs
    have hopen' : ∀ w ∈ vs, w.Opens := fun w hw => hopen w (List.mem_cons_of_mem v hw)
    -- the element starts at `q`, after the comma when it is not the first
    obtain ⟨q, hq, hnext⟩ : ∃ q, q = p + (if first then 0 else 1) ∧
        (nextElement first).Reads text need p true q := by
      cases first with
      | true =>
        have hb : text[p]? = some b := by
          simp only [itemsBytes, ↓reduceIte, List.nil_append, hvb, List.cons_append] at hat
          exact (At.cons.mp hat).1
        exact ⟨p, by simp, reads_nextElement_first hb hblank h93 h44⟩
      | false =>
        simp only [itemsBytes, Bool.false_eq_true, ↓reduceIte, hvb, List.cons_append] at hat
        obtain ⟨hc, hat'⟩ := At.cons.mp hat
        exact ⟨p + 1, by simp, reads_nextElement_comma hc (At.cons.mp hat').1 hblank h93⟩
    have hat2 : At text q (v.bytes ++ (itemsBytes false vs ++ [93])) := by
      cases first <;> simp only [itemsBytes, ↓reduceIte, Bool.false_eq_true, List.nil_append,
        List.append_assoc, List.cons_append] at hat <;>
        simp only [hq, ↓reduceIte, Bool.false_eq_true, Nat.add_zero]
      · exact (At.cons.mp hat).2
      · exact hat
    obtain ⟨hatv, hatrest⟩ := At.append.mp hat2
    have hdelim : Delimited text (q + v.bytes.length) := delimited_of_at (hds ▸ hatrest) hd
    have helem := (hv.scan hatv hdelim).under (.index acc.length)
    have htail := ih hopen' false (a :: acc) f (by simp at hfuel; omega) hatrest
    refine hnext.bind (helem.bind ?_)
    have hend : q + v.bytes.length + (itemsBytes false vs).length =
        p + (itemsBytes first (v :: vs)).length := by
      cases first <;> simp [itemsBytes, hq] <;> omega
    rw [hend] at htail
    simpa using htail


theorem mapM_of_forall₂ {r : Reader α} {items : List Value} {as : List α}
    (h : List.Forall₂ (fun v a => r.ReadsBack need v a) items as) : items.mapM r.tree = .ok as := by
  induction h with
  | nil => rfl
  | cons hv _ ih => simp only [List.mapM_cons, hv.tree, ih]; rfl

theorem at_size {p : Nat} {bs : List UInt8} (hat : At text p bs) (hpos : 0 < bs.length) :
    p + bs.length ≤ text.size := by
  have := hat.lt_size (bs.length - 1) (by omega)
  omega

theorem Reader.list_readsBack {r : Reader α} {items : List Value} {as : List α}
    (h : List.Forall₂ (fun v a => r.ReadsBack need v a) items as) (hopen : ∀ v ∈ items, v.Opens)
    (hneed : 1 ≤ need) : (Reader.list r).ReadsBack (need + 1) (.arr items) as := by
  refine ⟨mapM_of_forall₂ h, @fun text i hat _ => ?_⟩
  rw [arr_bytes] at hat ⊢
  obtain ⟨h91, hbody⟩ := At.cons.mp hat
  have hsize := at_size hat (by simp)
  have hlen := length_le_itemsBytes hopen true
  have helems := reads_elementsWith h hopen true [] (text.size + 1) (by simp at hsize; omega) hbody
  have hclose : text[i + 1 + (itemsBytes true items).length]? = some 93 :=
    (At.append.mp hbody).2 0 (by simp)
  have hend : i + (91 :: (itemsBytes true items ++ [93])).length =
      i + 1 + (itemsBytes true items).length + 1 := by
    simp only [List.length_cons, List.length_append, List.length_nil]
    omega
  rw [hend]
  exact Reads.settle ((reads_blank h91 (by decide)).bind
    (((reads_fuel.bind helems).nested hneed).bind (reads_closeAfter (reads_closeArray hclose))))

end ChatArchive.Json
