import Mathlib
import ChatArchive.Json.Render
import ChatArchive.Proofs.Json.Cursor

namespace ChatArchive

namespace Json

open Proto

theorem ByteArray.push_eq_append (acc : ByteArray) (b : UInt8) : acc.push b = acc ++ [b].toByteArray := by
  apply ByteArray.ext
  simp [ByteArray.data_push]

theorem ByteArray.append_assoc (a b c : ByteArray) : a ++ b ++ c = a ++ (b ++ c) := by
  apply ByteArray.ext
  simp [ByteArray.data_append, Array.append_assoc]

variable {text : ByteArray} {i : Nat}

theorem scanStringBytes_raw (bs : List UInt8) (h : At text i bs)
    (hraw : ∀ b ∈ bs, 32 ≤ b ∧ b ≠ 34 ∧ b ≠ 92) (acc : ByteArray) :
    scanStringBytes text i acc = scanStringBytes text (i + bs.length) (acc ++ bs.toByteArray) := by
  induction bs generalizing i acc with
  | nil =>
    rw [show ([] : List UInt8).toByteArray = ByteArray.empty from rfl, ByteArray.append_empty]
    rfl
  | cons b rest ih =>
    rw [At.cons] at h
    obtain ⟨hb, hq, hbs⟩ := hraw b List.mem_cons_self
    have hi : i < text.size := by
      by_contra hi
      rw [getElem?_neg text i hi] at h
      cases h.1
    have hget : text[i] = b := by
      have := h.1
      rwa [getElem?_pos text i hi, Option.some.injEq] at this
    rw [scanStringBytes, dif_pos hi]
    simp only [hget, beq_iff_eq, hq, hbs, ↓reduceIte, show ¬ b < 32 from by
      rw [UInt8.lt_iff_toNat_lt]; rw [UInt8.le_iff_toNat_le] at hb; simpa using hb]
    have hlen : i + 1 + rest.length = i + (b :: rest).length := by
      rw [List.length_cons]
      omega
    rw [ih h.2 (fun c hc => hraw c (List.mem_cons_of_mem b hc)), ByteArray.push_eq_append,
      ByteArray.append_assoc, ← List.toByteArray_append, hlen, List.singleton_append]


theorem utf8EncodeChar_raw {c : Char} (hc : 32 ≤ c.toNat) (hq : c ≠ '"') (hb : c ≠ '\\') :
    ∀ b ∈ String.utf8EncodeChar c, 32 ≤ b ∧ b ≠ 34 ∧ b ≠ 92 := by
  have hhigh : ∀ x m : UInt8, 128 ≤ m → ∀ b, b = x ||| m → 32 ≤ b ∧ b ≠ 34 ∧ b ≠ 92 := by
    intro x m hm b hb
    have h128 : 128 ≤ b := hb ▸ UInt8.le_trans hm UInt8.right_le_or
    refine ⟨UInt8.le_trans (by decide) h128, ?_, ?_⟩ <;> rintro rfl <;> revert h128 <;> decide
  rcases Nat.lt_or_ge c.val.toNat 128 with hsmall | hlarge
  · have h1 : c.utf8Size = 1 := Char.utf8Size_eq_one_iff.mpr (by
      rw [UInt32.le_iff_toNat_le]; simpa using Nat.le_of_lt_succ hsmall)
    rw [String.utf8EncodeChar_eq_singleton h1]
    intro b hb
    simp only [List.mem_singleton] at hb
    subst hb
    have hval : c.val.toUInt8.toNat = c.toNat := by
      rw [UInt32.toNat_toUInt8, Char.toNat_val]
      exact Nat.mod_eq_of_lt (by rw [← Char.toNat_val]; omega)
    have hq' : c.toNat ≠ 34 := fun h => hq (Char.toNat_inj.mp h)
    have hb' : c.toNat ≠ 92 := fun h => hb (Char.toNat_inj.mp h)
    refine ⟨?_, fun h => hq' ?_, fun h => hb' ?_⟩
    · rw [UInt8.le_iff_toNat_le, hval]
      exact hc
    · rw [← hval, h]
      rfl
    · rw [← hval, h]
      rfl
  · have hne : c.utf8Size ≠ 1 := by
      rw [Ne, Char.utf8Size_eq_one_iff, UInt32.le_iff_toNat_le]
      simp only [UInt32.reduceToNat]
      omega
    have hsize := Char.utf8Size_le_four c
    have hpos := Char.utf8Size_pos c
    intro b hbyte
    rcases (show c.utf8Size = 2 ∨ c.utf8Size = 3 ∨ c.utf8Size = 4 by omega) with h | h | h
    · rw [String.utf8EncodeChar_eq_cons_cons h] at hbyte
      simp only [List.mem_cons, List.not_mem_nil, or_false] at hbyte
      rcases hbyte with hbyte | hbyte <;> exact hhigh _ _ (by decide) _ hbyte
    · rw [String.utf8EncodeChar_eq_cons_cons_cons h] at hbyte
      simp only [List.mem_cons, List.not_mem_nil, or_false] at hbyte
      rcases hbyte with hbyte | hbyte | hbyte <;> exact hhigh _ _ (by decide) _ hbyte
    · rw [String.utf8EncodeChar_eq_cons_cons_cons_cons h] at hbyte
      simp only [List.mem_cons, List.not_mem_nil, or_false] at hbyte
      rcases hbyte with hbyte | hbyte | hbyte | hbyte <;> exact hhigh _ _ (by decide) _ hbyte


def shortEscapes : List (UInt8 × UInt8) :=
  [(34, 34), (92, 92), (98, 8), (116, 9), (110, 10), (102, 12), (114, 13)]

theorem scanEscape_short {k : Nat} {x y : UInt8} (hx : text[k]? = some x) (hxy : (x, y) ∈ shortEscapes)
    (acc : ByteArray) : scanEscape text k acc = .ok (acc.push y, k + 1) := by
  simp only [shortEscapes, List.mem_cons, Prod.mk.injEq, List.not_mem_nil, or_false] at hxy
  rcases hxy with ⟨rfl, rfl⟩ | ⟨rfl, rfl⟩ | ⟨rfl, rfl⟩ | ⟨rfl, rfl⟩ | ⟨rfl, rfl⟩ | ⟨rfl, rfl⟩ |
    ⟨rfl, rfl⟩ <;> rw [scanEscape, hx] <;> rfl


theorem scanHex4_of_digits {a b c d : UInt8} {pa pb pc pd : Nat} (h : At text i [a, b, c, d])
    (ha : hexDigit? a = some pa) (hb : hexDigit? b = some pb) (hc : hexDigit? c = some pc)
    (hd : hexDigit? d = some pd) :
    scanHex4 text i = .ok (((pa * 16 + pb) * 16 + pc) * 16 + pd, i + 4) := by
  have hsize : i + 4 ≤ text.size := h.lt_size 3 (by simp)
  have h0 : text[i]? = some a := by simpa using h 0 (by simp)
  have h1 : text[i + 1]? = some b := h 1 (by simp)
  have h2 : text[i + 2]? = some c := h 2 (by simp)
  have h3 : text[i + 3]? = some d := h 3 (by simp)
  simp only [scanHex4, hsize, ↓reduceIte, h0, h1, h2, h3, List.map_cons, List.map_nil,
    Option.bind_some, ha, hb, hc, hd]

theorem scanStringBytes_backslash (h : text[i]? = some 92) {acc acc' : ByteArray} {j : Nat}
    (he : scanEscape text (i + 1) acc = .ok (acc', j)) (hj : i < j) :
    scanStringBytes text i acc = scanStringBytes text j acc' := by
  have hi : i < text.size := by
    by_contra hi
    rw [getElem?_neg text i hi] at h
    cases h
  have hget : text[i] = 92 := by
    rw [getElem?_pos text i hi, Option.some.injEq] at h
    exact h
  have hne : ((92 : UInt8) == 34) = false := by decide
  rw [scanStringBytes, dif_pos hi]
  simp only [hget, hne, Bool.false_eq_true, beq_self_eq_true, ↓reduceIte, he, hj]


theorem hexByte_digits : ∀ n < 32,
    (hexByte n).toUTF8.toList.map hexDigit? = [some (n / 16), some (n % 16)] := by
  decide +kernel

theorem hexByte_bytes {n : Nat} (hn : n < 32) : ∃ a b, (hexByte n).toUTF8.toList = [a, b] ∧
    hexDigit? a = some (n / 16) ∧ hexDigit? b = some (n % 16) := by
  have hd := hexByte_digits n hn
  rcases hl : (hexByte n).toUTF8.toList with _ | ⟨a, _ | ⟨b, _ | ⟨c, rest⟩⟩⟩ <;>
    rw [hl] at hd <;> simp at hd
  exact ⟨a, b, rfl, hd.1, hd.2⟩

theorem scanEscape_control {k n : Nat} (hn : n < 32)
    (h : At text k ([117, 48, 48] ++ (hexByte n).toUTF8.toList)) (acc : ByteArray) :
    scanEscape text k acc = .ok (pushCodePoint acc n, k + 5) := by
  obtain ⟨a, b, hab, ha, hb⟩ := hexByte_bytes hn
  rw [hab] at h
  have hu : text[k]? = some 117 := by simpa using h 0 (by simp)
  have hhex : At text (k + 1) [48, 48, a, b] := (At.cons.mp h).2
  have h0 : hexDigit? 48 = some 0 := by decide
  rw [scanEscape, hu]
  show scanUnicodeEscape text (k + 1) acc = _
  have hval : ((0 * 16 + 0) * 16 + n / 16) * 16 + n % 16 = n := by omega
  have hlow : isLowSurrogate n = false := by simp [isLowSurrogate]; omega
  have hhigh : isHighSurrogate n = false := by simp [isHighSurrogate]; omega
  simp only [scanUnicodeEscape, scanHex4_of_digits hhex h0 h0 ha hb, hval, hlow, hhigh,
    Bool.false_eq_true, ↓reduceIte, Bool.not_false]


theorem toList_toByteArray (l : List UInt8) : l.toByteArray.toList = l := by
  rw [ByteArray.toList_eq, List.toList_data_toByteArray]

theorem toUTF8_toList_append (s t : String) :
    (s ++ t).toUTF8.toList = s.toUTF8.toList ++ t.toUTF8.toList := by
  simp only [String.toUTF8_eq_toByteArray, String.toByteArray_append, ByteArray.toList_eq,
    ByteArray.data_append, Array.toList_append]

theorem toUTF8_toList_singleton (c : Char) :
    (String.singleton c).toUTF8.toList = String.utf8EncodeChar c := by
  rw [String.toUTF8_eq_toByteArray, String.toByteArray_singleton, List.utf8Encode_singleton,
    toList_toByteArray]

theorem escapeChar_cases (c : Char) :
    (∃ x y, (escapeChar c).toUTF8.toList = [92, x] ∧ (x, y) ∈ shortEscapes ∧
        [c].utf8Encode = [y].toByteArray) ∨
    (c.toNat < 32 ∧
        (escapeChar c).toUTF8.toList = [92, 117, 48, 48] ++ (hexByte c.toNat).toUTF8.toList) ∨
    ((escapeChar c).toUTF8.toList = String.utf8EncodeChar c ∧ 32 ≤ c.toNat ∧ c ≠ '"' ∧
        c ≠ '\\') := by
  unfold escapeChar
  split
  · exact .inl ⟨34, 34, by decide +kernel, by simp [shortEscapes], by decide +kernel⟩
  · exact .inl ⟨92, 92, by decide +kernel, by simp [shortEscapes], by decide +kernel⟩
  · exact .inl ⟨98, 8, by decide +kernel, by simp [shortEscapes], by decide +kernel⟩
  · exact .inl ⟨116, 9, by decide +kernel, by simp [shortEscapes], by decide +kernel⟩
  · exact .inl ⟨110, 10, by decide +kernel, by simp [shortEscapes], by decide +kernel⟩
  · exact .inl ⟨102, 12, by decide +kernel, by simp [shortEscapes], by decide +kernel⟩
  · exact .inl ⟨114, 13, by decide +kernel, by simp [shortEscapes], by decide +kernel⟩
  · next hq hb _ _ _ _ _ =>
    split
    · next hlt =>
      refine .inr (.inl ⟨hlt, ?_⟩)
      rw [toUTF8_toList_append, show "\\u00".toUTF8.toList = [92, 117, 48, 48] by decide +kernel]
    · next hge =>
      exact .inr (.inr ⟨toUTF8_toList_singleton c, by omega, hq, hb⟩)


theorem pushCodePoint_toNat (acc : ByteArray) (c : Char) :
    pushCodePoint acc c.toNat = acc ++ [c].utf8Encode := by
  rw [pushCodePoint, Char.ofNat_toNat, String.toUTF8_eq_toByteArray, String.toByteArray_singleton]

theorem scanStringBytes_escapeChar (c : Char) (h : At text i (escapeChar c).toUTF8.toList)
    (acc : ByteArray) :
    scanStringBytes text i acc =
      scanStringBytes text (i + (escapeChar c).toUTF8.toList.length) (acc ++ [c].utf8Encode) := by
  rcases escapeChar_cases c with ⟨x, y, hxs, hxy, hy⟩ | ⟨hlt, hxs⟩ | ⟨hxs, hge, hq, hb⟩
  · rw [hxs] at h ⊢
    obtain ⟨h92, hrest⟩ := At.cons.mp h
    have hx : text[i + 1]? = some x := (At.cons.mp hrest).1
    rw [scanStringBytes_backslash h92 (scanEscape_short hx hxy acc) (by omega), hy,
      ByteArray.push_eq_append]
    rfl
  · rw [hxs] at h ⊢
    obtain ⟨h92, hrest⟩ := At.cons.mp h
    obtain ⟨a, b, hab, -, -⟩ := hexByte_bytes hlt
    rw [scanStringBytes_backslash h92 (scanEscape_control hlt hrest acc) (by omega),
      pushCodePoint_toNat, hab]
    rfl
  · rw [hxs] at h ⊢
    rw [scanStringBytes_raw _ h (utf8EncodeChar_raw hge hq hb), List.utf8Encode_singleton]


def escaped (cs : List Char) : List UInt8 := cs.flatMap fun c => (escapeChar c).toUTF8.toList

theorem escaped_cons (c : Char) (cs : List Char) :
    escaped (c :: cs) = (escapeChar c).toUTF8.toList ++ escaped cs := List.flatMap_cons

theorem renderString_bytes (s : String) :
    (renderString s).toUTF8.toList = 34 :: (escaped s.toList ++ [34]) := by
  have hjoin : ∀ cs : List Char,
      (String.join (cs.map escapeChar)).toUTF8.toList = escaped cs := by
    intro cs
    induction cs with
    | nil => rw [List.map_nil, String.join_nil]; decide +kernel
    | cons c cs ih => rw [List.map_cons, String.join_cons, toUTF8_toList_append, ih, escaped_cons]
  rw [renderString, toUTF8_toList_append, toUTF8_toList_append, hjoin,
    show "\"".toUTF8.toList = [34] by decide +kernel, List.singleton_append, List.cons_append]

theorem scanStringBytes_escaped (cs : List Char) (h : At text i (escaped cs ++ [34]))
    (acc : ByteArray) :
    scanStringBytes text i acc = .ok (acc ++ cs.utf8Encode, i + (escaped cs).length + 1) := by
  induction cs generalizing i acc with
  | nil =>
    rw [show escaped [] = [] from rfl, List.nil_append] at h
    have hq : text[i]? = some 34 := by simpa using h 0 (by simp)
    have hi : i < text.size := h.lt_size 0 (by simp)
    have hget : text[i] = 34 := by
      rw [getElem?_pos text i hi, Option.some.injEq] at hq
      exact hq
    rw [scanStringBytes, dif_pos hi]
    simp only [hget, beq_self_eq_true, ↓reduceIte, List.utf8Encode_nil, ByteArray.append_empty]
    rfl
  | cons c cs ih =>
    rw [escaped_cons, List.append_assoc, At.append] at h
    rw [scanStringBytes_escapeChar c h.1, ih h.2, escaped_cons, List.length_append,
      ByteArray.append_assoc, ← List.utf8Encode_append, List.singleton_append, Nat.add_assoc i]

theorem scanString_renderString (s : String) (h : At text i (escaped s.toList ++ [34])) :
    scanString text i = .ok (s, i + (escaped s.toList).length + 1) := by
  rw [scanString, scanStringBytes_escaped s.toList h, ByteArray.empty_append,
    String.utf8Encode_toList, ← String.toUTF8_eq_toByteArray]
  simp only [Proto.fromUTF8?_toUTF8]


theorem reads_string {need : Nat} (s : String) (h : At text i (escaped s.toList ++ [34])) :
    (Scan.string : Scan String).Reads text need i s (i + (escaped s.toList).length + 1) := by
  intro d hd
  simp only [Scan.string, Scan.runFrom_bind, Scan.runFrom_read, Scan.runFrom_get,
    scanString_renderString s h, Scan.jump, Scan.runFrom_modify, Scan.runFrom_pure]

theorem newline_not_mem_escapeChar (c : Char) : '\n' ∉ (escapeChar c).toList := by
  have hhex : ∀ n < 32, '\n' ∉ (hexByte n).toList := by decide +kernel
  unfold escapeChar
  split
  any_goals decide +kernel
  next hq hb h8 ht hn hf hr =>
    split
    · next hlt =>
      rw [String.toList_append, List.mem_append, not_or]
      exact ⟨by decide +kernel, hhex _ hlt⟩
    · next hge =>
      rw [Char.toString, String.toList_singleton, List.mem_singleton]
      intro h
      apply hge
      rw [← h]
      decide

theorem newline_not_mem_renderString (s : String) : '\n' ∉ (renderString s).toList := by
  rw [renderString, String.toList_append, String.toList_append, String.toList_join]
  simp only [List.mem_append, List.mem_flatMap, List.mem_map, not_or]
  refine ⟨⟨by decide +kernel, ?_⟩, by decide +kernel⟩
  rintro ⟨_, ⟨c, -, rfl⟩, hc⟩
  exact newline_not_mem_escapeChar c hc

end Json

end ChatArchive
