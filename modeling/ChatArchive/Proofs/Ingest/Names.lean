import Mathlib
import ChatArchive.Proofs.Store.Catalog
import ChatArchive.Ingest.Convert

namespace ChatArchive

open Sql

theorem Int.toString_chars (i : Int) : ∃ sign digits, (toString i).toList = sign ++ digits ∧
    (sign = [] ∨ sign = ['-']) ∧ digits ≠ [] ∧ ∀ c ∈ digits, c.isDigit = true := by
  have hnat : ∀ n : Nat, (Nat.repr n).toList ≠ [] ∧ ∀ c ∈ (Nat.repr n).toList, c.isDigit = true := by
    intro n
    simp only [Nat.repr, String.toList_ofList]
    exact ⟨List.ne_nil_of_length_pos Nat.length_toDigits_pos,
      fun c hc => Nat.isDigit_of_mem_toDigits (by decide) (by decide) hc⟩
  rw [Int.toString_eq_repr]
  cases i with
  | ofNat n => exact ⟨[], _, by simp [Int.repr], .inl rfl, hnat n⟩
  | negSucc n => exact ⟨['-'], _, by simp [Int.repr], .inr rfl, hnat (n + 1)⟩

theorem Char.toLower_of_isDigit {c : Char} (h : c.isDigit = true) : c.toLower = c := by
  rw [Char.toLower, dif_neg]
  rintro ⟨h1, h2⟩
  simp only [Char.isDigit, Bool.and_eq_true, decide_eq_true_eq] at h
  revert h1 h2 h
  simp only [UInt32.le_iff_toNat_le, ge_iff_le]
  intro h1 h2 h
  have hA : ('A').val.toNat = 65 := rfl
  have h9 : ('9').val.toNat = 57 := rfl
  omega

theorem fold_toString (i : Int) : fold (toString i) = (toString i).toList := by
  obtain ⟨sign, digits, h, hsign, -, hdig⟩ := Int.toString_chars i
  have hsign' : sign.map Char.toLower = sign := by
    rcases hsign with rfl | rfl <;> rfl
  rw [fold, h, List.map_append, hsign', List.map_congr_left (fun c hc => Char.toLower_of_isDigit (hdig c hc)), List.map_id']

theorem Int.getLast?_toString (i : Int) : ∃ d, (toString i).toList.getLast? = some d ∧ d.isDigit = true := by
  obtain ⟨sign, digits, h, -, hne, hdig⟩ := Int.toString_chars i
  refine ⟨digits.getLast hne, ?_, hdig _ (List.getLast_mem hne)⟩
  rw [h, List.getLast?_append, List.getLast?_eq_some_getLast hne, Option.some_or]

theorem digits_eq_of_append_dash {da db x y : List Char} (ha : ∀ c ∈ da, c.isDigit = true)
    (hb : ∀ c ∈ db, c.isDigit = true) (h : da ++ '-' :: x = db ++ '-' :: y) : da = db := by
  have hdash : ¬ ('-').isDigit = true := by decide
  have := congrArg (List.takeWhile Char.isDigit) h
  rwa [List.takeWhile_append_of_pos ha, List.takeWhile_append_of_pos hb,
    List.takeWhile_cons_of_neg hdash, List.takeWhile_cons_of_neg hdash, List.append_nil,
    List.append_nil] at this

theorem Int.toString_eq_of_append_dash {a b : Int} {x y : List Char}
    (h : (toString a).toList ++ '-' :: x = (toString b).toList ++ '-' :: y) :
    toString a = toString b := by
  obtain ⟨sa, da, ha, hsa, hnea, hda⟩ := Int.toString_chars a
  obtain ⟨sb, db, hb, hsb, hneb, hdb⟩ := Int.toString_chars b
  rw [ha, hb, List.append_assoc, List.append_assoc] at h
  apply String.toList_injective
  rw [ha, hb]
  rcases hsa with rfl | rfl <;> rcases hsb with rfl | rfl
  · rw [digits_eq_of_append_dash hda hdb h]
  · obtain ⟨d, ds, rfl⟩ := List.exists_cons_of_ne_nil hnea
    simp only [List.nil_append, List.cons_append, List.cons.injEq] at h
    exact absurd (h.1 ▸ hda d List.mem_cons_self) (by decide)
  · obtain ⟨d, ds, rfl⟩ := List.exists_cons_of_ne_nil hneb
    simp only [List.nil_append, List.cons_append, List.cons.injEq] at h
    exact absurd (h.1 ▸ hdb d List.mem_cons_self) (by decide)
  · simp only [List.singleton_append, List.cons.injEq, true_and] at h
    rw [digits_eq_of_append_dash hda hdb h]

theorem sameName_append_left (n a b : String) : sameName (n ++ a) (n ++ b) = sameName a b := by
  rw [Bool.eq_iff_iff, sameName_iff_fold, sameName_iff_fold, fold_append, fold_append,
    List.append_cancel_left_eq]

theorem sameName_eq_false_of_getLast? {a b : String}
    (h : (fold a).getLast? ≠ (fold b).getLast?) : sameName a b = false := by
  rw [sameName_eq_false_iff_fold]
  exact fun hab => h (congrArg List.getLast? hab)

theorem getLast?_fold_append (a : String) {b : String} (hb : b ≠ "") :
    (fold (a ++ b)).getLast? = (fold b).getLast? := by
  have hne : fold b ≠ [] := by
    simpa [fold, String.toList_eq_nil_iff] using hb
  rw [fold_append, List.getLast?_append, List.getLast?_eq_some_getLast hne, Option.some_or]

def Profile.stem (p : Profile) : String :=
  String.ofList ((p.uidPrefix ++ "-fromid-").toList.dropWhile Container.isSeparator)

theorem Profile.nameFor_sourceUid (p : Profile) (id : Int) :
    Container.nameFor (p.sourceUid id) = p.stem ++ toString id := by
  obtain ⟨sign, digits, hT, hsign, hne, hdig⟩ := Int.toString_chars id
  -- the stem keeps a letter, so trimming at the start stops inside it
  have hstart : ((p.uidPrefix ++ "-fromid-").toList.dropWhile Container.isSeparator).isEmpty =
      false := by
    rw [String.toList_append, List.dropWhile_append]
    split
    · decide +kernel
    · simp
  -- the number ends in a digit, so trimming at the end stops at once
  have hend : ((p.stem.toList ++ (toString id).toList).reverse.dropWhile Container.isSeparator) =
      (p.stem.toList ++ (toString id).toList).reverse := by
    rw [hT, ← List.dropLast_append_getLast hne, List.reverse_append, List.reverse_append,
      List.reverse_append, List.reverse_singleton, List.singleton_append, List.cons_append,
      List.cons_append]
    apply List.dropWhile_cons_of_neg
    have hd := hdig _ (List.getLast_mem hne)
    revert hd
    generalize digits.getLast hne = d
    intro hd
    simp only [Container.isSeparator, Bool.or_eq_true, beq_iff_eq, not_or]
    constructor <;> rintro rfl <;> exact absurd hd (by decide)
  rw [Container.nameFor, Profile.sourceUid, String.toList_append, List.dropWhile_append, hstart]
  simp only [Bool.false_eq_true, ↓reduceIte]
  rw [show (p.uidPrefix ++ "-fromid-").toList.dropWhile Container.isSeparator = p.stem.toList by
    simp [Profile.stem], hend, List.reverse_reverse, String.ofList_append, String.ofList_toList,
    String.ofList_toList]

theorem Profile.stem_length (p : Profile) : 7 ≤ p.stem.toList.length := by
  simp only [Profile.stem, String.toList_ofList, String.toList_append, List.dropWhile_append]
  split
  · decide +kernel
  · simp only [List.length_append]
    have : ("-fromid-").toList.length = 8 := rfl
    omega

theorem isReservedName_append {n : String} (h : 7 ≤ n.toList.length) (x : String) :
    isReservedName (n ++ x) = isReservedName n := by
  simp only [isReservedName, String.toList_append, List.take_append_of_le_length h]

theorem Profile.isReservedName_stem_append (p : Profile) (x : String) :
    isReservedName (p.stem ++ x) = isReservedName p.stem :=
  isReservedName_append p.stem_length x

theorem Profile.eq_of_sameName (p : Profile) {a b : Int}
    (h : sameName (p.stem ++ toString a) (p.stem ++ toString b) = true) :
    toString a = toString b := by
  rw [sameName_append_left, sameName_iff_fold, fold_toString, fold_toString] at h
  exact String.toList_injective h

theorem Profile.getLast?_fold_container (p : Profile) (id : Int) :
    ∃ d, (fold (p.stem ++ toString id)).getLast? = some d ∧ d.isDigit = true := by
  obtain ⟨d, hd, hdig⟩ := Int.getLast?_toString id
  have hne : toString id ≠ "" := by
    intro h
    rw [h] at hd
    cases hd
  exact ⟨d, by rw [getLast?_fold_append _ hne, fold_toString, hd], hdig⟩

theorem Profile.sourceOf_uid (p : Profile) {peer : Peer}
    (h : (p.sourceOf peer).flags.isInvalid = false) :
    ∃ id, (p.sourceOf peer).uid = p.sourceUid id := by
  cases peer with
  | channel id title _ => exact ⟨id, rfl⟩
  | user id first last _ => exact ⟨id, rfl⟩
  | chat id title => exact ⟨id, rfl⟩
  | unknown => exact absurd h (by show ¬ Flags.invalid.isInvalid = false; decide)

theorem Profile.messageOf_uid (p : Profile) (m : TextMessage) (s : Source) :
    (p.messageOf m s).uid = s.uid ++ "-" ++ toString m.id := rfl

theorem Profile.messageOf_sourceUid (p : Profile) (m : TextMessage) (s : Source) :
    (p.messageOf m s).sourceUid = s.uid := rfl

theorem Profile.sourceUid_eq_of_message_uid (p : Profile) {a b x y : Int}
    (h : p.sourceUid a ++ "-" ++ toString x = p.sourceUid b ++ "-" ++ toString y) :
    p.sourceUid a = p.sourceUid b := by
  have hl := congrArg String.toList h
  simp only [Profile.sourceUid, String.toList_append, List.append_assoc,
    List.append_cancel_left_eq] at hl
  rw [Profile.sourceUid, Profile.sourceUid, Int.toString_eq_of_append_dash hl]

end ChatArchive
