import Mathlib
import ChatArchive.Json.Record
import ChatArchive.Json.Tagged
import ChatArchive.Proofs.Json.Readers

namespace ChatArchive.Json

open Proto Scan

variable {α : Type} {text : ByteArray} {need i : Nat}

def membersBytes : Bool → List (String × Value) → List UInt8
  | _, [] => []
  | first, (k, v) :: rest =>
    (if first then [] else [44]) ++ (Value.str k).bytes ++ [58] ++ v.bytes ++ membersBytes false rest

theorem renderMembers_bytes (ms : List (String × Value)) :
    (renderMembers ms).toUTF8.toList = membersBytes true ms := by
  induction ms with
  | nil => decide +kernel
  | cons m rest ih =>
    obtain ⟨k, v⟩ := m
    cases rest with
    | nil =>
      simp only [renderMembers, membersBytes, ↓reduceIte, List.nil_append, List.append_nil,
        toUTF8_toList_append, show ":".toUTF8.toList = [58] by decide +kernel]
      rfl
    | cons w rest =>
      simp only [renderMembers] at ih ⊢
      rw [toUTF8_toList_append, toUTF8_toList_append, toUTF8_toList_append, toUTF8_toList_append,
        ih, show ",".toUTF8.toList = [44] by decide +kernel,
        show ":".toUTF8.toList = [58] by decide +kernel]
      obtain ⟨k', v'⟩ := w
      simp only [membersBytes, ↓reduceIte, Bool.false_eq_true, List.nil_append, List.append_assoc,
        List.cons_append]
      rfl

theorem obj_bytes (ms : List (String × Value)) :
    (Value.obj ms).bytes = 123 :: (membersBytes true ms ++ [125]) := by
  simp only [Value.bytes, Value.render, toUTF8_toList_append, renderMembers_bytes,
    show "\x7b".toUTF8.toList = [123] by decide +kernel,
    show "\x7d".toUTF8.toList = [125] by decide +kernel]
  rfl


theorem reads_nextKey_member {first : Bool} {k : String} {p : Nat} {rest : List UInt8}
    (hat : At text p ((if first then [] else [44]) ++ ((Value.str k).bytes ++ rest))) :
    (nextKey first).Reads text need p (some k)
      (p + (if first then ([] : List UInt8) else [44]).length + (Value.str k).bytes.length) := by
  have hlen : (Value.str k).bytes.length = (escaped k.toList).length + 2 := by
    simp [str_bytes]
  rw [hlen]
  cases first with
  | true =>
    simp only [↓reduceIte, List.nil_append, str_bytes] at hat
    obtain ⟨h34, hs⟩ := At.cons.mp (At.append.mp hat).1
    simp only [↓reduceIte, List.length_nil, Nat.add_zero]
    rw [show p + ((escaped k.toList).length + 2) = p + 1 + (escaped k.toList).length + 1 by omega]
    exact reads_nextKey_first h34 (reads_string k hs)
  | false =>
    simp only [Bool.false_eq_true, ↓reduceIte, str_bytes, List.singleton_append] at hat
    obtain ⟨h44, hat'⟩ := At.cons.mp hat
    obtain ⟨h34, hs⟩ := At.cons.mp (At.append.mp hat').1
    simp only [Bool.false_eq_true, ↓reduceIte, List.length_singleton]
    rw [show p + 1 + ((escaped k.toList).length + 2) = p + 1 + 1 + (escaped k.toList).length + 1
      by omega]
    exact reads_nextKey_comma h44 h34 (reads_string k hs)

theorem membersBytes_false_delimits (rest : List (String × Value)) :
    ∃ b bs, membersBytes false rest ++ [125] = b :: bs ∧ (b = 44 ∨ b = 93 ∨ b = 125) := by
  cases rest with
  | nil => exact ⟨125, [], rfl, .inr (.inr rfl)⟩
  | cons m rest =>
    obtain ⟨k, v⟩ := m
    exact ⟨44, (Value.str k).bytes ++ 58 :: (v.bytes ++ (membersBytes false rest ++ [125])),
      by simp only [membersBytes, Bool.false_eq_true, ↓reduceIte, List.append_assoc,
        List.cons_append, List.nil_append], .inl rfl⟩

theorem length_le_membersBytes (ms : List (String × Value)) (first : Bool) :
    ms.length ≤ (membersBytes first ms).length := by
  induction ms generalizing first with
  | nil => exact Nat.le_refl 0
  | cons m rest ih =>
    obtain ⟨k, v⟩ := m
    have := ih false
    simp only [membersBytes, List.length_append, List.length_cons, str_bytes]
    omega

theorem member_at (need : Nat) {first : Bool} {k : String} {v : Value} {rest : List (String × Value)}
    {tail : List UInt8} {p : Nat} (hat : At text p (membersBytes first ((k, v) :: rest) ++ tail)) :
    ∃ q, (nextKey first).Reads text need p (some k) q ∧ text[q]? = some 58 ∧
      At text (q + 1) v.bytes ∧ At text (q + 1 + v.bytes.length) (membersBytes false rest ++ tail) ∧
      q + 1 + v.bytes.length + (membersBytes false rest).length =
        p + (membersBytes first ((k, v) :: rest)).length := by
  simp only [membersBytes, List.append_assoc] at hat ⊢
  refine ⟨_, reads_nextKey_member hat, ?_⟩
  obtain ⟨-, hat1⟩ := At.append.mp hat
  obtain ⟨-, hat2⟩ := At.append.mp hat1
  obtain ⟨h58, hat3⟩ := At.cons.mp (by rwa [List.cons_append, List.nil_append] at hat2)
  obtain ⟨hatv, hatrest⟩ := At.append.mp hat3
  refine ⟨h58, hatv, hatrest, ?_⟩
  simp only [List.length_append, List.length_cons, List.length_nil]
  omega

theorem reads_compound_obj {expected : String} {ofArray ofObject : Scan α} {ms : List (String × Value)}
    {a : α} (hat : At text i (Value.obj ms).bytes)
    (hmembers : ofObject.Reads text need (i + 1) a (i + 1 + (membersBytes true ms).length))
    (hneed : 1 ≤ need) :
    (compound expected ofArray ofObject).Reads text (need + 1) i a (i + (Value.obj ms).bytes.length) := by
  rw [obj_bytes] at hat ⊢
  obtain ⟨h123, hbody⟩ := At.cons.mp hat
  have hclose : text[i + 1 + (membersBytes true ms).length]? = some 125 :=
    (At.append.mp hbody).2 0 (by simp)
  have hend : i + (123 :: (membersBytes true ms ++ [125])).length =
      i + 1 + (membersBytes true ms).length + 1 := by
    simp only [List.length_cons, List.length_append, List.length_nil]
    omega
  rw [hend]
  exact Reads.settle ((reads_blank h123 (by decide)).bind
    ((hmembers.nested hneed).bind (reads_closeAfter (reads_closeObject hclose))))

namespace Field

variable {σ : Type}

def into (f : Field σ) (s : σ) : Reader σ := ⟨f.scan s, f.tree s⟩

theorem of_into_readsBack {r : Reader α} {v : Value} {a : α} (h : r.ReadsBack need v a)
    (name : String) (defaulted : Bool) (get : σ → Option α) (put : σ → α → σ) (s : σ) :
    ((Field.of name defaulted r get put).into s).ReadsBack need v (put s a) := by
  refine ⟨?_, fun hat hend => (h.scan hat hend).bind (reads_pure _)⟩
  simp only [into, Field.of, h.tree]
  rfl

end Field

namespace Record

variable {σ : Type}

inductive Fills (rec : Record σ α) (need : Nat) : σ → List (String × Value) → σ → Prop
  | nil (s : σ) : Fills rec need s [] s
  | cons {s s' s'' : σ} {k : String} {v : Value} {f : Field σ} {rest : List (String × Value)} :
      rec.field? k = some f → f.seen s = false → (f.into s).ReadsBack need v s' →
      Fills rec need s' rest s'' → Fills rec need s ((k, v) :: rest) s''

theorem Fills.of {β : Type} {rec : Record σ α} {name : String} {defaulted : Bool} {r : Reader β}
    {get : σ → Option β} {put : σ → β → σ} {s s'' : σ} {k : String} {v : Value} {b : β}
    {rest : List (String × Value)} (hf : rec.field? k = some (Field.of name defaulted r get put))
    (hseen : get s = none) (hv : r.ReadsBack need v b) (hrest : rec.Fills need (put s b) rest s'') :
    rec.Fills need s ((k, v) :: rest) s'' :=
  .cons hf (by simp [Field.of, hseen]) (Field.of_into_readsBack hv name defaulted get put s) hrest

theorem Fills.treeMembers {rec : Record σ α} {s s' : σ} {ms : List (String × Value)}
    (h : rec.Fills need s ms s') : rec.treeMembers ms s = .ok s' := by
  induction h with
  | nil => rfl
  | cons hf hseen hv _ ih =>
    have ht := hv.tree
    simp only [Field.into] at ht
    simp only [Record.treeMembers, hf, hseen, Bool.false_eq_true, ↓reduceIte, ht]
    exact ih

theorem Fills.scanMembers {rec : Record σ α} {s s' : σ} {ms : List (String × Value)}
    (h : rec.Fills need s ms s') {first : Bool} {p fuel : Nat} (hfuel : ms.length < fuel)
    (hat : At text p (membersBytes first ms ++ [125])) :
    (rec.scanMembers fuel first s).Reads text need p s' (p + (membersBytes first ms).length) := by
  induction h generalizing first p fuel with
  | nil s =>
    obtain ⟨f, rfl⟩ := Nat.exists_eq_succ_of_ne_zero (by omega : fuel ≠ 0)
    have h125 : text[p]? = some 125 := (At.cons.mp hat).1
    exact (reads_nextKey_close first h125).bind (reads_pure_of_eq rfl)
  | @cons s s1 s2 k v f rest hf hseen hv _ ih =>
    obtain ⟨n, rfl⟩ := Nat.exists_eq_succ_of_ne_zero (by omega : fuel ≠ 0)
    obtain ⟨q, hkey, h58, hatv, hatrest, hlen⟩ := member_at need hat
    obtain ⟨d, ds, hds, hd⟩ := membersBytes_false_delimits rest
    have hfield := (hv.scan hatv (delimited_of_at (hds ▸ hatrest) hd)).under (.key k)
    have htail : (rec.scanMembers n false s1).Reads text need (q + 1 + v.bytes.length) s2
        (q + 1 + v.bytes.length + (membersBytes false rest).length) :=
      ih (by simp at hfuel; omega) hatrest
    refine hkey.bind ?_
    simp only [hf, hseen, Bool.false_eq_true, ↓reduceIte]
    exact (reads_colon h58).seq (hfield.bind (htail.ends_at hlen))

theorem reader_readsBack {rec : Record σ α} {ms : List (String × Value)} {s : σ} {a : α}
    (hfill : rec.Fills need rec.start ms s) (hbuild : rec.build s = .ok a) (hneed : 1 ≤ need) :
    rec.reader.ReadsBack (need + 1) (.obj ms) a := by
  refine ⟨?_, @fun text i hat _ => ?_⟩
  · simp only [Record.reader, Tree.compound, hfill.treeMembers, Record.settleTree, Tree.check,
      bind, Except.bind, hbuild]
  · have hobj := hat
    rw [obj_bytes] at hobj
    have hsize := at_size hobj (by simp)
    have hlen := length_le_membersBytes ms true
    have hmembers : (rec.scanMembers (text.size + 1) true rec.start).Reads text need (i + 1) s
        (i + 1 + (membersBytes true ms).length) :=
      hfill.scanMembers (by simp at hsize; omega) (At.cons.mp hobj).2
    have hfinish : (rec.finish s).Reads text need (i + 1 + (membersBytes true ms).length) a
        (i + 1 + (membersBytes true ms).length) := by
      rw [Record.finish, hbuild]
      exact reads_pure a
    exact reads_compound_obj hat (reads_fuel.bind (hmembers.bind hfinish)) hneed

end Record

theorem reads_variant {names : List String} {name : String} {idx : Nat}
    (hidx : names.idxOf? name = some idx) {p : Nat} (hat : At text p (Value.str name).bytes) :
    (Reader.variant names).scan.Reads text need p idx (p + (Value.str name).bytes.length) :=
  reads_text "variant identifier" (by simp only [Reader.variantName, hidx]) hat

namespace Adjacent

variable (adj : Adjacent α) {p q : Nat}

theorem reads_scanRelevant_tag {first : Bool} {fuel : Nat}
    (hk : (nextKey first).Reads text need p (some adj.tag) q) :
    (adj.scanRelevant (fuel + 1) first).Reads text need p .tag q :=
  hk.bind (by simp only [beq_self_eq_true, ↓reduceIte]; exact reads_pure _)

theorem reads_scanRelevant_content {first : Bool} {fuel : Nat} (htc : adj.tag ≠ adj.content)
    (hk : (nextKey first).Reads text need p (some adj.content) q) :
    (adj.scanRelevant (fuel + 1) first).Reads text need p .content q :=
  hk.bind (by simp only [beq_iff_eq, Ne.symm htc, ↓reduceIte, beq_self_eq_true]; exact reads_pure _)

theorem reads_scanRelevant_done {first : Bool} {fuel : Nat} (h125 : text[p]? = some 125) :
    (adj.scanRelevant (fuel + 1) first).Reads text need p .done p :=
  (reads_nextKey_close first h125).bind (reads_pure _)

theorem reads_scanRest {r : α} (h125 : text[p]? = some 125) :
    (adj.scanRest r).Reads text need p r p :=
  reads_fuel.bind ((adj.reads_scanRelevant_done h125).bind (reads_pure r))

theorem reader_readsBack {name : String} {idx : Nat} {body : Value} {r : α}
    (hidx : adj.variants.idxOf? name = some idx) (hbody : (adj.body idx).ReadsBack need body r)
    (htc : adj.tag ≠ adj.content) (hneed : 1 ≤ need) :
    adj.reader.ReadsBack (need + 1) (.obj [(adj.tag, .str name), (adj.content, body)]) r := by
  have htag : Tree.variant adj.variants (.str name) = .ok idx := by
    simp only [Tree.variant, hidx]
  refine ⟨?_, @fun text i hat _ => ?_⟩
  · simp only [Adjacent.reader, Tree.compound, Adjacent.treeMembers, Adjacent.treeRelevant,
      beq_self_eq_true, ↓reduceIte, htag, bind, Except.bind, beq_iff_eq, Ne.symm htc, hbody.tree,
      Adjacent.treeRest]
  · have hobj := hat
    rw [obj_bytes] at hobj
    -- the tag member, then the content member, then the closing brace
    obtain ⟨q1, hkey1, hcolon1, hatn, hat1, hlen1⟩ := member_at need (At.cons.mp hobj).2
    obtain ⟨q2, hkey2, hcolon2, hatb, hat2, hlen2⟩ := member_at need hat1
    have h125 : text[q2 + 1 + body.bytes.length]? = some 125 := (At.cons.mp hat2).1
    have hcontent := (hbody.scan hatb (delimited_of_at hat2 (.inr (.inr rfl)))).bind
      (adj.reads_scanRest h125)
    have hend : q2 + 1 + body.bytes.length =
        i + 1 + (membersBytes true [(adj.tag, .str name), (adj.content, body)]).length := by
      have hnone : (membersBytes false []).length = 0 := rfl
      omega
    exact reads_compound_obj hat (reads_fuel.bind ((adj.reads_scanRelevant_tag hkey1).bind
      ((reads_colon hcolon1).seq ((reads_variant hidx hatn).bind (reads_fuel.bind
        ((adj.reads_scanRelevant_content htc hkey2).bind
          ((reads_colon hcolon2).seq (hcontent.ends_at hend)))))))) hneed

end Adjacent

namespace Internal

variable (it : Internal α) {found : Nat}

theorem treeMembers_rest {ms : List (String × Value)} (hkeys : ∀ m ∈ ms, m.1 ≠ it.tag)
    (acc : List (String × Value)) :
    it.treeMembers ms (some found) acc = .ok (found, .obj (acc.reverse ++ ms)) := by
  induction ms generalizing acc with
  | nil => rw [List.append_nil]; rfl
  | cons m rest ih =>
    obtain ⟨k, v⟩ := m
    have hk : (k == it.tag) = false := beq_false_of_ne (hkeys _ List.mem_cons_self)
    rw [Internal.treeMembers, hk, if_neg Bool.false_ne_true,
      ih (fun m hm => hkeys m (List.mem_cons_of_mem _ hm)), List.reverse_cons, List.append_assoc,
      List.singleton_append]

theorem reads_scanMembers_rest {ms : List (String × Value)} (hplain : ∀ m ∈ ms, m.2.Plain)
    (hkeys : ∀ m ∈ ms, m.1 ≠ it.tag) (acc : List (String × Value)) {p fuel : Nat}
    (hfuel : ms.length < fuel) (hat : At text p (membersBytes false ms ++ [125])) :
    (it.scanMembers fuel false (some found) acc).Reads text need p
      (found, .obj (acc.reverse ++ ms)) (p + (membersBytes false ms).length) := by
  induction ms generalizing acc p fuel with
  | nil =>
    obtain ⟨f, rfl⟩ := Nat.exists_eq_succ_of_ne_zero (by omega : fuel ≠ 0)
    have h125 : text[p]? = some 125 := (At.cons.mp hat).1
    rw [List.append_nil]
    exact (reads_nextKey_close false h125).bind (reads_pure_of_eq rfl)
  | cons m rest ih =>
    obtain ⟨k, v⟩ := m
    obtain ⟨f, rfl⟩ := Nat.exists_eq_succ_of_ne_zero (by omega : fuel ≠ 0)
    obtain ⟨q, hkey, h58, hatv, hatrest, hlen⟩ := member_at need hat
    obtain ⟨d, ds, hds, hd⟩ := membersBytes_false_delimits rest
    have hv : Scan.value.Reads text need (q + 1) v (q + 1 + v.bytes.length) :=
      reads_value (hplain _ List.mem_cons_self) hatv (delimited_of_at (hds ▸ hatrest) hd)
    have htail := ih (fun m hm => hplain m (List.mem_cons_of_mem _ hm))
      (fun m hm => hkeys m (List.mem_cons_of_mem _ hm)) ((k, v) :: acc) (by simp at hfuel; omega)
      hatrest
    rw [List.reverse_cons, List.append_assoc, List.singleton_append] at htail
    have hk : (k == it.tag) = false := beq_false_of_ne (hkeys _ List.mem_cons_self)
    refine hkey.bind ?_
    simp only [hk, Bool.false_eq_true, ↓reduceIte]
    exact (reads_colon h58).seq (hv.bind (htail.ends_at hlen))

theorem reader_readsBack {name : String} {idx : Nat} {ms : List (String × Value)} {r : α}
    (hidx : it.variants.idxOf? name = some idx) (hplain : ∀ m ∈ ms, m.2.Plain)
    (hkeys : ∀ m ∈ ms, m.1 ≠ it.tag) (hbody : it.body idx (.obj ms) = .ok r) (hneed : 1 ≤ need) :
    it.reader.ReadsBack (need + 1) (.obj ((it.tag, .str name) :: ms)) r := by
  have htag : Tree.variant it.variants (.str name) = .ok idx := by
    simp only [Tree.variant, hidx]
  have hsplit : it.split (.obj ((it.tag, .str name) :: ms)) = .ok (idx, .obj ms) := by
    simp only [Internal.split, Internal.treeMembers, beq_self_eq_true, ↓reduceIte,
      Option.isSome_none, Bool.false_eq_true, htag, bind, Except.bind, it.treeMembers_rest hkeys,
      List.reverse_nil, List.nil_append]
  refine ⟨?_, @fun text i hat _ => ?_⟩
  · simp only [Internal.reader, hsplit, bind, Except.bind, hbody]
  · have hobj := hat
    rw [obj_bytes] at hobj
    have hsize := at_size hobj (by simp)
    obtain ⟨q, hkey, h58, hatn, hatrest, hlen⟩ := member_at need (At.cons.mp hobj).2
    have hlong := length_le_membersBytes ((it.tag, .str name) :: ms) true
    have hrest : (it.scanMembers text.size false (some idx) []).Reads text need
        (q + 1 + (Value.str name).bytes.length) (idx, .obj ([].reverse ++ ms))
        (q + 1 + (Value.str name).bytes.length + (membersBytes false ms).length) :=
      it.reads_scanMembers_rest hplain hkeys [] (by simp at hsize hlong; omega) hatrest
    have hmembers : (do it.scanMembers (← fuel) true none []).Reads text need (i + 1)
        (idx, .obj ([].reverse ++ ms))
        (i + 1 + (membersBytes true ((it.tag, .str name) :: ms)).length) := by
      refine reads_fuel.bind (hkey.bind ?_)
      simp only [beq_self_eq_true, Option.isSome_none, Bool.false_eq_true, ↓reduceIte]
      exact (reads_colon h58).seq ((reads_variant hidx hatn).bind (hrest.ends_at hlen))
    refine (reads_compound_obj hat hmembers hneed).bind ?_
    rw [List.reverse_nil, List.nil_append]
    dsimp only
    rw [hbody]
    exact reads_ofExcept r

end Internal

end ChatArchive.Json
