import Mathlib
import ChatArchive.Json.Stream
import ChatArchive.Proofs.Snapshot.Wire

namespace ChatArchive

namespace Json

namespace Scan

variable {α β : Type}

def runFrom (r : Scan α) (text : ByteArray) (c : Cursor) : Except Fault α × Cursor :=
  ((ReaderT.run r text).run).run c

theorem runFrom_pure (a : α) (text : ByteArray) (c : Cursor) :
    (pure a : Scan α).runFrom text c = (.ok a, c) := rfl

theorem runFrom_bind (x : Scan α) (f : α → Scan β) (text : ByteArray) (c : Cursor) :
    (x >>= f).runFrom text c = match x.runFrom text c with
      | (.ok a, c') => (f a).runFrom text c'
      | (.error e, c') => (.error e, c') := by
  simp only [runFrom, ReaderT.run_bind, ExceptT.run_bind, StateT.run_bind]
  rcases ((ReaderT.run x text).run).run c with ⟨_ | _, c'⟩ <;> rfl

theorem runFrom_read (text : ByteArray) (c : Cursor) :
    (read : Scan ByteArray).runFrom text c = (.ok text, c) := rfl

theorem runFrom_get (text : ByteArray) (c : Cursor) :
    (get : Scan Cursor).runFrom text c = (.ok c, c) := rfl

theorem runFrom_set (c' : Cursor) (text : ByteArray) (c : Cursor) :
    (set c' : Scan Unit).runFrom text c = (.ok (), c') := rfl

theorem runFrom_modify (f : Cursor → Cursor) (text : ByteArray) (c : Cursor) :
    (modify f : Scan Unit).runFrom text c = (.ok (), f c) := rfl

theorem runFrom_tryCatch (x : Scan α) (h : Fault → Scan α) (text : ByteArray) (c : Cursor) :
    (tryCatch x h).runFrom text c = match x.runFrom text c with
      | (.ok a, c') => (.ok a, c')
      | (.error e, c') => (h e).runFrom text c' := by
  rcases hx : ((ReaderT.run x text).run).run c with ⟨_ | _, c'⟩ <;>
    simp only [runFrom, ReaderT.run_tryCatch, ExceptT.run_tryCatch, StateT.run_bind, hx] <;> rfl


theorem runFrom_map (f : α → β) (x : Scan α) (text : ByteArray) (c : Cursor) :
    (f <$> x).runFrom text c = match x.runFrom text c with
      | (.ok a, c') => (.ok (f a), c')
      | (.error e, c') => (.error e, c') := by
  rw [← bind_pure_comp, runFrom_bind]
  rcases x.runFrom text c with ⟨_ | _, c'⟩ <;> rfl

open Proto

def Reads (r : Scan α) (text : ByteArray) (need i : Nat) (a : α) (j : Nat) : Prop :=
  ∀ d, need ≤ d → r.runFrom text ⟨i, d⟩ = (.ok a, ⟨j, d⟩)

variable {text : ByteArray} {need i j k : Nat}

theorem Reads.bind {x : Scan α} {f : α → Scan β} {a : α} {b : β} (hx : x.Reads text need i a j)
    (hf : (f a).Reads text need j b k) : (x >>= f).Reads text need i b k := by
  intro d hd
  rw [runFrom_bind, hx d hd]
  exact hf d hd

theorem Reads.seq {x : Scan Unit} {y : Scan β} {b : β} (hx : x.Reads text need i () j)
    (hy : y.Reads text need j b k) : (do x; y).Reads text need i b k :=
  hx.bind hy

theorem reads_pure (a : α) : (pure a : Scan α).Reads text need i a i := fun _ _ => rfl

theorem reads_pure_of_eq {a : α} (h : i = j) : (pure a : Scan α).Reads text need i a j :=
  h ▸ reads_pure a

theorem Reads.ends_at {r : Scan α} {a : α} (h : r.Reads text need i a j) (hj : j = k) :
    r.Reads text need i a k :=
  hj ▸ h

theorem Reads.map {x : Scan α} {a : α} (f : α → β) (hx : x.Reads text need i a j) :
    (f <$> x).Reads text need i (f a) j := by
  intro d hd
  rw [runFrom_map, hx d hd]

theorem reads_peek? : (peek? : Scan (Option UInt8)).Reads text need i text[i]? i :=
  fun _ _ => rfl

theorem reads_advance : (advance : Scan Unit).Reads text need i () (i + 1) := fun _ _ => rfl

theorem skipBlank_of_getElem? {b : UInt8} (hb : text[i]? = some b)
    (hblank : (b == 32 || b == 10 || b == 9 || b == 13) = false) : skipBlank text i = i := by
  have hi : i < text.size := by
    by_contra h
    rw [getElem?_neg text i h] at hb
    cases hb
  rw [getElem?_pos text i hi, Option.some.injEq] at hb
  rw [skipBlank, dif_pos hi]
  simp only [hb, hblank, Bool.false_eq_true, ↓reduceIte]

theorem skipBlank_of_size_le (hi : text.size ≤ i) : skipBlank text i = i := by
  rw [skipBlank, dif_neg (by omega)]

theorem reads_blank {b : UInt8} (hb : text[i]? = some b)
    (hblank : (b == 32 || b == 10 || b == 9 || b == 13) = false) :
    (blank : Scan (Option UInt8)).Reads text need i (some b) i := by
  intro d hd
  simp only [blank, runFrom_bind, runFrom_read, runFrom_get, jump, runFrom_modify, peek?,
    skipBlank_of_getElem? hb hblank, runFrom_pure, hb]

theorem reads_blank_end (hi : text.size ≤ i) :
    (blank : Scan (Option UInt8)).Reads text need i none i := by
  intro d hd
  simp only [blank, runFrom_bind, runFrom_read, runFrom_get, jump, runFrom_modify, peek?,
    skipBlank_of_size_le hi, runFrom_pure, getElem?_neg text i (Nat.not_lt.mpr hi)]


theorem Reads.attempt {r : Scan α} {a : α} (h : r.Reads text need i a j) :
    (attempt r).Reads text need i (.ok a) j := by
  intro d hd
  simp only [Scan.attempt, runFrom_tryCatch, runFrom_map, h d hd]

theorem Reads.settle {r : Scan α} {a : α} (h : r.Reads text need i a j) :
    (settle r).Reads text need i a j := by
  intro d hd
  simp only [Scan.settle, runFrom_tryCatch, h d hd]

theorem Reads.under {r : Scan α} {a : α} (seg : Segment) (h : r.Reads text need i a j) :
    (under seg r).Reads text need i a j := by
  intro d hd
  simp only [Scan.under, runFrom_tryCatch, h d hd]

theorem Reads.nested {body : Scan α} {a : α} (h : body.Reads text need (i + 1) a j)
    (hneed : 1 ≤ need) : (nested body).Reads text (need + 1) i (.ok a) j := by
  intro d hd
  have hdepth : ¬ d ≤ 1 := by omega
  have hbody := h.attempt (d - 1) (by omega)
  simp only [Scan.nested, runFrom_bind, runFrom_get, hdepth, ↓reduceIte, runFrom_pure,
    runFrom_set, advance, runFrom_modify, hbody]
  congr
  omega

theorem reads_closeAfter {close : Scan Unit} {a : α} (h : close.Reads text need i () j) :
    (closeAfter (.ok a) close).Reads text need i a j := by
  intro d hd
  simp only [closeAfter, runFrom_bind, h.attempt d hd]
  rfl

theorem reads_next? {b : UInt8} (hb : text[i]? = some b) :
    (next? : Scan (Option UInt8)).Reads text need i (some b) (i + 1) := by
  intro d hd
  simp only [next?, runFrom_bind, reads_peek? d hd, hb, Option.isSome_some, ↓reduceIte,
    reads_advance d hd, runFrom_pure]

theorem reads_expectWord {w : List UInt8} (h : At text i w) :
    (expectWord w).Reads text need i () (i + w.length) := by
  induction w generalizing i with
  | nil => exact reads_pure ()
  | cons b rest ih =>
    rw [At.cons] at h
    intro d hd
    rw [expectWord, runFrom_bind, reads_next? h.1 d hd]
    simp only [beq_self_eq_true, ↓reduceIte, ih h.2 d hd, List.length_cons]
    congr 2
    omega


theorem reads_colon (h : text[i]? = some 58) : (colon : Scan Unit).Reads text need i () (i + 1) := by
  intro d hd
  simp only [colon, runFrom_bind, reads_blank h (by decide) d hd, reads_advance d hd]

theorem reads_closeObject (h : text[i]? = some 125) :
    (closeObject : Scan Unit).Reads text need i () (i + 1) := by
  intro d hd
  simp only [closeObject, runFrom_bind, reads_blank h (by decide) d hd, reads_advance d hd]

theorem reads_closeArray (h : text[i]? = some 93) :
    (closeArray : Scan Unit).Reads text need i () (i + 1) := by
  intro d hd
  simp only [closeArray, runFrom_bind, reads_blank h (by decide) d hd, reads_advance d hd]

theorem reads_nextKey_first {key : String} (h : text[i]? = some 34)
    (hkey : (string : Scan String).Reads text need (i + 1) key j) :
    (nextKey true).Reads text need i (some key) j :=
  (reads_blank h (by decide)).bind (reads_advance.bind (hkey.bind (reads_pure _)))

theorem reads_nextKey_comma {key : String} (h : text[i]? = some 44) (hq : text[i + 1]? = some 34)
    (hkey : (string : Scan String).Reads text need (i + 2) key j) :
    (nextKey false).Reads text need i (some key) j :=
  (reads_blank h (by decide)).bind (reads_advance.bind ((reads_blank hq (by decide)).bind
    (reads_advance.bind (hkey.bind (reads_pure _)))))

theorem reads_nextKey_close (first : Bool) (h : text[i]? = some 125) :
    (nextKey first).Reads text need i none i :=
  (reads_blank h (by decide)).bind (reads_pure _)

theorem elementAt_some {b : UInt8} (hb : b ≠ 93) : elementAt (some b) = pure true := by
  unfold elementAt
  split
  · next heq => exact absurd (Option.some.inj heq) hb
  · rfl
  · contradiction

theorem reads_nextElement_first {b : UInt8} (h : text[i]? = some b)
    (hblank : (b == 32 || b == 10 || b == 9 || b == 13) = false) (hb : b ≠ 93) (hc : b ≠ 44) :
    (nextElement true).Reads text need i true i := by
  refine (reads_blank h hblank).bind ?_
  split
  · next heq => exact absurd (Option.some.inj heq) hb
  · next heq => exact absurd (Option.some.inj heq) hc
  · next heq =>
    rw [if_pos rfl, ← Option.some.inj heq, elementAt_some hb]
    exact reads_pure true
  · contradiction


theorem reads_nextElement_comma {b : UInt8} (h : text[i]? = some 44) (hb : text[i + 1]? = some b)
    (hblank : (b == 32 || b == 10 || b == 9 || b == 13) = false) (h93 : b ≠ 93) :
    (nextElement false).Reads text need i true (i + 1) := by
  refine (reads_blank h (by decide)).bind (reads_advance.bind ((reads_blank hb hblank).bind ?_))
  rw [elementAt_some h93]
  exact reads_pure true

theorem reads_nextElement_close (first : Bool) (h : text[i]? = some 93) :
    (nextElement first).Reads text need i false i :=
  (reads_blank h (by decide)).bind (reads_pure _)

theorem reads_fuel : (fuel : Scan Nat).Reads text need i (text.size + 1) i := fun _ _ => rfl

theorem reads_ofExcept (a : α) : (ofExcept (.ok a) : Scan α).Reads text need i a i :=
  fun _ _ => rfl

theorem reads_finishText (hi : text.size ≤ i) : (finishText : Scan Unit).Reads text need i () i :=
  (reads_blank_end hi).bind (reads_pure ())

end Scan

end Json

end ChatArchive
