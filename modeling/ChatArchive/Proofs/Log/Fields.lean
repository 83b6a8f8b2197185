import Mathlib
import ChatArchive.Log.Logger

namespace ChatArchive

namespace Logger

def nest (l : Logger) (links : List (String × List Field)) : Logger :=
  links.foldl (fun l link => l.derive link.1 link.2) l

def keys (fs : List Field) : List String := fs.map (·.1)

def overrideAll : List (List Field) → List Field
  | [] => []
  | f :: later => f.filter (fun p => decide (p.1 ∉ later.flatMap keys)) ++ overrideAll later

def uidFields (uid : Option String) : List Field :=
  match uid with
  | some u => [("request_uid", u)]
  | none => []

theorem without_eq (base extra : List Field) :
    without base extra = base.filter fun p => decide (p.1 ∉ keys extra) := by
  apply List.filter_congr
  intro p _
  rw [Bool.eq_iff_iff, Bool.not_eq_true', List.any_eq_false, decide_eq_true_eq, keys,
    List.mem_map]
  simp only [beq_iff_eq, not_exists, not_and]

theorem record_fields (l : Logger) (level : Level) (kind message : String) (extra : List Field) :
    (l.record level kind message extra).fields = uidFields l.requestUid ++ without l.fields extra
      ++ extra := by
  cases h : l.requestUid <;> simp [record, uidFields, h]

theorem overrideAll_concat (ls : List (List Field)) (g : List Field) :
    overrideAll (ls ++ [g]) = without (overrideAll ls) g ++ g := by
  induction ls with
  | nil => simp [overrideAll, without_eq]
  | cons f ls ih =>
    rw [List.cons_append, overrideAll, ih, overrideAll, without_eq, without_eq, List.filter_append,
      List.filter_filter, List.append_assoc, List.flatMap_append]
    congr 2
    funext p
    simp only [List.flatMap_cons, List.flatMap_nil, List.append_nil, List.mem_append, not_or,
      Bool.decide_and, Bool.and_comm]

theorem fields_nest (l : Logger) (links : List (String × List Field)) :
    (l.nest links).fields = overrideAll (l.fields :: links.map (·.2)) := by
  induction links using List.reverseRecOn with
  | nil => simp [nest, overrideAll]
  | append_singleton links link ih =>
    rw [nest, List.foldl_concat, ← nest, List.map_append, List.map_singleton, ← List.cons_append,
      overrideAll_concat, ← ih]
    rfl

theorem requestUid_nest (links : List (String × List Field)) :
    (root.nest links).requestUid =
      if links = [] then none else some ("/".intercalate (links.map (·.1))) := by
  induction links using List.reverseRecOn with
  | nil => rfl
  | append_singleton links link ih =>
    rw [nest, List.foldl_concat, ← nest]
    by_cases hnil : links = []
    · subst hnil
      simp [derive, root, nest]
    · rw [if_neg hnil] at ih
      simp only [derive, ih, List.map_append, List.map_singleton, List.append_eq_nil_iff,
        List.cons_ne_nil, and_false, ↓reduceIte]
      rw [String.intercalate_append_of_ne_nil (by simpa using hnil) (List.cons_ne_nil _ _),
        String.intercalate_singleton]

theorem uidFields_nest (links : List (String × List Field)) :
    uidFields (root.nest links).requestUid =
      if links = [] then [] else [("request_uid", "/".intercalate (links.map (·.1)))] := by
  rw [requestUid_nest]
  split <;> rfl

theorem lookup_eq_none_of_not_mem {f : List Field} {k : String} (hk : k ∉ keys f) :
    f.lookup k = none := by
  rw [List.lookup_eq_none_iff]
  intro p hp
  rw [bne_iff_ne]
  rintro rfl
  exact hk (List.mem_map_of_mem hp)

theorem lookup_isSome_of_mem {f : List Field} {k : String} (hk : k ∈ keys f) :
    (f.lookup k).isSome := by
  rw [Option.isSome_iff_ne_none, Ne, List.lookup_eq_none_iff]
  intro hall
  obtain ⟨p, hp, rfl⟩ := List.mem_map.mp hk
  simpa using hall p hp

theorem filter_key_eq_lookup {f : List Field} (hf : (keys f).Nodup) (k : String) :
    f.filter (fun p => p.1 == k) = ((f.lookup k).map ((k, ·))).toList := by
  induction f with
  | nil => rfl
  | cons p f ih =>
    obtain ⟨k', v⟩ := p
    rw [keys, List.map_cons, List.nodup_cons] at hf
    rw [List.filter_cons, List.lookup_cons, ih hf.2]
    by_cases hk : k' = k
    · subst hk
      simp [lookup_eq_none_of_not_mem hf.1]
    · have hk' : (k == k') = false := by simpa using Ne.symm hk
      simp [hk, hk']

theorem filter_overrideAll {ls : List (List Field)} (hls : ∀ f ∈ ls, (keys f).Nodup)
    (k : String) :
    (overrideAll ls).filter (fun p => p.1 == k) =
      ((ls.reverse.findSome? fun f => f.lookup k).map ((k, ·))).toList := by
  induction ls with
  | nil => rfl
  | cons f ls ih =>
    have ih := ih fun f' hf' => hls f' (List.mem_cons_of_mem f hf')
    rw [overrideAll, List.filter_append, ih, List.filter_filter, List.reverse_cons,
      List.findSome?_append]
    by_cases hlater : k ∈ ls.flatMap keys
    · -- a later list binds `k`: this one gives nothing, and the last binding is among the later
      obtain ⟨f', hf', hk'⟩ := List.mem_flatMap.mp hlater
      have hsome : (ls.reverse.findSome? fun f => f.lookup k).isSome := by
        rw [List.findSome?_isSome_iff]
        exact ⟨f', List.mem_reverse.mpr hf', lookup_isSome_of_mem hk'⟩
      obtain ⟨v, hv⟩ := Option.isSome_iff_exists.mp hsome
      have hnil : f.filter (fun p => (p.1 == k) && decide (p.1 ∉ ls.flatMap keys)) = [] := by
        rw [List.filter_eq_nil_iff]
        intro p _ hp
        simp only [Bool.and_eq_true, beq_iff_eq, decide_eq_true_eq] at hp
        exact hp.2 (hp.1 ▸ hlater)
      rw [hnil, hv]
      rfl
    · -- no later list binds `k`: this list's own binding is the last
      have hnone : (ls.reverse.findSome? fun f => f.lookup k) = none := by
        rw [List.findSome?_eq_none_iff]
        intro f' hf'
        apply lookup_eq_none_of_not_mem
        exact fun hk => hlater (List.mem_flatMap.mpr ⟨f', List.mem_reverse.mp hf', hk⟩)
      have hsame : f.filter (fun p => (p.1 == k) && decide (p.1 ∉ ls.flatMap keys)) =
          f.filter fun p => p.1 == k := by
        apply List.filter_congr
        intro p _
        by_cases hp : p.1 = k
        · simp [hp, hlater]
        · simp [hp]
      rw [hsame, filter_key_eq_lookup (hls f List.mem_cons_self)]
      simp [hnone]

-- A record of a logger nested from the root: the joined ids under `request_uid` unless none was
-- derived, then the fields of each list that no later list overrides, list by list, the extra
-- fields last. When no list repeats a key or binds `request_uid`, the id is its only
-- `request_uid`, and every other key appears once, with the value of the last list binding it.
theorem record_fields_nest (links : List (String × List Field)) (level : Level)
    (kind message : String) (extra : List Field) :
    ((root.nest links).record level kind message extra).fields =
        (if links = [] then [] else [("request_uid", "/".intercalate (links.map (·.1)))]) ++
          overrideAll (links.map (·.2) ++ [extra]) ∧
      ((∀ f ∈ links.map (·.2) ++ [extra], (keys f).Nodup ∧ "request_uid" ∉ keys f) →
        ((root.nest links).record level kind message extra).fields.filter
            (fun p => p.1 == "request_uid") =
          (if links = [] then [] else [("request_uid", "/".intercalate (links.map (·.1)))]) ∧
        ∀ k, k ≠ "request_uid" →
          ((root.nest links).record level kind message extra).fields.filter (fun p => p.1 == k) =
            (((links.map (·.2) ++ [extra]).reverse.findSome? fun f => f.lookup k).map
              ((k, ·))).toList) := by
  -- the merged lists: the root's none, the derived ones, then the extra fields
  have hmerged : without (root.nest links).fields extra ++ extra =
      overrideAll (links.map (·.2) ++ [extra]) := by
    rw [fields_nest, ← overrideAll_concat]
    simp [root, overrideAll]
  have hfields := record_fields (root.nest links) level kind message extra
  rw [List.append_assoc, hmerged, uidFields_nest] at hfields
  refine ⟨hfields, fun hls => ⟨?_, fun k hk => ?_⟩⟩
  · have hnone : ((links.map (·.2) ++ [extra]).reverse.findSome? fun f => f.lookup "request_uid")
        = none := by
      rw [List.findSome?_eq_none_iff]
      intro f hf
      exact lookup_eq_none_of_not_mem (hls f (List.mem_reverse.mp hf)).2
    rw [hfields, List.filter_append, filter_overrideAll (fun f hf => (hls f hf).1), hnone,
      Option.map_none, Option.toList_none, List.append_nil]
    split <;> simp
  · rw [hfields, List.filter_append, filter_overrideAll (fun f hf => (hls f hf).1)]
    have hhead : (if links = [] then [] else [("request_uid", "/".intercalate (links.map (·.1)))]
        : List Field).filter (fun p => p.1 == k) = [] := by
      split <;> simp [Ne.symm hk]
    rw [hhead, List.nil_append]

-- A call's logger and a read's logger within it, with the method overridden and a count added.
theorem record_fields_nest_call :
    (∀ f ∈ [[("method", "GetSources")], [("method", "ReadSources")], [("count", "3")]],
        (keys f).Nodup ∧ "request_uid" ∉ keys f) ∧
      ((root.nest [("rpc-abc", [("method", "GetSources")]),
          ("op-1", [("method", "ReadSources")])]).record .info "test" "hello" [("count", "3")]).fields =
        [("request_uid", "rpc-abc/op-1"), ("method", "ReadSources"), ("count", "3")] ∧
      ((root.nest [("rpc-abc", [("method", "GetSources")]),
          ("op-1", [("method", "ReadSources")])]).record .info "test" "hello"
          [("count", "3")]).fields.filter (fun p => p.1 == "method") =
        [("method", "ReadSources")] := by
  have h := record_fields_nest [("rpc-abc", [("method", "GetSources")]),
    ("op-1", [("method", "ReadSources")])] .info "test" "hello" [("count", "3")]
  have hls : ∀ f ∈ [[("method", "GetSources")], [("method", "ReadSources")], [("count", "3")]],
      (keys f).Nodup ∧ "request_uid" ∉ keys f := by decide
  refine ⟨hls, ?_, ?_⟩
  · rw [h.1]
    decide
  · rw [(h.2 hls).2 "method" (by decide)]
    decide

end Logger

end ChatArchive
