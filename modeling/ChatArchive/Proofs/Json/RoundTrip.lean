import Mathlib
import ChatArchive.Event.Read
import ChatArchive.Event.Write
import ChatArchive.Record.Read
import ChatArchive.Record.Write
import ChatArchive.Service.Query
import ChatArchive.Proofs.Json.Objects
import ChatArchive.Proofs.Time.Rfc3339

namespace ChatArchive

open Json Proto

namespace Json

theorem at_toList (b : ByteArray) : At b 0 b.toList := by
  have h := at_mk b.toList
  rw [ByteArray.toList_eq, Array.toArray_toList] at h
  rw [ByteArray.toList_eq]
  exact h

theorem size_eq_length_toList (b : ByteArray) : b.size = b.toList.length := by
  rw [ByteArray.toList_eq, Array.length_toList]
  rfl

theorem readText_of_readsBack {α : Type} {r : Reader α} {v : Value} {a : α} {need : Nat}
    (h : r.ReadsBack need v a) (hneed : need ≤ nestingLimit) : readText r v.render = .ok a := by
  have hsize : v.render.toUTF8.size = v.bytes.length := size_eq_length_toList _
  have hend : Delimited v.render.toUTF8 (0 + v.bytes.length) := by
    intro b hb
    rw [getElem?_neg _ _ (by omega)] at hb
    cases hb
  have hfinish : Scan.finishText.Reads v.render.toUTF8 need (0 + v.bytes.length) ()
      (0 + v.bytes.length) :=
    Scan.reads_finishText (by omega)
  have hreads : (do
      let a ← r.scan
      Scan.finishText
      pure a : Scan α).Reads v.render.toUTF8 need 0 a (0 + v.bytes.length) :=
    (h.scan (at_toList v.render.toUTF8) hend).bind (hfinish.seq (Scan.reads_pure a))
  have hrun := hreads nestingLimit hneed
  simp only [readText, Scan.run]
  exact congrArg Prod.fst hrun

-- Every number in the value is an integer.
inductive Value.Integral : Value → Prop
  | null : Value.Integral .null
  | bool (b : Bool) : Value.Integral (.bool b)
  | nat (n : Nat) : Value.Integral (.num (.nat n))
  | neg (n : Int) : Value.Integral (.num (.neg n))
  | str (s : String) : Value.Integral (.str s)
  | arr {items : List Value} : (∀ v ∈ items, Value.Integral v) → Value.Integral (.arr items)
  | obj {ms : List (String × Value)} : (∀ m ∈ ms, Value.Integral m.2) → Value.Integral (.obj ms)

namespace Value.Integral

theorem int (n : Int) : (Value.int n).Integral := by
  unfold Value.int
  split
  · exact .nat _
  · exact .neg _

theorem option_str (o : Option String) : (Value.option .str o).Integral := by
  cases o with
  | none => exact .null
  | some s => exact .str s

theorem strs (xs : List String) : (Value.arr (xs.map .str)).Integral := by
  refine .arr fun v hv => ?_
  obtain ⟨x, -, rfl⟩ := List.mem_map.mp hv
  exact .str x

theorem obj_nil : (Value.obj []).Integral := .obj fun _ h => absurd h List.not_mem_nil

theorem obj_cons {k : String} {v : Value} {ms : List (String × Value)} (hv : v.Integral)
    (hms : (Value.obj ms).Integral) : (Value.obj ((k, v) :: ms)).Integral := by
  cases hms with
  | obj h =>
    refine .obj fun m hm => ?_
    rcases List.mem_cons.mp hm with rfl | hm
    · exact hv
    · exact h m hm

end Value.Integral

theorem newline_not_mem_digits (n : Nat) : '\n' ∉ (toString n).toList := by
  rw [show (toString n).toList = Nat.toDigits 10 n from Nat.toList_repr]
  intro h
  have := toNat_of_isDigit (isDigit_of_mem_toDigits h)
  simp at this

theorem newline_not_mem_int (n : Int) : '\n' ∉ (toString n).toList := by
  cases n with
  | ofNat k => exact newline_not_mem_digits k
  | negSucc k =>
    rw [show toString (Int.negSucc k) = "-" ++ toString (k + 1) from rfl, String.toList_append,
      List.mem_append, not_or]
    exact ⟨by decide, newline_not_mem_digits (k + 1)⟩

theorem newline_not_mem_renderItems {items : List Value}
    (h : ∀ v ∈ items, '\n' ∉ v.render.toList) : '\n' ∉ (renderItems items).toList := by
  induction items with
  | nil => decide
  | cons v rest ih =>
    have hv := h v List.mem_cons_self
    have hrest := ih fun w hw => h w (List.mem_cons_of_mem v hw)
    cases rest with
    | nil => simpa [renderItems] using hv
    | cons w rest =>
      simp only [renderItems, String.toList_append, List.mem_append, not_or] at hrest ⊢
      exact ⟨⟨hv, by decide⟩, hrest⟩

theorem newline_not_mem_renderMembers {ms : List (String × Value)}
    (h : ∀ m ∈ ms, '\n' ∉ m.2.render.toList) : '\n' ∉ (renderMembers ms).toList := by
  induction ms with
  | nil => decide
  | cons m rest ih =>
    obtain ⟨k, v⟩ := m
    have hv := h (k, v) List.mem_cons_self
    have hrest := ih fun w hw => h w (List.mem_cons_of_mem _ hw)
    have hk := newline_not_mem_renderString k
    cases rest with
    | nil =>
      simp only [renderMembers, String.toList_append, List.mem_append, not_or]
      exact ⟨⟨hk, by decide⟩, hv⟩
    | cons w rest =>
      simp only [renderMembers, String.toList_append, List.mem_append, not_or] at hrest ⊢
      exact ⟨⟨⟨⟨hk, by decide⟩, hv⟩, by decide⟩, hrest⟩

theorem newline_not_mem_render {v : Value} (h : v.Integral) : '\n' ∉ v.render.toList := by
  induction h with
  | null => decide
  | bool b => cases b <;> decide
  | nat n => exact newline_not_mem_digits n
  | neg n => exact newline_not_mem_int n
  | str s => exact newline_not_mem_renderString s
  | arr _ ih =>
    simp only [Value.render, String.toList_append, List.mem_append, not_or]
    exact ⟨⟨by decide, newline_not_mem_renderItems ih⟩, by decide⟩
  | obj _ ih =>
    simp only [Value.render, String.toList_append, List.mem_append, not_or]
    exact ⟨⟨by decide, newline_not_mem_renderMembers ih⟩, by decide⟩

end Json

def IsI64 (n : Int) : Prop := -2 ^ 63 ≤ n ∧ n < 2 ^ 63

instance : DecidablePred IsI64 := fun _ => inferInstanceAs (Decidable (_ ∧ _))

def TextMessage.Fits (m : TextMessage) : Prop := IsI64 m.id ∧ IsI64 m.date ∧ IsI64 m.peer.id

def ServiceMessage.Fits (m : ServiceMessage) : Prop := IsI64 m.id ∧ IsI64 m.date ∧ IsI64 m.peer.id

def Update.Fits : Update → Prop
  | .message m => m.Fits
  | .service m => m.Fits
  | .unsupported _ => True

def Peer.Fits (p : Peer) : Prop := ∀ r ∈ p.ref, IsI64 r.id

namespace Wire

variable {need : Nat}

theorem flags_readsBack (f : Flags) : flags.ReadsBack need (Flags.toValue f) f :=
  (Reader.u32_readsBack f.bits).map Flags.mk

theorem source_readsBack {s : Source} (hid : IsI64 s.deepId) :
    source.ReadsBack 2 (Source.toValue s) s :=
  Record.reader_readsBack (.of rfl rfl (flags_readsBack s.flags)
    (.of rfl rfl (Reader.string_readsBack s.uid) (.of rfl rfl (Reader.string_readsBack s.title)
      (.of rfl rfl (Reader.i64_readsBack hid.1 hid.2) (.nil _))))) (by rfl) (le_refl 1)

theorem instant_readsBack {t : Instant} (ht : t.Valid) : instant.ReadsBack need (.str t.render) t :=
  Reader.parsed_readsBack _ (by simp only [Rfc3339.parse_render ht])

theorem strings_readsBack (xs : List String) :
    (Reader.list Reader.string).ReadsBack 2 (.arr (xs.map .str)) xs := by
  refine Reader.list_readsBack ?_ ?_ (le_refl 1)
  · rw [List.forall₂_map_left_iff, List.forall₂_same]
    exact fun x _ => Reader.string_readsBack x
  · simp only [List.mem_map]
    rintro v ⟨x, -, rfl⟩
    exact str_opens x

theorem message_readsBack {m : Message} (ht : m.createdAt.Valid) :
    message.ReadsBack 3 (Message.toValue m) m :=
  Record.reader_readsBack (.of rfl rfl (flags_readsBack m.flags)
    (.of rfl rfl (instant_readsBack ht) (.of rfl rfl (Reader.string_readsBack m.sourceUid)
      (.of rfl rfl (Reader.string_readsBack m.uid) (.of rfl rfl (Reader.string_readsBack m.text)
        (.of rfl rfl (strings_readsBack m.links) (.nil _))))))) (by rfl) (by decide)

theorem peerRef_readsBack {p : PeerRef} (hid : IsI64 p.id) :
    peerRef.ReadsBack 2 (PeerRef.toValue p) p := by
  have hi64 : Reader.i64.ReadsBack 1 (Value.int p.id) p.id := Reader.i64_readsBack hid.1 hid.2
  cases p with
  | user id => exact Adjacent.reader_readsBack _ (by rfl) (hi64.map _) (by decide) (le_refl 1)
  | chat id => exact Adjacent.reader_readsBack _ (by rfl) (hi64.map _) (by decide) (le_refl 1)
  | channel id => exact Adjacent.reader_readsBack _ (by rfl) (hi64.map _) (by decide) (le_refl 1)

theorem textMessage_readsBack {m : TextMessage} (h : m.Fits) :
    textMessage.ReadsBack 3 (TextMessage.toValue m) m :=
  Record.reader_readsBack (.of rfl rfl (Reader.i64_readsBack h.1.1 h.1.2)
    (.of rfl rfl (Reader.i64_readsBack h.2.1.1 h.2.1.2) (.of rfl rfl (peerRef_readsBack h.2.2)
      (.of rfl rfl (Reader.string_readsBack m.text) (.of rfl rfl (Reader.bool_readsBack m.post)
        (.of rfl rfl (Reader.optional_string_readsBack m.postAuthor) (.nil _)))))))
    (by rfl) (by decide)

theorem serviceMessage_readsBack {m : ServiceMessage} (h : m.Fits) :
    serviceMessage.ReadsBack 3 (ServiceMessage.toValue m) m :=
  Record.reader_readsBack (.of rfl rfl (Reader.i64_readsBack h.1.1 h.1.2)
    (.of rfl rfl (Reader.i64_readsBack h.2.1.1 h.2.1.2) (.of rfl rfl (peerRef_readsBack h.2.2)
      (.of rfl rfl (Reader.string_readsBack m.action) (.nil _))))) (by rfl) (by decide)

theorem update_readsBack {u : Update} (h : u.Fits) : update.ReadsBack 4 (Update.toValue u) u := by
  cases u with
  | message m =>
    exact Adjacent.reader_readsBack _ (show _ = some 0 from rfl) ((textMessage_readsBack h).map _)
      (by decide) (by decide)
  | service m =>
    exact Adjacent.reader_readsBack _ (show _ = some 1 from rfl)
      ((serviceMessage_readsBack h).map _) (by decide) (by decide)
  | unsupported kind =>
    exact Adjacent.reader_readsBack _ (show _ = some 2 from rfl)
      (Record.reader_readsBack (.of rfl rfl (Reader.string_readsBack kind) (.nil _)) (by rfl)
        (by decide : 1 ≤ 2)) (by decide) (by decide)

theorem peer_readsBack {p : Peer} (h : p.Fits) : peer.ReadsBack 2 (Peer.toValue p) p := by
  cases p with
  | channel id title username =>
    have hid : IsI64 id := h _ rfl
    refine Internal.reader_readsBack _ (show _ = some 0 from rfl) ?_ (by simp)
      (Record.reader_readsBack (.of rfl rfl (Reader.i64_readsBack hid.1 hid.2)
        (.of rfl rfl (Reader.string_readsBack title)
          (.of rfl rfl (Reader.optional_string_readsBack username) (.nil _)))) (by rfl)
        (le_refl 1)).tree (le_refl 1)
    simp only [List.mem_cons, List.not_mem_nil, or_false, forall_eq_or_imp, forall_eq]
    exact ⟨.int hid.1 hid.2, .str title, .option_str username⟩
  | user id firstName lastName username =>
    have hid : IsI64 id := h _ rfl
    refine Internal.reader_readsBack _ (show _ = some 1 from rfl) ?_ (by simp)
      (Record.reader_readsBack (.of rfl rfl (Reader.i64_readsBack hid.1 hid.2)
        (.of rfl rfl (Reader.string_readsBack firstName) (.of rfl rfl (Reader.string_readsBack lastName)
          (.of rfl rfl (Reader.optional_string_readsBack username) (.nil _))))) (by rfl)
        (le_refl 1)).tree (le_refl 1)
    simp only [List.mem_cons, List.not_mem_nil, or_false, forall_eq_or_imp, forall_eq]
    exact ⟨.int hid.1 hid.2, .str firstName, .str lastName, .option_str username⟩
  | chat id title =>
    have hid : IsI64 id := h _ rfl
    refine Internal.reader_readsBack _ (show _ = some 2 from rfl) ?_ (by simp)
      (Record.reader_readsBack (.of rfl rfl (Reader.i64_readsBack hid.1 hid.2)
        (.of rfl rfl (Reader.string_readsBack title) (.nil _))) (by rfl) (le_refl 1)).tree
      (le_refl 1)
    simp only [List.mem_cons, List.not_mem_nil, or_false, forall_eq_or_imp, forall_eq]
    exact ⟨.int hid.1 hid.2, .str title⟩
  | unknown =>
    exact Internal.reader_readsBack _ (show _ = some 3 from rfl) (by simp) (by simp) rfl (le_refl 1)

theorem source_integral (s : Source) : (Source.toValue s).Integral :=
  .obj_cons (.nat _) (.obj_cons (.str _) (.obj_cons (.str _) (.obj_cons (.int _) .obj_nil)))

theorem message_integral (m : Message) : (Message.toValue m).Integral :=
  .obj_cons (.nat _) (.obj_cons (.str _) (.obj_cons (.str _) (.obj_cons (.str _)
    (.obj_cons (.str _) (.obj_cons (.strs _) .obj_nil)))))

theorem peerRef_integral (p : PeerRef) : (PeerRef.toValue p).Integral :=
  .obj_cons (.str _) (.obj_cons (.int _) .obj_nil)

theorem update_integral (u : Update) : (Update.toValue u).Integral := by
  cases u with
  | message m =>
    exact .obj_cons (.str _) (.obj_cons (.obj_cons (.int _) (.obj_cons (.int _)
      (.obj_cons (peerRef_integral _) (.obj_cons (.str _) (.obj_cons (.bool _)
        (.obj_cons (.option_str _) .obj_nil)))))) .obj_nil)
  | service m =>
    exact .obj_cons (.str _) (.obj_cons (.obj_cons (.int _) (.obj_cons (.int _)
      (.obj_cons (peerRef_integral _) (.obj_cons (.str _) .obj_nil)))) .obj_nil)
  | unsupported kind => exact .obj_cons (.str _) (.obj_cons (.obj_cons (.str _) .obj_nil) .obj_nil)

theorem peer_integral (p : Peer) : (Peer.toValue p).Integral := by
  cases p with
  | channel id title username =>
    exact .obj_cons (.str _) (.obj_cons (.int _) (.obj_cons (.str _) (.obj_cons (.option_str _)
      .obj_nil)))
  | user id firstName lastName username =>
    exact .obj_cons (.str _) (.obj_cons (.int _) (.obj_cons (.str _) (.obj_cons (.str _)
      (.obj_cons (.option_str _) .obj_nil))))
  | chat id title => exact .obj_cons (.str _) (.obj_cons (.int _) (.obj_cons (.str _) .obj_nil))
  | unknown => exact .obj_cons (.str _) .obj_nil

end Wire

namespace Service

theorem flatten_lines (ls : List (List Char)) :
    (ls.map (· ++ ['\n'])).flatten = ['\n'].intercalate (ls ++ [[]]) := by
  induction ls with
  | nil => rfl
  | cons l rest ih =>
    cases rest with
    | nil => simp
    | cons l' rest' =>
      rw [List.map_cons, List.flatten_cons, ih]
      simp only [List.cons_append, List.intercalate_cons_cons, List.append_assoc]

theorem ndjsonBody_lines {records : List Value} (h : ∀ v ∈ records, '\n' ∉ v.render.toList) :
    (ndjsonBody records).toList.splitOn '\n' = records.map (·.render.toList) ++ [[]] := by
  have hbody : (ndjsonBody records).toList = (records.map fun v => v.render.toList ++ ['\n']).flatten := by
    rw [ndjsonBody, String.toList_join, List.flatMap_map, List.flatMap_def]
    congr 1
    apply List.map_congr_left
    intro v _
    rw [String.toList_append]
    rfl
  rw [hbody, show (records.map fun v => v.render.toList ++ ['\n']) =
      (records.map (·.render.toList)).map (· ++ ['\n']) by rw [List.map_map]; rfl,
    flatten_lines, List.splitOn_intercalate]
  · intro l hl
    rcases List.mem_append.mp hl with hl | hl
    · obtain ⟨v, hv, rfl⟩ := List.mem_map.mp hl
      exact h v hv
    · rw [List.mem_singleton.mp hl]
      exact List.not_mem_nil
  · simp

theorem ndjsonBody_readBack {β : Type} {r : Reader β} {toValue : β → Value} {xs : List β}
    {need : Nat} (hneed : need ≤ nestingLimit) (hint : ∀ x, (toValue x).Integral)
    (hback : ∀ x ∈ xs, r.ReadsBack need (toValue x) x) :
    ∃ lines, (ndjsonBody (xs.map toValue)).toList.splitOn '\n' = lines ++ [[]] ∧
      List.Forall₂ (fun line x => readText r (String.ofList line) = .ok x) lines xs := by
  refine ⟨xs.map fun x => (toValue x).render.toList, ?_, ?_⟩
  · rw [ndjsonBody_lines, List.map_map]
    · rfl
    · intro v hv
      obtain ⟨x, -, rfl⟩ := List.mem_map.mp hv
      exact newline_not_mem_render (hint x)
  · rw [List.forall₂_map_left_iff, List.forall₂_same]
    intro x hx
    rw [String.ofList_toList]
    exact readText_of_readsBack (hback x hx) hneed

end Service

-- Sources, messages, updates and looked-up conversations read back from their JSON, which has
-- no line break; a streamed body of sources or of messages has one line per record, in order,
-- each reading back as its record.
theorem records_json_roundTrip :
    (∀ s : Source, IsI64 s.deepId →
      readText Wire.source (Wire.Source.toValue s).render = .ok s ∧
        '\n' ∉ (Wire.Source.toValue s).render.toList) ∧
    (∀ m : Message, m.createdAt.Valid →
      readText Wire.message (Wire.Message.toValue m).render = .ok m ∧
        '\n' ∉ (Wire.Message.toValue m).render.toList) ∧
    (∀ u : Update, u.Fits →
      readText Wire.update (Wire.Update.toValue u).render = .ok u ∧
        '\n' ∉ (Wire.Update.toValue u).render.toList) ∧
    (∀ p : Peer, p.Fits →
      readText Wire.peer (Wire.Peer.toValue p).render = .ok p ∧
        '\n' ∉ (Wire.Peer.toValue p).render.toList) ∧
    (∀ sources : List Source, (∀ s ∈ sources, IsI64 s.deepId) →
      ∃ lines, (Service.ndjsonBody (sources.map Wire.Source.toValue)).toList.splitOn '\n' =
          lines ++ [[]] ∧
        List.Forall₂ (fun line s => readText Wire.source (String.ofList line) = .ok s) lines
          sources) ∧
    (∀ messages : List Message, (∀ m ∈ messages, m.createdAt.Valid) →
      ∃ lines, (Service.ndjsonBody (messages.map Wire.Message.toValue)).toList.splitOn '\n' =
          lines ++ [[]] ∧
        List.Forall₂ (fun line m => readText Wire.message (String.ofList line) = .ok m) lines
          messages) := by
  refine ⟨fun s hs => ⟨readText_of_readsBack (Wire.source_readsBack hs) (by decide),
      newline_not_mem_render (Wire.source_integral s)⟩,
    fun m hm => ⟨readText_of_readsBack (Wire.message_readsBack hm) (by decide),
      newline_not_mem_render (Wire.message_integral m)⟩,
    fun u hu => ⟨readText_of_readsBack (Wire.update_readsBack hu) (by decide),
      newline_not_mem_render (Wire.update_integral u)⟩,
    fun p hp => ⟨readText_of_readsBack (Wire.peer_readsBack hp) (by decide),
      newline_not_mem_render (Wire.peer_integral p)⟩, ?_, ?_⟩
  · intro sources hs
    exact Service.ndjsonBody_readBack (by decide) Wire.source_integral
      fun s h => Wire.source_readsBack (hs s h)
  · intro messages hm
    exact Service.ndjsonBody_readBack (by decide) Wire.message_integral
      fun m h => Wire.message_readsBack (hm m h)

-- A source whose title holds a line break reads back from its one-line JSON.
theorem source_with_newline_readsBack :
    readText Wire.source (Wire.Source.toValue ⟨⟨7⟩, "s-1", "two\nlines", -3⟩).render =
      .ok ⟨⟨7⟩, "s-1", "two\nlines", -3⟩ :=
  (records_json_roundTrip.1 _ (by decide)).1

end ChatArchive
