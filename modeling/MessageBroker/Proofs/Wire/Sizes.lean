import MessageBroker.Proofs.Wire.Records

/-!
# Sizes of bodies

The writers produce the shortest form of each text and each binary string. A body is not written in
its shortest form, though: its fields are named, where a record may also give their places or leave
them out, and a payload that could have been a text is written as binary. So a message that was read
may take more bytes when it is written again, but no more than fifteen; and no more bytes at all if
its record names its fields and has the payload as binary.
-/

namespace MessageBroker

namespace Pack

variable {raw : Bytes} {head : Head} {front : Bytes} {room : Nat} {v : Value} {α : Type}

theorem length_writeStr (raw : Bytes) : (writeStr raw).length = raw.length +
    if raw.length < 32 then 1 else if raw.length < 0x100 then 2
    else if raw.length < 0x10000 then 3 else 5 := by
  unfold writeStr
  dsimp only
  rw [List.length_append, Nat.add_comm]
  congr 1
  split
  · rfl
  · split
    · rw [List.length_cons, Bytes.length_bigEndian]
    · split <;> rw [List.length_cons, Bytes.length_bigEndian]

theorem length_writeBin (raw : Bytes) : (writeBin raw).length = raw.length +
    if raw.length < 0x100 then 2 else if raw.length < 0x10000 then 3 else 5 := by
  unfold writeBin
  dsimp only
  rw [List.length_append, Nat.add_comm]
  congr 1
  split
  · rw [List.length_cons, Bytes.length_bigEndian]
  · split <;> rw [List.length_cons, Bytes.length_bigEndian]

/-! ## The least sizes of forms -/

/-- The least size of a value, as far as its kind and its length tell. -/
def Value.least : Value → Nat
  | .str raw => (writeStr raw).length
  | .bin raw => (writeBin raw).length
  | .array items =>
    items.length + if items.length < 16 then 1 else if items.length < 0x10000 then 3 else 5
  | _ => 1

theorem bound_of_mark {marks : List (UInt8 × Nat)} {marker : UInt8} {width : Nat}
    (mark : (marker, width) ∈ marks) (widths : marks.map Prod.snd ⊆ [1, 2, 4]) :
    width = 1 ∧ Bytes.bound width = 0x100 ∨ width = 2 ∧ Bytes.bound width = 0x10000 ∨
      width = 4 := by
  have listed := widths (List.mem_map_of_mem mark)
  simp only [List.mem_cons, List.not_mem_nil, or_false] at listed
  rcases listed with rfl | rfl | rfl
  · exact .inl ⟨rfl, rfl⟩
  · exact .inr (.inl ⟨rfl, rfl⟩)
  · exact .inr (.inr rfl)

theorem HeadForm.pos (form : HeadForm head front) : 0 < front.length := by
  cases form <;> exact Nat.succ_pos _

/-- No form of a leaf is shorter. -/
theorem HeadForm.least_le (form : HeadForm (.leaf v) front) : v.least ≤ front.length := by
  cases form with
  | smallStr small =>
      rw [Value.least, length_writeStr, if_pos small]
      exact Nat.le_refl _
  | str mark fits =>
      rw [Value.least, length_writeStr, sized, List.length_cons, List.length_append,
        Bytes.length_bigEndian]
      have width := bound_of_mark mark (by decide)
      split <;> try split <;> try split
      all_goals omega
  | bin mark fits =>
      rw [Value.least, length_writeBin, sized, List.length_cons, List.length_append,
        Bytes.length_bigEndian]
      have width := bound_of_mark mark (by decide)
      split <;> try split
      all_goals omega
  | _ => exact Nat.succ_pos _

/-- The count of an array takes the more bytes the larger it is. -/
theorem HeadForm.array_le {count : Nat} (form : HeadForm (.array count) front) :
    (if count < 16 then 1 else if count < 0x10000 then 3 else 5) ≤ front.length := by
  cases form with
  | smallArray small =>
      rw [if_pos small]
      exact Nat.le_refl _
  | array mark fits =>
      rw [List.length_cons, Bytes.length_bigEndian]
      have two : Bytes.bound 2 = 0x10000 := rfl
      simp only [arrayMarks, List.mem_cons, Prod.mk.injEq, List.not_mem_nil, or_false] at mark
      rcases mark with ⟨rfl, rfl⟩ | ⟨rfl, rfl⟩
      all_goals
        split <;> try split
        all_goals omega

theorem Written.pos (form : Written room v front) : 0 < front.length := by
  cases room with
  | zero => exact HeadForm.pos form
  | succ room =>
      rcases form with leaf | container
      · exact leaf.pos
      · cases container with
        | array count row | map count row | ext count tag =>
            rw [List.length_append]
            exact Nat.add_pos_left count.pos _

/-- A row is as long as its items are at least. -/
theorem Row.sum_le {form : α → Bytes → Prop} {w : α → Nat}
    (least : ∀ a front, form a front → w a ≤ front.length) {items : List α}
    (row : Row form items front) : (items.map w).sum ≤ front.length := by
  induction row with
  | nil => exact Nat.zero_le _
  | cons first rest ih =>
      rw [List.map_cons, List.sum_cons, List.length_append]
      exact Nat.add_le_add (least _ _ first) ih

/-- No form of a value is shorter. -/
theorem Written.least_le (form : Written room v front) : v.least ≤ front.length := by
  cases room with
  | zero => exact HeadForm.least_le form
  | succ room =>
      rcases form with leaf | container
      · exact leaf.least_le
      · cases container with
        | @array items head body count row =>
            have first := count.array_le
            have each : items.length ≤ body.length := by
              simpa using Row.sum_le (w := fun _ => 1) (fun _ _ => Written.pos) row
            rw [Value.least, List.length_append]
            omega
        | map count row | ext count tag =>
            rw [List.length_append]
            exact Nat.add_pos_left count.pos _

/-- The least size of an entry of a map. -/
def leastEntry (entry : Value × Value) : Nat :=
  entry.1.least + entry.2.least

theorem EntryForm.least_le {entry : Value × Value}
    (form : EntryForm (Written room) entry front) : leastEntry entry ≤ front.length := by
  obtain ⟨key, v, first, second, rfl⟩ := form
  rw [leastEntry, List.length_append]
  exact Nat.add_le_add first.least_le second.least_le

/-- A text may as well have been binary, which is no shorter. -/
theorem Value.IsString.writeStr_le (string : v.IsString raw) : (writeStr raw).length ≤ v.least := by
  rcases string with rfl | rfl
  · exact Nat.le_refl _
  · rw [Value.least, length_writeStr, length_writeBin]
    split <;> try split <;> try split
    all_goals omega

/-- A payload takes at most one byte more as binary than in another form. -/
theorem Value.writeBin_le {raw : Bytes} (payload : v.payload? = some raw) :
    (writeBin raw).length ≤ v.least + 1 := by
  rw [length_writeBin]
  rcases payload?_eq_some_iff.1 payload with (rfl | rfl) | ⟨items, rfl, numbers⟩
  · rw [least, length_writeStr]
    split <;> try split <;> try split
    all_goals omega
  · rw [least, length_writeBin]
    split <;> try split
    all_goals omega
  · rw [least, ← numbers.length_eq]
    split <;> try split <;> try split
    all_goals omega

end Pack

namespace Wire

open Pack

/-! ## What the fields of a record take up -/

variable {names : List String} {entries : List (Value × Value)} {i j : Nat} {v w : Value}

theorem sum_filter_add_le {α : Type} {p q : α → Bool} (apart : ∀ a, p a = true → q a = false)
    (w : α → Nat) (items : List α) :
    ((items.filter p).map w).sum + ((items.filter q).map w).sum ≤ (items.map w).sum := by
  induction items with
  | nil => exact Nat.le_refl _
  | cons a items ih =>
      rw [List.filter_cons, List.filter_cons, List.map_cons, List.sum_cons]
      split
      · rename_i first
        rw [apart a first, if_neg Bool.false_ne_true, List.map_cons, List.sum_cons]
        omega
      · split
        · rw [List.map_cons, List.sum_cons]
          omega
        · omega

/-- The entry that gives a field its only value. -/
theorem entry_of_given (only : given names entries i = [v]) : ∃ key, KeyOf names i key ∧
    (key, v) ∈ entries ∧ (entries.filter fun entry => KeyOf names i entry.1) = [(key, v)] := by
  obtain ⟨⟨key, v'⟩, entry, rfl⟩ := List.map_eq_singleton_iff.1 only
  have listed : (key, v') ∈ entries.filter fun entry => KeyOf names i entry.1 := by
    rw [entry]
    exact List.mem_singleton_self _
  obtain ⟨there, stands⟩ := List.mem_filter.1 listed
  exact ⟨key, by simpa using stands, there, entry⟩

/-- Two fields take up room of their own. -/
theorem least_of_given (distinct : (names.map Bytes.ofText).Nodup) (other : i ≠ j)
    (first : given names entries i = [v]) (second : given names entries j = [w]) :
    ∃ key key', KeyOf names i key ∧ (key, v) ∈ entries ∧ KeyOf names j key' ∧ (key', w) ∈ entries ∧
      leastEntry (key, v) + leastEntry (key', w) ≤ (entries.map leastEntry).sum := by
  obtain ⟨key, stands, there, entry⟩ := entry_of_given first
  obtain ⟨key', stands', there', entry'⟩ := entry_of_given second
  refine ⟨key, key', stands, there, stands', there', ?_⟩
  have both := sum_filter_add_le (p := fun entry : Value × Value => KeyOf names i entry.1)
    (q := fun entry => KeyOf names j entry.1) (fun entry one => decide_eq_false fun two =>
      other ((of_decide_eq_true one).unique distinct two)) leastEntry entries
  rw [entry, entry'] at both
  simpa using both

theorem least_pos (v : Value) : 0 < v.least := by
  cases v with
  | str raw =>
      rw [Value.least, length_writeStr]
      split <;> try split <;> try split
      all_goals omega
  | bin raw =>
      rw [Value.least, length_writeBin]
      split <;> try split
      all_goals omega
  | array items =>
      rw [Value.least]
      split <;> try split
      all_goals omega
  | _ => exact Nat.one_pos

namespace Body

variable {route : String} {payload : Bytes} {front : Bytes} {room : Nat}

theorem length_encode_message (route : String) (payload : Bytes) :
    (message route payload).encode.length =
      15 + (writeStr (Bytes.ofText route)).length + (writeBin payload).length := by
  have names : (writeStr (Bytes.ofText "route")).length = 6 ∧
      (writeStr (Bytes.ofText "payload")).length = 8 := ⟨rfl, rfl⟩
  simp only [encode, writeFields, textField, List.length_cons, List.length_append, List.flatMap_cons,
    List.flatMap_nil, List.length_nil, names]
  omega

/-- The size of a message depends on its payload by its length only. -/
theorem length_encode_eq_messageSize (route : String) (payload : Bytes) :
    (message route payload).encode.length = messageSize route payload.length := by
  rw [length_encode_message, length_writeBin, messageSize]

/-- What the fields of a message take up in a record of it. -/
theorem Records.values_of_message (records : (message route payload).Records v) :
    ∃ text content, fieldValues Shape.message.fields v 0 = [text] ∧
      fieldValues Shape.message.fields v 1 = [content] ∧ text.IsString (Bytes.ofText route) ∧
      content.payload? = some payload := by
  obtain ⟨text, first, string⟩ := Content.given_text_iff.1 (records.given 0 _ rfl)
  obtain ⟨content, second, raw⟩ := Content.given_payload_iff.1 (records.given 1 _ rfl)
  exact ⟨text, content, first, second, Value.text?_eq_some_iff.1 string, raw⟩

/-- The text and the payload of a message take up a part of each form of its records. -/
theorem Records.length_le (records : (message route payload).Records v)
    (form : Written room v front) :
    (writeStr (Bytes.ofText route)).length + (writeBin payload).length ≤ front.length := by
  obtain ⟨text, content, first, second, string, raw⟩ := records.values_of_message
  have here := string.writeStr_le
  have there := Value.writeBin_le raw
  suffices least : text.least + content.least < front.length by omega
  cases room with
  | zero =>
      cases form <;> cases first
  | succ room =>
      rcases form with leaf | container
      · cases leaf <;> cases first
      · cases container with
        | @array items head body count row =>
            obtain ⟨more, rfl⟩ : ∃ more, items = text :: content :: more := by
              rcases items with _ | ⟨a, _ | ⟨b, more⟩⟩
              · cases first
              · cases second
              · cases first
                cases second
                exact ⟨more, rfl⟩
            have all := row.sum_le (w := Value.least) fun _ _ => Written.least_le
            rw [List.map_cons, List.map_cons, List.sum_cons, List.sum_cons] at all
            have head' := count.pos
            rw [List.length_append]
            omega
        | @map entries head body count row =>
            have all := row.sum_le (w := leastEntry) fun _ _ => EntryForm.least_le
            obtain ⟨key, key', -, -, -, -, both⟩ :=
              least_of_given (distinct_fields .message) Nat.zero_ne_one first second
            have key' := least_pos key
            have head' := count.pos
            rw [List.length_append]
            simp only [leastEntry] at both
            omega
        | ext => cases first

/-- A message that is read takes at most fifteen bytes more when it is written again. -/
theorem length_encode_le (found : decode? .message front = some (message route payload)) :
    (message route payload).encode.length ≤ front.length + 15 := by
  obtain ⟨v, form, rest, written, records, rfl⟩ :=
    (decode?_eq_some_iff (b := message route payload)).1 found
  have content := records.length_le written
  rw [length_encode_message, List.length_append]
  omega

/-- A body spells a message out if it is a map that names the fields of the message, instead of
giving their places, and has the payload as binary. -/
def SpellsOut (bs : Bytes) : Prop :=
  ∃ entries front rest, Written maxNesting (.map entries) front ∧ bs = front ++ rest ∧
    (∀ entry ∈ entries, ∀ i < Shape.message.fields.length, entry.1 ≠ .uint i) ∧
    ∃ raw, given Shape.message.fields entries 1 = [.bin raw]

/-- A key that is a name takes up the name. -/
theorem length_name_le {key : Value} {name : Bytes} (stands : KeyOf names i key)
    (named : ∀ i < names.length, key ≠ .uint i) (there : (names.map Bytes.ofText)[i]? = some name) :
    (writeStr name).length ≤ key.least := by
  refine Value.IsString.writeStr_le ?_
  cases key with
  | str raw =>
      obtain rfl := Option.some.inj (stands.symm.trans there)
      exact .inl rfl
  | bin raw =>
      obtain rfl := Option.some.inj (stands.symm.trans there)
      exact .inr rfl
  | uint n =>
      obtain ⟨rfl, within⟩ := stands
      exact absurd rfl (named n within)
  | _ => cases stands

/-- It takes no more bytes at all if it was spelled out. -/
theorem length_encode_le_of_spellsOut
    (found : decode? .message front = some (message route payload))
    (spelled : SpellsOut front) : (message route payload).encode.length ≤ front.length := by
  obtain ⟨v, form, rest, written, records, rfl⟩ :=
    (decode?_eq_some_iff (b := message route payload)).1 found
  obtain ⟨entries, form', rest', written', whole, named, raw, binary⟩ := spelled
  obtain ⟨rfl, -⟩ := written.unique written' whole
  obtain ⟨text, content, first, second, string, given⟩ := records.values_of_message
  obtain ⟨key, key', stands, listed, stands', listed', both⟩ :=
    least_of_given (distinct_fields .message) Nat.zero_ne_one first second
  -- The payload is the binary string that the map gives.
  have same := second.symm.trans binary
  cases same
  cases given
  have name : (writeStr (Bytes.ofText "route")).length ≤ key.least :=
    length_name_le stands (named _ listed) rfl
  have name' : (writeStr (Bytes.ofText "payload")).length ≤ key'.least :=
    length_name_le stands' (named _ listed') rfl
  have sizes : (writeStr (Bytes.ofText "route")).length = 6 ∧
      (writeStr (Bytes.ofText "payload")).length = 8 := ⟨rfl, rfl⟩
  have route' := string.writeStr_le
  rcases (written : Written (1022 + 1) (.map entries) form) with leaf | container
  · cases leaf
  · cases container with
    | @map _ head body count row =>
        have all := row.sum_le (w := leastEntry) fun _ _ => EntryForm.least_le
        have head' := count.pos
        have payload' : (Value.bin payload).least = (writeBin payload).length := rfl
        simp only [leastEntry] at both
        rw [length_encode_message, List.length_append, List.length_append]
        omega

end Body

end Wire

end MessageBroker
