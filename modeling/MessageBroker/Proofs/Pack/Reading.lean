import MessageBroker.Pack.Reader
import MessageBroker.Proofs.Wire.Parsing

/-!
# Reading back what was written

A reader of packed values uses up the bytes of one value and looks at none behind them, so what
stands there does not matter. It follows that a value is complete with its last byte and not before:
no reader accepts a part of the bytes that it needs.

What the writers produce is read back as the value that it was written for, wherever it stands.
-/

namespace MessageBroker.Pack

variable {α β : Type}

/-! ## Readers look no further than they read -/

/-- A reader gets along with the bytes of what it reads: others behind them are left as they are. -/
def SelfDelimiting (read : Bytes → Option (α × Bytes)) : Prop :=
  ∀ ⦃bs a rest⦄, read bs = some (a, rest) → ∀ more, read (bs ++ more) = some (a, rest ++ more)

namespace SelfDelimiting

variable {read other : Bytes → Option (α × Bytes)}

theorem pure (a : α) : SelfDelimiting fun bs => some (a, bs) := by
  intro bs a' rest found more
  cases found
  rfl

theorem refuse : SelfDelimiting fun _ => (none : Option (α × Bytes)) := by
  intro bs a rest found
  cases found

theorem take (n : Nat) : SelfDelimiting (Bytes.take? n) := by
  intro bs a rest found more
  obtain ⟨rfl, rfl⟩ := Bytes.take?_eq_some found
  rw [List.append_assoc]
  exact Bytes.take?_append a (rest ++ more)

theorem map (own : SelfDelimiting read) (f : α → β) :
    SelfDelimiting fun bs => (read bs).map fun (a, rest) => (f a, rest) := by
  intro bs b rest found more
  obtain ⟨⟨a, rest'⟩, first, same⟩ := Option.map_eq_some_iff.1 found
  cases same
  simp only [own first more, Option.map_some]

theorem bind (own : SelfDelimiting read) {next : α → Bytes → Option (β × Bytes)}
    (owns : ∀ a, SelfDelimiting (next a)) :
    SelfDelimiting fun bs => (read bs).bind fun (a, rest) => next a rest := by
  intro bs b rest found more
  obtain ⟨⟨a, rest'⟩, first, second⟩ := Option.bind_eq_some_iff.1 found
  simp only [own first more, Option.bind_some]
  exact owns a second more

theorem ite {c : Prop} [Decidable c] (own : SelfDelimiting read) (own' : SelfDelimiting other) :
    SelfDelimiting fun bs => if c then read bs else other bs := by
  by_cases holds : c
  · simpa only [if_pos holds] using own
  · simpa only [if_neg holds] using own'

/-- Nothing is read from a part of the bytes that are needed. -/
theorem eq_none_of_part (own : SelfDelimiting read) {bs p : Bytes} {a : α}
    (whole : read bs = some (a, [])) (front : p <+: bs) (short : p ≠ bs) : read p = none := by
  obtain ⟨more, rfl⟩ := front
  cases early : read p with
  | none => rfl
  | some found =>
      obtain ⟨a', rest⟩ := found
      have again := own early more
      rw [whole, Option.some.injEq, Prod.mk.injEq] at again
      have nothing : more = [] := (List.append_eq_nil_iff.1 again.2.symm).2
      exact absurd (by rw [nothing, List.append_nil]) short

end SelfDelimiting

open SelfDelimiting

theorem selfDelimiting_readNat (width : Nat) : SelfDelimiting (readNat width) :=
  (SelfDelimiting.take width).map Bytes.toNat

theorem selfDelimiting_readSized (width : Nat) : SelfDelimiting (readSized width) :=
  (selfDelimiting_readNat width).bind SelfDelimiting.take

theorem selfDelimiting_leafOf {read : Bytes → Option (α × Bytes)} (own : SelfDelimiting read)
    (make : α → Value) : SelfDelimiting fun bs => leafOf make (read bs) :=
  own.map fun a => Head.leaf (make a)

/-- Whatever the marker, what follows it is read by a reader that looks no further. -/
theorem selfDelimiting_afterMarker (marker : UInt8) :
    SelfDelimiting fun rest => readHead (marker :: rest) := by
  have counted : ∀ make width, SelfDelimiting (countedOf make width) := fun make width =>
    (selfDelimiting_readNat width).map make
  have signed : ∀ width, SelfDelimiting (readInt width) := fun width =>
    (selfDelimiting_readNat width).map fun n =>
      if 2 * n < Bytes.bound width then (n : Int) else (n : Int) - Bytes.bound width
  simp only [readHead]
  refine ite (pure _) ?_
  refine ite (pure _) ?_
  refine ite (pure _) ?_
  refine ite (selfDelimiting_leafOf (take _) _) ?_
  refine ite (pure _) ?_
  refine ite refuse ?_
  refine ite (pure _) ?_
  refine ite (selfDelimiting_leafOf (selfDelimiting_readSized _) _) ?_
  refine ite (counted _ _) ?_
  refine ite (selfDelimiting_leafOf (take _) _) ?_
  refine ite (selfDelimiting_leafOf (selfDelimiting_readNat _) _) ?_
  refine ite (selfDelimiting_leafOf (signed _) _) ?_
  refine ite (pure _) ?_
  refine ite (selfDelimiting_leafOf (selfDelimiting_readSized _) _) ?_
  refine ite (counted _ _) ?_
  exact ite (counted _ _) (pure _)

theorem selfDelimiting_readHead : SelfDelimiting readHead := by
  intro bs head rest found more
  cases bs with
  | nil => cases found
  | cons marker bs => exact selfDelimiting_afterMarker marker found more

theorem selfDelimiting_readMany {read : Bytes → Option (α × Bytes)} (own : SelfDelimiting read)
    (count : Nat) (done : List α) : SelfDelimiting (readMany read count done) := by
  induction count generalizing done with
  | zero => exact pure done.reverse
  | succ count ih =>
      intro bs items rest found more
      rw [readMany] at found
      cases first : read bs with
      | none => simp [first] at found
      | some entry =>
          obtain ⟨a, rest'⟩ := entry
          rw [first] at found
          rw [readMany, own first more]
          exact ih (a :: done) found more

theorem selfDelimiting_readEntry {read : Bytes → Option (Value × Bytes)}
    (own : SelfDelimiting read) : SelfDelimiting (readEntry read) :=
  own.bind fun key => own.map fun v => (key, v)

/-- A value is read from its own bytes, however deeply containers may be nested. -/
theorem selfDelimiting_readValue (room : Nat) : SelfDelimiting (readValue room) := by
  -- A container is read by readers of its items, which have less room.
  have container : ∀ (room : Nat) (head : Head) (_ : ∀ room', room = room' + 1 →
      SelfDelimiting (readValue room')) {bs rest rest' : Bytes} {v : Value},
      readHead bs = some (head, rest) → readValue room bs = some (v, rest') →
      ∀ more, readValue room (bs ++ more) = some (v, rest' ++ more) := by
    intro room head smaller bs rest rest' v first found more
    have first' := selfDelimiting_readHead first more
    unfold readValue at found ⊢
    rw [first] at found
    rw [first']
    cases head with
    | leaf a =>
        cases found
        rfl
    | array count =>
        cases room with
        | zero => cases found
        | succ room =>
            exact (selfDelimiting_readMany (smaller room rfl) count []).map Value.array found more
    | map count =>
        cases room with
        | zero => cases found
        | succ room =>
            exact (selfDelimiting_readMany (selfDelimiting_readEntry (smaller room rfl)) count
              []).map Value.map found more
    | ext size =>
        cases room with
        | zero => cases found
        | succ room =>
            cases rest with
            | nil => cases found
            | cons tag rest => exact (SelfDelimiting.take size).map (Value.ext tag) found more
  induction room with
  | zero =>
      intro bs v rest' found more
      cases first : readHead bs with
      | none => simp [readValue, first] at found
      | some entry => exact container 0 entry.1 nofun first found more
  | succ room ih =>
      intro bs v rest' found more
      cases first : readHead bs with
      | none => simp [readValue, first] at found
      | some entry =>
          refine container (room + 1) entry.1 ?_ first found more
          intro room' same
          cases same
          exact ih

/-- No value is read from a part of the bytes of a value. -/
theorem Value.ofBytes?_of_prefix {bs p : Bytes} {v : Value}
    (whole : readValue maxNesting bs = some (v, [])) (front : p <+: bs) (short : p ≠ bs) :
    Value.ofBytes? p = none := by
  rw [ofBytes?, (selfDelimiting_readValue maxNesting).eq_none_of_part whole front short]
  rfl

/-! ## What is written is read back -/

theorem readNat_bigEndian {width n : Nat} (fits : n < Bytes.bound width) (rest : Bytes) :
    readNat width (Bytes.bigEndian width n ++ rest) = some (n, rest) := by
  have front := Bytes.take?_append (Bytes.bigEndian width n) rest
  rw [Bytes.length_bigEndian] at front
  simp only [readNat, front, Option.map_some, Bytes.toNat_bigEndian fits]

theorem readSized_append {width : Nat} {raw : Bytes} (fits : raw.length < Bytes.bound width)
    (rest : Bytes) :
    readSized width (Bytes.bigEndian width raw.length ++ (raw ++ rest)) = some (raw, rest) := by
  simp only [readSized, readNat_bigEndian fits, Option.bind_some, Bytes.take?_append]

/-- A string of bytes is read back behind a marker that announces the width of its size. -/
theorem readHead_of_sized {marker : UInt8} {make : Bytes → Value} {width : Nat} {raw : Bytes}
    (announces : ∀ bs, readHead (marker :: bs) = leafOf make (readSized width bs))
    (fits : raw.length < Bytes.bound width) (rest : Bytes) :
    readHead (marker :: Bytes.bigEndian width raw.length ++ (raw ++ rest)) =
      some (.leaf (make raw), rest) := by
  rw [List.cons_append, announces, readSized_append fits]
  rfl

/-- A number is read back behind a marker that announces its width. -/
theorem readHead_of_number {marker : UInt8} {width n : Nat}
    (announces : ∀ bs, readHead (marker :: bs) = leafOf .uint (readNat width bs))
    (fits : n < Bytes.bound width) (rest : Bytes) :
    readHead (marker :: Bytes.bigEndian width n ++ rest) = some (.leaf (.uint n), rest) := by
  rw [List.cons_append, announces, readNat_bigEndian fits]
  rfl

/-- A text is read back, of whichever length that can be written. -/
theorem readHead_writeStr {raw : Bytes} (fits : raw.length < 2 ^ 32) (rest : Bytes) :
    readHead (writeStr raw ++ rest) = some (.leaf (.str raw), rest) := by
  unfold writeStr
  dsimp only
  rw [List.append_assoc]
  by_cases tiny : raw.length < 32
  · have marker : (UInt8.ofNat (0xa0 + raw.length)).toNat = 0xa0 + raw.length := by
      rw [UInt8.toNat_ofNat']
      omega
    rw [if_pos tiny, List.singleton_append, readHead]
    simp only [marker]
    rw [if_neg (by omega), if_neg (by omega), if_neg (by omega), if_pos (by omega),
      Nat.add_sub_cancel_left, Bytes.take?_append]
    rfl
  · rw [if_neg tiny]
    by_cases small : raw.length < 0x100
    · rw [if_pos small]
      exact readHead_of_sized (fun _ => rfl) small rest
    · rw [if_neg small]
      by_cases middle : raw.length < 0x10000
      · rw [if_pos middle]
        exact readHead_of_sized (fun _ => rfl) middle rest
      · rw [if_neg middle]
        exact readHead_of_sized (fun _ => rfl) fits rest

/-- So is a binary string. -/
theorem readHead_writeBin {raw : Bytes} (fits : raw.length < 2 ^ 32) (rest : Bytes) :
    readHead (writeBin raw ++ rest) = some (.leaf (.bin raw), rest) := by
  unfold writeBin
  dsimp only
  rw [List.append_assoc]
  by_cases small : raw.length < 0x100
  · rw [if_pos small]
    exact readHead_of_sized (fun _ => rfl) small rest
  · rw [if_neg small]
    by_cases middle : raw.length < 0x10000
    · rw [if_pos middle]
      exact readHead_of_sized (fun _ => rfl) middle rest
    · rw [if_neg middle]
      exact readHead_of_sized (fun _ => rfl) fits rest

/-- And so is a number. -/
theorem readHead_writeUInt {n : Nat} (fits : n < 2 ^ 64) (rest : Bytes) :
    readHead (writeUInt n ++ rest) = some (.leaf (.uint n), rest) := by
  unfold writeUInt
  by_cases tiny : n < 0x80
  · have marker : (UInt8.ofNat n).toNat = n := by
      rw [UInt8.toNat_ofNat']
      omega
    rw [if_pos tiny, List.singleton_append, readHead]
    simp only [marker, if_pos tiny]
  · rw [if_neg tiny]
    by_cases one : n < 0x100
    · rw [if_pos one]
      exact readHead_of_number (fun _ => rfl) one rest
    · rw [if_neg one]
      by_cases two : n < 0x10000
      · rw [if_pos two]
        exact readHead_of_number (fun _ => rfl) two rest
      · rw [if_neg two]
        by_cases four : n < 0x100000000
        · rw [if_pos four]
          exact readHead_of_number (fun _ => rfl) four rest
        · rw [if_neg four]
          exact readHead_of_number (fun _ => rfl) fits rest

/-- Bytes that are read as a value wherever they stand. -/
def Denotes (room : Nat) (bytes : Bytes) (v : Value) : Prop :=
  ∀ rest, readValue room (bytes ++ rest) = some (v, rest)

theorem denotes_of_leaf {bytes : Bytes} {v : Value}
    (leaf : ∀ rest, readHead (bytes ++ rest) = some (.leaf v, rest)) (room : Nat) :
    Denotes room bytes v := by
  intro rest
  rw [readValue.eq_def, leaf rest]

/-- A field of a record: its name, and what is written for its value. -/
structure Field where
  name : String
  bytes : Bytes
  value : Value

namespace Field

/-- The written form of a field. -/
def written (f : Field) : String × Bytes := (f.name, f.bytes)

/-- The entry of a field in a map. -/
def entry (f : Field) : Value × Value := (.str (Bytes.ofText f.name), f.value)

end Field

theorem readMany_fields {room : Nat} {fields : List Field}
    (names : ∀ f ∈ fields, (Bytes.ofText f.name).length < 2 ^ 32)
    (denotes : ∀ f ∈ fields, Denotes room f.bytes f.value) (done : List (Value × Value))
    (rest : Bytes) :
    readMany (readEntry (readValue room)) fields.length done
        (((fields.map Field.written).flatMap fun field =>
          writeStr (Bytes.ofText field.1) ++ field.2) ++ rest) =
      some (done.reverse ++ fields.map Field.entry, rest) := by
  induction fields generalizing done with
  | nil => simp [readMany]
  | cons f fields ih =>
      obtain ⟨short, names⟩ := List.forall_mem_cons.1 names
      obtain ⟨here, denotes⟩ := List.forall_mem_cons.1 denotes
      have key := denotes_of_leaf (readHead_writeStr short) room
      simp only [List.length_cons, readMany, List.map_cons, List.flatMap_cons, Field.written,
        List.append_assoc, readEntry, key _, Option.bind_some, here _, Option.map_some]
      rw [ih names denotes]
      simp [Field.entry]

/-- A record is read back as a map of its fields. -/
theorem denotes_writeFields {room : Nat} {fields : List Field} (few : fields.length < 16)
    (names : ∀ f ∈ fields, (Bytes.ofText f.name).length < 2 ^ 32)
    (denotes : ∀ f ∈ fields, Denotes room f.bytes f.value) :
    Denotes (room + 1) (writeFields (fields.map Field.written))
      (.map (fields.map Field.entry)) := by
  intro rest
  have marker : (UInt8.ofNat (0x80 + fields.length)).toNat = 0x80 + fields.length := by
    rw [UInt8.toNat_ofNat']
    omega
  have head : ∀ bs, readHead (UInt8.ofNat (0x80 + fields.length) :: bs) =
      some (.map fields.length, bs) := by
    intro bs
    rw [readHead]
    simp only [marker]
    rw [if_neg (by omega), if_pos (by omega), Nat.add_sub_cancel_left]
  rw [writeFields, List.length_map, List.cons_append, readValue.eq_def, head]
  dsimp only
  rw [readMany_fields names denotes [] rest, Option.map_some]
  rfl

end MessageBroker.Pack
