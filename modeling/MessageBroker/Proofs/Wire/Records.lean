import Mathlib.Data.List.Forall2
import Mathlib.Data.List.Nodup
import MessageBroker.Proofs.Pack.Forms
import MessageBroker.Proofs.Wire.Bodies

/-!
# Bodies are read in every form

A body may arrive as a map in which each field stands once, in any order, under its name or under its
place, and among entries that belong to no field; or as an array of the fields in their order. Each
field may be given in any of the forms that stand for its content. A body is read exactly from these
records. A field that is given twice, a required field that is missing, and an item behind the
last field are refused.
-/

namespace MessageBroker

theorem Bytes.text?_eq_some_iff {bs : Bytes} {s : String} :
    Bytes.text? bs = some s ↔ bs = Bytes.ofText s := by
  constructor
  · intro found
    unfold Bytes.text? String.fromUTF8? at found
    split at found
    · cases found
      rfl
    · cases found
  · rintro rfl
    exact Bytes.text?_ofText s

namespace Pack.Value

/-- An integer that is not negative, in an unsigned or in a signed form. -/
def IsNumber (n : Nat) (v : Value) : Prop :=
  v = .uint n ∨ v = .int n

/-- A string, as text or as binary. -/
def IsString (raw : Bytes) (v : Value) : Prop :=
  v = .str raw ∨ v = .bin raw

variable {v : Value} {n : Nat} {raw : Bytes}

theorem nat?_eq_some_iff : v.nat? = some n ↔ IsNumber n v := by
  unfold IsNumber
  cases v with
  | uint m => simp [nat?]
  | int i =>
      simp only [nat?]
      split <;> simp <;> omega
  | _ => simp [nat?]

theorem byte?_eq_some_iff {b : UInt8} : v.byte? = some b ↔ IsNumber b.toNat v := by
  rw [← nat?_eq_some_iff, byte?]
  have small := b.toNat_lt
  constructor
  · intro found
    split at found
    · rename_i m given
      split at found
      · cases found
        rw [given, UInt8.toNat_ofNat', Nat.mod_eq_of_lt ‹_›]
      · cases found
    · cases found
  · intro given
    simp only [given, if_pos small, UInt8.ofNat_toNat]

theorem rawString?_eq_some_iff : v.rawString? = some raw ↔ IsString raw v := by
  unfold IsString
  cases v <;> simp [rawString?]

theorem text?_eq_some_iff {s : String} : v.text? = some s ↔ IsString (Bytes.ofText s) v := by
  rw [text?, Option.bind_eq_some_iff, ← rawString?_eq_some_iff]
  constructor
  · rintro ⟨raw, given, text⟩
    rw [given, Bytes.text?_eq_some_iff.1 text]
  · intro given
    exact ⟨_, given, Bytes.text?_ofText s⟩

theorem bytes_eq_some_iff {items : List Value} :
    items.mapM byte? = some raw ↔
      List.Forall₂ (fun v b => IsNumber (UInt8.toNat b) v) items raw := by
  induction items generalizing raw with
  | nil => simp [eq_comm]
  | cons item items ih =>
      rw [List.mapM_cons]
      cases raw with
      | nil => simp [Option.bind_eq_some_iff]
      | cons b raw =>
          rw [List.forall₂_cons, ← byte?_eq_some_iff, ← ih]
          simp [Option.bind_eq_some_iff]

/-- What stands for an opaque payload: a string, or the array of its bytes as numbers. -/
theorem payload?_eq_some_iff : v.payload? = some raw ↔ IsString raw v ∨
    ∃ items, v = .array items ∧ List.Forall₂ (fun v b => IsNumber (UInt8.toNat b) v) items raw := by
  cases v with
  | array items => simp [payload?, IsString, bytes_eq_some_iff]
  | _ => simp [payload?, ← rawString?_eq_some_iff]

end Pack.Value

namespace Wire

open Pack

/-! ## Fields of a record -/

/-- A key that stands for field `i`: the name of the field as a string, or its place as an unsigned
number. -/
def KeyOf (names : List String) (i : Nat) : Value → Prop
  | .str raw | .bin raw => (names.map Bytes.ofText)[i]? = some raw
  | .uint n => n = i ∧ i < names.length
  | _ => False

instance (names : List String) (i : Nat) : DecidablePred (KeyOf names i)
  | .str raw | .bin raw => inferInstanceAs (Decidable ((names.map Bytes.ofText)[i]? = some raw))
  | .uint n => inferInstanceAs (Decidable (n = i ∧ i < names.length))
  | .nil | .bool _ | .int _ | .float _ | .array _ | .map _ | .ext .. =>
    inferInstanceAs (Decidable False)

/-- A key of the same sort that stands for no field. -/
def ForeignKey (names : List String) : Value → Prop
  | .str raw | .bin raw => raw ∉ names.map Bytes.ofText
  | .uint n => names.length ≤ n
  | _ => False

/-- The values that the entries of a map give for field `i`, in their order. -/
def given (names : List String) (entries : List (Value × Value)) (i : Nat) : List Value :=
  (entries.filter fun entry => KeyOf names i entry.1).map Prod.snd

/-- The values that a record gives for field `i`. -/
def fieldValues (names : List String) : Value → Nat → List Value
  | .map entries, i => given names entries i
  | .array items, i => items[i]?.toList
  | _, _ => []

/-- A record: a map all of whose keys may stand for fields, or an array of no more items than there
are fields. -/
def IsRecord (names : List String) : Value → Prop
  | .map entries => ∀ entry ∈ entries, (∃ i, KeyOf names i entry.1) ∨ ForeignKey names entry.1
  | .array items => items.length ≤ names.length
  | _ => False

variable {names : List String} {key v : Value} {i : Nat}

/-- Among different names the one that is found is the only one. -/
theorem findName_eq_some_iff (distinct : (names.map Bytes.ofText).Nodup) {raw : Bytes} :
    (names.findIdx? fun name => Bytes.ofText name == raw) = some i ↔
      (names.map Bytes.ofText)[i]? = some raw := by
  rw [List.findIdx?_eq_some_iff_getElem, List.getElem?_eq_some_iff]
  constructor
  · rintro ⟨here, same, -⟩
    refine ⟨by rwa [List.length_map], ?_⟩
    rw [List.getElem_map]
    exact eq_of_beq same
  · rintro ⟨here, rfl⟩
    have within : i < names.length := by rwa [List.length_map] at here
    refine ⟨within, by simp, fun j before same => ?_⟩
    have earlier : j < (names.map Bytes.ofText).length := Nat.lt_trans before here
    have equal : (names.map Bytes.ofText)[j] = (names.map Bytes.ofText)[i] := by
      rw [List.getElem_map]
      exact eq_of_beq same
    exact Nat.ne_of_lt before ((List.Nodup.getElem_inj_iff distinct).1 equal)

theorem findName_eq_none_iff {raw : Bytes} :
    (names.findIdx? fun name => Bytes.ofText name == raw) = none ↔
      raw ∉ names.map Bytes.ofText := by
  simp [List.findIdx?_eq_none_iff]

/-- A key is found to stand for a field exactly if it does. -/
theorem fieldPlace?_eq_some_iff (distinct : (names.map Bytes.ofText).Nodup) :
    fieldPlace? names key = some (some i) ↔ KeyOf names i key := by
  cases key with
  | str raw | bin raw =>
      rw [fieldPlace?, Option.some.injEq]
      exact findName_eq_some_iff distinct
  | uint n =>
      simp only [fieldPlace?, KeyOf, Option.some.injEq]
      split <;> simp <;> omega
  | _ => simp [fieldPlace?, KeyOf]

theorem fieldPlace?_eq_none_iff : fieldPlace? names key = some none ↔ ForeignKey names key := by
  cases key with
  | str raw | bin raw =>
      rw [fieldPlace?, Option.some.injEq]
      exact findName_eq_none_iff
  | uint n => simp [fieldPlace?, ForeignKey]
  | _ => simp [fieldPlace?, ForeignKey]

theorem KeyOf.unique (distinct : (names.map Bytes.ofText).Nodup) {j : Nat}
    (one : KeyOf names i key) (other : KeyOf names j key) : i = j := by
  have same := ((fieldPlace?_eq_some_iff distinct).2 one).symm.trans
    ((fieldPlace?_eq_some_iff distinct).2 other)
  exact Option.some.inj (Option.some.inj same)

theorem KeyOf.lt_length (stands : KeyOf names i key) : i < names.length := by
  cases key with
  | str raw | bin raw =>
      obtain ⟨here, -⟩ := List.getElem?_eq_some_iff.1 stands
      rwa [List.length_map] at here
  | uint n => exact stands.2
  | _ => cases stands

theorem ForeignKey.not_keyOf (distinct : (names.map Bytes.ofText).Nodup)
    (foreign : ForeignKey names key) : ¬ KeyOf names i key := by
  intro stands
  have place := fieldPlace?_eq_none_iff.2 foreign
  rw [(fieldPlace?_eq_some_iff distinct).2 stands] at place
  cases place

theorem given_cons_of_keyOf {entries : List (Value × Value)} (stands : KeyOf names i key) :
    given names ((key, v) :: entries) i = v :: given names entries i := by
  rw [given, List.filter_cons_of_pos (by simpa using stands), List.map_cons, given]

theorem given_cons_of_not_keyOf {entries : List (Value × Value)} (other : ¬ KeyOf names i key) :
    given names ((key, v) :: entries) i = given names entries i := by
  rw [given, List.filter_cons_of_neg (by simpa using other), given]

/-! ## Slots are filled with the values of the fields -/

theorem isRecord_cons {entries : List (Value × Value)} :
    IsRecord names (.map ((key, v) :: entries)) ↔
      ((∃ i, KeyOf names i key) ∨ ForeignKey names key) ∧ IsRecord names (.map entries) :=
  List.forall_mem_cons

/-- The values that stand in a slot: one, or none. -/
def slotValues (slots : List (Option Value)) (i : Nat) : List Value :=
  (slots[i]?.getD none).toList

theorem slots_ext {slots out : List (Option Value)} (size : out.length = slots.length)
    (same : ∀ i < slots.length, slotValues slots i = slotValues out i) : slots = out := by
  refine List.ext_getElem size.symm fun i here there => ?_
  have value := same i here
  rw [slotValues, slotValues, List.getElem?_eq_getElem here, List.getElem?_eq_getElem there] at value
  simpa using congrArg List.head? value

theorem slotValues_set {slots : List (Option Value)} {j : Nat} (within : j < slots.length)
    (i : Nat) : slotValues (slots.set j (some v)) i = if i = j then [v] else slotValues slots i := by
  unfold slotValues
  split
  · rename_i same
    rw [same, List.getElem?_set_self within]
    rfl
  · rename_i other
    rw [List.getElem?_set_ne (Ne.symm other)]

/-- Values of which there is at most one for each field fit into slots. -/
theorem exists_slots (count : Nat) (values : Nat → List Value)
    (few : ∀ i < count, (values i).length ≤ 1) :
    ∃ slots : List (Option Value), slots.length = count ∧
      ∀ i < count, values i = slotValues slots i := by
  refine ⟨(List.range count).map fun i => (values i).head?, by simp, fun i within => ?_⟩
  have slot : ((List.range count).map fun i => (values i).head?)[i]? = some (values i).head? := by
    simp [List.getElem?_range within]
  rw [slotValues, slot, Option.getD_some]
  match values i, few i within with
  | [], _ => rfl
  | [v], _ => rfl

/-- The entries of a map fill the slots if each key may stand for a field, and if each field gets at
most one value in all. -/
theorem fillSlots_eq_some_iff (distinct : (names.map Bytes.ofText).Nodup)
    {entries : List (Value × Value)} {slots out : List (Option Value)}
    (size : slots.length = names.length) :
    fillSlots names slots entries = some out ↔ IsRecord names (.map entries) ∧
      out.length = names.length ∧
      ∀ i < names.length, slotValues slots i ++ given names entries i = slotValues out i := by
  induction entries generalizing slots with
  | nil =>
      rw [fillSlots, Option.some.injEq]
      constructor
      · rintro rfl
        exact ⟨nofun, size, fun i _ => List.append_nil _⟩
      · rintro ⟨-, size', same⟩
        refine slots_ext (size'.trans size.symm) fun i here => ?_
        rw [← same i (size ▸ here)]
        exact (List.append_nil _).symm
  | cons entry entries ih =>
      obtain ⟨key, v⟩ := entry
      rw [fillSlots, isRecord_cons]
      rcases place : fieldPlace? names key with _ | _ | j
      · -- The key is of no use at all.
        refine iff_of_false nofun ?_
        rintro ⟨⟨⟨j, stands⟩ | foreign, -⟩, -⟩
        · rw [(fieldPlace?_eq_some_iff distinct).2 stands] at place
          cases place
        · rw [fieldPlace?_eq_none_iff.2 foreign] at place
          cases place
      · have foreign := fieldPlace?_eq_none_iff.1 place
        simp only [ih size, given_cons_of_not_keyOf (foreign.not_keyOf distinct), foreign, or_true,
          true_and]
      · have stands := (fieldPlace?_eq_some_iff distinct).1 place
        have within : j < slots.length := size ▸ stands.lt_length
        have known : (∃ i, KeyOf names i key) ∨ ForeignKey names key := .inl ⟨j, stands⟩
        simp only [known, true_and]
        rcases slot : slots[j]? with _ | _ | w
        · exact absurd (List.getElem?_eq_none_iff.1 slot) (Nat.not_le.2 within)
        · -- The slot was empty, and the value is the first for the field.
          have set : (slots.set j (some v)).length = names.length := by rw [List.length_set, size]
          have empty : slotValues slots j = [] := by rw [slotValues, slot]; rfl
          have moved : ∀ i, slotValues (slots.set j (some v)) i ++ given names entries i =
              slotValues slots i ++ given names ((key, v) :: entries) i := by
            intro i
            rw [slotValues_set within]
            split
            · rename_i same
              rw [same, empty, given_cons_of_keyOf stands]
              rfl
            · rename_i other
              rw [given_cons_of_not_keyOf fun also => other (also.unique distinct stands)]
          simp only [ih set, moved]
        · -- A second value for the field is one too many.
          refine iff_of_false nofun ?_
          rintro ⟨-, -, same⟩
          have full : slotValues slots j = [w] := by rw [slotValues, slot]; rfl
          have both := congrArg List.length (same j stands.lt_length)
          rw [full, given_cons_of_keyOf stands, slotValues] at both
          have most := Option.length_toList_le (o := out[j]?.getD none)
          simp only [List.length_append, List.length_cons] at both
          omega

/-- The slots of a record hold what it gives for the fields. -/
theorem recordSlots_eq_some_iff (distinct : (names.map Bytes.ofText).Nodup)
    {slots : List (Option Value)} :
    recordSlots names v = some slots ↔ IsRecord names v ∧ slots.length = names.length ∧
      ∀ i < names.length, fieldValues names v i = slotValues slots i := by
  cases v with
  | map entries =>
      have empty : ∀ i, slotValues (List.replicate names.length none) i = [] := by
        intro i
        rw [slotValues, List.getElem?_replicate]
        split <;> rfl
      rw [recordSlots, fillSlots_eq_some_iff distinct List.length_replicate]
      simp only [empty, List.nil_append, fieldValues]
  | array items =>
      rw [recordSlots, IsRecord]
      split
      · rename_i few
        have filled : ∀ i, slotValues
            (items.map some ++ List.replicate (names.length - items.length) none) i =
              items[i]?.toList := by
          intro i
          rw [slotValues, List.getElem?_append, List.length_map]
          split
          · rename_i here
            rw [List.getElem?_map, List.getElem?_eq_getElem here]
            rfl
          · rename_i beyond
            rw [List.getElem?_eq_none (Nat.not_lt.1 beyond), List.getElem?_replicate]
            split <;> rfl
        have size : (items.map some ++
            List.replicate (names.length - items.length) (none : Option Value)).length =
              names.length := by
          rw [List.length_append, List.length_map, List.length_replicate,
            Nat.add_sub_cancel' few]
        rw [Option.some.injEq]
        constructor
        · rintro rfl
          exact ⟨few, size, fun i _ => (filled i).symm⟩
        · rintro ⟨-, size', same⟩
          refine slots_ext (size'.trans size.symm) fun i here => ?_
          rw [filled, ← same i (size ▸ here), fieldValues]
      · rename_i many
        exact iff_of_false (Option.some_ne_none slots).symm fun record => many record.1
  | _ => simp [recordSlots, IsRecord]

/-! ## The content of a field -/

/-- What a field holds. -/
inductive Content where
  | text (value : String)
  | payload (raw : Bytes)
  | number (value : Option UInt32)

namespace Content

/-- The values that may be given for a field with this content: one of its forms, or none at all for
a number that is absent. -/
inductive Given : Content → List Value → Prop where
  | text {value : String} {v : Value} (string : v.IsString (Bytes.ofText value)) :
      Given (.text value) [v]
  | payload {raw : Bytes} {v : Value} (string : v.IsString raw) : Given (.payload raw) [v]
  | bytes {raw : Bytes} {items : List Value}
      (numbers : List.Forall₂ (fun v b => v.IsNumber (UInt8.toNat b)) items raw) :
      Given (.payload raw) [.array items]
  | number {n : UInt32} {v : Value} (number : v.IsNumber n.toNat) : Given (.number (some n)) [v]
  | nil : Given (.number none) [.nil]
  | absent : Given (.number none) []

variable {values : List Value}

theorem given_text_iff {value : String} : Given (.text value) values ↔
    ∃ v, values = [v] ∧ v.text? = some value := by
  simp only [Value.text?_eq_some_iff]
  constructor
  · rintro ⟨string⟩
    exact ⟨_, rfl, string⟩
  · rintro ⟨v, rfl, string⟩
    exact .text string

theorem given_payload_iff {raw : Bytes} : Given (.payload raw) values ↔
    ∃ v, values = [v] ∧ v.payload? = some raw := by
  simp only [Value.payload?_eq_some_iff]
  constructor
  · intro given
    cases given with
    | payload string => exact ⟨_, rfl, .inl string⟩
    | bytes numbers => exact ⟨_, rfl, .inr ⟨_, rfl, numbers⟩⟩
  · rintro ⟨v, rfl, string | ⟨items, rfl, numbers⟩⟩
    · exact .payload string
    · exact .bytes numbers

theorem given_number_iff {value : Option UInt32} {v : Value} : Given (.number value) [v] ↔
    v = .nil ∧ value = none ∨ ∃ n, value = some n ∧ v.nat? = some n.toNat := by
  simp only [Value.nat?_eq_some_iff]
  constructor
  · intro given
    cases given with
    | number number => exact .inr ⟨_, rfl, number⟩
    | nil => exact .inl ⟨rfl, rfl⟩
  · rintro (⟨rfl, rfl⟩ | ⟨n, rfl, number⟩)
    · exact .nil
    · exact .number number

theorem Given.length_le_one {content : Content} (given : content.Given values) :
    values.length ≤ 1 := by
  cases given <;> simp

end Content

/-- The number of fields of a shape that must be given. The one that need not be stands last. -/
def Shape.required : Shape → Nat
  | .subscribe => 1
  | shape => shape.fields.length

namespace Body

/-- The contents of the fields of a body, in order. -/
def contents : Body → List Content
  | message route payload => [.text route, .payload payload]
  | subscribe queue concurrency => [.text queue, .number concurrency]
  | unsubscribe queue => [.text queue]
  | declare name route => [.text name, .text route]
  | delete name => [.text name]
  | nack reason => [.text reason]

/-- A record of a body gives each field once, in a form of its content. -/
structure Records (b : Body) (v : Value) : Prop where
  isRecord : IsRecord b.shape.fields v
  given : ∀ i (content : Content), b.contents[i]? = some content →
    content.Given (fieldValues b.shape.fields v i)

theorem textSlot?_eq_some_iff {slots : List (Option Value)} {i : Nat} {value : String} :
    textSlot? slots i = some value ↔ (Content.text value).Given (slotValues slots i) := by
  rw [Content.given_text_iff, textSlot?, slotValues]
  rcases slots[i]? with _ | _ | v <;> simp

theorem payloadSlot?_eq_some_iff {slots : List (Option Value)} {i : Nat} {raw : Bytes} :
    payloadSlot? slots i = some raw ↔ (Content.payload raw).Given (slotValues slots i) := by
  rw [Content.given_payload_iff, payloadSlot?, slotValues]
  rcases slots[i]? with _ | _ | v <;> simp

theorem wordSlot?_eq_some_iff {slots : List (Option Value)} {i : Nat} {value : Option UInt32} :
    wordSlot? slots i = some value ↔ (Content.number value).Given (slotValues slots i) := by
  have absent : some none = some value ↔ (Content.number value).Given [] := by
    constructor
    · rintro ⟨⟩
      exact .absent
    · rintro ⟨⟩
      rfl
  rw [wordSlot?, slotValues]
  rcases slots[i]? with _ | _ | v
  · exact absent
  · exact absent
  · rw [Option.getD_some, Option.toList_some, Content.given_number_iff]
    split
    · rename_i same
      cases same
      simp [Value.nat?, eq_comm]
    · rename_i w other same
      cases same
      have number : ¬ v = .nil := fun nil => other (by rw [nil])
      simp only [number, false_and, false_or]
      rcases v.nat? with _ | m
      · simp
      · simp only [Option.some.injEq]
        constructor
        · intro found
          split at found
          · rename_i fits
            cases found
            exact ⟨_, rfl, by rw [UInt32.toNat_ofNat', Nat.mod_eq_of_lt fits]⟩
          · cases found
        · rintro ⟨n, rfl, rfl⟩
          rw [if_pos n.toNat_lt, UInt32.ofNat_toNat]
    · rename_i other
      exact absurd rfl (other v)

/-- Slots make up the body whose contents they hold. -/
theorem ofSlots?_eq_some_iff {b : Body} {slots : List (Option Value)} :
    b.shape.ofSlots? slots = some b ↔
      ∀ i (content : Content), b.contents[i]? = some content →
        content.Given (slotValues slots i) := by
  have one : ∀ {first : Content}, (∀ i (content : Content), [first][i]? = some content →
      content.Given (slotValues slots i)) ↔ first.Given (slotValues slots 0) := by
    intro first
    constructor
    · exact fun all => all 0 first rfl
    · rintro here (_ | i) content ⟨⟩
      exact here
  have two : ∀ {first second : Content}, (∀ i (content : Content),
      [first, second][i]? = some content → content.Given (slotValues slots i)) ↔
        first.Given (slotValues slots 0) ∧ second.Given (slotValues slots 1) := by
    intro first second
    constructor
    · exact fun all => ⟨all 0 first rfl, all 1 second rfl⟩
    · rintro ⟨here, there⟩ (_ | _ | i) content ⟨⟩
      · exact here
      · exact there
  cases b with
  | message route payload =>
      rw [contents, two, ← textSlot?_eq_some_iff, ← payloadSlot?_eq_some_iff]
      simp [shape, Shape.ofSlots?, Option.bind_eq_some_iff]
  | subscribe queue concurrency =>
      rw [contents, two, ← textSlot?_eq_some_iff, ← wordSlot?_eq_some_iff]
      simp [shape, Shape.ofSlots?, Option.bind_eq_some_iff]
  | declare name route =>
      rw [contents, two, ← textSlot?_eq_some_iff, ← textSlot?_eq_some_iff]
      simp [shape, Shape.ofSlots?, Option.bind_eq_some_iff]
  | unsubscribe | delete | nack =>
      rw [contents, one, ← textSlot?_eq_some_iff]
      simp [shape, Shape.ofSlots?]

theorem distinct_fields (shape : Shape) : (shape.fields.map Bytes.ofText).Nodup := by
  cases shape <;> decide

theorem length_contents (b : Body) : b.contents.length = b.shape.fields.length := by
  cases b <;> rfl

/-- A body is read from the forms of its records, and from nothing else. -/
theorem decode?_eq_some_iff {b : Body} {bs : Bytes} : decode? b.shape bs = some b ↔
    ∃ v front rest, Written maxNesting v front ∧ b.Records v ∧ bs = front ++ rest := by
  have distinct := distinct_fields b.shape
  rw [decode?, Option.bind_eq_some_iff]
  constructor
  · rintro ⟨v, read, found⟩
    obtain ⟨front, rest, form, whole⟩ := Value.ofBytes?_eq_some_iff.1 read
    obtain ⟨slots, filled, made⟩ := Option.bind_eq_some_iff.1 found
    obtain ⟨record, -, same⟩ := (recordSlots_eq_some_iff distinct).1 filled
    refine ⟨v, front, rest, form, ⟨record, fun i content there => ?_⟩, whole⟩
    obtain ⟨within, -⟩ := List.getElem?_eq_some_iff.1 there
    rw [same i (b.length_contents ▸ within)]
    exact ofSlots?_eq_some_iff.1 made i content there
  · rintro ⟨v, front, rest, form, records, whole⟩
    -- No field has more than one value, so there are slots that hold them all.
    have few : ∀ i < b.shape.fields.length, (fieldValues b.shape.fields v i).length ≤ 1 := by
      intro i within
      have there := List.getElem?_eq_getElem (l := b.contents) (b.length_contents ▸ within)
      exact (records.given i _ there).length_le_one
    obtain ⟨slots, size, same⟩ := exists_slots _ _ few
    refine ⟨v, Value.ofBytes?_eq_some_iff.2 ⟨front, rest, form, whole⟩, ?_⟩
    refine Option.bind_eq_some_iff.2 ⟨slots, ?_, ofSlots?_eq_some_iff.2 fun i content there => ?_⟩
    · exact (recordSlots_eq_some_iff distinct).2 ⟨records.isRecord, size, same⟩
    · obtain ⟨within, -⟩ := List.getElem?_eq_some_iff.1 there
      rw [← same i (b.length_contents ▸ within)]
      exact records.given i content there

theorem shape_of_decode? {shape : Shape} {bs : Bytes} {b : Body}
    (found : decode? shape bs = some b) : b.shape = shape := by
  obtain ⟨v, -, found⟩ := Option.bind_eq_some_iff.1 found
  obtain ⟨slots, -, made⟩ := Option.bind_eq_some_iff.1 found
  cases shape with
  | message | subscribe | declare =>
      obtain ⟨first, -, made⟩ := Option.bind_eq_some_iff.1 made
      obtain ⟨second, -, rfl⟩ := Option.map_eq_some_iff.1 made
      rfl
  | unsubscribe | delete | nack =>
      obtain ⟨first, -, rfl⟩ := Option.map_eq_some_iff.1 made
      rfl

end Body

/-! ## What is refused -/

/-- What is wrong with a value that is no record of a shape. -/
inductive Faulty (shape : Shape) : Value → Prop where
  /-- A field is given twice. -/
  | twice {v : Value} {i : Nat} (field : i < shape.fields.length)
      (again : 1 < (fieldValues shape.fields v i).length) : Faulty shape v
  /-- A field that must be given is missing. -/
  | missing {v : Value} {i : Nat} (required : i < shape.required)
      (absent : fieldValues shape.fields v i = []) : Faulty shape v
  /-- Something follows the last field of an array. -/
  | surplus {items : List Value} (many : shape.fields.length < items.length) :
      Faulty shape (.array items)
  /-- A key is neither a string nor an unsigned number. -/
  | stray {entries : List (Value × Value)} {entry : Value × Value} (listed : entry ∈ entries)
      (noField : ∀ i, ¬ KeyOf shape.fields i entry.1)
      (notForeign : ¬ ForeignKey shape.fields entry.1) : Faulty shape (.map entries)

namespace Body

/-- The content of a required field needs a value. -/
theorem not_given_nil {b : Body} {i : Nat} {content : Content} (required : i < b.shape.required)
    (there : b.contents[i]? = some content) : ¬ content.Given [] := by
  intro given
  cases given
  cases b with
  | subscribe queue concurrency =>
      obtain rfl : i = 0 := Nat.lt_one_iff.1 required
      cases there
  | message | declare => rcases i with _ | _ | i <;> cases there
  | unsubscribe | delete | nack => rcases i with _ | i <;> cases there

theorem required_le (shape : Shape) : shape.required ≤ shape.fields.length := by
  cases shape <;> decide

theorem not_records {b : Body} {v : Value} (faulty : Faulty b.shape v) : ¬ b.Records v := by
  intro records
  have content : ∀ i < b.shape.fields.length, ∃ content, b.contents[i]? = some content := by
    intro i within
    exact ⟨_, List.getElem?_eq_getElem (b.length_contents ▸ within)⟩
  cases faulty with
  | twice field again =>
      obtain ⟨content, there⟩ := content _ field
      exact Nat.not_lt.2 (records.given _ _ there).length_le_one again
  | missing required absent =>
      obtain ⟨content, there⟩ := content _ (Nat.lt_of_lt_of_le required (required_le _))
      exact not_given_nil required there (absent ▸ records.given _ _ there)
  | surplus many => exact Nat.not_le.2 many records.isRecord
  | stray listed noField notForeign =>
      obtain ⟨i, stands⟩ | foreign := records.isRecord _ listed
      · exact noField i stands
      · exact notForeign foreign

/-- Nothing is read from a form of a faulty value. -/
theorem decode?_of_faulty {shape : Shape} {v : Value} {front : Bytes}
    (form : Written maxNesting v front) (faulty : Faulty shape v) (rest : Bytes) :
    decode? shape (front ++ rest) = none := by
  rw [Option.eq_none_iff_forall_ne_some]
  intro b found
  obtain rfl := shape_of_decode? found
  obtain ⟨v', front', rest', form', records, whole⟩ := decode?_eq_some_iff.1 found
  obtain ⟨rfl, -⟩ := form.unique form' whole
  exact not_records faulty records

theorem bodyAs_eq_ok {f : Frame} {shape : Shape} {b : Body} :
    f.bodyAs shape = .ok b ↔ decode? shape f.body = some b := by
  rw [Frame.bodyAs]
  cases decode? shape f.body <;> simp

theorem toOption_bodyAs (f : Frame) (shape : Shape) :
    (f.bodyAs shape).toOption = decode? shape f.body := by
  rw [Frame.bodyAs]
  cases decode? shape f.body <;> rfl

/-- A body is read from a frame exactly if a form of one of its records stands at the front: a map
that gives each field once, in any order and among entries for no field, or an array of the fields,
each in any form of its content. A field that is given twice, a required field that is missing, an
item behind the last field and a key that is neither a string nor an unsigned number are refused. -/
theorem read_in_every_form (kind : Kind) (id : CorrelationId) :
    (∀ (b : Body) body, (⟨kind, id, body⟩ : Frame).bodyAs b.shape = .ok b ↔
      ∃ v front rest, Written maxNesting v front ∧ b.Records v ∧ body = front ++ rest) ∧
    ∀ shape v front rest, Written maxNesting v front → Faulty shape v →
      (⟨kind, id, front ++ rest⟩ : Frame).bodyAs shape = .error (.badBody kind) := by
  constructor
  · intro b body
    rw [bodyAs_eq_ok, decode?_eq_some_iff]
  · intro shape v front rest form faulty
    rw [Frame.bodyAs, decode?_of_faulty form faulty]

/-- A record in which the payload comes first, under a binary name and as an array of numbers; then
an entry under the name of no field, with values nested in it; then the route under its place. -/
def scrambled : Value :=
  .map [(.bin (Bytes.ofText "payload"), .array [.uint 7, .uint 255, .int 1]),
    (.str (Bytes.ofText "x"), .map [(.nil, .array [.ext 5 [0], .bool true])]),
    (.uint 0, .bin (Bytes.ofText "mail"))]

/-- A form of it in which most sizes and numbers are longer than they need be. -/
def scrambledBytes : Bytes :=
  [0xde, 0x00, 0x03, 0xc4, 0x07, 0x70, 0x61, 0x79, 0x6c, 0x6f, 0x61, 0x64, 0xdc, 0x00, 0x03, 0x07,
    0xcd, 0x00, 0xff, 0xd0, 0x01, 0xd9, 0x01, 0x78, 0x81, 0xc0, 0x92, 0xd4, 0x05, 0x00, 0xc3, 0xcc,
    0x00, 0xc5, 0x00, 0x04, 0x6d, 0x61, 0x69, 0x6c]

/-- The name of a queue under the place of the field and again under its name. -/
def twice : Value :=
  .map [(.uint 0, .str [0x61]), (.str (Bytes.ofText "queue"), .str [0x61])]

/-- A form of it. -/
def twiceBytes : Bytes :=
  [0x82, 0x00, 0xa1, 0x61, 0xa5, 0x71, 0x75, 0x65, 0x75, 0x65, 0xa1, 0x61]

set_option maxRecDepth 8000 in
/-- It is read as the message, whatever stands behind it. A record that gives its one field under
its place and under its name is refused. -/
theorem read_in_every_form_scrambled :
    (∀ rest, (⟨.message, .ofNat 7, scrambledBytes ++ rest⟩ : Frame).bodyAs .message =
      .ok (.message "mail" [7, 255, 1])) ∧
    (⟨.unsubscribe, .ofNat 7, twiceBytes⟩ : Frame).bodyAs .unsubscribe =
      .error (.badBody .unsubscribe) := by
  constructor
  · intro rest
    have read : readValue maxNesting (scrambledBytes ++ rest) = some (scrambled, rest) := rfl
    obtain ⟨front, form, whole⟩ := (reads_value maxNesting _ _ _).1 read
    refine ((read_in_every_form .message (.ofNat 7)).1 (.message "mail" [7, 255, 1]) _).2
      ⟨scrambled, front, rest, form, ⟨?_, ?_⟩, whole⟩
    · refine List.forall_mem_cons.2 ⟨.inl ⟨1, by decide⟩, List.forall_mem_cons.2 ⟨.inr ?_, ?_⟩⟩
      · show _ ∉ _
        decide
      · exact List.forall_mem_singleton.2 (.inl ⟨0, by decide⟩)
    · have route : fieldValues Shape.message.fields scrambled 0 =
          [.bin (Bytes.ofText "mail")] := rfl
      have payload : fieldValues Shape.message.fields scrambled 1 =
          [.array [.uint 7, .uint 255, .int 1]] := rfl
      rintro (_ | _ | i) content ⟨⟩
      · exact route ▸ .text (.inr rfl)
      · refine payload ▸ .bytes ?_
        exact .cons (.inl rfl) (.cons (.inl rfl) (.cons (.inr rfl) .nil))
  · have read : readValue maxNesting twiceBytes = some (twice, []) := rfl
    obtain ⟨front, form, whole⟩ := (reads_value maxNesting _ _ _).1 read
    rw [whole]
    refine (read_in_every_form .unsubscribe (.ofNat 7)).2 .unsubscribe _ front [] form ?_
    have both : fieldValues Shape.unsubscribe.fields twice 0 = [.str [0x61], .str [0x61]] := rfl
    exact .twice (i := 0) (by decide) (by rw [both]; decide)

/-- The place of a field is no key in a signed form. Under the number zero in a single byte the queue
is read, under the signed zero of one byte it is refused. -/
theorem signed_place_refused :
    HeadForm (.leaf (.uint 0)) [0x00] ∧ HeadForm (.leaf (.int 0)) [0xd0, 0x00] ∧
    (⟨.unsubscribe, .ofNat 7, [0x81, 0x00, 0xa4, 0x6a, 0x6f, 0x62, 0x73]⟩ :
      Frame).bodyAs .unsubscribe = .ok (.unsubscribe "jobs") ∧
    (⟨.unsubscribe, .ofNat 7, [0x81, 0xd0, 0x00, 0xa4, 0x6a, 0x6f, 0x62, 0x73]⟩ :
      Frame).bodyAs .unsubscribe = .error (.badBody .unsubscribe) := by
  have mark : ((0xd0 : UInt8), 1) ∈ intMarks := by decide
  have fits : IntFits 1 0 := by
    unfold IntFits
    decide
  refine ⟨.smallUInt (by decide), .int mark fits, ?_, ?_⟩
  · rfl
  · rfl

end Body

end Wire

end MessageBroker
