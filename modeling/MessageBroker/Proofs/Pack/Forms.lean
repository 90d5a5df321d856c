import MessageBroker.Proofs.Pack.Reading

/-!
# The forms of a packed value

Most values can be packed in several ways: a number in more bytes than it needs, a short text behind
a long size, a small map behind a count of four bytes. The forms are listed here as the format
defines them, without regard to how they are read.

The reader accepts these forms and no others: it reads a value from the front of a byte string
exactly if one of the forms of the value stands there, and leaves what stands behind.
-/

namespace MessageBroker.Pack

variable {α β : Type}

/-! ## Parts of a form -/

/-- A signed number of `width` bytes has half of them for the numbers below zero. -/
def IntFits (width : Nat) (i : Int) : Prop :=
  -(Bytes.bound width : Int) ≤ 2 * i ∧ 2 * i < Bytes.bound width

/-- The two's complement form of a number. -/
def twosComplement (width : Nat) (i : Int) : Bytes :=
  Bytes.bigEndian width (if 0 ≤ i then i else i + Bytes.bound width).toNat

/-- A string of bytes behind its size. -/
def sized (width : Nat) (raw : Bytes) : Bytes :=
  Bytes.bigEndian width raw.length ++ raw

/-- Items one after the other, each in one of its forms. -/
inductive Row (form : α → Bytes → Prop) : List α → Bytes → Prop where
  | nil : Row form [] []
  | cons {a : α} {items : List α} {front bs : Bytes} (first : form a front)
      (rest : Row form items bs) : Row form (a :: items) (front ++ bs)

/-- A key and then its value. -/
def EntryForm (form : Value → Bytes → Prop) (entry : Value × Value) (bs : Bytes) : Prop :=
  ∃ key v, form entry.1 key ∧ form entry.2 v ∧ bs = key ++ v

/-! ## Markers, each with the width of what it announces -/

/-- Binary strings, by the width of their size. -/
def binMarks : List (UInt8 × Nat) := [(0xc4, 1), (0xc5, 2), (0xc6, 4)]

/-- Extensions, by the width of their size. -/
def extMarks : List (UInt8 × Nat) := [(0xc7, 1), (0xc8, 2), (0xc9, 4)]

/-- Floating point numbers, by their size. -/
def floatMarks : List (UInt8 × Nat) := [(0xca, 4), (0xcb, 8)]

/-- Unsigned numbers, by their size. -/
def uintMarks : List (UInt8 × Nat) := [(0xcc, 1), (0xcd, 2), (0xce, 4), (0xcf, 8)]

/-- Signed numbers, by their size. -/
def intMarks : List (UInt8 × Nat) := [(0xd0, 1), (0xd1, 2), (0xd2, 4), (0xd3, 8)]

/-- Extensions of a fixed size, by this size. -/
def fixedExtMarks : List (UInt8 × Nat) :=
  [(0xd4, 1), (0xd5, 2), (0xd6, 4), (0xd7, 8), (0xd8, 16)]

/-- Texts, by the width of their size. -/
def strMarks : List (UInt8 × Nat) := [(0xd9, 1), (0xda, 2), (0xdb, 4)]

/-- Arrays, by the width of the number of items. -/
def arrayMarks : List (UInt8 × Nat) := [(0xdc, 2), (0xdd, 4)]

/-- Maps, by the width of the number of entries. -/
def mapMarks : List (UInt8 × Nat) := [(0xde, 2), (0xdf, 4)]

/-! ## Forms -/

/-- The forms of a head. What is small has a marker of its own. -/
inductive HeadForm : Head → Bytes → Prop where
  | nil : HeadForm (.leaf .nil) [0xc0]
  | bool (b : Bool) : HeadForm (.leaf (.bool b)) [if b then 0xc3 else 0xc2]
  | smallUInt {n : Nat} (small : n < 128) : HeadForm (.leaf (.uint n)) [UInt8.ofNat n]
  | uint {marker : UInt8} {width n : Nat} (mark : (marker, width) ∈ uintMarks)
      (fits : n < Bytes.bound width) :
      HeadForm (.leaf (.uint n)) (marker :: Bytes.bigEndian width n)
  | smallInt {i : Int} (small : -32 ≤ i) (negative : i < 0) :
      HeadForm (.leaf (.int i)) [UInt8.ofNat (i + 256).toNat]
  | int {marker : UInt8} {width : Nat} {i : Int} (mark : (marker, width) ∈ intMarks)
      (fits : IntFits width i) : HeadForm (.leaf (.int i)) (marker :: twosComplement width i)
  | float {marker : UInt8} {bits : Bytes} (mark : (marker, bits.length) ∈ floatMarks) :
      HeadForm (.leaf (.float bits)) (marker :: bits)
  | smallStr {raw : Bytes} (small : raw.length < 32) :
      HeadForm (.leaf (.str raw)) (UInt8.ofNat (0xa0 + raw.length) :: raw)
  | str {marker : UInt8} {width : Nat} {raw : Bytes} (mark : (marker, width) ∈ strMarks)
      (fits : raw.length < Bytes.bound width) :
      HeadForm (.leaf (.str raw)) (marker :: sized width raw)
  | bin {marker : UInt8} {width : Nat} {raw : Bytes} (mark : (marker, width) ∈ binMarks)
      (fits : raw.length < Bytes.bound width) :
      HeadForm (.leaf (.bin raw)) (marker :: sized width raw)
  | smallArray {count : Nat} (small : count < 16) :
      HeadForm (.array count) [UInt8.ofNat (0x90 + count)]
  | array {marker : UInt8} {width count : Nat} (mark : (marker, width) ∈ arrayMarks)
      (fits : count < Bytes.bound width) :
      HeadForm (.array count) (marker :: Bytes.bigEndian width count)
  | smallMap {count : Nat} (small : count < 16) :
      HeadForm (.map count) [UInt8.ofNat (0x80 + count)]
  | map {marker : UInt8} {width count : Nat} (mark : (marker, width) ∈ mapMarks)
      (fits : count < Bytes.bound width) :
      HeadForm (.map count) (marker :: Bytes.bigEndian width count)
  | fixedExt {marker : UInt8} {size : Nat} (mark : (marker, size) ∈ fixedExtMarks) :
      HeadForm (.ext size) [marker]
  | ext {marker : UInt8} {width size : Nat} (mark : (marker, width) ∈ extMarks)
      (fits : size < Bytes.bound width) :
      HeadForm (.ext size) (marker :: Bytes.bigEndian width size)

/-- The forms of a container, given those of the values in it. -/
inductive ContainerForm (form : Value → Bytes → Prop) : Value → Bytes → Prop where
  | array {items : List Value} {head body : Bytes} (count : HeadForm (.array items.length) head)
      (row : Row form items body) : ContainerForm form (.array items) (head ++ body)
  | map {entries : List (Value × Value)} {head body : Bytes}
      (count : HeadForm (.map entries.length) head) (row : Row (EntryForm form) entries body) :
      ContainerForm form (.map entries) (head ++ body)
  | ext {raw head : Bytes} (size : HeadForm (.ext raw.length) head) (tag : UInt8) :
      ContainerForm form (.ext tag raw) (head ++ tag :: raw)

/-- The forms of a value in which at most `room` containers are nested. -/
def Written : (room : Nat) → Value → Bytes → Prop
  | 0, v, bs => HeadForm (.leaf v) bs
  | room + 1, v, bs => HeadForm (.leaf v) bs ∨ ContainerForm (Written room) v bs

/-! ## Parts are read exactly in their forms -/

/-- A reader accepts these forms and no others. -/
def Reads (read : Bytes → Option (α × Bytes)) (form : α → Bytes → Prop) : Prop :=
  ∀ bs a rest, read bs = some (a, rest) ↔ ∃ front, form a front ∧ bs = front ++ rest

variable {bs raw rest : Bytes} {width n : Nat} {head : Head} {v : Value}

theorem take?_eq_some_iff : Bytes.take? n bs = some (raw, rest) ↔
    raw.length = n ∧ bs = raw ++ rest := by
  constructor
  · intro found
    obtain ⟨split, size⟩ := Bytes.take?_eq_some found
    exact ⟨size, split⟩
  · rintro ⟨rfl, rfl⟩
    exact Bytes.take?_append raw rest

theorem readNat_eq_some_iff : readNat width bs = some (n, rest) ↔
    n < Bytes.bound width ∧ bs = Bytes.bigEndian width n ++ rest := by
  constructor
  · intro found
    obtain ⟨⟨digits, rest'⟩, front, same⟩ := Option.map_eq_some_iff.1 found
    cases same
    obtain ⟨rfl, rfl⟩ := take?_eq_some_iff.1 front
    exact ⟨Bytes.toNat_lt digits, by rw [Bytes.bigEndian_toNat]⟩
  · rintro ⟨fits, rfl⟩
    exact readNat_bigEndian fits rest

theorem readSized_eq_some_iff : readSized width bs = some (raw, rest) ↔
    raw.length < Bytes.bound width ∧ bs = sized width raw ++ rest := by
  constructor
  · intro found
    obtain ⟨⟨size, rest'⟩, first, second⟩ := Option.bind_eq_some_iff.1 found
    obtain ⟨fits, rfl⟩ := readNat_eq_some_iff.1 first
    obtain ⟨rfl, rfl⟩ := take?_eq_some_iff.1 second
    exact ⟨fits, by rw [sized, List.append_assoc]⟩
  · rintro ⟨fits, rfl⟩
    rw [sized, List.append_assoc]
    exact readSized_append fits rest

/-- The upper half of the unsigned numbers stands for the numbers below zero. -/
theorem signed_iff {n : Nat} {i : Int} :
    (n < Bytes.bound width ∧
      (if 2 * n < Bytes.bound width then (n : Int) else (n : Int) - Bytes.bound width) = i) ↔
    IntFits width i ∧ (if 0 ≤ i then i else i + Bytes.bound width).toNat = n := by
  unfold IntFits
  constructor
  · rintro ⟨fits, rfl⟩
    split <;> split <;> omega
  · rintro ⟨⟨low, high⟩, rfl⟩
    by_cases positive : 0 ≤ i
    · simp only [if_pos positive]
      rw [if_pos (by omega)]
      omega
    · simp only [if_neg positive]
      rw [if_neg (by omega)]
      omega

theorem readInt_eq_some_iff {i : Int} : readInt width bs = some (i, rest) ↔
    IntFits width i ∧ bs = twosComplement width i ++ rest := by
  constructor
  · intro found
    obtain ⟨⟨n, rest'⟩, first, same⟩ := Option.map_eq_some_iff.1 found
    obtain ⟨fits, rfl⟩ := readNat_eq_some_iff.1 first
    obtain ⟨value, rfl⟩ := Prod.mk.inj same
    obtain ⟨within, digits⟩ := signed_iff.1 ⟨fits, value⟩
    exact ⟨within, by rw [twosComplement, digits]⟩
  · rintro ⟨within, rfl⟩
    obtain ⟨fits, value⟩ := signed_iff.2 ⟨within, rfl⟩
    rw [readInt, twosComplement, readNat_bigEndian fits, Option.map_some]
    exact congrArg some (Prod.ext value rfl)

/-! ## Heads are read exactly in their forms -/

theorem leafOf_eq_some_iff {make : α → Value} {content : Option (α × Bytes)} :
    leafOf make content = some (head, rest) ↔
      ∃ a, head = .leaf (make a) ∧ content = some (a, rest) := by
  constructor
  · intro found
    obtain ⟨⟨a, rest'⟩, given, same⟩ := Option.map_eq_some_iff.1 found
    cases same
    exact ⟨a, rfl, given⟩
  · rintro ⟨a, rfl, given⟩
    rw [leafOf, given]
    rfl

theorem countedOf_eq_some_iff {make : Nat → Head} : countedOf make width bs = some (head, rest) ↔
    ∃ n, head = make n ∧ n < Bytes.bound width ∧ bs = Bytes.bigEndian width n ++ rest := by
  constructor
  · intro found
    obtain ⟨⟨n, rest'⟩, given, same⟩ := Option.map_eq_some_iff.1 found
    cases same
    exact ⟨n, rfl, readNat_eq_some_iff.1 given⟩
  · rintro ⟨n, rfl, written⟩
    rw [countedOf, readNat_eq_some_iff.2 written]
    rfl

/-- The markers of a family follow each other, and each doubles the width. -/
theorem mem_of_range {marks : List (UInt8 × Nat)} {m : Nat} (first count unit : Nat)
    (family : marks = (List.range count).map fun i => (UInt8.ofNat (first + i), unit <<< i))
    (low : ¬ m < first) (high : m < first + count) :
    (UInt8.ofNat m, unit <<< (m - first)) ∈ marks := by
  rw [family]
  refine List.mem_map.2 ⟨m - first, List.mem_range.2 (by omega), ?_⟩
  rw [Nat.add_sub_cancel' (Nat.not_lt.1 low)]

/-- Below the markers with numbers or sizes behind them, a marker says itself how long a form is. -/
theorem form_of_readHead_compact {m : Nat} (compact : m < 0xc0)
    (found : readHead (UInt8.ofNat m :: bs) = some (head, rest)) :
    ∃ front, HeadForm head front ∧ UInt8.ofNat m :: bs = front ++ rest := by
  rw [readHead] at found
  simp only [UInt8.toNat_ofNat_of_lt' (Nat.lt_trans compact (by decide))] at found
  by_cases uint : m < 0x80
  · rw [if_pos uint] at found
    cases found
    exact ⟨_, .smallUInt uint, rfl⟩
  rw [if_neg uint] at found
  by_cases map : m < 0x90
  · rw [if_pos map] at found
    cases found
    have form : HeadForm (.map (m - 0x80)) _ := .smallMap (by omega)
    rw [Nat.add_sub_cancel' (Nat.not_lt.1 uint)] at form
    exact ⟨_, form, rfl⟩
  rw [if_neg map] at found
  by_cases array : m < 0xa0
  · rw [if_pos array] at found
    cases found
    have form : HeadForm (.array (m - 0x90)) _ := .smallArray (by omega)
    rw [Nat.add_sub_cancel' (Nat.not_lt.1 map)] at form
    exact ⟨_, form, rfl⟩
  rw [if_neg array] at found
  rw [if_pos compact] at found
  obtain ⟨raw, rfl, taken⟩ := leafOf_eq_some_iff.1 found
  obtain ⟨size, rfl⟩ := take?_eq_some_iff.1 taken
  have form : HeadForm (.leaf (.str raw)) _ := .smallStr (by omega)
  rw [size, Nat.add_sub_cancel' (Nat.not_lt.1 array)] at form
  exact ⟨_, form, rfl⟩

/-- From there on the marker is in one of the tables, but for single values and small numbers below
zero. -/
theorem form_of_readHead_marked {m : Nat} (within : m < 256) (marked : ¬ m < 0xc0)
    (found : readHead (UInt8.ofNat m :: bs) = some (head, rest)) :
    ∃ front, HeadForm head front ∧ UInt8.ofNat m :: bs = front ++ rest := by
  rw [readHead] at found
  simp only [UInt8.toNat_ofNat_of_lt' within] at found
  rw [if_neg (by omega), if_neg (by omega), if_neg (by omega), if_neg marked] at found
  by_cases nil : m = 0xc0
  · rw [if_pos nil] at found
    cases found
    subst nil
    exact ⟨_, .nil, rfl⟩
  rw [if_neg nil] at found
  by_cases unused : m = 0xc1
  · rw [if_pos unused] at found
    cases found
  rw [if_neg unused] at found
  by_cases bool : m < 0xc4
  · rw [if_pos bool] at found
    cases found
    refine ⟨[UInt8.ofNat m], ?_, rfl⟩
    obtain rfl | rfl : m = 0xc2 ∨ m = 0xc3 := by omega
    · exact .bool false
    · exact .bool true
  rw [if_neg bool] at found
  by_cases bin : m < 0xc7
  · rw [if_pos bin] at found
    obtain ⟨raw, rfl, sized⟩ := leafOf_eq_some_iff.1 found
    obtain ⟨fits, whole⟩ := readSized_eq_some_iff.1 sized
    exact ⟨_, .bin (mem_of_range 0xc4 3 1 rfl bool bin) fits, congrArg _ whole⟩
  rw [if_neg bin] at found
  by_cases ext : m < 0xca
  · rw [if_pos ext] at found
    obtain ⟨size, rfl, fits, whole⟩ := countedOf_eq_some_iff.1 found
    exact ⟨_, .ext (mem_of_range 0xc7 3 1 rfl bin ext) fits, congrArg _ whole⟩
  rw [if_neg ext] at found
  by_cases float : m < 0xcc
  · rw [if_pos float] at found
    obtain ⟨bits, rfl, taken⟩ := leafOf_eq_some_iff.1 found
    obtain ⟨size, rfl⟩ := take?_eq_some_iff.1 taken
    exact ⟨_, .float (size ▸ mem_of_range 0xca 2 4 rfl ext float), rfl⟩
  rw [if_neg float] at found
  by_cases wide : m < 0xd0
  · rw [if_pos wide] at found
    obtain ⟨n, rfl, digits⟩ := leafOf_eq_some_iff.1 found
    obtain ⟨fits, whole⟩ := readNat_eq_some_iff.1 digits
    exact ⟨_, .uint (mem_of_range 0xcc 4 1 rfl float wide) fits, congrArg _ whole⟩
  rw [if_neg wide] at found
  by_cases int : m < 0xd4
  · rw [if_pos int] at found
    obtain ⟨i, rfl, digits⟩ := leafOf_eq_some_iff.1 found
    obtain ⟨fits, whole⟩ := readInt_eq_some_iff.1 digits
    exact ⟨_, .int (mem_of_range 0xd0 4 1 rfl wide int) fits, congrArg _ whole⟩
  rw [if_neg int] at found
  by_cases fixed : m < 0xd9
  · rw [if_pos fixed] at found
    cases found
    exact ⟨_, .fixedExt (mem_of_range 0xd4 5 1 rfl int fixed), rfl⟩
  rw [if_neg fixed] at found
  by_cases str : m < 0xdc
  · rw [if_pos str] at found
    obtain ⟨raw, rfl, sized⟩ := leafOf_eq_some_iff.1 found
    obtain ⟨fits, whole⟩ := readSized_eq_some_iff.1 sized
    exact ⟨_, .str (mem_of_range 0xd9 3 1 rfl fixed str) fits, congrArg _ whole⟩
  rw [if_neg str] at found
  by_cases array' : m < 0xde
  · rw [if_pos array'] at found
    obtain ⟨count, rfl, fits, whole⟩ := countedOf_eq_some_iff.1 found
    exact ⟨_, .array (mem_of_range 0xdc 2 2 rfl str array') fits, congrArg _ whole⟩
  rw [if_neg array'] at found
  by_cases map' : m < 0xe0
  · rw [if_pos map'] at found
    obtain ⟨count, rfl, fits, whole⟩ := countedOf_eq_some_iff.1 found
    exact ⟨_, .map (mem_of_range 0xde 2 2 rfl array' map') fits, congrArg _ whole⟩
  rw [if_neg map'] at found
  cases found
  have form := HeadForm.smallInt (i := (m : Int) - 256) (by omega) (by omega)
  rw [Int.sub_add_cancel, Int.toNat_natCast] at form
  exact ⟨_, form, rfl⟩

/-- What is read as a head is a form of it. -/
theorem form_of_readHead (found : readHead bs = some (head, rest)) :
    ∃ front, HeadForm head front ∧ bs = front ++ rest := by
  rcases bs with _ | ⟨marker, bs⟩
  · cases found
  obtain ⟨m, within, rfl⟩ : ∃ m < 256, marker = UInt8.ofNat m :=
    ⟨marker.toNat, marker.toNat_lt, UInt8.ofNat_toNat.symm⟩
  by_cases compact : m < 0xc0
  · exact form_of_readHead_compact compact found
  · exact form_of_readHead_marked within compact found

theorem readHead_of_leaf {marker : UInt8} {make : α → Value} {read : Bytes → Option (α × Bytes)}
    {a : α} (found : read bs = some (a, rest))
    (announces : ∀ bs, readHead (marker :: bs) = leafOf make (read bs)) :
    readHead (marker :: bs) = some (.leaf (make a), rest) := by
  rw [announces, found]
  rfl

theorem readHead_of_counted {marker : UInt8} {make : Nat → Head} (fits : n < Bytes.bound width)
    (announces : ∀ bs, readHead (marker :: bs) = countedOf make width bs) (rest : Bytes) :
    readHead (marker :: Bytes.bigEndian width n ++ rest) = some (make n, rest) := by
  rw [List.cons_append, announces]
  exact countedOf_eq_some_iff.2 ⟨n, rfl, fits, rfl⟩

/-- Each form of a head is read as it. -/
theorem readHead_of_form (form : HeadForm head bs) (rest : Bytes) :
    readHead (bs ++ rest) = some (head, rest) := by
  cases form with
  | nil => rfl
  | bool b => cases b <;> rfl
  | @smallUInt m small =>
      rw [List.singleton_append, readHead]
      simp only [UInt8.toNat_ofNat_of_lt' (Nat.lt_trans small (by decide))]
      rw [if_pos small]
  | @smallInt i small negative =>
      rw [List.singleton_append, readHead]
      simp only [UInt8.toNat_ofNat_of_lt' (show (i + 256).toNat < 256 by omega)]
      repeat rw [if_neg (by omega)]
      congr
      omega
  | @smallStr raw small =>
      rw [List.cons_append, readHead]
      simp only [UInt8.toNat_ofNat_of_lt' (show 0xa0 + raw.length < 256 by omega)]
      rw [if_neg (by omega), if_neg (by omega), if_neg (by omega), if_pos (by omega),
        Nat.add_sub_cancel_left, Bytes.take?_append]
      rfl
  | @smallArray count small =>
      rw [List.singleton_append, readHead]
      simp only [UInt8.toNat_ofNat_of_lt' (show 0x90 + count < 256 by omega)]
      rw [if_neg (by omega), if_neg (by omega), if_pos (by omega), Nat.add_sub_cancel_left]
  | @smallMap count small =>
      rw [List.singleton_append, readHead]
      simp only [UInt8.toNat_ofNat_of_lt' (show 0x80 + count < 256 by omega)]
      rw [if_neg (by omega), if_pos (by omega), Nat.add_sub_cancel_left]
  | uint mark fits =>
      simp only [uintMarks, List.mem_cons, Prod.mk.injEq, List.not_mem_nil, or_false] at mark
      rcases mark with ⟨rfl, rfl⟩ | ⟨rfl, rfl⟩ | ⟨rfl, rfl⟩ | ⟨rfl, rfl⟩ <;>
        exact readHead_of_leaf (readNat_eq_some_iff.2 ⟨fits, rfl⟩) fun _ => rfl
  | int mark fits =>
      simp only [intMarks, List.mem_cons, Prod.mk.injEq, List.not_mem_nil, or_false] at mark
      rcases mark with ⟨rfl, rfl⟩ | ⟨rfl, rfl⟩ | ⟨rfl, rfl⟩ | ⟨rfl, rfl⟩ <;>
        exact readHead_of_leaf (readInt_eq_some_iff.2 ⟨fits, rfl⟩) fun _ => rfl
  | float mark =>
      simp only [floatMarks, List.mem_cons, Prod.mk.injEq, List.not_mem_nil, or_false] at mark
      rcases mark with ⟨rfl, size⟩ | ⟨rfl, size⟩ <;>
        exact readHead_of_leaf (take?_eq_some_iff.2 ⟨size, rfl⟩) fun _ => rfl
  | str mark fits =>
      simp only [strMarks, List.mem_cons, Prod.mk.injEq, List.not_mem_nil, or_false] at mark
      rcases mark with ⟨rfl, rfl⟩ | ⟨rfl, rfl⟩ | ⟨rfl, rfl⟩ <;>
        exact readHead_of_leaf (readSized_eq_some_iff.2 ⟨fits, rfl⟩) fun _ => rfl
  | bin mark fits =>
      simp only [binMarks, List.mem_cons, Prod.mk.injEq, List.not_mem_nil, or_false] at mark
      rcases mark with ⟨rfl, rfl⟩ | ⟨rfl, rfl⟩ | ⟨rfl, rfl⟩ <;>
        exact readHead_of_leaf (readSized_eq_some_iff.2 ⟨fits, rfl⟩) fun _ => rfl
  | array mark fits =>
      simp only [arrayMarks, List.mem_cons, Prod.mk.injEq, List.not_mem_nil, or_false] at mark
      rcases mark with ⟨rfl, rfl⟩ | ⟨rfl, rfl⟩ <;>
        exact readHead_of_counted fits (fun _ => rfl) rest
  | map mark fits =>
      simp only [mapMarks, List.mem_cons, Prod.mk.injEq, List.not_mem_nil, or_false] at mark
      rcases mark with ⟨rfl, rfl⟩ | ⟨rfl, rfl⟩ <;>
        exact readHead_of_counted fits (fun _ => rfl) rest
  | fixedExt mark =>
      simp only [fixedExtMarks, List.mem_cons, Prod.mk.injEq, List.not_mem_nil, or_false] at mark
      rcases mark with ⟨rfl, rfl⟩ | ⟨rfl, rfl⟩ | ⟨rfl, rfl⟩ | ⟨rfl, rfl⟩ | ⟨rfl, rfl⟩ <;> rfl
  | ext mark fits =>
      simp only [extMarks, List.mem_cons, Prod.mk.injEq, List.not_mem_nil, or_false] at mark
      rcases mark with ⟨rfl, rfl⟩ | ⟨rfl, rfl⟩ | ⟨rfl, rfl⟩ <;>
        exact readHead_of_counted fits (fun _ => rfl) rest

/-! ## Values are read exactly in their forms -/

variable {read : Bytes → Option (α × Bytes)} {form : α → Bytes → Prop}

theorem readMany_eq_some_iff (reads : Reads read form) {count : Nat} {done items : List α} :
    readMany read count done bs = some (items, rest) ↔
      ∃ more front, items = done.reverse ++ more ∧ more.length = count ∧ Row form more front ∧
        bs = front ++ rest := by
  induction count generalizing done bs with
  | zero =>
      rw [readMany]
      constructor
      · intro found
        cases found
        exact ⟨[], [], (List.append_nil _).symm, rfl, .nil, rfl⟩
      · rintro ⟨more, front, rfl, none', row, rfl⟩
        cases List.length_eq_zero_iff.1 none'
        cases row
        rw [List.append_nil, List.nil_append]
  | succ count ih =>
      rw [readMany]
      constructor
      · intro found
        split at found
        · cases found
        rename_i a bs' first
        obtain ⟨here, formed, rfl⟩ := (reads _ _ _).1 first
        obtain ⟨more, front, rfl, size, row, rfl⟩ := ih.1 found
        refine ⟨a :: more, here ++ front, ?_, congrArg _ size, .cons formed row, ?_⟩
        · rw [List.reverse_cons, List.append_assoc, List.singleton_append]
        · rw [List.append_assoc]
      · rintro ⟨more, front, rfl, size, row, rfl⟩
        cases row with
        | nil => cases size
        | @cons a more here front formed row =>
            have first := (reads (here ++ front ++ rest) a (front ++ rest)).2
              ⟨here, formed, List.append_assoc _ _ _⟩
            rw [first]
            refine ih.2 ⟨more, front, ?_, Nat.succ.inj size, row, rfl⟩
            rw [List.reverse_cons, List.append_assoc, List.singleton_append]

theorem reads_entry {read : Bytes → Option (Value × Bytes)} {form : Value → Bytes → Prop}
    (reads : Reads read form) : Reads (readEntry read) (EntryForm form) := by
  intro bs entry rest
  constructor
  · intro found
    obtain ⟨⟨key, bs'⟩, first, rest'⟩ := Option.bind_eq_some_iff.1 found
    obtain ⟨⟨v, bs''⟩, second, same⟩ := Option.map_eq_some_iff.1 rest'
    cases same
    obtain ⟨front, here, rfl⟩ := (reads _ _ _).1 first
    obtain ⟨front', there, rfl⟩ := (reads _ _ _).1 second
    exact ⟨front ++ front', ⟨front, front', here, there, rfl⟩, (List.append_assoc _ _ _).symm⟩
  · rintro ⟨_, ⟨front, front', here, there, rfl⟩, rfl⟩
    have first := (reads (front ++ front' ++ rest) entry.1 (front' ++ rest)).2
      ⟨front, here, List.append_assoc _ _ _⟩
    have second := (reads (front' ++ rest) entry.2 rest).2 ⟨front', there, rfl⟩
    exact Option.bind_eq_some_iff.2 ⟨_, first, Option.map_eq_some_iff.2 ⟨_, second, rfl⟩⟩

theorem readMany_nil_eq_some_iff (reads : Reads read form) {count : Nat} {items : List α} :
    readMany read count [] bs = some (items, rest) ↔
      items.length = count ∧ ∃ front, Row form items front ∧ bs = front ++ rest := by
  rw [readMany_eq_some_iff reads]
  constructor
  · rintro ⟨more, front, rfl, size, row, whole⟩
    exact ⟨size, front, row, whole⟩
  · rintro ⟨size, front, row, whole⟩
    exact ⟨items, front, rfl, size, row, whole⟩

/-- A value that is all head is read whatever the room. -/
theorem readValue_of_leaf {v : Value} {front : Bytes} (form : HeadForm (.leaf v) front) (room : Nat)
    (rest : Bytes) : readValue room (front ++ rest) = some (v, rest) := by
  rw [readValue.eq_def, readHead_of_form form rest]

/-- Without room only a value that is all head is read. -/
theorem form_of_readValue_zero {v : Value} (found : readValue 0 bs = some (v, rest)) :
    ∃ front, HeadForm (.leaf v) front ∧ bs = front ++ rest := by
  rw [readValue.eq_def] at found
  cases first : readHead bs with
  | none =>
      rw [first] at found
      cases found
  | some entry =>
      obtain ⟨head, bs'⟩ := entry
      rw [first] at found
      cases head with
      | leaf v' =>
          cases found
          exact form_of_readHead first
      | array _ | map _ | ext _ => cases found

variable {room : Nat}

/-- A container is read if what it holds is read with less room. -/
theorem readValue_of_container (reads : Reads (readValue room) (Written room)) {v : Value}
    {front : Bytes} (container : ContainerForm (Written room) v front) (rest : Bytes) :
    readValue (room + 1) (front ++ rest) = some (v, rest) := by
  rw [readValue.eq_def]
  cases container with
  | @array items front body formed row =>
      rw [List.append_assoc, readHead_of_form formed]
      exact Option.map_eq_some_iff.2
        ⟨_, (readMany_nil_eq_some_iff reads).2 ⟨rfl, body, row, rfl⟩, rfl⟩
  | @map entries front body formed row =>
      rw [List.append_assoc, readHead_of_form formed]
      exact Option.map_eq_some_iff.2
        ⟨_, (readMany_nil_eq_some_iff (reads_entry reads)).2 ⟨rfl, body, row, rfl⟩, rfl⟩
  | @ext raw front formed tag =>
      rw [List.append_assoc, readHead_of_form formed]
      exact Option.map_eq_some_iff.2 ⟨_, take?_eq_some_iff.2 ⟨rfl, rfl⟩, rfl⟩

/-- What is read with room for a container is a form of it, if this is so inside. -/
theorem form_of_readValue_succ (reads : Reads (readValue room) (Written room)) {v : Value}
    (found : readValue (room + 1) bs = some (v, rest)) :
    ∃ front, Written (room + 1) v front ∧ bs = front ++ rest := by
  rw [readValue.eq_def] at found
  cases first : readHead bs with
  | none =>
      rw [first] at found
      cases found
  | some entry =>
      obtain ⟨head, bs'⟩ := entry
      rw [first] at found
      obtain ⟨front, formed, rfl⟩ := form_of_readHead first
      cases head with
      | leaf v' =>
          cases found
          exact ⟨front, .inl formed, rfl⟩
      | array count =>
          obtain ⟨⟨items, rest'⟩, many, same⟩ := Option.map_eq_some_iff.1 found
          cases same
          obtain ⟨rfl, body, row, rfl⟩ := (readMany_nil_eq_some_iff reads).1 many
          exact ⟨_, .inr (.array formed row), (List.append_assoc _ _ _).symm⟩
      | map count =>
          obtain ⟨⟨entries, rest'⟩, many, same⟩ := Option.map_eq_some_iff.1 found
          cases same
          obtain ⟨rfl, body, row, rfl⟩ := (readMany_nil_eq_some_iff (reads_entry reads)).1 many
          exact ⟨_, .inr (.map formed row), (List.append_assoc _ _ _).symm⟩
      | ext size =>
          rcases bs' with _ | ⟨tag, bs'⟩
          · cases found
          obtain ⟨⟨raw, rest'⟩, taken, same⟩ := Option.map_eq_some_iff.1 found
          cases same
          obtain ⟨rfl, rfl⟩ := take?_eq_some_iff.1 taken
          exact ⟨_, .inr (.ext formed tag), (List.append_assoc front (tag :: raw) _).symm⟩

/-- A value is read exactly in its forms. What is inside a container is read with less room. -/
theorem reads_value (room : Nat) : Reads (readValue room) (Written room) := by
  induction room with
  | zero =>
      intro bs v rest
      constructor
      · exact form_of_readValue_zero
      · rintro ⟨front, form, rfl⟩
        exact readValue_of_leaf form 0 rest
  | succ room ih =>
      intro bs v rest
      constructor
      · exact form_of_readValue_succ ih
      · rintro ⟨front, leaf | container, rfl⟩
        · exact readValue_of_leaf leaf (room + 1) rest
        · exact readValue_of_container ih container rest

/-- One value has a form at the front of a byte string, and it has one. -/
theorem Written.unique {v v' : Value} {front front' rest rest' : Bytes}
    (form : Written room v front) (form' : Written room v' front')
    (whole : front ++ rest = front' ++ rest') : v = v' ∧ front = front' := by
  have one := (reads_value room _ v rest).2 ⟨front, form, rfl⟩
  have other := (reads_value room _ v' rest').2 ⟨front', form', whole⟩
  rw [one] at other
  cases other
  exact ⟨rfl, List.append_cancel_right whole⟩

/-- The value at the front of a body is the one of which a form stands there. -/
theorem Value.ofBytes?_eq_some_iff : Value.ofBytes? bs = some v ↔
    ∃ front rest, Written maxNesting v front ∧ bs = front ++ rest := by
  constructor
  · intro found
    obtain ⟨⟨v', rest⟩, read, rfl⟩ := Option.map_eq_some_iff.1 found
    obtain ⟨front, form, whole⟩ := (reads_value maxNesting _ _ _).1 read
    exact ⟨front, rest, form, whole⟩
  · rintro ⟨front, rest, form, whole⟩
    have read := (reads_value maxNesting bs v rest).2 ⟨front, form, whole⟩
    exact Option.map_eq_some_iff.2 ⟨(v, rest), read, rfl⟩

end MessageBroker.Pack
