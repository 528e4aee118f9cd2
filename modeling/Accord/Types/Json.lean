import Mathlib.Data.List.Basic
import Accord.Library.Format
import Accord.Types.Text

/-! The JSON texts of numbers, byte arrays and ids. -/

namespace Accord

namespace Uuid

def hexValue (char : Char) : ℕ :=
  if char.isDigit then char.toNat - 48 else char.toNat - 87

def ofHex (digits : List Char) : ℕ :=
  digits.foldl (fun value char => value * 16 + hexValue char) 0

def ofChars (text : List Char) : Uuid :=
  BitVec.ofNat 128 (ofHex (text.filter (· != '-')))

theorem hexValue_digitChar : ∀ digit < 16,
    hexValue (Nat.digitChar digit) = digit := by
  decide

private theorem digitChar_ne_hyphen : ∀ digit < 16,
    (Nat.digitChar digit != '-') = true := by
  decide

theorem ofHex_digits (value count : ℕ) :
    ofHex ((List.range count).map fun index =>
      Nat.digitChar ((value >>> (4 * (count - 1 - index))) % 16)) =
        value % 16 ^ count := by
  induction count generalizing value with
  | zero => simp [ofHex, Nat.mod_one]
  | succ count induction =>
      have shifted : ∀ index ∈ List.range count,
          Nat.digitChar
            ((value >>> (4 * (count + 1 - 1 - index))) % 16) =
          Nat.digitChar
            (((value / 16) >>> (4 * (count - 1 - index))) % 16) := by
        intro index inside
        have bound := List.mem_range.mp inside
        have places : 4 * (count + 1 - 1 - index) =
            4 + 4 * (count - 1 - index) := by omega
        rw [places, Nat.shiftRight_add, Nat.shiftRight_eq_div_pow value 4]
      have last : hexValue (Nat.digitChar (value % 16)) = value % 16 :=
        hexValue_digitChar _ (Nat.mod_lt _ (by decide))
      rw [List.range_succ, List.map_append, List.map_congr_left shifted]
      have front := induction (value / 16)
      simp only [ofHex] at front ⊢
      rw [List.foldl_append, front]
      simp only [List.map_cons, List.map_nil, List.foldl_cons,
        List.foldl_nil, Nat.add_sub_cancel, Nat.sub_self, Nat.mul_zero,
        Nat.shiftRight_zero, last]
      rw [Nat.pow_succ', Nat.mod_mul]
      omega

theorem digit_of_mem_hexDigits {id : Uuid} {char : Char}
    (member : char ∈ id.hexDigits) :
    ∃ digit < 16, char = Nat.digitChar digit := by
  simp only [hexDigits, List.mem_map] at member
  obtain ⟨index, _, rfl⟩ := member
  exact ⟨_, Nat.mod_lt _ (by decide), rfl⟩

private theorem mem_text {id : Uuid} {char : Char}
    (member : char ∈ id.text.toList) :
    char = '-' ∨ char ∈ id.hexDigits := by
  simp only [text, String.toList_ofList, List.mem_append,
    List.mem_cons] at member
  have taken : ∀ count start,
      char ∈ (id.hexDigits.drop start).take count → char ∈ id.hexDigits :=
    fun _ _ part => List.mem_of_mem_drop (List.mem_of_mem_take part)
  rcases member with (((first | hyphen | part) | hyphen | part) | hyphen |
    part) | hyphen | part
  · exact .inr (List.mem_of_mem_take first)
  · exact .inl hyphen
  · exact .inr (taken _ _ part)
  · exact .inl hyphen
  · exact .inr (taken _ _ part)
  · exact .inl hyphen
  · exact .inr (taken _ _ part)
  · exact .inl hyphen
  · exact .inr (List.mem_of_mem_drop part)

theorem groups_hexDigits (id : Uuid) :
    id.hexDigits.take 8 ++ (id.hexDigits.drop 8).take 4 ++
      (id.hexDigits.drop 12).take 4 ++ (id.hexDigits.drop 16).take 4 ++
      id.hexDigits.drop 20 = id.hexDigits := by
  have join : ∀ start count, (id.hexDigits.drop start).take count ++
      id.hexDigits.drop (start + count) = id.hexDigits.drop start := by
    intro start count
    rw [← List.drop_drop, List.take_append_drop]
  rw [List.append_assoc, List.append_assoc, List.append_assoc, join 16 4,
    join 12 4, join 8 4, List.take_append_drop]

private theorem filter_text (id : Uuid) :
    id.text.toList.filter (· != '-') = id.hexDigits := by
  have kept : ∀ part : List Char, (∀ char ∈ part, char ∈ id.hexDigits) →
      part.filter (· != '-') = part := by
    intro part digits
    rw [List.filter_eq_self]
    intro char member
    obtain ⟨digit, bound, rfl⟩ := digit_of_mem_hexDigits (digits char member)
    exact digitChar_ne_hyphen digit bound
  have slices : ∀ count start, ((id.hexDigits.drop start).take count).filter
      (· != '-') = (id.hexDigits.drop start).take count :=
    fun _ _ => kept _ fun _ part =>
      List.mem_of_mem_drop (List.mem_of_mem_take part)
  have first := slices 8 0
  have last := kept (id.hexDigits.drop 20) fun _ => List.mem_of_mem_drop
  rw [List.drop_zero] at first
  simp only [text, String.toList_ofList, List.filter_append, List.filter_cons,
    first, slices, last, bne_self_eq_false, Bool.false_eq_true, if_false]
  exact groups_hexDigits id

theorem ofChars_text (id : Uuid) : ofChars id.text.toList = id := by
  have value : ofHex id.hexDigits = id.toNat % 16 ^ 32 :=
    ofHex_digits id.toNat 32
  have bound : id.toNat < 16 ^ 32 := id.isLt
  rw [ofChars, filter_text, value, Nat.mod_eq_of_lt bound,
    BitVec.ofNat_toNat, BitVec.setWidth_eq]

end Uuid

namespace Json

/-! Every text here is in ASCII, so that a byte is a character. -/

def byteOf (char : Char) : UInt8 := UInt8.ofNat char.toNat

def charOf (byte : UInt8) : Char := Char.ofNat byte.toNat

def bytesOf (text : List Char) : Bytes := text.map byteOf

/-- Digits, hexadecimal ones among them, and the hyphen. -/
def plain (char : Char) : Bool :=
  char.isDigit || (97 ≤ char.toNat && char.toNat ≤ 102) || char.toNat == 45

theorem plain_toNat {char : Char} (holds : plain char = true) :
    (48 ≤ char.toNat ∧ char.toNat ≤ 57) ∨
      (97 ≤ char.toNat ∧ char.toNat ≤ 102) ∨ char.toNat = 45 := by
  simpa [plain, Char.isDigit_iff_toNat, or_assoc] using holds

theorem byteOf_toNat {char : Char} (holds : plain char = true) :
    (byteOf char).toNat = char.toNat := by
  have range := plain_toNat holds
  exact UInt8.toNat_ofNat_of_lt' (show char.toNat < 256 by omega)

private theorem map_charOf_bytesOf {text : List Char}
    (holds : ∀ char ∈ text, plain char = true) :
    (bytesOf text).map charOf = text := by
  induction text with
  | nil => rfl
  | cons char rest induction =>
      have first : charOf (byteOf char) = char := by
        simp [charOf, byteOf_toNat (holds char List.mem_cons_self)]
      have later := induction fun other member =>
        holds other (List.mem_cons_of_mem _ member)
      simp only [bytesOf, List.map_cons, first] at later ⊢
      rw [later]

theorem not_mem_bytesOf {text : List Char}
    (holds : ∀ char ∈ text, plain char = true) {stop : UInt8}
    (outside : stop.toNat = 34 ∨ stop.toNat = 44 ∨ stop.toNat = 93 ∨
      stop.toNat = 125) : stop ∉ bytesOf text := by
  intro member
  simp only [bytesOf, List.mem_map] at member
  obtain ⟨char, inside, rfl⟩ := member
  have range := plain_toNat (holds char inside)
  rw [byteOf_toNat (holds char inside)] at outside
  omega

/-! Numbers. -/

def numeral (value : ℕ) : Bytes := bytesOf (Nat.toDigits 10 value)

def ofNumeral (text : Bytes) : Option ℕ :=
  if text.map charOf ≠ [] ∧ (text.map charOf).all Char.isDigit then
    some (Nat.ofDigitChars 10 (text.map charOf) 0)
  else none

theorem plain_of_mem_toDigits {value : ℕ} {char : Char}
    (member : char ∈ Nat.toDigits 10 value) : plain char = true := by
  have digit : char.isDigit = true :=
    Nat.isDigit_of_mem_toDigits (by decide) (by decide) member
  simp [plain, digit]

theorem ofNumeral_numeral (value : ℕ) :
    ofNumeral (numeral value) = some value := by
  have digits : (Nat.toDigits 10 value).all Char.isDigit = true := by
    rw [List.all_eq_true]
    exact fun _ => Nat.isDigit_of_mem_toDigits (by decide) (by decide)
  simp only [ofNumeral, numeral,
    map_charOf_bytesOf fun _ => plain_of_mem_toDigits]
  rw [if_pos ⟨Nat.toDigits_ne_nil, digits⟩, Nat.ofDigitChars_ten_toDigits]

def integer (value : Int) : Bytes :=
  if value < 0 then byteOf '-' :: numeral value.natAbs
  else numeral value.natAbs

def ofInteger (text : Bytes) : Option Int :=
  match text with
  | first :: rest =>
      if first = byteOf '-' then (ofNumeral rest).map fun value => -value
      else (ofNumeral text).map Int.ofNat
  | [] => none

private theorem numeral_not_mem_hyphen (value : ℕ) :
    byteOf '-' ∉ numeral value := by
  intro member
  simp only [numeral, bytesOf, List.mem_map] at member
  obtain ⟨char, inside, same⟩ := member
  have digit := Char.isDigit_iff_toNat.mp
    (Nat.isDigit_of_mem_toDigits (by decide) (by decide) inside)
  have value := congrArg UInt8.toNat same
  rw [byteOf_toNat (plain_of_mem_toDigits inside)] at value
  rw [value] at digit
  exact absurd digit.1 (by decide)

private theorem ofInteger_integer (value : Int) :
    ofInteger (integer value) = some value := by
  by_cases negative : value < 0
  · have size : -(value.natAbs : Int) = value := by omega
    simp only [integer, if_pos negative, ofInteger, if_true,
      ofNumeral_numeral]
    exact congrArg some size
  · have read := ofNumeral_numeral value.natAbs
    have signless := numeral_not_mem_hyphen value.natAbs
    simp only [integer, if_neg negative]
    cases text : numeral value.natAbs with
    | nil => simp [text, ofNumeral] at read
    | cons first rest =>
        rw [text, List.mem_cons, not_or] at signless
        rw [text] at read
        simp only [ofInteger, if_neg (Ne.symm signless.1), read,
          Option.map_some, Option.some.injEq]
        exact Int.natAbs_of_nonneg (Int.not_lt.mp negative)

/-- An array of bytes, without its brackets. -/
def array (values : Bytes) : Bytes :=
  [byteOf ','].intercalate (values.map fun value => numeral value.toNat)

def ofArray (text : Bytes) : Option Bytes :=
  if text = [] then some []
  else ((text.splitOn (byteOf ',')).mapM ofNumeral).map
    fun values => values.map UInt8.ofNat

private theorem numeral_ne_nil (value : ℕ) : numeral value ≠ [] := by
  simp [numeral, bytesOf, Nat.toDigits_ne_nil]

private theorem splitOn_array (first : UInt8) (rest : Bytes) :
    (array (first :: rest)).splitOn (byteOf ',') =
      (first :: rest).map fun value => numeral value.toNat := by
  apply List.splitOn_intercalate
  · intro text member
    simp only [List.mem_map] at member
    obtain ⟨value, _, rfl⟩ := member
    exact not_mem_bytesOf (fun _ => plain_of_mem_toDigits) (by decide)
  · simp

private theorem ofArray_array (values : Bytes) :
    ofArray (array values) = some values := by
  cases values with
  | nil => rfl
  | cons first rest =>
      have split := splitOn_array first rest
      have filled : array (first :: rest) ≠ [] := by
        intro empty
        rw [empty] at split
        simp [numeral_ne_nil] at split
      have read : ((first :: rest).map
          fun value => numeral value.toNat).mapM ofNumeral =
            some ((first :: rest).map UInt8.toNat) := by
        induction first :: rest with
        | nil => rfl
        | cons value others induction =>
            simp [ofNumeral_numeral, induction]
      simp only [ofArray, if_neg filled, split, read, Option.map_some]
      simp [Function.comp_def]

private theorem not_mem_array (values : Bytes) : byteOf ']' ∉ array values := by
  have outside : ∀ value : UInt8, byteOf ']' ∉ numeral value.toNat :=
    fun _ => not_mem_bytesOf (fun _ => plain_of_mem_toDigits) (by decide)
  simp only [array]
  induction values with
  | nil => simp
  | cons first rest induction =>
      cases rest with
      | nil => simpa using outside first
      | cons second rest =>
          simp only [List.map_cons, List.intercalate_cons_cons,
            List.mem_append, not_or] at induction ⊢
          exact ⟨⟨outside first, by decide⟩, induction⟩

/-! A value with the character that follows it. -/

def Closes (stop : Char) : Prop :=
  (byteOf stop).toNat = 34 ∨ (byteOf stop).toNat = 44 ∨
    (byteOf stop).toNat = 93 ∨ (byteOf stop).toNat = 125

instance (stop : Char) : Decidable (Closes stop) :=
  inferInstanceAs (Decidable (_ ∨ _))

def ofU64 (text : Bytes) : Option UInt64 :=
  (ofNumeral text).bind fun value =>
    if value < 2 ^ 64 then some (UInt64.ofNat value) else none

theorem closes_comma : Closes ',' := by
  decide

theorem closes_brace : Closes '\x7d' := by
  decide

def u64 (stop : Char) (closes : Closes stop) : Format UInt8 UInt64 :=
  .token (byteOf stop) (fun value => numeral value.toNat) ofU64
    (fun _ => not_mem_bytesOf (fun _ => plain_of_mem_toDigits) closes)
    (by
      intro value
      simp [ofU64, ofNumeral_numeral, value.toNat_lt])

private theorem not_mem_integer (value : Int) {stop : Char}
    (closes : Closes stop) :
    byteOf stop ∉ integer value := by
  have outside : byteOf stop ∉ numeral value.natAbs :=
    not_mem_bytesOf (fun _ => plain_of_mem_toDigits) closes
  have hyphen : byteOf stop ≠ byteOf '-' := by
    intro same
    simp only [Closes, same] at closes
    exact absurd closes (by decide)
  simp only [integer]
  split
  · simp [outside, hyphen]
  · exact outside

def int (stop : Char) (closes : Closes stop) : Format UInt8 Int :=
  .token (byteOf stop) integer ofInteger
    (fun value => not_mem_integer value closes) ofInteger_integer

def byteArray : Format UInt8 Bytes :=
  .token (byteOf ']') array ofArray not_mem_array ofArray_array

private theorem plain_digitChar : ∀ digit < 16,
    plain (Nat.digitChar digit) = true := by
  decide

private theorem plain_of_mem_text {id : Uuid} {char : Char}
    (member : char ∈ id.text.toList) : plain char = true := by
  cases Uuid.mem_text member with
  | inl hyphen =>
      rw [hyphen]
      decide
  | inr digit =>
      obtain ⟨value, bound, rfl⟩ := Uuid.digit_of_mem_hexDigits digit
      exact plain_digitChar value bound

def uuid : Format UInt8 Uuid :=
  .token (byteOf '"') (fun id => bytesOf id.text.toList)
    (fun text => some (Uuid.ofChars (text.map charOf)))
    (fun _ => not_mem_bytesOf (fun _ => plain_of_mem_text) (by decide))
    (by
      intro id
      rw [map_charOf_bytesOf fun _ => plain_of_mem_text, Uuid.ofChars_text])

def field {Value : Type} (mark : String) (format : Format UInt8 Value) :
    Format UInt8 Value :=
  .after (bytesOf mark.toList) format

end Json

end Accord
