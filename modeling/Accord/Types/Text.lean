import Mathlib.Algebra.Group.Int.Defs
import Mathlib.Algebra.Group.Nat.Defs

/-! Identifiers and texts as they travel in requests and rows. -/

namespace Accord

abbrev Bytes := List UInt8

abbrev Uuid := BitVec 128

namespace Uuid

def hexDigits (id : Uuid) : List Char :=
  (List.range 32).map fun index =>
    Nat.digitChar ((id.toNat >>> (4 * (31 - index))) % 16)

/-- The hyphenated form `Uuid::to_string` prints. -/
def text (id : Uuid) : String :=
  let digits := id.hexDigits
  String.ofList (digits.take 8 ++ '-' :: (digits.drop 8).take 4 ++
    '-' :: (digits.drop 12).take 4 ++ '-' :: (digits.drop 16).take 4 ++
    '-' :: digits.drop 20)

end Uuid

/-- The text of an id field, up to what `Uuid::parse_str` makes of it. -/
inductive IdText where
  | uuid (id : Uuid)
  | malformed
  deriving DecidableEq

def IdText.parse : IdText → Option Uuid
  | .uuid id => some id
  | .malformed => none

/-- All ids of a list, or nothing if one of them does not parse. -/
def IdText.parseAll : List IdText → Option (List Uuid)
  | [] => some []
  | text :: rest =>
      match text.parse, parseAll rest with
      | some id, some ids => some (id :: ids)
      | _, _ => none

theorem IdText.parseAll_length {texts : List IdText} {ids : List Uuid}
    (parsed : IdText.parseAll texts = some ids) :
    ids.length = texts.length := by
  induction texts generalizing ids with
  | nil =>
      cases parsed
      rfl
  | cons text rest induction =>
      unfold IdText.parseAll at parsed
      split at parsed
      · rename_i id tail _ tailParsed
        cases parsed
        simp [induction tailParsed]
      · cases parsed

/-- The Unicode `White_Space` property, which `str::trim` strips. -/
def isWhitespace (char : Char) : Bool :=
  let code := char.toNat
  (9 ≤ code && code ≤ 13) || code == 0x20 || code == 0x85 || code == 0xa0 ||
    code == 0x1680 || (0x2000 ≤ code && code ≤ 0x200a) || code == 0x2028 ||
    code == 0x2029 || code == 0x202f || code == 0x205f || code == 0x3000

def trim (text : String) : String :=
  String.ofList
    (((text.toList.dropWhile isWhitespace).reverse.dropWhile
      isWhitespace).reverse)

def Solid (text : String) : Prop :=
  ∀ char ∈ text.toList, isWhitespace char = false

def Blank (text : String) : Prop :=
  ∀ char ∈ text.toList, isWhitespace char = true

instance (text : String) : Decidable (Solid text) :=
  List.decidableBAll _ text.toList

instance (text : String) : Decidable (Blank text) :=
  List.decidableBAll _ text.toList

private theorem dropWhile_blank {blank solid : List Char}
    (blanks : ∀ char ∈ blank, isWhitespace char = true)
    (solids : ∀ char ∈ solid, isWhitespace char = false) :
    (blank ++ solid).dropWhile isWhitespace = solid := by
  rw [List.dropWhile_append_of_pos blanks]
  cases solid with
  | nil => rfl
  | cons char rest =>
      rw [List.dropWhile_cons, solids char List.mem_cons_self]
      rfl

theorem trim_between {before text after : String} (blankBefore : Blank before)
    (solid : Solid text) (blankAfter : Blank after) :
    trim (before ++ text ++ after) = text := by
  have stripped : ((((before.toList ++ text.toList ++
      after.toList).dropWhile isWhitespace).reverse.dropWhile
        isWhitespace).reverse) = text.toList := by
    cases chars : text.toList with
    | nil =>
        -- Everything is blank and goes from the front.
        have blanks : ∀ char ∈ before.toList ++ after.toList,
            isWhitespace char = true := by
          intro char member
          rcases List.mem_append.mp member with first | last
          · exact blankBefore char first
          · exact blankAfter char last
        have gone := @dropWhile_blank _ [] blanks (by simp)
        rw [List.append_nil] at gone
        rw [List.append_nil, gone]
        rfl
    | cons char rest =>
        have solids : ∀ other ∈ char :: rest, isWhitespace other = false := by
          rw [← chars]
          exact solid
        have front : (before.toList ++ (char :: rest) ++
            after.toList).dropWhile isWhitespace =
              (char :: rest) ++ after.toList := by
          rw [List.append_assoc, List.dropWhile_append_of_pos blankBefore,
            List.cons_append, List.dropWhile_cons,
            solids char List.mem_cons_self]
          rfl
        rw [front, List.reverse_append, dropWhile_blank,
          List.reverse_reverse]
        · exact fun other member =>
            blankAfter other (List.mem_reverse.mp member)
        · exact fun other member => solids other (List.mem_reverse.mp member)
  rw [trim, String.toList_append, String.toList_append, stripped,
    String.ofList_toList]

theorem trim_solid {text : String} (solid : Solid text) :
    trim text = text := by
  have empty : Blank "" := by
    intro char member
    cases member
  have between := trim_between empty solid empty
  rwa [String.empty_append, String.append_empty] at between

/-- Decimal digits read from the left, refusing anything above `bound`. -/
def parseDigits (bound : ℕ) : ℕ → List Char → Option ℕ
  | value, [] => some value
  | value, char :: rest =>
      if char.isDigit then
        let next := 10 * value + (char.toNat - '0'.toNat)
        if next ≤ bound then parseDigits bound next rest else none
      else
        none

/-- `str::parse::<u64>`: an optional plus sign and at least one digit. -/
def parseU64 (text : String) : Option (BitVec 64) :=
  let digits :=
    match text.toList with
    | '+' :: rest => rest
    | chars => chars
  if digits.isEmpty then
    none
  else
    (parseDigits (2 ^ 64 - 1) 0 digits).map (BitVec.ofNat 64)

private theorem le_ofDigitChars (digits : List Char) (value : ℕ) :
    value ≤ Nat.ofDigitChars 10 digits value := by
  induction digits generalizing value with
  | nil => exact Nat.le_refl value
  | cons char rest induction =>
      rw [Nat.ofDigitChars_cons]
      have := induction (10 * value + (char.toNat - '0'.toNat))
      omega

/-- Digits are read to the number they stand for, if it is in bounds. -/
private theorem parseDigits_eq {bound value : ℕ} {digits : List Char}
    (all : ∀ char ∈ digits, char.isDigit = true)
    (bounded : Nat.ofDigitChars 10 digits value ≤ bound) :
    parseDigits bound value digits =
      some (Nat.ofDigitChars 10 digits value) := by
  induction digits generalizing value with
  | nil => rw [parseDigits, Nat.ofDigitChars_nil]
  | cons char rest induction =>
      rw [Nat.ofDigitChars_cons] at bounded ⊢
      have within := Nat.le_trans (le_ofDigitChars rest _) bounded
      simp only [parseDigits, all char List.mem_cons_self, within, if_true]
      exact induction
        (fun other member => all other (List.mem_cons_of_mem _ member))
        bounded

theorem isDigit_toString {number : ℕ} {char : Char}
    (member : char ∈ (toString number).toList) : char.isDigit = true := by
  rw [Nat.toString_eq_ofList_toDigits, String.toList_ofList] at member
  exact Nat.isDigit_of_mem_toDigits (by decide) (by decide) member

theorem digit_ne {char mark : Char} (digit : char.isDigit = true)
    (other : mark.isDigit = false) : char ≠ mark := by
  rintro rfl
  rw [digit] at other
  cases other

/-- `str::parse` of an unsigned number no greater than `bound`. -/
def parseUnsigned (bound : ℕ) (text : String) : Option ℕ :=
  let digits :=
    match text.toList with
    | '+' :: rest => rest
    | chars => chars
  if digits.isEmpty then none else parseDigits bound 0 digits

private theorem parseUnsigned_toString {bound number : ℕ}
    (bounded : number ≤ bound) :
    parseUnsigned bound (toString number) = some number := by
  have digits : (toString number).toList = Nat.toDigits 10 number := by
    rw [Nat.toString_eq_ofList_toDigits, String.toList_ofList]
  have unsigned : ∀ rest, (toString number).toList ≠ '+' :: rest := by
    intro rest signed
    have plus : '+' ∈ (toString number).toList := by
      rw [signed]
      exact List.mem_cons_self
    exact absurd (isDigit_toString plus) (by decide)
  have read : parseDigits bound 0 (toString number).toList =
      some number := by
    rw [parseDigits_eq (fun char => isDigit_toString), digits,
      Nat.ofDigitChars_ten_toDigits]
    rwa [digits, Nat.ofDigitChars_ten_toDigits]
  have nonempty : (toString number).toList.isEmpty = false := by
    rw [digits, List.isEmpty_eq_false_iff]
    exact Nat.toDigits_ne_nil
  simp only [parseUnsigned]
  split
  · rename_i empty
    rw [nonempty] at empty
    cases empty
  · exact read

private theorem parseU64_eq (text : String) :
    parseU64 text =
      (parseUnsigned (2 ^ 64 - 1) text).map (BitVec.ofNat 64) := by
  simp only [parseU64, parseUnsigned]
  split <;> split <;> rfl

theorem parseU64_toString (bits : BitVec 64) :
    parseU64 (toString bits.toNat) = some bits := by
  have bounded : bits.toNat ≤ 2 ^ 64 - 1 := Nat.le_sub_one_of_lt bits.isLt
  rw [parseU64_eq, parseUnsigned_toString bounded, Option.map_some,
    BitVec.ofNat_toNat, BitVec.setWidth_eq]

def parseU16 (text : String) : Option UInt16 :=
  (parseUnsigned (2 ^ 16 - 1) text).map UInt16.ofNat

theorem parseU16_toString (port : UInt16) :
    parseU16 (toString port.toNat) = some port := by
  have bounded : port.toNat ≤ 2 ^ 16 - 1 :=
    Nat.le_sub_one_of_lt port.toNat_lt
  rw [parseU16, parseUnsigned_toString bounded, Option.map_some,
    UInt16.ofNat_toNat]

theorem solid_toString (number : ℕ) : Solid (toString number) := by
  intro char member
  have digit := isDigit_toString member
  rw [Char.isDigit_iff_toNat] at digit
  change 48 ≤ char.toNat ∧ char.toNat ≤ 57 at digit
  simp only [isWhitespace, Bool.or_eq_false_iff, Bool.and_eq_false_iff,
    decide_eq_false_iff_not, beq_eq_false_iff_ne, ne_eq]
  omega

/-- `as i32`: the low 32 bits as a signed number. -/
def asI32 (value : Int) : Int := value.bmod (2 ^ 32)

def i32Max : Int := 2 ^ 31 - 1

theorem asI32_of_bounds {value : Int} (nonneg : 0 ≤ value)
    (bounded : value ≤ i32Max) : asI32 value = value := by
  unfold asI32
  rw [Int.bmod_eq_of_le] <;> simp [i32Max] at * <;> omega

end Accord
