import Mathlib.Data.List.Basic

/-! Base64 without padding, over any alphabet: three bytes are four values of
six bits, and a last group of one or two bytes is two or three of them. -/

namespace Base64

/-- Symbols for the values below 64, and the values read back from them. -/
structure Alphabet (Symbol : Type) where
  symbol : ℕ → Symbol
  value : Symbol → Option ℕ
  value_symbol : ∀ number < 64, value (symbol number) = some number

/-- The values of six bits.  The bits that a last group leaves over are
zero. -/
def split : List UInt8 → List ℕ
  | first :: second :: third :: rest =>
      first.toNat / 4 :: (first.toNat % 4 * 16 + second.toNat / 16) ::
        (second.toNat % 16 * 4 + third.toNat / 64) :: third.toNat % 64 ::
          split rest
  | [first, second] =>
      [first.toNat / 4, first.toNat % 4 * 16 + second.toNat / 16,
        second.toNat % 16 * 4]
  | [first] => [first.toNat / 4, first.toNat % 4 * 16]
  | [] => []

/-- The bytes of the values.  No group has one value alone, and bits left over
that are not zero are refused. -/
def join : List ℕ → Option (List UInt8)
  | first :: second :: third :: fourth :: rest =>
      (join rest).map fun bytes =>
        UInt8.ofNat (first * 4 + second / 16) ::
          UInt8.ofNat (second % 16 * 16 + third / 4) ::
            UInt8.ofNat (third % 4 * 64 + fourth) :: bytes
  | [first, second, third] =>
      if third % 4 = 0 then
        some [UInt8.ofNat (first * 4 + second / 16),
          UInt8.ofNat (second % 16 * 16 + third / 4)]
      else
        none
  | [first, second] =>
      if second % 16 = 0 then
        some [UInt8.ofNat (first * 4 + second / 16)]
      else
        none
  | [_] => none
  | [] => some []

theorem split_lt (bytes : List UInt8) :
    ∀ number ∈ split bytes, number < 64 := by
  fun_induction split bytes with
  | case1 first second third rest induction =>
      have := first.toNat_lt
      have := second.toNat_lt
      have := third.toNat_lt
      simp only [List.forall_mem_cons]
      refine ⟨?_, ?_, ?_, ?_, induction⟩ <;> omega
  | case2 first second =>
      have := first.toNat_lt
      have := second.toNat_lt
      simp only [List.forall_mem_cons]
      refine ⟨?_, ?_, ?_, by simp⟩ <;> omega
  | case3 first =>
      have := first.toNat_lt
      simp only [List.forall_mem_cons]
      refine ⟨?_, ?_, by simp⟩ <;> omega
  | case4 => simp

theorem ofNat_eq {number : ℕ} {byte : UInt8} (same : number = byte.toNat) :
    UInt8.ofNat number = byte := by
  rw [same, UInt8.ofNat_toNat]

theorem join_split (bytes : List UInt8) : join (split bytes) = some bytes := by
  fun_induction split bytes with
  | case1 first second third rest induction =>
      have := second.toNat_lt
      have := third.toNat_lt
      rw [join, induction, Option.map_some, @ofNat_eq _ first,
        @ofNat_eq _ second, @ofNat_eq _ third] <;> omega
  | case2 first second =>
      have := second.toNat_lt
      rw [join, if_pos, @ofNat_eq _ first, @ofNat_eq _ second] <;> omega
  | case3 first =>
      rw [join, if_pos, @ofNat_eq _ first] <;> omega
  | case4 => rfl

section Texts

variable {Symbol : Type} (alphabet : Alphabet Symbol)

def encode (bytes : List UInt8) : List Symbol :=
  (split bytes).map alphabet.symbol

def decode (text : List Symbol) : Option (List UInt8) :=
  (text.mapM alphabet.value).bind join

theorem mapM_value_symbol {numbers : List ℕ}
    (bounded : ∀ number ∈ numbers, number < 64) :
    (numbers.map alphabet.symbol).mapM alphabet.value = some numbers := by
  induction numbers with
  | nil => rfl
  | cons number rest induction =>
      rw [List.forall_mem_cons] at bounded
      rw [List.map_cons, List.mapM_cons,
        alphabet.value_symbol number bounded.1, induction bounded.2]
      rfl

theorem decode_encode (bytes : List UInt8) :
    decode alphabet (encode alphabet bytes) = some bytes := by
  rw [decode, encode, mapM_value_symbol alphabet (split_lt bytes)]
  exact join_split bytes

theorem encode_injective {first second : List UInt8}
    (same : encode alphabet first = encode alphabet second) :
    first = second := by
  have decoded := congrArg (decode alphabet) same
  rw [decode_encode, decode_encode] at decoded
  exact Option.some.inj decoded

/-- What holds of every symbol of the alphabet holds throughout a text. -/
theorem forall_mem_encode (property : Symbol → Prop)
    (holds : ∀ number < 64, property (alphabet.symbol number))
    (bytes : List UInt8) :
    ∀ symbol ∈ encode alphabet bytes, property symbol := by
  intro symbol member
  obtain ⟨number, inside, rfl⟩ := List.mem_map.mp member
  exact holds number (split_lt bytes number inside)

end Texts

/-! The URL-safe alphabet. -/

def urlSafeSymbol (number : ℕ) : Char :=
  if number < 26 then Char.ofNat ('A'.toNat + number)
  else if number < 52 then Char.ofNat ('a'.toNat + (number - 26))
  else if number < 62 then Char.ofNat ('0'.toNat + (number - 52))
  else if number = 62 then '-'
  else '_'

def urlSafeValue (char : Char) : Option ℕ :=
  if char.isUpper then some (char.toNat - 'A'.toNat)
  else if char.isLower then some (char.toNat - 'a'.toNat + 26)
  else if char.isDigit then some (char.toNat - '0'.toNat + 52)
  else if char = '-' then some 62
  else if char = '_' then some 63
  else none

def urlSafe : Alphabet Char where
  symbol := urlSafeSymbol
  value := urlSafeValue
  value_symbol := by decide

/-- One, two and three bytes, a bit left over, and a value alone. -/
example :
    encode urlSafe [0x66] = "Zg".toList ∧
      encode urlSafe [0xfb, 0xff] = "-_8".toList ∧
      decode urlSafe "Zm9v".toList = some [0x66, 0x6f, 0x6f] ∧
      decode urlSafe "Zh".toList = none ∧
      decode urlSafe "Z".toList = none ∧
      decode urlSafe "Zg==".toList = none := by
  decide

end Base64
