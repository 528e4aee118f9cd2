import Accord.Types.Json

/-! Ids and texts as they are read back from a wire: what `Uuid::parse_str`
accepts, and the string literals of JSON. -/

namespace Accord

namespace Uuid

def isHexDigit (char : Char) : Bool :=
  char.isDigit || (65 ≤ char.toNat && char.toNat ≤ 70) ||
    (97 ≤ char.toNat && char.toNat ≤ 102)

def parseSimple (text : List Char) : Option Uuid :=
  if text.length = 32 ∧ text.all isHexDigit then
    some (BitVec.ofNat 128 (ofHex (text.map Char.toLower)))
  else
    none

def parseHyphenated (text : List Char) : Option Uuid :=
  if text.length = 36 ∧
      [8, 13, 18, 23].all fun place => text[place]? == some '-' then
    parseSimple (text.take 8 ++ (text.drop 9).take 4 ++
      (text.drop 14).take 4 ++ (text.drop 19).take 4 ++ text.drop 24)
  else
    none

/-- Plain or hyphenated digits, the latter also in braces or as a URN. -/
def parseStr (text : String) : Option Uuid :=
  let chars := text.toList
  if chars.length = 32 then
    parseSimple chars
  else if chars.length = 36 then
    parseHyphenated chars
  else if chars.length = 38 ∧ chars.head? = some '\x7b' ∧
      chars.getLast? = some '\x7d' then
    parseHyphenated (chars.drop 1).dropLast
  else if "urn:uuid:".toList.isPrefixOf chars then
    parseHyphenated (chars.drop 9)
  else
    none

private theorem length_hexDigits (id : Uuid) : id.hexDigits.length = 32 := by
  simp [hexDigits]

private theorem isHexDigit_digitChar : ∀ digit < 16,
    isHexDigit (Nat.digitChar digit) = true ∧
      (Nat.digitChar digit).toLower = Nat.digitChar digit := by
  decide

private theorem parseSimple_hexDigits (id : Uuid) :
    parseSimple id.hexDigits = some id := by
  have digits : ∀ char ∈ id.hexDigits,
      isHexDigit char = true ∧ char.toLower = char := by
    intro char member
    obtain ⟨digit, bound, rfl⟩ := digit_of_mem_hexDigits member
    exact isHexDigit_digitChar digit bound
  have lower : id.hexDigits.map Char.toLower = id.hexDigits := by
    refine (List.map_congr_left fun char member => ?_).trans
      (List.map_id _)
    exact (digits char member).2
  have all : id.hexDigits.all isHexDigit = true :=
    List.all_eq_true.mpr fun char member => (digits char member).1
  have bound : id.toNat < 16 ^ 32 := id.isLt
  rw [parseSimple, if_pos ⟨length_hexDigits id, all⟩, lower]
  have value : ofHex id.hexDigits = id.toNat % 16 ^ 32 :=
    ofHex_digits id.toNat 32
  rw [value, Nat.mod_eq_of_lt bound, BitVec.ofNat_toNat,
    BitVec.setWidth_eq]

private theorem parseHyphenated_groups {a b c d e : List Char}
    (lengthA : a.length = 8)
    (lengthB : b.length = 4) (lengthC : c.length = 4) (lengthD : d.length = 4)
    (lengthE : e.length = 12) :
    parseHyphenated (a ++ '-' :: b ++ '-' :: c ++ '-' :: d ++ '-' :: e) =
      parseSimple (a ++ b ++ c ++ d ++ e) := by
  have hyphens : (a ++ '-' :: b ++ '-' :: c ++ '-' :: d ++
      '-' :: e).length = 36 ∧
      [8, 13, 18, 23].all (fun place => (a ++ '-' :: b ++ '-' :: c ++
        '-' :: d ++ '-' :: e)[place]? == some '-') = true := by
    simp [List.getElem?_append, List.getElem?_cons, lengthA, lengthB,
      lengthC, lengthD, lengthE]
  rw [parseHyphenated, if_pos hyphens]
  congr 1
  simp [List.drop_append, lengthA, lengthB, lengthC, lengthD,
    List.drop_of_length_le]

theorem parseStr_text (id : Uuid) : parseStr id.text = some id := by
  have length := length_hexDigits id
  have groups := parseHyphenated_groups (a := id.hexDigits.take 8)
    (b := (id.hexDigits.drop 8).take 4) (c := (id.hexDigits.drop 12).take 4)
    (d := (id.hexDigits.drop 16).take 4) (e := id.hexDigits.drop 20)
    (by simp [length]) (by simp [length]) (by simp [length])
    (by simp [length]) (by simp [length])
  rw [groups_hexDigits, parseSimple_hexDigits] at groups
  have whole : id.text.toList.length = 36 := by
    simp [text, length]
  rw [parseStr, if_neg (by omega), if_pos whole]
  simpa only [text, String.toList_ofList] using groups

end Uuid

namespace Json

def quote : UInt8 := 0x22

def backslash : UInt8 := 0x5c

def hexByte (digit : ℕ) : UInt8 := byteOf (Nat.digitChar digit)

def escape (byte : UInt8) : Bytes :=
  if byte = quote then [backslash, quote]
  else if byte = backslash then [backslash, backslash]
  else if byte = 0x08 then [backslash, byteOf 'b']
  else if byte = 0x09 then [backslash, byteOf 't']
  else if byte = 0x0a then [backslash, byteOf 'n']
  else if byte = 0x0c then [backslash, byteOf 'f']
  else if byte = 0x0d then [backslash, byteOf 'r']
  else if byte.toNat < 0x20 then
    [backslash, byteOf 'u', byteOf '0', byteOf '0',
      hexByte (byte.toNat / 16), hexByte (byte.toNat % 16)]
  else [byte]

def unescape (code : UInt8) : UInt8 :=
  if code = byteOf 'b' then 0x08
  else if code = byteOf 't' then 0x09
  else if code = byteOf 'n' then 0x0a
  else if code = byteOf 'f' then 0x0c
  else if code = byteOf 'r' then 0x0d
  else code

def hexOf (high low : UInt8) : UInt8 :=
  UInt8.ofNat (Uuid.ofHex [charOf high, charOf low])

/-- The bytes up to the closing quote, and what follows it. -/
def readLiteral : Bytes → Option (Bytes × Bytes)
  | [] => none
  | byte :: rest =>
      if byte = quote then
        some ([], rest)
      else if byte = backslash then
        match rest with
        | [] => none
        | code :: rest =>
            if code = byteOf 'u' then
              match rest with
              | _ :: _ :: high :: low :: rest =>
                  (readLiteral rest).map fun found =>
                    (hexOf high low :: found.1, found.2)
              | _ => none
            else
              (readLiteral rest).map fun found =>
                (unescape code :: found.1, found.2)
      else
        (readLiteral rest).map fun found => (byte :: found.1, found.2)

private theorem hexOf_hexByte : ∀ value < 0x20,
    hexOf (hexByte (value / 16)) (hexByte (value % 16)) =
      UInt8.ofNat value := by
  decide

private theorem readLiteral_unescape {code : UInt8} (short : code ≠ byteOf 'u')
    (rest : Bytes) :
    readLiteral (backslash :: code :: rest) =
      (readLiteral rest).map fun found =>
        (unescape code :: found.1, found.2) := by
  rw [readLiteral.eq_def]
  dsimp only
  rw [if_neg (by decide), if_pos rfl, if_neg short]

private theorem readLiteral_escape (byte : UInt8) (rest : Bytes) :
    readLiteral (escape byte ++ rest) =
      (readLiteral rest).map fun found => (byte :: found.1, found.2) := by
  unfold escape
  split_ifs with isQuote isBackslash isB isT isN isF isR control
  · subst isQuote
    exact readLiteral_unescape (by decide) rest
  · subst isBackslash
    exact readLiteral_unescape (by decide) rest
  · subst isB
    exact readLiteral_unescape (by decide) rest
  · subst isT
    exact readLiteral_unescape (by decide) rest
  · subst isN
    exact readLiteral_unescape (by decide) rest
  · subst isF
    exact readLiteral_unescape (by decide) rest
  · subst isR
    exact readLiteral_unescape (by decide) rest
  · have read := hexOf_hexByte byte.toNat control
    rw [UInt8.ofNat_toNat] at read
    simp only [List.cons_append, List.nil_append]
    rw [readLiteral.eq_def]
    dsimp only
    rw [if_neg (by decide), if_pos rfl, if_pos rfl, read]
  · rw [List.singleton_append, readLiteral.eq_def]
    dsimp only
    rw [if_neg isQuote, if_neg isBackslash]

private theorem readLiteral_flatMap (bytes rest : Bytes) :
    readLiteral (bytes.flatMap escape ++ quote :: rest) =
      some (bytes, rest) := by
  induction bytes with
  | nil =>
      rw [List.flatMap_nil, List.nil_append, readLiteral.eq_def]
      exact if_pos rfl
  | cons byte bytes induction =>
      rw [List.flatMap_cons, List.append_assoc, readLiteral_escape,
        induction]
      rfl

private theorem length_of_map_cons {byte : UInt8}
    {tail : Option (Bytes × Bytes)}
    {size : ℕ} {found rest : Bytes}
    (small : ∀ {found rest : Bytes}, tail = some (found, rest) →
      found.length + rest.length ≤ size)
    (read : (tail.map fun found => (byte :: found.1, found.2)) =
      some (found, rest)) :
    found.length + rest.length ≤ size + 1 := by
  obtain ⟨parts, same, split⟩ := Option.map_eq_some_iff.mp read
  have shorter := small same
  cases split
  rw [List.length_cons]
  omega

private theorem readLiteral_length {text found rest : Bytes}
    (read : readLiteral text = some (found, rest)) :
    found.length + rest.length ≤ text.length := by
  fun_induction readLiteral text generalizing found rest with
  | case1 => cases read
  | case2 =>
      cases read
      simp
  | case3 => cases read
  | case4 _ _ _ _ _ _ induction =>
      have grown := length_of_map_cons induction read
      simp only [List.length_cons]
      omega
  | case5 => cases read
  | case6 _ _ _ _ induction =>
      have grown := length_of_map_cons induction read
      simp only [List.length_cons]
      omega
  | case7 _ _ _ _ induction =>
      exact length_of_map_cons induction read

def utf8 (text : String) : Bytes := text.toByteArray.data.toList

def ofUtf8 (bytes : Bytes) : Option String :=
  String.fromUTF8? ⟨bytes.toArray⟩

private theorem ofUtf8_utf8 (text : String) :
    ofUtf8 (utf8 text) = some text := by
  unfold ofUtf8 utf8
  rw [Array.toArray_toList]
  exact dif_pos text.isValidUTF8

def string : Format UInt8 String where
  write text := (utf8 text).flatMap escape ++ [quote]
  read bytes := (readLiteral bytes).bind fun found =>
    (ofUtf8 found.1).map fun text => (text, found.2)
  read_write := by
    intro text rest
    rw [List.append_assoc, List.singleton_append, readLiteral_flatMap]
    simp [ofUtf8_utf8]

private theorem utf8_of_ofUtf8 {bytes : Bytes} {text : String}
    (read : ofUtf8 bytes = some text) : utf8 text = bytes := by
  unfold ofUtf8 String.fromUTF8? at read
  split at read
  · cases read
    exact List.toList_toArray
  · cases read

private theorem consumes_string :
    string.Consumes fun text => (utf8 text).length := by
  intro bytes text rest found
  obtain ⟨parts, literal, found⟩ := Option.bind_eq_some_iff.mp found
  obtain ⟨_, read, same⟩ := Option.map_eq_some_iff.mp found
  cases same
  have whole := readLiteral_length literal
  rwa [← utf8_of_ofUtf8 read] at whole

def quoted : Format UInt8 String := .after [quote] string

theorem consumes_quoted :
    quoted.Consumes fun text => (utf8 text).length :=
  consumes_string.after [quote]

def null : Bytes := bytesOf "null".toList

/-- `null`, or a text in quotes. -/
def nullable : Format UInt8 (Option String) :=
  .convert (.either null .unit quoted fun _ => rfl)
    (fun
      | some text => .inr text
      | none => .inl ())
    (fun
      | .inr text => some text
      | .inl _ => none)
    (by
      intro text
      cases text <;> rfl)

def texts : Format UInt8 (List String) :=
  .after [byteOf '[']
    (.separated (byteOf ',') (byteOf ']') quoted (by decide) fun _ => rfl)

def ofBounded (limit : ℕ) (text : Bytes) : Option ℕ :=
  (ofNumeral text).bind fun value =>
    if value < limit then some value else none

private theorem ofBounded_numeral {value limit : ℕ} (below : value < limit) :
    ofBounded limit (numeral value) = some value := by
  rw [ofBounded, ofNumeral_numeral, Option.bind_some, if_pos below]

def u8 (stop : Char) (closes : Closes stop) : Format UInt8 UInt8 :=
  .token (byteOf stop) (fun value => numeral value.toNat)
    (fun text => (ofBounded (2 ^ 8) text).map UInt8.ofNat)
    (fun _ => not_mem_bytesOf (fun _ => plain_of_mem_toDigits) closes)
    (by
      intro value
      rw [ofBounded_numeral value.toNat_lt, Option.map_some,
        UInt8.ofNat_toNat])

def u16 (stop : Char) (closes : Closes stop) : Format UInt8 UInt16 :=
  .token (byteOf stop) (fun value => numeral value.toNat)
    (fun text => (ofBounded (2 ^ 16) text).map UInt16.ofNat)
    (fun _ => not_mem_bytesOf (fun _ => plain_of_mem_toDigits) closes)
    (by
      intro value
      rw [ofBounded_numeral value.toNat_lt, Option.map_some,
        UInt16.ofNat_toNat])

end Json

end Accord
