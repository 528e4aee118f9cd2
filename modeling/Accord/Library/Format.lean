import Mathlib.Data.List.Basic

/-! Texts that are read back, whatever follows them. -/

structure Format (Symbol Value : Type) where
  write : Value → List Symbol
  read : List Symbol → Option (Value × List Symbol)
  read_write : ∀ value rest, read (write value ++ rest) = some (value, rest)

namespace Format

variable {Symbol Value Other : Type} [DecidableEq Symbol]

def dropMark : List Symbol → List Symbol → Option (List Symbol)
  | [], text => some text
  | _ :: _, [] => none
  | symbol :: mark, first :: text =>
      if symbol = first then dropMark mark text else none

theorem dropMark_append (mark text : List Symbol) :
    dropMark mark (mark ++ text) = some text := by
  induction mark with
  | nil => rfl
  | cons symbol mark induction => simp [dropMark, induction]

/-- What comes before the first stop, and what follows it. -/
def upTo (stop : Symbol) :
    List Symbol → Option (List Symbol × List Symbol)
  | [] => none
  | symbol :: rest =>
      if symbol = stop then some ([], rest)
      else (upTo stop rest).map fun parts => (symbol :: parts.1, parts.2)

theorem upTo_append {stop : Symbol} {text : List Symbol}
    (absent : stop ∉ text) (rest : List Symbol) :
    upTo stop (text ++ stop :: rest) = some (text, rest) := by
  induction text with
  | nil => simp [upTo]
  | cons symbol text induction =>
      rw [List.mem_cons, not_or] at absent
      simp [upTo, Ne.symm absent.1, induction absent.2]

/-- A value that is written in symbols other than the one that ends it. -/
def token (stop : Symbol) (write : Value → List Symbol)
    (read : List Symbol → Option Value)
    (safe : ∀ value, stop ∉ write value)
    (reads : ∀ value, read (write value) = some value) :
    Format Symbol Value where
  write value := write value ++ [stop]
  read text := (upTo stop text).bind fun parts =>
    (read parts.1).map fun value => (value, parts.2)
  read_write := by
    intro value rest
    rw [List.append_assoc, List.singleton_append, upTo_append (safe value)]
    simp [reads]

def after (mark : List Symbol) (format : Format Symbol Value) :
    Format Symbol Value where
  write value := mark ++ format.write value
  read text := (dropMark mark text).bind format.read
  read_write := by
    intro value rest
    rw [List.append_assoc, dropMark_append]
    exact format.read_write value rest

def pair (first : Format Symbol Value) (second : Format Symbol Other) :
    Format Symbol (Value × Other) where
  write both := first.write both.1 ++ second.write both.2
  read text := (first.read text).bind fun one =>
    (second.read one.2).map fun two => ((one.1, two.1), two.2)
  read_write := by
    intro both rest
    rw [List.append_assoc, first.read_write]
    simp [second.read_write]

def convert (format : Format Symbol Value) (view : Other → Value)
    (build : Value → Other) (build_view : ∀ other, build (view other) = other) :
    Format Symbol Other where
  write other := format.write (view other)
  read text := (format.read text).map fun found => (build found.1, found.2)
  read_write := by
    intro other rest
    simp [format.read_write, build_view]

def before (format : Format Symbol Value) (mark : List Symbol) :
    Format Symbol Value where
  write value := format.write value ++ mark
  read text := (format.read text).bind fun found =>
    (dropMark mark found.2).map fun rest => (found.1, rest)
  read_write := by
    intro value rest
    rw [List.append_assoc, format.read_write, Option.bind_some,
      dropMark_append]
    rfl

def apart : List Symbol → List Symbol → Bool
  | symbol :: mark, other :: text => symbol != other || apart mark text
  | _, _ => false

theorem dropMark_apart {mark other : List Symbol}
    (differ : apart mark other = true) (rest : List Symbol) :
    dropMark mark (other ++ rest) = none := by
  induction mark generalizing other with
  | nil => cases differ
  | cons symbol mark induction =>
      cases other with
      | nil => cases differ
      | cons first text =>
          simp only [apart, Bool.or_eq_true, bne_iff_ne] at differ
          rw [List.cons_append, dropMark]
          by_cases same : symbol = first
          · rw [if_pos same]
            exact induction (differ.resolve_left fun other => other same)
          · rw [if_neg same]

theorem apart_append {mark other : List Symbol}
    (differ : apart mark other = true) (text : List Symbol) :
    apart mark (other ++ text) = true := by
  induction mark generalizing other with
  | nil => cases differ
  | cons symbol mark induction =>
      cases other with
      | nil => cases differ
      | cons first rest =>
          simp only [apart, List.cons_append, Bool.or_eq_true] at differ ⊢
          exact differ.imp_right induction

/-- A format under a mark that no text of the other one starts with. -/
def either (mark : List Symbol) (first : Format Symbol Value)
    (second : Format Symbol Other)
    (differ : ∀ other, apart mark (second.write other) = true) :
    Format Symbol (Value ⊕ Other) where
  write
    | .inl value => mark ++ first.write value
    | .inr other => second.write other
  read text :=
    match dropMark mark text with
    | some rest => (first.read rest).map fun found =>
        (.inl found.1, found.2)
    | none => (second.read text).map fun found => (.inr found.1, found.2)
  read_write := by
    intro value rest
    cases value with
    | inl value =>
        simp [List.append_assoc, dropMark_append, first.read_write]
    | inr other =>
        simp [dropMark_apart (differ other), second.read_write]

def readMany (format : Format Symbol Value) :
    ℕ → List Symbol → Option (List Value × List Symbol)
  | 0, text => some ([], text)
  | count + 1, text => (format.read text).bind fun one =>
      (readMany format count one.2).map fun more => (one.1 :: more.1, more.2)

omit [DecidableEq Symbol] in
theorem readMany_flatMap (format : Format Symbol Value) (values : List Value)
    (rest : List Symbol) :
    format.readMany values.length (values.flatMap format.write ++ rest) =
      some (values, rest) := by
  induction values with
  | nil => rfl
  | cons value values induction =>
      simp only [List.length_cons, readMany, List.flatMap_cons,
        List.append_assoc, format.read_write, Option.bind_some, induction,
        Option.map_some]

def list (count : Format Symbol ℕ) (format : Format Symbol Value) :
    Format Symbol (List Value) where
  write values := count.write values.length ++ values.flatMap format.write
  read text := (count.read text).bind fun found =>
    format.readMany found.1 found.2
  read_write := by
    intro values rest
    rw [List.append_assoc, count.read_write, Option.bind_some,
      readMany_flatMap]

/-- The values up to `stop`, each after a `comma`. -/
def readRest (comma stop : Symbol) (format : Format Symbol Value) :
    ℕ → List Symbol → Option (List Value × List Symbol)
  | fuel + 1, symbol :: text =>
      if symbol = stop then
        some ([], text)
      else if symbol = comma then
        (format.read text).bind fun one =>
          (readRest comma stop format fuel one.2).map fun more =>
            (one.1 :: more.1, more.2)
      else
        none
  | _, _ => none

theorem readRest_flatMap {comma stop : Symbol} (differ : comma ≠ stop)
    (format : Format Symbol Value) (values : List Value)
    (rest : List Symbol) {fuel : ℕ} (enough : values.length < fuel) :
    format.readRest comma stop fuel
        (values.flatMap (fun value => comma :: format.write value) ++
          stop :: rest) =
      some (values, rest) := by
  induction values generalizing fuel with
  | nil =>
      cases fuel with
      | zero => cases enough
      | succ fuel => simp [readRest]
  | cons value values induction =>
      cases fuel with
      | zero => cases enough
      | succ fuel =>
          have later := induction (Nat.lt_of_succ_lt_succ enough)
          simp only [List.flatMap_cons, List.cons_append, List.append_assoc,
            readRest, if_neg differ, if_true, format.read_write,
            Option.bind_some, later, Option.map_some]

omit [DecidableEq Symbol] in
/-- Every value takes a symbol at least, so the text is fuel enough. -/
theorem length_lt_flatMap (comma stop : Symbol)
    (format : Format Symbol Value) (values : List Value)
    (rest : List Symbol) :
    values.length < (values.flatMap (fun value =>
      comma :: format.write value) ++ stop :: rest).length := by
  induction values with
  | nil => simp
  | cons value values induction =>
      simp only [List.flatMap_cons, List.cons_append, List.append_assoc,
        List.length_cons, List.length_append] at induction ⊢
      omega

/-- Values with a `comma` between them and `stop` after them.  No value starts
with `stop`. -/
def separated (comma stop : Symbol) (format : Format Symbol Value)
    (differ : comma ≠ stop)
    (starts : ∀ value, apart [stop] (format.write value) = true) :
    Format Symbol (List Value) where
  write
    | [] => [stop]
    | first :: values =>
        format.write first ++
          (values.flatMap (fun value => comma :: format.write value) ++ [stop])
  read text :=
    match dropMark [stop] text with
    | some rest => some ([], rest)
    | none => (format.read text).bind fun one =>
        (format.readRest comma stop one.2.length one.2).map fun more =>
          (one.1 :: more.1, more.2)
  read_write := by
    intro values rest
    cases values with
    | nil => rw [dropMark_append]
    | cons first values =>
        have later := format.readRest_flatMap differ values rest
          (length_lt_flatMap comma stop format values rest)
        rw [List.append_assoc, List.append_assoc, List.singleton_append,
          dropMark_apart (starts first)]
        simp only [format.read_write, Option.bind_some, later,
          Option.map_some]

def unit : Format Symbol Unit where
  write _ := []
  read text := some ((), text)
  read_write _ _ := rfl

def decode (format : Format Symbol Value) (text : List Symbol) :
    Option Value :=
  match format.read text with
  | some (value, []) => some value
  | _ => none

omit [DecidableEq Symbol] in
theorem decode_write (format : Format Symbol Value) (value : Value) :
    format.decode (format.write value) = some value := by
  have whole := format.read_write value []
  rw [List.append_nil] at whole
  simp [decode, whole]

/-- Of a text, at least so much is read as the size of the value. -/
def Consumes (size : Value → ℕ) (format : Format Symbol Value) : Prop :=
  ∀ text value rest, format.read text = some (value, rest) →
    size value + rest.length ≤ text.length

theorem dropMark_length {mark text rest : List Symbol}
    (dropped : dropMark mark text = some rest) :
    rest.length ≤ text.length := by
  induction mark generalizing text with
  | nil =>
      cases dropped
      exact Nat.le_refl _
  | cons symbol mark induction =>
      cases text with
      | nil => cases dropped
      | cons first text =>
          rw [dropMark] at dropped
          split at dropped
          · exact Nat.le_succ_of_le (induction dropped)
          · cases dropped

theorem upTo_length {stop : Symbol} {text front rest : List Symbol}
    (found : upTo stop text = some (front, rest)) :
    rest.length ≤ text.length := by
  induction text generalizing front with
  | nil => cases found
  | cons symbol text induction =>
      rw [upTo] at found
      split at found
      · cases found
        exact Nat.le_succ _
      · obtain ⟨parts, later, same⟩ := Option.map_eq_some_iff.mp found
        cases same
        exact Nat.le_succ_of_le (induction later)

theorem consumes_token {stop : Symbol} {write : Value → List Symbol}
    {read : List Symbol → Option Value}
    {safe : ∀ value, stop ∉ write value}
    {reads : ∀ value, read (write value) = some value} :
    (token stop write read safe reads).Consumes fun _ => 0 := by
  intro text value rest found
  obtain ⟨parts, split, found⟩ := Option.bind_eq_some_iff.mp found
  obtain ⟨_, _, same⟩ := Option.map_eq_some_iff.mp found
  cases same
  rw [Nat.zero_add]
  exact upTo_length split

section Consumes

variable {size : Value → ℕ} {format : Format Symbol Value}
  (consumes : format.Consumes size)

include consumes

theorem Consumes.after (mark : List Symbol) :
    (Format.after mark format).Consumes size := by
  intro text value rest found
  obtain ⟨tail, dropped, read⟩ := Option.bind_eq_some_iff.mp found
  exact Nat.le_trans (consumes tail value rest read)
    (dropMark_length dropped)

omit [DecidableEq Symbol] in
theorem Consumes.pair {other : Other → ℕ} {second : Format Symbol Other}
    (also : second.Consumes other) :
    (format.pair second).Consumes fun both =>
      size both.1 + other both.2 := by
  intro text value rest found
  obtain ⟨one, first, found⟩ := Option.bind_eq_some_iff.mp found
  obtain ⟨two, later, same⟩ := Option.map_eq_some_iff.mp found
  cases same
  have front := consumes text one.1 one.2 first
  have back := also one.2 two.1 two.2 later
  dsimp only
  omega

omit [DecidableEq Symbol] in
theorem Consumes.convert {view : Other → Value} {build : Value → Other}
    {build_view : ∀ other, build (view other) = other} {other : Other → ℕ}
    (same : ∀ value, other (build value) ≤ size value) :
    (format.convert view build build_view).Consumes other := by
  intro text value rest found
  obtain ⟨parts, read, split⟩ := Option.map_eq_some_iff.mp found
  cases split
  have whole := consumes text parts.1 parts.2 read
  have small := same parts.1
  omega

omit [DecidableEq Symbol] in
theorem Consumes.decode {text : List Symbol} {value : Value}
    (read : format.decode text = some value) : size value ≤ text.length := by
  unfold Format.decode at read
  split at read
  · rename_i found
    cases read
    exact consumes text value [] found
  · cases read

end Consumes

end Format
