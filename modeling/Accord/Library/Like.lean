import Mathlib.Data.List.Infix

/-! Patterns of texts.  One symbol stands for any text, one for any single
symbol, and one makes a literal of the symbol after it. -/

namespace Like

structure Marks (Symbol : Type) where
  many : Symbol
  one : Symbol
  escape : Symbol
  many_ne_escape : many ≠ escape
  one_ne_escape : one ≠ escape

inductive Item (Symbol : Type) where
  | literal (symbol : Symbol)
  | one
  | many
  deriving DecidableEq

variable {Symbol : Type} [DecidableEq Symbol]

/-- What a pattern is read as, unless it ends with the escape. -/
def items (marks : Marks Symbol) : List Symbol → Option (List (Item Symbol))
  | [] => some []
  | symbol :: rest =>
      if symbol = marks.escape then
        match rest with
        | [] => none
        | next :: rest => (items marks rest).map (.literal next :: ·)
      else if symbol = marks.many then
        (items marks rest).map (.many :: ·)
      else if symbol = marks.one then
        (items marks rest).map (.one :: ·)
      else
        (items marks rest).map (.literal symbol :: ·)

section Fits

variable (same : Symbol → Symbol → Bool)

omit [DecidableEq Symbol] in
/-- `same` tells which symbols a literal stands for. -/
def fits : List (Item Symbol) → List Symbol → Bool
  | [], text => text.isEmpty
  | .literal symbol :: items, first :: text =>
      same symbol first && fits items text
  | .one :: items, _ :: text => fits items text
  | .many :: items, text => text.tails.any (fits items)
  | _, _ => false

def starts : List Symbol → List Symbol → Bool
  | [], _ => true
  | symbol :: word, first :: text => same symbol first && starts word text
  | _, _ => false

variable (marks : Marks Symbol)

/-- A pattern that ends with the escape fits nothing. -/
def like (pattern text : List Symbol) : Bool :=
  match items marks pattern with
  | some items => fits same items text
  | none => false

end Fits

/-- An escape before every wildcard, and nothing before an escape. -/
def guarded (marks : Marks Symbol) (word : List Symbol) : List Symbol :=
  word.flatMap fun symbol =>
    if symbol = marks.many ∨ symbol = marks.one then [marks.escape, symbol]
    else [symbol]

section Rules

variable {same : Symbol → Symbol → Bool} {marks : Marks Symbol}

omit [DecidableEq Symbol] in
theorem fits_many (text : List Symbol) : fits same [.many] text = true := by
  rw [fits, List.any_eq_true]
  exact ⟨[], (List.mem_tails _ _).mpr List.nil_suffix, rfl⟩

omit [DecidableEq Symbol] in
theorem fits_of_fits_many {items : List (Item Symbol)} {text : List Symbol}
    (fit : fits same items text = true) :
    fits same (.many :: items) text = true := by
  rw [fits, List.any_eq_true]
  exact ⟨text, (List.mem_tails _ _).mpr (List.suffix_refl text), fit⟩

omit [DecidableEq Symbol] in
theorem fits_word (word text : List Symbol) :
    fits same (word.map .literal ++ [.many]) text = starts same word text := by
  induction word generalizing text with
  | nil => exact fits_many text
  | cons symbol word induction =>
      cases text with
      | nil => rfl
      | cons first text =>
          exact congrArg (same symbol first && ·) (induction text)

omit [DecidableEq Symbol] in
theorem fits_exactly (word text : List Symbol) :
    fits same (word.map .literal) text =
      (starts same word text && word.length == text.length) := by
  induction word generalizing text with
  | nil => cases text <;> rfl
  | cons symbol word induction =>
      cases text with
      | nil => rfl
      | cons first text =>
          rw [List.map_cons, fits, starts, induction]
          simp [Bool.and_assoc]

theorem like_of_items {pattern : List Symbol} {found : List (Item Symbol)}
    (read : items marks pattern = some found) (text : List Symbol) :
    like same marks pattern text = fits same found text := by
  rw [like, read]

theorem starts_beq (word text : List Symbol) :
    starts (· == ·) word text = true ↔ word <+: text := by
  induction word generalizing text with
  | nil => exact iff_of_true rfl List.nil_prefix
  | cons symbol word induction =>
      cases text with
      | nil => simp [starts]
      | cons first text =>
          simp only [starts, Bool.and_eq_true, beq_iff_eq, induction,
            List.cons_prefix_cons]

omit [DecidableEq Symbol] in
theorem starts_of_prefix (reflexive : ∀ symbol, same symbol symbol = true)
    {word text : List Symbol} (front : word <+: text) :
    starts same word text = true := by
  obtain ⟨rest, rfl⟩ := front
  induction word with
  | nil => rfl
  | cons symbol word induction =>
      rw [List.cons_append, starts, reflexive, induction]
      rfl

omit [DecidableEq Symbol] in
theorem starts_map (change : Symbol → Symbol)
    (alike : ∀ symbol, same symbol (change symbol) = true)
    (word : List Symbol) : starts same word (word.map change) = true := by
  induction word with
  | nil => rfl
  | cons symbol word induction =>
      simp only [List.map_cons, starts, alike, induction, Bool.and_self]

theorem items_escape (next : Symbol) (rest : List Symbol) :
    items marks (marks.escape :: next :: rest) =
      (items marks rest).map (.literal next :: ·) := by
  rw [items, if_pos rfl]

theorem items_plain {symbol : Symbol} (escape : symbol ≠ marks.escape)
    (many : symbol ≠ marks.many) (one : symbol ≠ marks.one)
    (rest : List Symbol) :
    items marks (symbol :: rest) =
      (items marks rest).map (.literal symbol :: ·) := by
  rw [items.eq_def]
  dsimp only
  rw [if_neg escape, if_neg many, if_neg one]

theorem items_many (rest : List Symbol) :
    items marks (marks.many :: rest) =
      (items marks rest).map (.many :: ·) := by
  rw [items.eq_def]
  dsimp only
  rw [if_neg marks.many_ne_escape, if_pos rfl]

theorem items_one (different : marks.one ≠ marks.many) (rest : List Symbol) :
    items marks (marks.one :: rest) =
      (items marks rest).map (.one :: ·) := by
  rw [items.eq_def]
  dsimp only
  rw [if_neg marks.one_ne_escape, if_neg different, if_pos rfl]

theorem guarded_wild {symbol : Symbol}
    (wild : symbol = marks.many ∨ symbol = marks.one) (word : List Symbol) :
    guarded marks (symbol :: word) =
      marks.escape :: symbol :: guarded marks word := by
  rw [guarded, List.flatMap_cons, if_pos wild]
  rfl

theorem guarded_tame {symbol : Symbol} (many : symbol ≠ marks.many)
    (one : symbol ≠ marks.one) (word : List Symbol) :
    guarded marks (symbol :: word) = symbol :: guarded marks word := by
  rw [guarded, List.flatMap_cons, if_neg (not_or.mpr ⟨many, one⟩)]
  rfl

theorem guarded_escape (word : List Symbol) :
    guarded marks (marks.escape :: word) =
      marks.escape :: guarded marks word :=
  guarded_tame marks.many_ne_escape.symm marks.one_ne_escape.symm word

theorem mem_guarded {symbol : Symbol} (plain : symbol ≠ marks.escape)
    {word : List Symbol} : symbol ∈ guarded marks word ↔ symbol ∈ word := by
  rw [guarded, List.mem_flatMap]
  constructor
  · rintro ⟨other, member, occurs⟩
    split at occurs <;> grind
  · intro member
    refine ⟨symbol, member, ?_⟩
    split <;> simp

theorem guarded_append (first second : List Symbol) :
    guarded marks (first ++ second) =
      guarded marks first ++ guarded marks second :=
  List.flatMap_append

/-- The symbol after the escape that is put before it, or by itself: a
literal. -/
theorem items_guarded_cons {symbol : Symbol} (plain : symbol ≠ marks.escape)
    (word rest : List Symbol) :
    items marks (guarded marks (symbol :: word) ++ rest) =
      (items marks (guarded marks word ++ rest)).map
        (.literal symbol :: ·) := by
  by_cases wild : symbol = marks.many ∨ symbol = marks.one
  · rw [guarded_wild wild]
    exact items_escape symbol _
  · rw [not_or] at wild
    rw [guarded_tame wild.1 wild.2]
    exact items_plain plain wild.1 wild.2 _

theorem items_guarded {word : List Symbol} (plain : marks.escape ∉ word)
    (rest : List Symbol) :
    items marks (guarded marks word ++ rest) =
      (items marks rest).map (word.map .literal ++ ·) := by
  induction word with
  | nil => simp [guarded]
  | cons symbol word induction =>
      rw [List.mem_cons, not_or] at plain
      rw [items_guarded_cons (Ne.symm plain.1), induction plain.2,
        Option.map_map]
      rfl

end Rules

/-! Where the word has an escape, the pattern fits a text that does not start
with the word. -/

section Decoy

variable (marks : Marks Symbol) (other : Symbol)

def decoy : List Symbol → List Symbol
  | [] => []
  | symbol :: rest =>
      if symbol = marks.escape then
        match rest with
        | [] => [marks.many]
        | next :: rest =>
            if next = marks.many then marks.escape :: decoy rest
            else if next = marks.one then marks.escape :: other :: decoy rest
            else next :: decoy rest
      else symbol :: decoy rest

section Equations

variable {marks other}

theorem decoy_many (rest : List Symbol) :
    decoy marks other (marks.escape :: marks.many :: rest) =
      marks.escape :: decoy marks other rest := by
  rw [decoy, if_pos rfl, if_pos rfl]

theorem decoy_one (wild : marks.one ≠ marks.many) (rest : List Symbol) :
    decoy marks other (marks.escape :: marks.one :: rest) =
      marks.escape :: other :: decoy marks other rest := by
  rw [decoy, if_pos rfl, if_neg wild, if_pos rfl]

theorem decoy_next {next : Symbol} (many : next ≠ marks.many)
    (one : next ≠ marks.one) (rest : List Symbol) :
    decoy marks other (marks.escape :: next :: rest) =
      next :: decoy marks other rest := by
  rw [decoy, if_pos rfl, if_neg many, if_neg one]

theorem decoy_plain {symbol : Symbol} (plain : symbol ≠ marks.escape)
    (rest : List Symbol) :
    decoy marks other (symbol :: rest) =
      symbol :: decoy marks other rest := by
  rw [decoy.eq_def]
  dsimp only
  rw [if_neg plain]

end Equations

theorem length_decoy_le (word : List Symbol) :
    (decoy marks other word).length ≤ word.length := by
  induction word using decoy.induct marks with
  | case1 => exact Nat.le_refl 0
  | case2 => simp [decoy]
  | case3 rest induction =>
      rw [decoy_many]
      simp only [List.length_cons]
      omega
  | case4 rest wild induction =>
      rw [decoy_one wild]
      simp only [List.length_cons]
      omega
  | case5 next rest many one induction =>
      rw [decoy_next many one]
      simp only [List.length_cons]
      omega
  | case6 symbol rest plain induction =>
      rw [decoy_plain plain]
      simp only [List.length_cons]
      omega

variable {marks other}

theorem mem_decoy {word : List Symbol} {symbol : Symbol}
    (member : symbol ∈ decoy marks other word) :
    symbol ∈ word ∨ symbol = other ∨ symbol = marks.many := by
  induction word using decoy.induct marks with
  | case1 => exact .inl member
  | case2 =>
      simp only [decoy, if_true, List.mem_singleton] at member
      exact .inr (.inr member)
  | case3 rest induction =>
      rw [decoy_many, List.mem_cons] at member
      rcases member with rfl | later
      · exact .inl List.mem_cons_self
      · exact (induction later).imp_left fun old =>
          List.mem_cons_of_mem _ (List.mem_cons_of_mem _ old)
  | case4 rest wild induction =>
      rw [decoy_one wild, List.mem_cons, List.mem_cons] at member
      rcases member with rfl | rfl | later
      · exact .inl List.mem_cons_self
      · exact .inr (.inl rfl)
      · exact (induction later).imp_left fun old =>
          List.mem_cons_of_mem _ (List.mem_cons_of_mem _ old)
  | case5 next rest many one induction =>
      rw [decoy_next many one, List.mem_cons] at member
      rcases member with rfl | later
      · exact .inl (List.mem_cons_of_mem _ List.mem_cons_self)
      · exact (induction later).imp_left fun old =>
          List.mem_cons_of_mem _ (List.mem_cons_of_mem _ old)
  | case6 plain rest tame induction =>
      rw [decoy_plain tame, List.mem_cons] at member
      rcases member with rfl | later
      · exact .inl List.mem_cons_self
      · exact (induction later).imp_left (List.mem_cons_of_mem _)

theorem escape_notMem_of_decoy (different : other ≠ marks.one)
    {word : List Symbol} (equal : decoy marks other word = word) :
    marks.escape ∉ word := by
  induction word using decoy.induct marks with
  | case1 => exact List.not_mem_nil
  | case2 =>
      simp only [decoy, if_true, List.cons.injEq, and_true] at equal
      exact absurd equal marks.many_ne_escape
  | case3 rest induction =>
      have shorter := congrArg List.length equal
      have bound := length_decoy_le marks other rest
      rw [decoy_many] at shorter
      simp only [List.length_cons] at shorter
      omega
  | case4 rest wild induction =>
      rw [decoy_one wild, List.cons.injEq, List.cons.injEq] at equal
      exact absurd equal.2.1 different
  | case5 next rest many one induction =>
      have shorter := congrArg List.length equal
      have bound := length_decoy_le marks other rest
      rw [decoy_next many one] at shorter
      simp only [List.length_cons] at shorter
      omega
  | case6 symbol rest plain induction =>
      rw [decoy_plain plain, List.cons.injEq] at equal
      rw [List.mem_cons, not_or]
      exact ⟨Ne.symm plain, induction equal.2⟩

theorem not_prefix_decoy (different : other ≠ marks.one)
    {word : List Symbol} (escaped : marks.escape ∈ word) :
    ¬word <+: decoy marks other word := by
  intro starts
  have equal := starts.eq_of_length_le (length_decoy_le marks other word)
  exact escape_notMem_of_decoy different equal.symm escaped

theorem fits_decoy {same : Symbol → Symbol → Bool}
    (reflexive : ∀ symbol, same symbol symbol = true) (word : List Symbol) :
    ∃ found, items marks (guarded marks word ++ [marks.many]) = some found ∧
      fits same found (decoy marks other word) = true := by
  induction word using decoy.induct marks with
  | case1 => exact ⟨[.many], items_many [], fits_many _⟩
  | case2 =>
      refine ⟨[.literal marks.many], ?_, ?_⟩
      · rw [guarded_escape]
        exact items_escape marks.many []
      · simp [decoy, fits, reflexive]
  | case3 rest induction =>
      obtain ⟨found, read, fit⟩ := induction
      refine ⟨.literal marks.escape :: .many :: found, ?_, ?_⟩
      · rw [guarded_escape, guarded_wild (.inl rfl), List.cons_append,
          List.cons_append, List.cons_append, items_escape, items_many, read]
        rfl
      · rw [decoy_many, fits, reflexive, Bool.true_and]
        exact fits_of_fits_many fit
  | case4 rest wild induction =>
      obtain ⟨found, read, fit⟩ := induction
      refine ⟨.literal marks.escape :: .one :: found, ?_, ?_⟩
      · rw [guarded_escape, guarded_wild (.inr rfl), List.cons_append,
          List.cons_append, List.cons_append, items_escape, items_one wild,
          read]
        rfl
      · rw [decoy_one wild, fits, reflexive, fits, fit]
        rfl
  | case5 next rest many one induction =>
      obtain ⟨found, read, fit⟩ := induction
      refine ⟨.literal next :: found, ?_, ?_⟩
      · rw [guarded_escape, guarded_tame many one, List.cons_append,
          List.cons_append, items_escape, read]
        rfl
      · rw [decoy_next many one, fits, reflexive, fit]
        rfl
  | case6 symbol rest plain induction =>
      obtain ⟨found, read, fit⟩ := induction
      refine ⟨.literal symbol :: found, ?_, ?_⟩
      · rw [items_guarded_cons plain, read]
        rfl
      · rw [decoy_plain plain, fits, reflexive, fit]
        rfl

end Decoy

end Like
