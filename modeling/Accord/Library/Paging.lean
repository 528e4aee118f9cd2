import Mathlib.Data.List.Nodup

/-! Reading a table page by page, newest row first, while rows are added to
it. -/

namespace Paging

section Walk

variable {Cursor Item Row Error : Type}

/-- Page after page, each from the last item of the one before it, until a page
is empty. -/
def walk (fetch : ℕ → Cursor → Except Error (List Item))
    (mark : Item → Cursor) : ℕ → ℕ → Cursor → Except Error (List (List Item))
  | 0, _, _ => .ok []
  | fuel + 1, turn, cursor =>
      match fetch turn cursor with
      | .error error => .error error
      | .ok page =>
          match page.getLast? with
          | none => .ok [page]
          | some last =>
              (walk fetch mark fuel (turn + 1) (mark last)).map (page :: ·)

/-- The page shows as many of the rows that are left as the limit allows. -/
def Serves (fetch : ℕ → Cursor → Except Error (List Item))
    (view : Item → Row) (limit turn : ℕ) (cursor : Cursor)
    (rest : List Row) : Prop :=
  ∃ page, fetch turn cursor = .ok page ∧ page.map view = rest.take limit

variable {fetch : ℕ → Cursor → Except Error (List Item)}
  {mark : Item → Cursor} {view : Item → Row} {limit : ℕ}

theorem walk_empty {fuel turn : ℕ} {cursor : Cursor}
    (served : fetch turn cursor = .ok []) :
    walk fetch mark (fuel + 1) turn cursor = .ok [[]] := by
  simp only [walk, served, List.getLast?_nil]

theorem walk_page {fuel turn : ℕ} {cursor : Cursor} {before : List Item}
    {last : Item} (served : fetch turn cursor = .ok (before ++ [last])) :
    walk fetch mark (fuel + 1) turn cursor =
      (walk fetch mark fuel (turn + 1) (mark last)).map
        ((before ++ [last]) :: ·) := by
  simp only [walk, served, List.getLast?_concat]

/-- If every page goes on where the one before it ended, the pages show every
row in order, and the one after them is empty.  By induction on the fuel, with
the rows that were shown and those that are left. -/
theorem walk_complete (positive : 0 < limit) {rows : List Row}
    (continues : ∀ turn done item rest, rows = done ++ view item :: rest →
      Serves fetch view limit turn (mark item) rest)
    {fuel turn : ℕ} {cursor : Cursor} {done rest : List Row}
    (split : rows = done ++ rest)
    (serves : Serves fetch view limit turn cursor rest)
    (enough : rest.length < fuel) :
    ∃ pages, walk fetch mark fuel turn cursor = .ok (pages ++ [[]]) ∧
      pages.flatten.map view = rest := by
  induction fuel generalizing turn cursor done rest with
  | zero => cases enough
  | succ fuel induction =>
      obtain ⟨page, served, shows⟩ := serves
      rcases List.eq_nil_or_concat' page with rfl | ⟨before, last, rfl⟩
      · have none : rest.take limit = [] := shows.symm
        have spent : rest = [] := by
          rcases List.take_eq_nil_iff.mp none with zero | spent
          · omega
          · exact spent
        exact ⟨[], walk_empty served, by simp [spent]⟩
      · have parted : rest =
            before.map view ++ view last :: rest.drop limit := by
          rw [List.append_cons, ← List.map_singleton, ← List.map_append,
            shows, List.take_append_drop]
        have next : Serves fetch view limit (turn + 1) (mark last)
            (rest.drop limit) := by
          apply continues _ (done ++ before.map view)
          rw [List.append_assoc, ← parted, split]
        have shorter : (rest.drop limit).length < fuel := by
          have counted := congrArg List.length parted
          simp only [List.length_append, List.length_cons] at counted
          omega
        have joined : rows =
            (done ++ (before ++ [last]).map view) ++ rest.drop limit := by
          rw [shows, List.append_assoc, List.take_append_drop, split]
        obtain ⟨pages, walked, shown⟩ := induction joined next shorter
        refine ⟨(before ++ [last]) :: pages, ?_, ?_⟩
        · rw [walk_page served, walked]
          rfl
        · rw [List.flatten_cons, List.map_append, shown, shows,
            List.take_append_drop]

end Walk

section Table

variable {Row : Type} {key : Row → ℕ} {rows : List Row}

def Descending (key : Row → ℕ) (rows : List Row) : Prop :=
  rows.Pairwise fun first second => key second < key first

def newest (key : Row → ℕ) (rows : List Row) : List Row :=
  rows.mergeSort fun first second => key second ≤ key first

theorem newest_perm (key : Row → ℕ) (rows : List Row) :
    (newest key rows).Perm rows :=
  List.mergeSort_perm _ _

theorem newest_ordered (key : Row → ℕ) (rows : List Row) :
    (newest key rows).Pairwise fun first second =>
      decide (key second ≤ key first) = true := by
  apply List.pairwise_mergeSort
  · intro first second third before after
    simp only [decide_eq_true_eq] at before after ⊢
    omega
  · intro first second
    simp only [Bool.or_eq_true, decide_eq_true_eq]
    omega

theorem newest_descending (distinct : (rows.map key).Nodup) :
    Descending key (newest key rows) := by
  have apart : ((newest key rows).map key).Nodup :=
    ((newest_perm key rows).map key).nodup_iff.mpr distinct
  rw [List.Nodup, List.pairwise_map] at apart
  apply (newest_ordered key rows).imp₂ _ apart
  intro first second ordered different
  rw [decide_eq_true_eq] at ordered
  omega

theorem newest_eq {sorted : List Row} (perm : sorted.Perm rows)
    (descending : Descending key sorted) : newest key rows = sorted := by
  have distinct : (rows.map key).Nodup := by
    rw [← (perm.map key).nodup_iff, List.Nodup, List.pairwise_map]
    exact descending.imp fun before => Nat.ne_of_gt before
  apply List.Perm.eq_of_pairwise _ (newest_descending distinct) descending
    ((newest_perm key rows).trans perm.symm)
  intro first second _ _ before after
  omega

theorem newest_filter (distinct : (rows.map key).Nodup)
    (chosen : Row → Bool) :
    newest key (rows.filter chosen) = (newest key rows).filter chosen :=
  newest_eq ((newest_perm key rows).filter chosen)
    ((newest_descending distinct).filter chosen)

theorem Descending.below {done rest : List Row} {row : Row}
    (descending : Descending key (done ++ row :: rest)) :
    (done ++ row :: rest).filter (fun other => key other < key row) =
      rest := by
  unfold Descending at descending
  rw [List.pairwise_append, List.pairwise_cons] at descending
  obtain ⟨-, ⟨after, -⟩, before⟩ := descending
  have above : done.filter (fun other => key other < key row) = [] := by
    rw [List.filter_eq_nil_iff]
    intro other member
    have := before other member row List.mem_cons_self
    simp only [decide_eq_true_eq]
    omega
  have under : rest.filter (fun other => key other < key row) = rest := by
    rw [List.filter_eq_self]
    intro other member
    simpa using after other member
  rw [List.filter_append, above, List.filter_cons_of_neg (by simp), under,
    List.nil_append]

/-- A table at the times its pages are read.  Rows are only ever added, under
keys above those that are there. -/
structure Growing (key : Row → ℕ) (tables : ℕ → List Row) : Prop where
  distinct : ((tables 0).map key).Nodup
  grows : ∀ turn, ∃ new, tables (turn + 1) = tables turn ++ new ∧
    ∀ row ∈ new, ∀ old ∈ tables turn, key old < key row

variable {tables : ℕ → List Row}

theorem Growing.kept (growing : Growing key tables) {row : Row}
    (member : row ∈ tables 0) (turn : ℕ) : row ∈ tables turn := by
  induction turn with
  | zero => exact member
  | succ turn induction =>
      obtain ⟨new, grown, -⟩ := growing.grows turn
      rw [grown]
      exact List.mem_append_left _ induction

theorem Growing.below (growing : Growing key tables) {row : Row}
    (member : row ∈ tables 0) (turn : ℕ) :
    (tables turn).filter (fun other => key other < key row) =
      (tables 0).filter (fun other => key other < key row) := by
  induction turn with
  | zero => rfl
  | succ turn induction =>
      obtain ⟨new, grown, later⟩ := growing.grows turn
      have above : new.filter (fun other => key other < key row) = [] := by
        rw [List.filter_eq_nil_iff]
        intro other added
        have := later other added row (growing.kept member turn)
        simp only [decide_eq_true_eq]
        omega
      rw [grown, List.filter_append, above, List.append_nil, induction]

theorem Growing.newest_below (growing : Growing key tables)
    (kind : Row → Bool) {done rest : List Row} {row : Row}
    (split : newest key ((tables 0).filter kind) = done ++ row :: rest)
    (turn : ℕ) :
    newest key ((tables turn).filter fun other =>
      kind other && key other < key row) = rest := by
  have distinct : (((tables 0).filter kind).map key).Nodup :=
    growing.distinct.sublist (List.filter_sublist.map key)
  have listed : row ∈ (tables 0).filter kind := by
    rw [← (newest_perm key _).mem_iff, split]
    simp
  have member := (List.mem_filter.mp listed).1
  have same : (tables turn).filter (fun other =>
      kind other && key other < key row) =
        ((tables 0).filter kind).filter (fun other => key other < key row) := by
    rw [← List.filter_filter, growing.below member, List.filter_filter,
      List.filter_filter]
    simp only [Bool.and_comm]
  rw [same, newest_filter distinct, split]
  apply Descending.below
  rw [← split]
  exact newest_descending distinct

theorem filter_countP_above (ascending : rows.Pairwise (key · < key ·))
    (count : ℕ) :
    rows.filter (fun row => rows.countP (key row < key ·) < count) =
      rows.drop (rows.length - count) := by
  induction rows with
  | nil => exact List.drop_nil.symm
  | cons row rest induction =>
      obtain ⟨below, ordered⟩ := List.pairwise_cons.mp ascending
      have first : (row :: rest).countP (key row < key ·) = rest.length := by
        rw [List.countP_cons_of_neg (by simp), List.countP_eq_length]
        exact fun other member => decide_eq_true (below other member)
      have others : ∀ other ∈ rest,
          decide ((row :: rest).countP (key other < key ·) < count) =
            decide (rest.countP (key other < key ·) < count) := by
        intro other member
        rw [List.countP_cons_of_neg]
        simpa using Nat.le_of_lt (below other member)
      rw [List.filter_cons, first, List.filter_congr others,
        induction ordered, List.length_cons]
      simp only [decide_eq_true_eq]
      split_ifs with kept
      · have none : rest.length - count = 0 := by omega
        have all : rest.length + 1 - count = 0 := by omega
        rw [none, all, List.drop_zero, List.drop_zero]
      · have more : rest.length + 1 - count = rest.length - count + 1 := by
          omega
        rw [more, List.drop_succ_cons]

end Table

end Paging
