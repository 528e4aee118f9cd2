import Mathlib.Data.List.Basic

/-! A bounded queue whose senders never wait: a send to a full queue is
dropped. -/

namespace Channel

variable {Item : Type}

def trySend (capacity : ℕ) (queue : List Item) (item : Item) : List Item :=
  if queue.length < capacity then queue ++ [item] else queue

def sendAll (capacity : ℕ) (queue items : List Item) : List Item :=
  items.foldl (trySend capacity) queue

theorem sendAll_eq {capacity : ℕ} {queue : List Item}
    (bounded : queue.length ≤ capacity) (items : List Item) :
    sendAll capacity queue items =
      queue ++ items.take (capacity - queue.length) := by
  induction items generalizing queue with
  | nil => simp [sendAll]
  | cons item rest induction =>
      change sendAll capacity (trySend capacity queue item) rest = _
      unfold trySend
      by_cases room : queue.length < capacity
      · rw [if_pos room, induction (by simp; omega)]
        have less : capacity - queue.length =
            (capacity - (queue ++ [item]).length) + 1 := by
          simp
          omega
        rw [less, List.take_succ_cons, List.append_assoc]
        rfl
      · rw [if_neg room, induction bounded]
        have full : capacity - queue.length = 0 := by omega
        simp [full]

theorem sendAll_nil (capacity : ℕ) (items : List Item) :
    sendAll capacity [] items = items.take capacity := by
  rw [sendAll_eq (Nat.zero_le _), List.nil_append, List.length_nil,
    Nat.sub_zero]

/-- Every item of a kind gets through exactly when none comes after the queue
has filled up. -/
theorem filter_take_iff {View : Type} (view : Item → View) (capacity : ℕ)
    (kind : Item → Bool) (items : List Item) :
    ((items.take capacity).filter kind).map view =
        (items.filter kind).map view ↔
      ∀ item ∈ items.drop capacity, kind item = false := by
  have split : items.filter kind =
      (items.take capacity).filter kind ++
        (items.drop capacity).filter kind := by
    rw [← List.filter_append, List.take_append_drop]
  rw [split, List.map_append]
  constructor
  · intro equality item member
    have none : (items.drop capacity).filter kind = [] := by
      simpa using equality.symm
    rw [List.filter_eq_nil_iff] at none
    simpa using none item member
  · intro absent
    have none : (items.drop capacity).filter kind = [] := by
      rw [List.filter_eq_nil_iff]
      intro item member
      rw [absent item member]
      exact Bool.false_ne_true
    rw [none, List.map_nil, List.append_nil]

end Channel
