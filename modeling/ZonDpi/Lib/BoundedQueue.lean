import Mathlib.Data.List.DropRight

/-!
A queue that keeps the newest elements.

`push` adds an element at the back and, when the queue is full, gives up the one at the
front. A queue that holds the tail of a history still does after a push (`push_rtake`),
and the newest of the newest are the newest (`rtake_rtake`), so whatever is read off the
queue is a tail of the history.
-/

namespace BoundedQueue

variable {α : Type}

def push (capacity : Nat) (queue : List α) (x : α) : List α :=
  (if capacity ≤ queue.length then queue.tail else queue) ++ [x]

variable {capacity n k : Nat} {history : List α}

@[simp] theorem length_rtake : (history.rtake n).length = min n history.length := by
  rw [List.rtake, List.length_drop]
  omega

theorem rtake_of_length_le (short : history.length ≤ n) : history.rtake n = history := by
  rw [List.rtake, Nat.sub_eq_zero_of_le short, List.drop_zero]

theorem rtake_min_length (history : List α) (n : Nat) :
    history.rtake (min n history.length) = history.rtake n := by
  have skipped : history.length - min n history.length = history.length - n := by omega
  rw [List.rtake, skipped, List.rtake]

theorem rtake_rtake : (history.rtake n).rtake k = history.rtake (min k n) := by
  have skipped : history.length - n + (min n history.length - k) = history.length - min k n := by
    omega
  rw [List.rtake, length_rtake, List.rtake, List.drop_drop, skipped, List.rtake]

/-- A push moves the tail of the history along. -/
theorem push_rtake (positive : 0 < capacity) (x : α) :
    push capacity (history.rtake capacity) x = (history ++ [x]).rtake capacity := by
  obtain ⟨n, rfl⟩ := Nat.exists_eq_succ_of_ne_zero positive.ne'
  rw [Nat.succ_eq_add_one, List.rtake_concat_succ, push, length_rtake]
  by_cases full : n + 1 ≤ min (n + 1) history.length
  · have next : history.length - (n + 1) + 1 = history.length - n := by omega
    rw [if_pos full, List.rtake, List.tail_drop, next, List.rtake]
  · have short : history.length ≤ n := by omega
    rw [if_neg full, rtake_of_length_le (Nat.le_succ_of_le short), rtake_of_length_le short]

end BoundedQueue
