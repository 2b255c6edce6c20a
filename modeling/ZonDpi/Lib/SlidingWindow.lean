import Mathlib.Data.List.Induction

/-!
A limit on events in a sliding window.

A limiter keeps the instants of past events. At each event it forgets those that
lie a window or more back, adds the present one and admits the event if no more
than `limit` are left (`verdicts`). Pruning at every event loses nothing that a
later event could still count (`record_recordAll`), so that an interval of the
window's length, wherever it lies, contains at most `limit` admitted events
(`admitted_le`). Instants are non-decreasing; several events may share one.
-/

namespace SlidingWindow

/-- The instants less than a window before `now`. -/
def recent (window now : Nat) (past : List Nat) : List Nat :=
  past.filter fun t => decide (now - t < window)

/-- What the limiter keeps after an event. -/
def record (window now : Nat) (kept : List Nat) : List Nat := recent window now kept ++ [now]

def recordAll (window : Nat) (kept instants : List Nat) : List Nat :=
  instants.foldl (fun kept now => record window now kept) kept

/-- Each event with the limiter's answer. -/
def verdicts (limit window : Nat) : List Nat → List Nat → List (Nat × Bool)
  | _, [] => []
  | kept, now :: rest =>
      (now, decide ((record window now kept).length ≤ limit)) ::
        verdicts limit window (record window now kept) rest

/-- The admitted events in the interval of the window's length from `start`. -/
def admitted (window start : Nat) (events : List (Nat × Bool)) : List (Nat × Bool) :=
  events.filter fun e => e.2 && (decide (start ≤ e.1) && decide (e.1 < start + window))

section

theorem admitted_append {window start : Nat} (events more : List (Nat × Bool)) :
    admitted window start (events ++ more) =
      admitted window start events ++ admitted window start more :=
  List.filter_append ..

theorem admitted_singleton {window start now : Nat} {ok : Bool} :
    (admitted window start [(now, ok)]).length =
      if ok = true ∧ start ≤ now ∧ now < start + window then 1 else 0 := by
  by_cases counted : ok = true ∧ start ≤ now ∧ now < start + window
  · simp [admitted, counted]
  · rw [if_neg counted, List.length_eq_zero_iff, admitted, List.filter_eq_nil_iff]
    simpa using counted

variable {limit window now : Nat} {kept past instants : List Nat}

@[simp] theorem recordAll_append (more : List Nat) :
    recordAll window kept (instants ++ more) =
      recordAll window (recordAll window kept instants) more :=
  List.foldl_append

theorem verdicts_append (more : List Nat) :
    verdicts limit window kept (instants ++ more) =
      verdicts limit window kept instants ++
        verdicts limit window (recordAll window kept instants) more := by
  induction instants generalizing kept with
  | nil => rfl
  | cons first rest ih => simp [verdicts, recordAll, ih]

@[simp] theorem verdicts_fst : (verdicts limit window kept instants).map Prod.fst = instants := by
  induction instants generalizing kept with
  | nil => rfl
  | cons first rest ih => simp [verdicts, ih]

@[simp] theorem verdicts_length :
    (verdicts limit window kept instants).length = instants.length := by
  rw [← List.length_map Prod.fst, verdicts_fst]

/-- What was pruned at an earlier event is out of the window at a later one. -/
theorem recent_recent {before : Nat} (order : before ≤ now) :
    recent window now (recent window before past) = recent window now past := by
  unfold recent
  rw [List.filter_filter]
  refine List.filter_congr fun t _ => ?_
  rw [Bool.and_eq_left_iff_imp]
  intro inside
  simp only [decide_eq_true_eq] at inside ⊢
  omega

/-- Seen from a later event, the limiter has kept everything that counts. -/
theorem recent_recordAll (sorted : (past ++ [now]).Pairwise (· ≤ ·)) :
    recent window now (recordAll window [] past) = recent window now past := by
  induction past using List.reverseRecOn generalizing now with
  | nil => rfl
  | append_singleton before last ih =>
      have order : last ≤ now :=
        (List.pairwise_append.mp sorted).2.2 last (by simp) now (by simp)
      have earlier : (before ++ [last]).Pairwise (· ≤ ·) := (List.pairwise_append.mp sorted).1
      have step : recordAll window [] (before ++ [last]) = recent window last before ++ [last] := by
        rw [recordAll_append, ← ih earlier]
        rfl
      rw [step]
      unfold recent
      rw [List.filter_append, List.filter_append]
      exact congrArg (· ++ _) (recent_recent order)

/-- An event is admitted exactly when, with it, no more than `limit` events lie
within the last window. -/
theorem record_recordAll (sorted : (past ++ [now]).Pairwise (· ≤ ·)) :
    record window now (recordAll window [] past) = recent window now past ++ [now] := by
  rw [record, recent_recordAll sorted]

/-- Events of an interval that ends before `now` are recent at `now`. -/
theorem admitted_length_le (limit : Nat) (instants : List Nat) {start : Nat}
    (inside : now < start + window) :
    (admitted window start (verdicts limit window [] instants)).length ≤
      (recent window now instants).length := by
  have within (e : Nat × Bool) (counted : (e.2 && (decide (start ≤ e.1) &&
      decide (e.1 < start + window))) = true) : decide (now - e.1 < window) = true := by
    simp only [Bool.and_eq_true, decide_eq_true_eq] at counted ⊢
    omega
  calc (admitted window start (verdicts limit window [] instants)).length
      ≤ ((verdicts limit window [] instants).filter fun e =>
          decide (now - e.1 < window)).length := by
        rw [admitted, ← List.countP_eq_length_filter, ← List.countP_eq_length_filter]
        exact List.countP_mono_left fun e _ => within e
    _ = (((verdicts limit window [] instants).map Prod.fst).filter fun t =>
          decide (now - t < window)).length := by
        rw [List.filter_map, List.length_map]
        rfl
    _ = (recent window now instants).length := by
        rw [verdicts_fst, recent]

/-- No interval of the window's length holds more than `limit` admitted events. -/
theorem admitted_le (limit window start : Nat) (sorted : instants.Pairwise (· ≤ ·)) :
    (admitted window start (verdicts limit window [] instants)).length ≤ limit := by
  induction instants using List.reverseRecOn with
  | nil => exact Nat.zero_le limit
  | append_singleton before now ih =>
      have earlier := ih (List.pairwise_append.mp sorted).1
      have last : verdicts limit window (recordAll window [] before) [now] =
          [(now, decide ((recent window now before ++ [now]).length ≤ limit))] := by
        rw [verdicts, record_recordAll sorted]
        rfl
      rw [verdicts_append, last, admitted_append, List.length_append, admitted_singleton]
      simp only [List.length_append, List.length_singleton, decide_eq_true_eq]
      -- the last event counts only if it was admitted, and then all the others are recent
      split
      · rename_i counted
        have others := admitted_length_le limit before counted.2.2
        omega
      · exact earlier

end

end SlidingWindow
