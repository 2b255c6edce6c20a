import Mathlib.Algebra.Order.Ring.Int
import Mathlib.Data.List.Induction
import Mathlib.Logic.Function.Basic

/-!
Tables whose records are taken once and expire.

A record is added under a key that has none, and taken away when it is asked for. Old
records are swept out, but not more often than once in an interval, and only when the table
is used. So a record that nobody asks for is certain to be there for one interval
(`record_run_of`) and certain to be gone after two (`age_lt`); what is there was added under
its key and not asked for since (`record_run`).
-/

namespace Expiring

/-- What is kept under a key, with the time at which it was added. -/
structure Table (κ ν : Type) where
  lastCleanup : ℤ
  record : κ → Option (ℤ × ν)

inductive Op (κ ν : Type) where
  | idle
  | add (key : κ) (value : ν)
  | take (key : κ)

variable {κ ν : Type} [DecidableEq κ]

namespace Table

def empty : Table κ ν := ⟨0, fun _ => none⟩

/-- The first call only starts the clock. -/
def cleanup (interval now : ℤ) (t : Table κ ν) : Table κ ν :=
  if t.lastCleanup = 0 then { t with lastCleanup := now }
  else if interval ≤ now - t.lastCleanup then
    ⟨now, fun k => (t.record k).filter fun r => now - r.1 < interval⟩
  else t

def add (now : ℤ) (key : κ) (value : ν) (t : Table κ ν) : Option (Table κ ν) :=
  if (t.record key).isSome then none
  else some { t with record := Function.update t.record key (some (now, value)) }

def take (key : κ) (t : Table κ ν) : Option ν × Table κ ν :=
  ((t.record key).map Prod.snd, { t with record := Function.update t.record key none })

/-- Every use sweeps first. -/
def apply (interval : ℤ) (t : Table κ ν) (event : ℤ × Op κ ν) : Table κ ν :=
  let swept := t.cleanup interval event.1
  match event.2 with
  | .idle => swept
  | .add key value => (swept.add event.1 key value).getD swept
  | .take key => (swept.take key).2

def run (interval : ℤ) (events : List (ℤ × Op κ ν)) : Table κ ν :=
  events.foldl (apply interval) empty

variable {interval now : ℤ} {t : Table κ ν} {key : κ} {r : ℤ × ν}

@[simp] theorem run_nil : run interval ([] : List (ℤ × Op κ ν)) = empty := rfl

theorem run_snoc (events : List (ℤ × Op κ ν)) (event : ℤ × Op κ ν) :
    run interval (events ++ [event]) = (run interval events).apply interval event := by
  rw [run, List.foldl_append]
  rfl

/-! ### One use -/

omit [DecidableEq κ] in
theorem record_of_cleanup (kept : (t.cleanup interval now).record key = some r) :
    t.record key = some r := by
  unfold cleanup at kept
  split_ifs at kept
  · exact kept
  · exact (Option.filter_eq_some_iff.mp kept).1
  · exact kept

omit [DecidableEq κ] in
/-- A young record stays. -/
theorem cleanup_of_young (there : t.record key = some r) (young : now - r.1 < interval) :
    (t.cleanup interval now).record key = some r := by
  unfold cleanup
  split_ifs
  · exact there
  · exact Option.filter_eq_some_iff.mpr ⟨there, decide_eq_true young⟩
  · exact there

theorem record_apply_add {other : κ} {value : ν} :
    (t.apply interval (now, .add other value)).record key =
      if other = key ∧ (t.cleanup interval now).record key = none then some (now, value)
      else (t.cleanup interval now).record key := by
  rw [apply]
  dsimp only
  rw [add]
  by_cases same : other = key
  · subst same
    cases present : (t.cleanup interval now).record other <;> simp [present]
  · have differs : key ≠ other := fun equal => same equal.symm
    split_ifs <;> simp_all

theorem record_apply_take {other : κ} :
    (t.apply interval (now, .take other)).record key =
      if other = key then none else (t.cleanup interval now).record key := by
  rw [apply]
  dsimp only [take]
  by_cases same : other = key
  · subst same
    simp
  · have differs : key ≠ other := fun equal => same equal.symm
    simp [same, differs]

/-- What is there after a use was there before or has just been added. -/
theorem record_of_apply {op : Op κ ν} (there : (t.apply interval (now, op)).record key = some r) :
    ((t.cleanup interval now).record key = some r ∧ op ≠ .take key) ∨
      ((t.cleanup interval now).record key = none ∧ r.1 = now ∧ op = .add key r.2) := by
  cases op with
  | idle => exact .inl ⟨there, by simp⟩
  | add other value =>
      rw [record_apply_add] at there
      split_ifs at there with added
      · obtain ⟨rfl, free⟩ := added
        cases there
        exact .inr ⟨free, rfl, rfl⟩
      · exact .inl ⟨there, by simp⟩
  | take other =>
      rw [record_apply_take] at there
      split_ifs at there with same
      exact .inl ⟨there, by simpa using same⟩

/-- A young record that is not asked for is there after a use as before. -/
theorem apply_of_young {op : Op κ ν} (there : t.record key = some r)
    (young : now - r.1 < interval) (untaken : op ≠ .take key) :
    (t.apply interval (now, op)).record key = some r := by
  have kept := cleanup_of_young there young
  cases op with
  | idle => exact kept
  | add other value =>
      rw [record_apply_add, kept]
      simp
  | take other =>
      have other : ¬ other = key := fun same => untaken (congrArg _ same)
      rw [record_apply_take, if_neg other, kept]

/-! ### Histories -/

/-- A record was added under its key and not asked for since. -/
theorem record_run {events : List (ℤ × Op κ ν)}
    (there : (run interval events).record key = some r) :
    ∃ before after, events = before ++ (r.1, .add key r.2) :: after ∧
      ((run interval before).cleanup interval r.1).record key = none ∧
      ∀ event ∈ after, event.2 ≠ .take key := by
  induction events using List.reverseRecOn with
  | nil => cases there
  | append_singleton events event ih =>
      obtain ⟨now, op⟩ := event
      rw [run_snoc] at there
      obtain ⟨kept, untaken⟩ | ⟨free, rfl, rfl⟩ := record_of_apply there
      · obtain ⟨before, after, rfl, free, others⟩ := ih (record_of_cleanup kept)
        refine ⟨before, after ++ [(now, op)], by simp, free, ?_⟩
        intro event member
        obtain later | last := List.mem_append.mp member
        · exact others event later
        · rw [List.mem_singleton.mp last]
          exact untaken
      · exact ⟨events, [], rfl, free, by simp⟩

/-- What was added is there for an interval, unless it is asked for. -/
theorem record_run_of {before after : List (ℤ × Op κ ν)} {value : ν}
    (free : ((run interval before).cleanup interval now).record key = none)
    (untaken : ∀ event ∈ after, event.2 ≠ .take key)
    (young : ∀ event ∈ after, event.1 - now < interval) :
    (run interval (before ++ (now, .add key value) :: after)).record key = some (now, value) := by
  induction after using List.reverseRecOn with
  | nil => rw [run_snoc, record_apply_add, if_pos ⟨rfl, free⟩]
  | append_singleton after event ih =>
      have earlier := ih (fun event member => untaken event (List.mem_append_left _ member))
        fun event member => young event (List.mem_append_left _ member)
      have last : event ∈ after ++ [event] := by simp
      rw [← List.cons_append, ← List.append_assoc, run_snoc]
      exact apply_of_young earlier (young event last) (untaken event last)

/-! ### Ages -/

/-- Every use is later than the beginning of time and not before an earlier one. -/
def Clocked (times : List ℤ) : Prop := times.Pairwise (· ≤ ·) ∧ ∀ time ∈ times, 0 < time

/-- The last sweep is less than an interval ago, and left only young records. -/
structure Swept (interval now : ℤ) (t : Table κ ν) : Prop where
  past : t.lastCleanup ≤ now
  idle : t.lastCleanup = 0 → ∀ key, t.record key = none
  recent : t.lastCleanup ≠ 0 → now - t.lastCleanup < interval
  young : ∀ key r, t.record key = some r → t.lastCleanup - r.1 < interval

omit [DecidableEq κ] in
theorem Swept.cleanup {earlier : ℤ} (swept : t.Swept interval earlier) (later : earlier ≤ now)
    (some : 0 < interval) (positive : 0 < now) : (t.cleanup interval now).Swept interval now := by
  obtain ⟨past, idle, recent, young⟩ := swept
  unfold Table.cleanup
  split_ifs with first due
  · refine ⟨le_refl now, ?_, ?_, ?_⟩
    · intro zero
      exact absurd zero positive.ne'
    · intro _
      rwa [sub_self]
    · intro key r there
      rw [idle first key] at there
      cases there
  · refine ⟨le_refl now, ?_, ?_, ?_⟩
    · intro zero
      exact absurd zero positive.ne'
    · intro _
      rwa [sub_self]
    · intro key r there
      exact of_decide_eq_true (Option.filter_eq_some_iff.mp there).2
  · exact ⟨past.trans later, idle, fun _ => not_le.mp due, young⟩

theorem Swept.apply {earlier : ℤ} {op : Op κ ν} (swept : t.Swept interval earlier)
    (later : earlier ≤ now) (some : 0 < interval) (positive : 0 < now) :
    (t.apply interval (now, op)).Swept interval now := by
  have cleaned := swept.cleanup later some positive
  have same : (t.apply interval (now, op)).lastCleanup = (t.cleanup interval now).lastCleanup := by
    cases op with
    | idle => rfl
    | add other value =>
        rw [Table.apply]
        dsimp only
        rw [add]
        split_ifs <;> rfl
    | take other => rfl
  have started : (t.cleanup interval now).lastCleanup ≠ 0 := by
    unfold Table.cleanup
    split_ifs with first
    · exact positive.ne'
    · exact positive.ne'
    · exact first
  refine ⟨?_, ?_, ?_, ?_⟩
  · rw [same]
    exact cleaned.past
  · rw [same]
    intro zero
    exact absurd zero started
  · rw [same]
    exact cleaned.recent
  · rw [same]
    intro key r there
    obtain ⟨kept, -⟩ | ⟨-, added, -⟩ := record_of_apply there
    · exact cleaned.young key r kept
    · have past := cleaned.past
      omega

theorem swept_run {events : List (ℤ × Op κ ν)} {op : Op κ ν} (some : 0 < interval)
    (clocked : Clocked ((events ++ [(now, op)]).map Prod.fst)) :
    (run interval (events ++ [(now, op)])).Swept interval now := by
  induction events using List.reverseRecOn generalizing now op with
  | nil =>
      have positive : 0 < now := clocked.2 now (by simp)
      have started : (empty : Table κ ν).Swept interval 0 :=
        ⟨le_refl 0, fun _ _ => rfl, fun ne => absurd rfl ne, fun _ _ there => by cases there⟩
      exact started.apply positive.le some positive
  | append_singleton events event ih =>
      obtain ⟨earlier, before⟩ := event
      obtain ⟨sorted, positive⟩ := clocked
      rw [List.map_append, List.pairwise_append] at sorted
      have order : earlier ≤ now := sorted.2.2 earlier (by simp) now (by simp)
      have front : Clocked ((events ++ [(earlier, before)]).map Prod.fst) :=
        ⟨sorted.1, fun time member => positive time (by
          rw [List.map_append]
          exact List.mem_append_left _ member)⟩
      rw [run_snoc]
      exact (ih front).apply order some (positive now (by simp))

/-- Under a clock that does not go back, no record is older than two intervals. -/
theorem age_lt {events : List (ℤ × Op κ ν)} {op : Op κ ν} (some : 0 < interval)
    (clocked : Clocked ((events ++ [(now, op)]).map Prod.fst))
    (there : (run interval (events ++ [(now, op)])).record key = .some r) :
    now - r.1 < 2 * interval := by
  have swept := swept_run some clocked
  have young := swept.young key r there
  have started : (run interval (events ++ [(now, op)])).lastCleanup ≠ 0 := by
    intro zero
    rw [swept.idle zero key] at there
    cases there
  have recent := swept.recent started
  omega

/-! ### Events of which some use the table -/

section Events

variable {ε : Type} {op : ε → Option (ℤ × Op κ ν)} {events : List ε}

theorem record_events (there : (run interval (events.filterMap op)).record key = some r) :
    ∃ before e after, events = before ++ e :: after ∧ op e = some (r.1, .add key r.2) ∧
      ((run interval (before.filterMap op)).cleanup interval r.1).record key = none ∧
      ∀ e ∈ after, ∀ time, op e ≠ some (time, .take key) := by
  obtain ⟨before, after, cut, free, untaken⟩ := record_run there
  obtain ⟨front, back, rfl, rfl, rest⟩ := List.filterMap_eq_append_iff.mp cut
  obtain ⟨unused, e, later, rfl, idle, used, rfl⟩ := List.filterMap_eq_cons_iff.mp rest
  refine ⟨front ++ unused, e, later, by simp, used, ?_, ?_⟩
  · rw [List.filterMap_append, List.filterMap_eq_nil_iff.mpr idle, List.append_nil]
    exact free
  · intro e member time taken
    exact untaken _ (List.mem_filterMap.mpr ⟨e, member, taken⟩) rfl

theorem record_events_of {before after : List ε} {e : ε} {value : ν}
    (used : op e = some (now, .add key value))
    (free : ((run interval (before.filterMap op)).cleanup interval now).record key = none)
    (untaken : ∀ e ∈ after, ∀ time, op e ≠ some (time, .take key))
    (young : ∀ e ∈ after, ∀ time use, op e = some (time, use) → time - now < interval) :
    (run interval ((before ++ e :: after).filterMap op)).record key = some (now, value) := by
  rw [List.filterMap_append, List.filterMap_cons_some used]
  refine record_run_of free ?_ ?_
  · rintro ⟨time, use⟩ member rfl
    obtain ⟨e, there, taken⟩ := List.mem_filterMap.mp member
    exact untaken e there time taken
  · rintro ⟨time, use⟩ member
    obtain ⟨e, there, taken⟩ := List.mem_filterMap.mp member
    exact young e there time use taken

omit [DecidableEq κ] in
theorem times_sublist {time : ε → ℤ} (timed : ∀ e use, op e = some use → use.1 = time e)
    (events : List ε) : ((events.filterMap op).map Prod.fst).Sublist (events.map time) := by
  induction events with
  | nil => exact .slnil
  | cons e events ih =>
      cases used : op e with
      | none =>
          rw [List.filterMap_cons_none used]
          exact .cons _ ih
      | some use =>
          rw [List.filterMap_cons_some used, List.map_cons, timed e use used]
          exact ih.cons_cons (time e)

/-- What a sweep leaves is younger than two intervals. -/
theorem events_age_lt {time : ε → ℤ} (timed : ∀ e use, op e = some use → use.1 = time e)
    (some : 0 < interval) (clocked : Clocked (events.map time ++ [now]))
    (there : ((run interval (events.filterMap op)).cleanup interval now).record key = .some r) :
    now - r.1 < 2 * interval := by
  have times := (times_sublist timed events).append_right [now]
  refine @age_lt κ ν _ interval now key r (events.filterMap op) .idle some ?_ ?_
  · rw [List.map_append]
    exact ⟨clocked.1.sublist times, fun time member => clocked.2 time (times.subset member)⟩
  · rw [run_snoc]
    exact there

end Events

end Table

end Expiring
