import Mathlib.Data.Int.Notation
import Mathlib.Data.Nat.Notation
import ZonDpi.Lib.LinkedList

/-!
The timers of the event pool: `set_timer` and `remove_timer` of `conev.c`.

The events whose timers run are linked up from `tv_start` to `tv_end`. A new timer is placed by a
search from the end, so the list stays in the order of the deadlines, and what stands at
`tv_start` has the least. `Timers.Fine` says what the pointers are for: of the events that are in
use, exactly those with a deadline are in the list. Every operation keeps it and changes the
deadlines as its name says.
-/

namespace ZonDpi.Byedpi

open LinkedList

/-- The timer fields of the events, and the two ends of the list. -/
structure Timers (α : Type) where
  tvMs : α → ℤ
  tv : Links α
  tvStart : Option α
  tvEnd : Option α

variable {α : Type}

/-- A `long` of Windows, which wraps round at 32 bits. -/
def wrapLong (n : ℤ) : ℤ := n.bmod 4294967296

/-- The field `tv_ms` of a timer that is set to run for `ms`. -/
def deadlineOf (now ms : ℤ) : ℤ := wrapLong (now + ms)

/-- The loop of `set_timer`, which goes back while the timers are due no earlier. The result is
what stands behind the place and before it. -/
def findPlace (tvMs : α → ℤ) (tv : Links α) (ms : ℤ) :
    ℕ → Option α → Option α → Option (Option α × Option α)
  | 0, _, _ => none
  | fuel + 1, next, prev =>
      match prev with
      | none => some (next, none)
      | some p =>
          if ms ≤ tvMs p then findPlace tvMs tv ms fuel (some p) (tv.prev p)
          else some (next, some p)

section Operations

variable [DecidableEq α]

/-- There are at most `bound` timers to go past. -/
def setTimer (bound : ℕ) (now : ℤ) (t : Timers α) (val : α) (ms : ℤ) : Option (Timers α) :=
  if t.tvMs val ≠ 0 then some t
  else
    let tvMs := Function.update t.tvMs val (deadlineOf now ms)
    (findPlace tvMs t.tv (deadlineOf now ms) (bound + 1) none t.tvEnd).map fun (next, prev) =>
      { tvMs
        tv := t.tv.insert val prev next
        tvStart := if t.tvStart = none ∨ next = t.tvStart then some val else t.tvStart
        tvEnd := if t.tvEnd = none ∨ prev = t.tvEnd then some val else t.tvEnd }

/-- All fields of the event are set to zero. -/
def Timers.clear (t : Timers α) (val : α) : Timers α :=
  { t with
    tvMs := Function.update t.tvMs val 0
    tv := (t.tv.setNext val none).setPrev val none }

def removeTimer (t : Timers α) (val : α) : Timers α :=
  let tv := t.tv.remove val
  Timers.clear
    { t with
      tv
      tvStart := if t.tvStart = some val then tv.next val else t.tvStart
      tvEnd := if t.tvEnd = some val then tv.prev val else t.tvEnd } val

end Operations

/-! ### The list -/

/-- The pointers link up the events in this order, which is that of the deadlines. -/
structure Timers.Shows (t : Timers α) (order : List α) : Prop where
  linked : Linked t.tv none order none
  start : t.tvStart = order.head?
  stop : t.tvEnd = order.getLast?
  once : order.Nodup
  sorted : order.Pairwise (t.tvMs · ≤ t.tvMs ·)
  running : ∀ a ∈ order, t.tvMs a ≠ 0

/-- The timer of an event that is in no list. -/
structure Timers.Off (t : Timers α) (a : α) : Prop where
  ms : t.tvMs a = 0
  next : t.tv.next a = none
  prev : t.tv.prev a = none

variable {t : Timers α} {val : α} {order : List α}

theorem findPlace_spec {tvMs : α → ℤ} {tv : Links α} {ms : ℤ} {fuel : ℕ} {rest back : List α}
    (linked : Linked tv none (rest ++ back) none) (sorted : rest.Pairwise (tvMs · ≤ tvMs ·))
    (enough : rest.length < fuel) :
    ∃ front between, rest = front ++ between ∧ (∀ a ∈ front, tvMs a ≤ ms) ∧
      (∀ a ∈ between, ms ≤ tvMs a) ∧
      findPlace tvMs tv ms fuel back.head? rest.getLast? =
        some ((between ++ back).head?, front.getLast?) := by
  induction fuel generalizing rest back with
  | zero => omega
  | succ fuel ih =>
      obtain rfl | ⟨front, p, rfl⟩ := rest.eq_nil_or_concat
      · exact ⟨[], [], rfl, by simp, by simp, rfl⟩
      · rw [List.concat_eq_append] at *
        obtain ⟨sortedFront, -, below⟩ := List.pairwise_append.mp sorted
        rw [List.getLast?_concat, findPlace]
        by_cases later : ms ≤ tvMs p
        · rw [List.append_assoc, List.singleton_append] at linked
          rw [List.length_append, List.length_singleton] at enough
          obtain ⟨front', between, split, early, late, found⟩ :=
            @ih front (p :: back) linked sortedFront (by omega)
          refine ⟨front', between ++ [p], ?_, early, ?_, ?_⟩
          · rw [split, List.append_assoc]
          · intro a member
            obtain member | member := List.mem_append.mp member
            · exact late a member
            · exact List.mem_singleton.mp member ▸ later
          · rw [List.append_assoc, List.singleton_append, ← found, linked.neighbours.1]
            simp only [later, if_true, List.head?_cons]
        · refine ⟨front ++ [p], [], (List.append_nil _).symm, ?_, by simp, ?_⟩
          · intro a member
            obtain member | member := List.mem_append.mp member
            · have := below a member p (List.mem_singleton_self p)
              omega
            · rw [List.mem_singleton.mp member]
              omega
          · simp only [later, if_false, List.nil_append, List.getLast?_concat]

theorem Timers.Shows.notMem (shown : t.Shows order) (off : t.tvMs val = 0) : val ∉ order :=
  fun member => shown.running val member off

/-- Of the events that are in use, exactly those with a deadline are in the list, in the order of
their deadlines. -/
def Timers.Fine (t : Timers α) (live : α → Prop) : Prop :=
  ∃ order, t.Shows order ∧ (∀ a ∈ order, live a) ∧ ∀ a, live a → a ∈ order ∨ t.Off a

variable {live : α → Prop}

/-- What stands at the start is due first. -/
theorem Timers.Fine.start (fine : t.Fine live) (start : t.tvStart = some val) :
    live val ∧ t.tvMs val ≠ 0 ∧ ∀ a, live a → t.tvMs a ≠ 0 → t.tvMs val ≤ t.tvMs a := by
  obtain ⟨order, shown, used, known⟩ := fine
  obtain ⟨rest, rfl⟩ := List.head?_eq_some_iff.mp (shown.start.symm.trans start)
  refine ⟨used val List.mem_cons_self, shown.running val List.mem_cons_self, ?_⟩
  intro a alive runs
  obtain member | off := known a alive
  · obtain rfl | member := List.mem_cons.mp member
    · exact Int.le_refl _
    · exact (List.pairwise_cons.mp shown.sorted).1 a member
  · exact absurd off.ms runs

theorem Timers.Fine.congr {live' : α → Prop} (fine : t.Fine live) (same : ∀ a, live' a ↔ live a) :
    t.Fine live' := by
  have equal : live' = live := funext fun a => propext (same a)
  rw [equal]
  exact fine

/-! ### Setting and removing -/

variable [DecidableEq α]

/-! The ends of a list, as the code finds them when something comes in between or goes. -/

section Ends

variable {front back : List α}

theorem head_insert (once : (front ++ back).Nodup) :
    (if (front ++ back).head? = none ∨ back.head? = (front ++ back).head? then some val
      else (front ++ back).head?) = (front ++ val :: back).head? := by
  cases front with
  | nil => simp
  | cons a front =>
      have other : back.head? ≠ some a := fun head =>
        (List.nodup_cons.mp once).1 (List.mem_append_right _ (List.mem_of_head? head))
      simp [other]

theorem getLast_insert (once : (front ++ back).Nodup) :
    (if (front ++ back).getLast? = none ∨ front.getLast? = (front ++ back).getLast? then some val
      else (front ++ back).getLast?) = (front ++ val :: back).getLast? := by
  obtain rfl | ⟨back, b, rfl⟩ := back.eq_nil_or_concat
  · simp
  · have other : front.getLast? ≠ some b := fun last =>
      List.disjoint_of_nodup_append once (List.mem_of_getLast? last) (by simp)
    rw [List.concat_eq_append, ← List.append_assoc, List.getLast?_concat, ← List.cons_append,
      ← List.append_assoc, List.getLast?_concat]
    simp [other]

theorem head_remove (new : val ∉ front) :
    (if (front ++ val :: back).head? = some val then back.head? else (front ++ val :: back).head?) =
      (front ++ back).head? := by
  cases front with
  | nil => simp
  | cons a front =>
      have other : a ≠ val := fun same => new (same ▸ List.mem_cons_self)
      simp [other]

theorem getLast_remove (new : val ∉ back) :
    (if (front ++ val :: back).getLast? = some val then front.getLast?
      else (front ++ val :: back).getLast?) = (front ++ back).getLast? := by
  obtain rfl | ⟨back, b, rfl⟩ := back.eq_nil_or_concat
  · simp
  · have other : b ≠ val := fun same => new (by simp [same])
    rw [List.concat_eq_append, ← List.append_assoc, List.getLast?_concat, ← List.cons_append,
      ← List.append_assoc, List.getLast?_concat]
    simp [other]

end Ends

/-- A timer is set that did not run. -/
theorem setTimer_shows {bound : ℕ} {now ms : ℤ} (shown : t.Shows order) (off : t.tvMs val = 0)
    (deadline : deadlineOf now ms ≠ 0) (enough : order.length ≤ bound) :
    ∃ t' front back, setTimer bound now t val ms = some t' ∧ order = front ++ back ∧
      t'.Shows (front ++ val :: back) ∧ t'.tvMs = Function.update t.tvMs val (deadlineOf now ms) ∧
      ∀ a ∉ order, a ≠ val → t'.tv.next a = t.tv.next a ∧ t'.tv.prev a = t.tv.prev a := by
  have new := shown.notMem off
  obtain ⟨tvMs, tvMs_eq⟩ : ∃ tvMs, tvMs = Function.update t.tvMs val (deadlineOf now ms) := ⟨_, rfl⟩
  have here : tvMs val = deadlineOf now ms := by rw [tvMs_eq, Function.update_self]
  have same : ∀ a ∈ order, tvMs a = t.tvMs a := by
    intro a member
    rw [tvMs_eq, Function.update_of_ne (ne_of_mem_of_not_mem member new)]
  have sorted : order.Pairwise (tvMs · ≤ tvMs ·) := by
    refine shown.sorted.imp_of_mem fun first second le => ?_
    rw [same _ first, same _ second]
    exact le
  obtain ⟨front, back, rfl, early, late, found⟩ :=
    @findPlace_spec _ tvMs _ (deadlineOf now ms) (bound + 1) order [] (by simpa using shown.linked)
      sorted (by omega)
  rw [List.head?_nil, List.append_nil, ← shown.stop] at found
  rw [← here] at early late
  refine ⟨⟨tvMs, t.tv.insert val front.getLast? back.head?, (front ++ val :: back).head?,
    (front ++ val :: back).getLast?⟩, front, back, ?_, rfl,
    ⟨shown.linked.insert shown.once new, rfl, rfl, ?_, ?_, ?_⟩, tvMs_eq, ?_⟩
  · rw [setTimer, if_neg (not_not.mpr off)]
    dsimp only
    rw [← tvMs_eq, found, Option.map_some, ← head_insert shown.once, ← getLast_insert shown.once,
      ← shown.start, ← shown.stop]
  · exact List.nodup_middle.mpr (List.nodup_cons.mpr ⟨new, shown.once⟩)
  · obtain ⟨sortedFront, sortedBack, across⟩ := List.pairwise_append.mp sorted
    refine List.pairwise_append.mpr ⟨sortedFront, List.pairwise_cons.mpr ⟨?_, sortedBack⟩, ?_⟩
    · intro b behind
      exact late b behind
    · intro a before b behind
      obtain rfl | behind := List.mem_cons.mp behind
      · exact early a before
      · exact across a before b behind
  · intro a member
    rw [List.mem_append, List.mem_cons, or_left_comm, ← List.mem_append] at member
    obtain rfl | member := member
    · exact here.trans_ne deadline
    · exact (same a member).trans_ne (shown.running a member)
  · intro a other differs
    refine Links.insert_of_ne differs (fun last => other ?_) (fun head => other ?_)
    · exact List.mem_append_left _ (List.mem_of_getLast? last)
    · exact List.mem_append_right _ (List.mem_of_head? head)

theorem Timers.tvMs_clear_of_ne {a : α} (other : a ≠ val) : (t.clear val).tvMs a = t.tvMs a :=
  Function.update_of_ne other ..

/-- The fields of an event are cleared that is in no list. -/
theorem Timers.Shows.clear (shown : t.Shows order) (other : val ∉ order) :
    (t.clear val).Shows order where
  linked := (shown.linked.setNext other).setPrev other
  start := shown.start
  stop := shown.stop
  once := shown.once
  sorted := shown.sorted.imp_of_mem fun {a b} ha hb le => by
    rw [Timers.tvMs_clear_of_ne (ne_of_mem_of_not_mem ha other),
      Timers.tvMs_clear_of_ne (ne_of_mem_of_not_mem hb other)]
    exact le
  running := fun a member => by
    rw [Timers.tvMs_clear_of_ne (ne_of_mem_of_not_mem member other)]
    exact shown.running a member

theorem Timers.clear_off : (t.clear val).Off val :=
  ⟨Function.update_self .., Function.update_self .., Function.update_self ..⟩

theorem Timers.Off.clear {a : α} (off : t.Off a) : (t.clear val).Off a := by
  by_cases same : a = val
  · rw [same]
    exact Timers.clear_off
  · exact ⟨(Timers.tvMs_clear_of_ne same).trans off.ms,
      (Links.next_setNext_of_ne same).trans off.next,
      (Links.prev_setPrev_of_ne same).trans off.prev⟩

/-- A timer is removed that runs. -/
theorem removeTimer_shows {front back : List α} (shown : t.Shows (front ++ val :: back)) :
    (removeTimer t val).Shows (front ++ back) := by
  have neighbours := shown.linked.neighbours
  obtain ⟨new, once⟩ := List.nodup_cons.mp (List.nodup_middle.mp shown.once)
  obtain ⟨newFront, newBack⟩ := not_or.mp (List.mem_append.not.mp new)
  have last : front.getLast? ≠ some val := fun last => newFront (List.mem_of_getLast? last)
  have head : back.head? ≠ some val := fun head => newBack (List.mem_of_head? head)
  have kept := @Links.remove_of_ne _ t.tv _ val val (by rwa [neighbours.1]) (by rwa [neighbours.2])
    (by rwa [neighbours.1])
  rw [neighbours.1, neighbours.2] at kept
  have within : (front ++ back).Sublist (front ++ val :: back) :=
    (List.sublist_cons_self val back).append_left front
  refine Timers.Shows.clear ⟨shown.linked.remove shown.once, ?_, ?_, once,
    shown.sorted.sublist within, fun a member => shown.running a (within.subset member)⟩ new
  · dsimp only
    rw [shown.start, kept.1, head_remove newFront]
  · dsimp only
    rw [shown.stop, kept.2, getLast_remove newBack]

/-- To remove a timer that does not run changes nothing but the fields of its event. -/
theorem removeTimer_off (shown : t.Shows order) (off : t.Off val) :
    removeTimer t val = t.clear val := by
  have other := shown.notMem off.ms
  have start : t.tvStart ≠ some val := fun start =>
    other (List.mem_of_head? (shown.start.symm.trans start))
  have stop : t.tvEnd ≠ some val := fun stop =>
    other (List.mem_of_getLast? (shown.stop.symm.trans stop))
  have same : t.tv.remove val = t.tv := by
    rw [Links.remove, off.prev, off.next]
    simp only [Links.setNextOf, Option.elim_none, off.next, Links.setPrevOf]
  simp only [removeTimer, same, if_neg start, if_neg stop]

/-- The other events that are in no list stay so. -/
theorem removeTimer_keeps {front back : List α} {a : α} (shown : t.Shows (front ++ val :: back))
    (off : t.Off a) : (removeTimer t val).Off a := by
  have other := shown.notMem off.ms
  have self : val ∉ front ++ back := (List.nodup_cons.mp (List.nodup_middle.mp shown.once)).1
  obtain ⟨prev, next⟩ := shown.linked.neighbours
  have kept := @Links.remove_of_ne _ t.tv _ val a
    (fun pointer => other (List.mem_append_left _ (List.mem_of_getLast? (prev.symm.trans pointer))))
    (fun pointer => other (List.mem_append_right _
      (List.mem_cons_of_mem _ (List.mem_of_head? (next.symm.trans pointer)))))
    (fun pointer => self (List.mem_append_left _ (List.mem_of_getLast? (prev.symm.trans pointer))))
  exact Timers.Off.clear ⟨off.ms, kept.1.trans off.next, kept.2.trans off.prev⟩

theorem removeTimer_tvMs : (removeTimer t val).tvMs = Function.update t.tvMs val 0 := rfl

theorem removeTimer_clears : (removeTimer t val).Off val := Timers.clear_off

/-! ### The operations on what is in use -/

theorem setTimer_fine {bound : ℕ} {now ms : ℤ} (fine : t.Fine live) (alive : live val)
    (deadline : deadlineOf now ms ≠ 0)
    (few : ∀ order : List α, order.Nodup → (∀ a ∈ order, live a) → order.length ≤ bound) :
    ∃ t', setTimer bound now t val ms = some t' ∧ t'.Fine live ∧
      t'.tvMs =
        (if t.tvMs val = 0 then Function.update t.tvMs val (deadlineOf now ms) else t.tvMs) ∧
      ∀ a, ¬ live a → t.Off a → t'.Off a := by
  obtain ⟨order, shown, used, known⟩ := fine
  by_cases off : t.tvMs val = 0
  · obtain ⟨t', front, back, set, split, shown', tvMs_eq, frame⟩ :=
      setTimer_shows shown off deadline (few order shown.once used)
    have offs : ∀ a ∉ order, a ≠ val → t.Off a → t'.Off a := by
      intro a other differs off
      obtain ⟨next, prev⟩ := frame a other differs
      refine ⟨?_, next.trans off.next, prev.trans off.prev⟩
      rw [tvMs_eq, Function.update_of_ne differs, off.ms]
    have members : ∀ a, a ∈ front ++ val :: back ↔ a = val ∨ a ∈ order := by
      intro a
      rw [split]
      simp [or_left_comm]
    refine ⟨t', set, ⟨_, shown', fun a member => ?_, fun a alive => ?_⟩,
      by rw [if_pos off, tvMs_eq],
      fun a dead => offs a (fun member => dead (used a member)) (fun same => dead (same ▸ alive))⟩
    · obtain rfl | member := (members a).mp member
      · exact alive
      · exact used a member
    · rw [members]
      by_cases member : a = val ∨ a ∈ order
      · exact .inl member
      · obtain ⟨differs, other⟩ := not_or.mp member
        exact .inr (offs a other differs ((known a alive).resolve_left other))
  · exact ⟨t, if_pos off, ⟨order, shown, used, known⟩, (if_neg off).symm, fun a _ off => off⟩

theorem removeTimer_fine (fine : t.Fine live) (known : live val ∨ t.Off val) :
    (removeTimer t val).Fine (fun a => live a ∧ a ≠ val) ∧
      ∀ a, t.Off a → (removeTimer t val).Off a := by
  obtain ⟨order, shown, used, listed⟩ := fine
  obtain member | off : val ∈ order ∨ t.Off val := known.elim (listed val) .inr
  · obtain ⟨front, back, rfl⟩ := List.append_of_mem member
    have keeps : ∀ a, t.Off a → (removeTimer t val).Off a := fun a => removeTimer_keeps shown
    have new := (List.nodup_cons.mp (List.nodup_middle.mp shown.once)).1
    refine ⟨⟨_, removeTimer_shows shown, fun a member => ⟨used a ?_, ?_⟩,
      fun a both => ?_⟩, keeps⟩
    · exact ((List.sublist_cons_self val back).append_left front).subset member
    · exact ne_of_mem_of_not_mem member new
    · refine (listed a both.1).imp (fun member => ?_) (keeps a)
      rw [List.mem_append, List.mem_cons, or_left_comm, ← List.mem_append] at member
      exact member.resolve_left both.2
  · have new := shown.notMem off.ms
    rw [removeTimer_off shown off]
    exact ⟨⟨order, shown.clear new,
      fun a member => ⟨used a member, ne_of_mem_of_not_mem member new⟩,
      fun a both => (listed a both.1).imp_right .clear⟩, fun a => .clear⟩

/-- An event stays in use whose timer has been removed. -/
theorem Timers.Fine.keep (fine : t.Fine fun a => live a ∧ a ≠ val) (off : t.Off val) :
    t.Fine live := by
  obtain ⟨order, shown, used, listed⟩ := fine
  refine ⟨order, shown, fun a member => (used a member).1, fun a alive => ?_⟩
  by_cases same : a = val
  · exact .inr (same ▸ off)
  · exact listed a ⟨alive, same⟩

/-- An event comes into use, with all its fields cleared. -/
theorem Timers.Fine.clear (fine : t.Fine live) (dead : ¬ live val) :
    (t.clear val).Fine (fun a => live a ∨ a = val) := by
  obtain ⟨order, shown, used, listed⟩ := fine
  refine ⟨order, shown.clear fun member => dead (used val member),
    fun a member => .inl (used a member), ?_⟩
  rintro a (alive | rfl)
  · exact (listed a alive).imp_right .clear
  · exact .inr Timers.clear_off

end ZonDpi.Byedpi
