import Mathlib.Data.List.Perm.Subperm
import Mathlib.Logic.Relation
import ZonDpi.Byedpi.Pool

/-!
What the event pool is for, and that the arrays and pointers of `conev.c` amount to it.

A `Board` lists the open events, each with its socket, what is asked about it, what `poll` has
reported about it and has not been served yet, and its deadline. Its rules say what an event loop
has to do: `poll` is called when nothing is left to serve, an event is called with what was
reported about it and only once, and of the timers the earliest fires.

`Pool.board` reads the board off a pool, and `Keeps` says that an operation keeps the pool well
formed and does on the board what its actions say, by the rules. It holds of opening, closing,
timers and pairs, also while `next_event` is on its way down the array (`Pool.Swept`).
-/

namespace ZonDpi.Byedpi

open LinkedList

/-! ### The board -/

/-- What is to be known about an open event. -/
structure Entry where
  fd : ℤ
  events : ℕ
  pending : Option ℕ
  deadline : Option ℤ

/-- The open events. -/
abbrev Board : Type := ℕ → Option Entry

def Board.change (board : Board) (val : ℕ) (f : Entry → Entry) : Board :=
  Function.update board val ((board val).map f)

/-- What an answer of `poll` says about an event. -/
def Entry.report (reports : Reports) (entry : Entry) : Entry :=
  { entry with
    pending :=
      let type := reports.of entry.fd entry.events
      if type = 0 then none else some type }

def Board.next (board : Board) : Action → Board
  | .opened val fd events => Function.update board val (some ⟨fd, events, none, none⟩)
  | .closed val => Function.update board val none
  | .asked val events => board.change val fun entry => { entry with events }
  | .timed val deadline => board.change val fun entry => { entry with deadline := some deadline }
  | .untimed val => board.change val fun entry => { entry with deadline := none }
  | .polled reports => fun val => (board val).map (Entry.report reports)
  | .called val _ => board.change val fun entry => { entry with pending := none }
  | .fired val => board.change val fun entry => { entry with deadline := none }

/-- The rules. -/
def Board.Allows (board : Board) : Action → Prop
  | .opened val _ _ => board val = none
  | .closed val => (board val).isSome
  | .asked val _ => (board val).isSome
  | .timed val _ => ∃ entry, board val = some entry ∧ entry.deadline = none
  | .untimed _ => True
  | .polled _ => ∀ val entry, board val = some entry → entry.pending = none
  | .called val type => ∃ entry, board val = some entry ∧ entry.pending = some type
  | .fired val =>
      ∃ entry deadline, board val = some entry ∧ entry.deadline = some deadline ∧
        ∀ other entry' deadline', board other = some entry' → entry'.deadline = some deadline' →
          deadline ≤ deadline'

def Board.after (board : Board) (acts : List Action) : Board := acts.foldl Board.next board

def Board.AllowsAll : Board → List Action → Prop
  | _, [] => True
  | board, act :: acts => board.Allows act ∧ (board.next act).AllowsAll acts

theorem Board.after_append (board : Board) (acts more : List Action) :
    board.after (acts ++ more) = (board.after acts).after more :=
  List.foldl_append

theorem Board.allowsAll_append {board : Board} {acts more : List Action} :
    board.AllowsAll (acts ++ more) ↔ board.AllowsAll acts ∧ (board.after acts).AllowsAll more := by
  induction acts generalizing board with
  | nil => simp [Board.AllowsAll, Board.after]
  | cons act acts ih => exact (and_congr_right fun _ => ih).trans (and_assoc ..).symm

/-! ### The pool -/

variable {pool pool' : Pool} {val : ℕ}

/-- The event is among the first `count` of the links. -/
def Pool.Live (pool : Pool) (val : ℕ) : Prop :=
  (pool.items val).index < pool.count ∧ pool.links (pool.items val).index = val

instance : Decidable (pool.Live val) := inferInstanceAs (Decidable (_ ∧ _))

/-- The event has been closed. -/
def Pool.Closed (pool : Pool) (val : ℕ) : Prop :=
  (pool.items val).fd = -1 ∧ (pool.items val).modIter ≤ pool.iters ∧ pool.timers.Off val

/-- The event has been in use, as every event to which there is a pointer. -/
def Pool.Known (pool : Pool) (val : ℕ) : Prop := pool.Live val ∨ pool.Closed val

instance : Decidable (pool.Closed val) :=
  decidable_of_iff ((pool.items val).fd = -1 ∧ (pool.items val).modIter ≤ pool.iters ∧
    pool.timers.tvMs val = 0 ∧ pool.timers.tv.next val = none ∧ pool.timers.tv.prev val = none)
    (and_congr_right fun _ => and_congr_right fun _ =>
      ⟨fun off => ⟨off.1, off.2.1, off.2.2⟩, fun off => ⟨off.ms, off.next, off.prev⟩⟩)

instance : Decidable (pool.Known val) := inferInstanceAs (Decidable (_ ∨ _))

def Pool.entry (pool : Pool) (val : ℕ) : Entry :=
  let ev := pool.items val
  let p := pool.pevents ev.index
  { fd := ev.fd
    events := p.events
    pending := if p.revents ≠ 0 ∧ ev.modIter ≠ pool.iters then some p.revents else none
    deadline := if pool.timers.tvMs val ≠ 0 then some (pool.timers.tvMs val) else none }

/-- What the pool amounts to. -/
def Pool.board (pool : Pool) : Board := fun val =>
  if pool.Live val then some (pool.entry val) else none

structure Pool.Wf (pool : Pool) : Prop where
  count_le : pool.count ≤ pool.max
  distinct : ∀ i < pool.max, ∀ j < pool.max, pool.links i = pool.links j → i = j
  index : ∀ i < pool.count, (pool.items (pool.links i)).index = i
  socket : ∀ val, pool.Live val → (pool.pevents (pool.items val).index).fd = (pool.items val).fd
  positive : ∀ val, pool.Live val → 0 < (pool.items val).fd
  iter : ∀ val, pool.Live val → (pool.items val).modIter ≤ pool.iters
  pair : ∀ val, pool.Live val → ∀ e ∈ (pool.items val).pair, pool.Known e ∧ e ≠ val
  timers : pool.timers.Fine pool.Live

/-- What holds while `next_event` is on its way down: from the place on, everything has been
served, and before it, what is not open any more has been closed on the way. -/
structure Pool.Swept (pool : Pool) (offs : ℕ) : Prop where
  inside : offs ≤ pool.max
  served : ∀ i, offs ≤ i → i < pool.count → (pool.pevents i).revents = 0 ∨
    (pool.items (pool.links i)).modIter = pool.iters
  closed : ∀ i, pool.count ≤ i → i < offs → (pool.items (pool.links i)).modIter = pool.iters

/-- What an operation of the pool comes to. -/
structure Keeps (offs : ℕ) (pool pool' : Pool) (acts : List Action) : Prop where
  wf : pool'.Wf
  swept : pool'.Swept offs
  known : ∀ val, pool.Known val → pool'.Known val
  board : pool'.board = pool.board.after acts
  allowed : pool.board.AllowsAll acts

variable {offs : ℕ} {acts more : List Action}

theorem Keeps.refl (wf : pool.Wf) (swept : pool.Swept offs) : Keeps offs pool pool [] :=
  ⟨wf, swept, fun _ known => known, rfl, trivial⟩

theorem Keeps.trans {pool'' : Pool} {offs' : ℕ} (first : Keeps offs' pool pool' acts)
    (second : Keeps offs pool' pool'' more) : Keeps offs pool pool'' (acts ++ more) where
  wf := second.wf
  swept := second.swept
  known := fun val known => second.known val (first.known val known)
  board := by rw [second.board, first.board, Board.after_append]
  allowed := Board.allowsAll_append.mpr ⟨first.allowed, first.board ▸ second.allowed⟩

theorem Pool.Wf.live_links (wf : pool.Wf) {i : ℕ} (less : i < pool.count) :
    pool.Live (pool.links i) := by
  rw [Pool.Live, wf.index i less]
  exact ⟨less, rfl⟩

/-- What lies behind the open events is not open. -/
theorem Pool.Wf.not_live_links (wf : pool.Wf) {i : ℕ} (beyond : pool.count ≤ i)
    (inside : i < pool.max) : ¬ pool.Live (pool.links i) := by
  rintro ⟨less, same⟩
  have := wf.distinct _ (Nat.lt_of_lt_of_le less wf.count_le) i inside same
  omega

theorem Pool.board_of_live (live : pool.Live val) : pool.board val = some (pool.entry val) :=
  if_pos live

theorem Pool.board_of_not_live (dead : ¬ pool.Live val) : pool.board val = none := if_neg dead

theorem Pool.isSome_board : (pool.board val).isSome ↔ pool.Live val := by
  rw [Pool.board]
  split_ifs with live
  · exact iff_of_true rfl live
  · exact iff_of_false (by simp) live

/-- At an event, two pools agree in what is to be known about it. -/
theorem Pool.board_congr (live : pool'.Live val ↔ pool.Live val)
    (entry : pool.Live val → pool'.entry val = pool.entry val) :
    pool'.board val = pool.board val := by
  by_cases open' : pool.Live val
  · rw [Pool.board_of_live open', Pool.board_of_live (live.mpr open'), entry open']
  · rw [Pool.board_of_not_live open', Pool.board_of_not_live (mt live.mp open')]

theorem Pool.board_change {f : Entry → Entry} (live : ∀ w, pool'.Live w ↔ pool.Live w)
    (here : pool.Live val → pool'.entry val = f (pool.entry val))
    (elsewhere : ∀ w ≠ val, pool.Live w → pool'.entry w = pool.entry w) :
    pool'.board = pool.board.change val f := by
  funext w
  by_cases same : w = val
  · rw [same, Board.change, Function.update_self]
    by_cases open' : pool.Live val
    · rw [Pool.board_of_live open', Pool.board_of_live ((live val).mpr open'), here open',
        Option.map_some]
    · rw [Pool.board_of_not_live open', Pool.board_of_not_live (mt (live val).mp open'),
        Option.map_none]
  · rw [Board.change, Function.update_of_ne same]
    exact Pool.board_congr (live w) (elsewhere w same)

/-! ### Operations that open and close nothing -/

section Pair

variable {pair : Option ℕ} {w : ℕ}

@[simp] theorem Pool.setPair_fd : ((pool.setPair val pair).items w).fd = (pool.items w).fd := by
  by_cases same : w = val <;> simp [Pool.setPair, same]

@[simp] theorem Pool.setPair_index :
    ((pool.setPair val pair).items w).index = (pool.items w).index := by
  by_cases same : w = val <;> simp [Pool.setPair, same]

@[simp] theorem Pool.setPair_modIter :
    ((pool.setPair val pair).items w).modIter = (pool.items w).modIter := by
  by_cases same : w = val <;> simp [Pool.setPair, same]

theorem Pool.setPair_pair : ((pool.setPair val pair).items w).pair =
    if w = val then pair else (pool.items w).pair := by
  by_cases same : w = val <;> simp [Pool.setPair, same]

theorem Pool.live_setPair : (pool.setPair val pair).Live w ↔ pool.Live w := by
  rw [Pool.Live, Pool.setPair_index]
  rfl

theorem Pool.known_setPair : (pool.setPair val pair).Known w ↔ pool.Known w := by
  refine or_congr Pool.live_setPair ⟨fun closed => ?_, fun closed => ?_⟩
  · obtain ⟨fd, iter, off⟩ := closed
    rw [Pool.setPair_fd] at fd
    rw [Pool.setPair_modIter] at iter
    exact ⟨fd, iter, off⟩
  · obtain ⟨fd, iter, off⟩ := closed
    refine ⟨?_, ?_, off⟩
    · rwa [Pool.setPair_fd]
    · rwa [Pool.setPair_modIter]

theorem Pool.setPair_keeps (wf : pool.Wf) (swept : pool.Swept offs)
    (legal : ∀ e ∈ pair, pool.Known e ∧ e ≠ val) : Keeps offs pool (pool.setPair val pair) [] where
  wf := by
    refine ⟨wf.count_le, wf.distinct, fun i less => ?_, fun v live => ?_, fun v live => ?_,
      fun v live => ?_, fun v live e member => ?_, wf.timers.congr fun _ => Pool.live_setPair⟩
    · rw [Pool.setPair_index]
      exact wf.index i less
    · rw [Pool.setPair_index, Pool.setPair_fd]
      exact wf.socket v (Pool.live_setPair.mp live)
    · rw [Pool.setPair_fd]
      exact wf.positive v (Pool.live_setPair.mp live)
    · rw [Pool.setPair_modIter]
      exact wf.iter v (Pool.live_setPair.mp live)
    · rw [Pool.setPair_pair] at member
      rw [Pool.known_setPair]
      split_ifs at member with same
      · rw [same]
        exact legal e member
      · exact wf.pair v (Pool.live_setPair.mp live) e member
  swept := by
    refine ⟨swept.inside, fun i from' less => ?_, fun i beyond less => ?_⟩
    · rw [Pool.setPair_modIter]
      exact swept.served i from' less
    · rw [Pool.setPair_modIter]
      exact swept.closed i beyond less
  known := fun _ => Pool.known_setPair.mpr
  board := by
    funext w
    refine Pool.board_congr Pool.live_setPair fun _ => ?_
    simp only [Pool.entry, Pool.setPair_fd, Pool.setPair_index, Pool.setPair_modIter]
    rfl
  allowed := trivial

end Pair

section TimerFields

variable {timers : Timers ℕ}

/-- The timers are replaced by others that fit the open events. -/
theorem Pool.Wf.setTimers (wf : pool.Wf) (fine : timers.Fine pool.Live)
    (off : ∀ w, ¬ pool.Live w → pool.timers.Off w → timers.Off w) :
    ({ pool with timers } : Pool).Wf ∧
      ∀ w, pool.Known w → ({ pool with timers } : Pool).Known w := by
  have known : ∀ w, pool.Known w → ({ pool with timers } : Pool).Known w := by
    intro w known
    by_cases live : pool.Live w
    · exact .inl live
    · obtain ⟨fd, iter, was⟩ := known.resolve_left live
      exact .inr ⟨fd, iter, off w live was⟩
  exact ⟨⟨wf.count_le, wf.distinct, wf.index, wf.socket, wf.positive, wf.iter,
    fun v live e member => (wf.pair v live e member).imp_left (known e), fine⟩, known⟩

/-- The deadline of an event is changed, and nothing else. -/
theorem Pool.board_setTimers {deadline : ℤ}
    (tvMs_eq : timers.tvMs = Function.update pool.timers.tvMs val deadline) :
    ({ pool with timers } : Pool).board = pool.board.change val fun entry =>
      { entry with deadline := if deadline ≠ 0 then some deadline else none } := by
  refine Pool.board_change (fun _ => Iff.rfl) (fun _ => ?_) fun w other _ => ?_
  · rw [Pool.entry, tvMs_eq, Function.update_self]
    rfl
  · rw [Pool.entry, tvMs_eq, Function.update_of_ne other]
    rfl

theorem Pool.removeTimer_act (wf : pool.Wf) (swept : pool.Swept offs) (known : pool.Known val)
    {act : Action} (allowed : pool.board.Allows act)
    (next : pool.board.next act =
      pool.board.change val fun entry => { entry with deadline := none }) :
    Keeps offs pool { pool with timers := removeTimer pool.timers val } [act] := by
  obtain ⟨fine, off⟩ := removeTimer_fine wf.timers (known.imp_right (·.2.2))
  obtain ⟨wf', known'⟩ := wf.setTimers (fine.keep removeTimer_clears) fun w _ => off w
  refine ⟨wf', ⟨swept.inside, swept.served, swept.closed⟩, known', ?_, allowed, trivial⟩
  rw [Pool.board_setTimers removeTimer_tvMs]
  exact next.symm

/-- There are no more open events than places. -/
theorem Pool.Wf.length_le (wf : pool.Wf) {order : List ℕ} (once : order.Nodup)
    (live : ∀ w ∈ order, pool.Live w) : order.length ≤ pool.max := by
  have within : (order.map fun w => (pool.items w).index) ⊆ List.range pool.max := by
    intro i member
    obtain ⟨w, listed, rfl⟩ := List.mem_map.mp member
    exact List.mem_range.mpr (Nat.lt_of_lt_of_le (live w listed).1 wf.count_le)
  have injective : (order.map fun w => (pool.items w).index).Nodup := by
    refine List.Nodup.map_on (fun v first w second same => ?_) once
    rw [← (live v first).2, ← (live w second).2, same]
  have := (List.subperm_of_subset injective within).length_le
  rwa [List.length_map, List.length_range] at this

theorem setTimer_keeps {now ms : ℤ} (wf : pool.Wf) (swept : pool.Swept offs)
    (live : pool.Live val) (deadline : deadlineOf now ms ≠ 0) :
    ∃ timers, setTimer pool.max now pool.timers val ms = some timers ∧
      Keeps offs pool { pool with timers }
        (if pool.timers.tvMs val = 0 then [.timed val (deadlineOf now ms)] else []) := by
  obtain ⟨timers, set, fine, tvMs_eq, off⟩ :=
    setTimer_fine wf.timers live deadline fun order once live => wf.length_le once live
  obtain ⟨wf', known'⟩ := wf.setTimers fine off
  refine ⟨timers, set, wf', ⟨swept.inside, swept.served, swept.closed⟩, known', ?_, ?_⟩
  · split_ifs at tvMs_eq ⊢ with unset
    · rw [Pool.board_setTimers tvMs_eq, if_pos deadline]
      rfl
    · funext w
      refine Pool.board_congr Iff.rfl fun _ => ?_
      rw [Pool.entry, tvMs_eq]
      rfl
  · split_ifs with unset
    · refine ⟨⟨pool.entry val, Pool.board_of_live live, ?_⟩, trivial⟩
      rw [Pool.entry, unset]
      rfl
    · trivial

end TimerFields

section PollFields

/-- Two open events have different places. -/
theorem Pool.Live.index_ne {w : ℕ} (live : pool.Live val) (other : pool.Live w)
    (differs : w ≠ val) : (pool.items w).index ≠ (pool.items val).index := by
  intro same
  exact differs (by rw [← other.2, same, live.2])

variable {i : ℕ} {p : PollFd}

/-- What is asked or reported about a socket is replaced. -/
theorem Pool.Wf.setPevent (wf : pool.Wf) (same : p.fd = (pool.pevents i).fd) :
    ({ pool with pevents := Function.update pool.pevents i p } : Pool).Wf := by
  refine ⟨wf.count_le, wf.distinct, wf.index, fun v live => ?_, wf.positive, wf.iter, wf.pair,
    wf.timers⟩
  refine Eq.trans ?_ (wf.socket v live)
  by_cases here : (pool.items v).index = i
  · simp [here, same]
  · simp [here]

theorem Pool.entry_setPevent (other : (pool.items val).index ≠ i) :
    ({ pool with pevents := Function.update pool.pevents i p } : Pool).entry val =
      pool.entry val := by
  simp [Pool.entry, other]

theorem modEtype_keeps {type : ℕ} (wf : pool.Wf) (swept : pool.Swept offs) (live : pool.Live val) :
    ∃ pool', modEtype pool val type = some pool' ∧ Keeps offs pool pool' [.asked val type] := by
  refine ⟨_, if_pos live.1, wf.setPevent rfl, ⟨swept.inside, fun i from' less => ?_, swept.closed⟩,
    fun _ known => known, ?_, Pool.isSome_board.mpr live, trivial⟩
  · refine (swept.served i from' less).imp_left fun none => ?_
    by_cases here : i = (pool.items val).index
    · rw [here] at none
      simp [here, none]
    · simp [here, none]
  · refine Pool.board_change (fun _ => Iff.rfl) (fun _ => ?_) fun w differs other => ?_
    · simp [Pool.entry]
    · exact Pool.entry_setPevent (live.index_ne other differs)

end PollFields

/-! ### Opening -/

theorem initPool_wf (count : ℕ) (memory : Memory) : (initPool count memory).Wf := by
  have dead : ∀ v, ¬ (initPool count memory).Live v := fun v live => Nat.not_lt_zero _ live.1
  refine ⟨Nat.zero_le _, fun i _ j _ same => same, fun i less => absurd less (Nat.not_lt_zero i),
    fun v live => absurd live (dead v), fun v live => absurd live (dead v),
    fun v live => absurd live (dead v), fun v live => absurd live (dead v), [], ?_, by simp,
    fun v live => absurd live (dead v)⟩
  exact ⟨trivial, rfl, rfl, List.nodup_nil, List.Pairwise.nil, by simp⟩

section Place

variable {fd : ℤ} {e w : ℕ}

theorem Pool.place_items_of_ne (other : w ≠ pool.links pool.count) :
    (pool.place fd e).items w = pool.items w :=
  Function.update_of_ne other ..

theorem Pool.place_items : (pool.place fd e).items (pool.links pool.count) =
    ⟨fd, pool.count, pool.iters, none⟩ :=
  Function.update_self ..

theorem Pool.place_pevents : (pool.place fd e).pevents pool.count = ⟨fd, e, 0⟩ :=
  Function.update_self ..

theorem Pool.place_pevents_of_ne {i : ℕ} (other : i ≠ pool.count) :
    (pool.place fd e).pevents i = pool.pevents i :=
  Function.update_of_ne other ..

theorem Pool.live_place :
    (pool.place fd e).Live w ↔ pool.Live w ∨ w = pool.links pool.count := by
  by_cases new : w = pool.links pool.count
  · rw [new]
    refine iff_of_true ?_ (.inr rfl)
    rw [Pool.Live, Pool.place_items]
    exact ⟨Nat.lt_succ_self _, rfl⟩
  · rw [Pool.Live, Pool.place_items_of_ne new, or_iff_left new]
    refine and_congr_left fun here => ?_
    have other : (pool.items w).index ≠ pool.count := fun same => new (by rw [← here, same]; rfl)
    change (pool.items w).index < pool.count + 1 ↔ (pool.items w).index < pool.count
    omega

theorem Pool.entry_place_of_ne (other : w ≠ pool.links pool.count) (live : pool.Live w) :
    (pool.place fd e).entry w = pool.entry w := by
  have tvMs : (pool.place fd e).timers.tvMs w = pool.timers.tvMs w :=
    Timers.tvMs_clear_of_ne other
  rw [Pool.entry, Pool.place_items_of_ne other, Pool.place_pevents_of_ne (Nat.ne_of_lt live.1),
    tvMs]
  rfl

theorem Pool.entry_place :
    (pool.place fd e).entry (pool.links pool.count) = ⟨fd, e, none, none⟩ := by
  have tvMs : (pool.place fd e).timers.tvMs (pool.links pool.count) = 0 := Timers.clear_off.ms
  rw [Pool.entry, Pool.place_items, Pool.place_pevents, tvMs]
  rfl

theorem Pool.known_place (known : pool.Known w) : (pool.place fd e).Known w := by
  by_cases new : w = pool.links pool.count
  · exact .inl (Pool.live_place.mpr (.inr new))
  · refine known.imp (fun live => Pool.live_place.mpr (.inl live)) ?_
    rintro ⟨closed, iter, off⟩
    rw [Pool.Closed, Pool.place_items_of_ne new]
    exact ⟨closed, iter, off.clear⟩

theorem Pool.place_wf (wf : pool.Wf) (room : pool.count < pool.max) (positive : 0 < fd) :
    (pool.place fd e).Wf := by
  have dead := wf.not_live_links (Nat.le_refl _) room
  refine ⟨room, wf.distinct, fun i less => ?_, fun v live => ?_, fun v live => ?_,
    fun v live => ?_, fun v live p member => ?_,
    (wf.timers.clear dead).congr fun _ => Pool.live_place⟩
  · obtain less | rfl := Nat.lt_or_eq_of_le (Nat.le_of_lt_succ less)
    · have other : pool.links i ≠ pool.links pool.count := fun same =>
        Nat.ne_of_lt less (wf.distinct i (Nat.lt_trans less room) _ room same)
      exact (congrArg Eval.index (Pool.place_items_of_ne other)).trans (wf.index i less)
    · exact congrArg Eval.index Pool.place_items
  all_goals by_cases new : v = pool.links pool.count
  · rw [new, Pool.place_items, Pool.place_pevents]
  · have live := (Pool.live_place.mp live).resolve_right new
    rw [Pool.place_items_of_ne new, Pool.place_pevents_of_ne (Nat.ne_of_lt live.1)]
    exact wf.socket v live
  · rw [new, Pool.place_items]
    exact positive
  · rw [Pool.place_items_of_ne new]
    exact wf.positive v ((Pool.live_place.mp live).resolve_right new)
  · rw [new, Pool.place_items]
    exact Nat.le_refl _
  · rw [Pool.place_items_of_ne new]
    exact wf.iter v ((Pool.live_place.mp live).resolve_right new)
  · rw [new, Pool.place_items] at member
    cases member
  · rw [Pool.place_items_of_ne new] at member
    have pair := wf.pair v ((Pool.live_place.mp live).resolve_right new) p member
    exact ⟨Pool.known_place pair.1, pair.2⟩

theorem Pool.place_keeps (wf : pool.Wf) (swept : pool.Swept offs) (room : pool.count < pool.max)
    (positive : 0 < fd) :
    Keeps offs pool (pool.place fd e) [.opened (pool.links pool.count) fd e] := by
  have dead := wf.not_live_links (Nat.le_refl _) room
  refine ⟨Pool.place_wf wf room positive, ⟨swept.inside, fun i from' less => ?_,
    fun i beyond less => ?_⟩, fun _ => Pool.known_place, ?_,
    Pool.board_of_not_live dead, trivial⟩
  · by_cases last : i = pool.count
    · left
      rw [last, Pool.place_pevents]
    · have less : i < pool.count := by
        change i < pool.count + 1 at less
        omega
      have other : pool.links i ≠ pool.links pool.count := fun same =>
        last (wf.distinct i (Nat.lt_trans less room) _ room same)
      refine (swept.served i from' less).imp (fun none => ?_) fun same => ?_
      · exact (congrArg PollFd.revents (Pool.place_pevents_of_ne last)).trans none
      · exact (congrArg Eval.modIter (Pool.place_items_of_ne other)).trans same
  · change pool.count + 1 ≤ i at beyond
    have other : pool.links i ≠ pool.links pool.count := fun same => by
      have := wf.distinct i (Nat.lt_of_lt_of_le less swept.inside) _ room same
      omega
    exact (congrArg Eval.modIter (Pool.place_items_of_ne other)).trans
      (swept.closed i (by omega) less)
  · funext w
    change _ = Function.update pool.board (pool.links pool.count) _ w
    by_cases new : w = pool.links pool.count
    · rw [new, Pool.board_of_live (Pool.live_place.mpr (.inr rfl)), Pool.entry_place,
        Function.update_self]
    · rw [Function.update_of_ne new]
      exact Pool.board_congr (Pool.live_place.trans (or_iff_left new))
        (Pool.entry_place_of_ne new)

end Place

theorem addEvent_keeps {fd : ℤ} {e : ℕ} (wf : pool.Wf) (swept : pool.Swept offs)
    (positive : 0 < fd) :
    ∃ pool' val, addEvent pool fd e = some (pool', val) ∧
      Keeps offs pool pool' (val.toList.map fun v => .opened v fd e) := by
  rw [addEvent, if_neg (by omega)]
  by_cases full : pool.max ≤ pool.count
  · exact ⟨pool, none, if_pos full, .refl wf swept⟩
  · exact ⟨_, _, if_neg full, Pool.place_keeps wf swept (by omega) positive⟩

/-! ### Closing -/

section Close

variable {w : ℕ}

/-- The last open event is the one to be closed only if it has the last place. -/
theorem Pool.Wf.last_eq (wf : pool.Wf) (live : pool.Live val)
    (same : pool.links (pool.count - 1) = val) : (pool.items val).index = pool.count - 1 := by
  have inside := live.1
  have := wf.index (pool.count - 1) (by omega)
  rwa [same] at this

theorem Pool.close_last (last : pool.links (pool.count - 1) = val) :
    pool.close val = { pool with
      items := Function.update pool.items val
        { pool.items val with fd := -1, modIter := pool.iters }
      timers := removeTimer pool.timers val
      count := pool.count - 1 } :=
  if_pos last

theorem Pool.close_moves (other : pool.links (pool.count - 1) ≠ val) :
    pool.close val = { pool with
      items := Function.update (Function.update pool.items val
          { pool.items val with fd := -1, modIter := pool.iters })
        (pool.links (pool.count - 1))
        { pool.items (pool.links (pool.count - 1)) with index := (pool.items val).index }
      timers := removeTimer pool.timers val
      count := pool.count - 1
      links := Function.update (Function.update pool.links (pool.items val).index
        (pool.links (pool.count - 1))) (pool.count - 1) val
      pevents := Function.update pool.pevents (pool.items val).index
        (pool.pevents (pool.count - 1)) } := by
  refine (if_neg other).trans ?_
  rw [Function.update_of_ne other]

theorem Pool.close_fields : (pool.close val).count = pool.count - 1 ∧
    (pool.close val).max = pool.max ∧ (pool.close val).iters = pool.iters ∧
    (pool.close val).timers = removeTimer pool.timers val := by
  by_cases last : pool.links (pool.count - 1) = val
  · rw [Pool.close_last last]
    exact ⟨rfl, rfl, rfl, rfl⟩
  · rw [Pool.close_moves last]
    exact ⟨rfl, rfl, rfl, rfl⟩

theorem Pool.close_count : (pool.close val).count = pool.count - 1 := Pool.close_fields.1

theorem Pool.close_max : (pool.close val).max = pool.max := Pool.close_fields.2.1

theorem Pool.close_iters : (pool.close val).iters = pool.iters := Pool.close_fields.2.2.1

theorem Pool.close_timers : (pool.close val).timers = removeTimer pool.timers val :=
  Pool.close_fields.2.2.2

theorem Pool.close_links (wf : pool.Wf) (live : pool.Live val) (k : ℕ) :
    (pool.close val).links k =
      if k = pool.count - 1 then val
      else if k = (pool.items val).index then pool.links (pool.count - 1) else pool.links k := by
  by_cases last : pool.links (pool.count - 1) = val
  · rw [Pool.close_last last, wf.last_eq live last]
    dsimp only
    split_ifs with here
    · rw [here, last]
    · rfl
  · rw [Pool.close_moves last]
    dsimp only
    split_ifs with end' here
    · rw [end', Function.update_self]
    · rw [Function.update_of_ne end', here, Function.update_self]
    · rw [Function.update_of_ne end', Function.update_of_ne here]

theorem Pool.close_pevents (wf : pool.Wf) (live : pool.Live val) (k : ℕ) :
    (pool.close val).pevents k =
      if k = (pool.items val).index then pool.pevents (pool.count - 1) else pool.pevents k := by
  by_cases last : pool.links (pool.count - 1) = val
  · rw [Pool.close_last last, wf.last_eq live last]
    dsimp only
    split_ifs with here
    · rw [here]
    · rfl
  · rw [Pool.close_moves last]
    exact Function.update_apply ..

theorem Pool.close_items : (pool.close val).items val =
    { pool.items val with fd := -1, modIter := pool.iters } := by
  by_cases last : pool.links (pool.count - 1) = val
  · rw [Pool.close_last last]
    exact Function.update_self ..
  · rw [Pool.close_moves last]
    dsimp only
    rw [Function.update_of_ne (Ne.symm last), Function.update_self]

theorem Pool.close_items_of_ne (other : w ≠ val) : (pool.close val).items w =
    { pool.items w with
      index := if w = pool.links (pool.count - 1) then (pool.items val).index
        else (pool.items w).index } := by
  by_cases last : pool.links (pool.count - 1) = val
  · rw [Pool.close_last last, last, if_neg other]
    exact Function.update_of_ne other ..
  · rw [Pool.close_moves last]
    dsimp only
    split_ifs with moved
    · rw [moved, Function.update_self]
    · rw [Function.update_of_ne moved, Function.update_of_ne other]

theorem Pool.live_close (wf : pool.Wf) (live : pool.Live val) :
    (pool.close val).Live w ↔ pool.Live w ∧ w ≠ val := by
  have inside := live.1
  have lastLive : pool.Live (pool.links (pool.count - 1)) := wf.live_links (by omega)
  have lastIndex := wf.index (pool.count - 1) (by omega)
  rw [Pool.Live, Pool.close_count, Pool.close_links wf live]
  by_cases same : w = val
  · subst same
    refine iff_of_false ?_ fun both => both.2 rfl
    rintro ⟨less, here⟩
    rw [Pool.close_items] at less here
    dsimp only at less here
    rw [if_neg (Nat.ne_of_lt less), if_pos rfl] at here
    have := wf.last_eq live here
    omega
  · rw [Pool.close_items_of_ne same, and_iff_left same]
    dsimp only
    by_cases last : w = pool.links (pool.count - 1)
    · have apart : (pool.items val).index ≠ pool.count - 1 := fun equal =>
        same (by rw [last, ← equal, live.2])
      rw [if_pos last, if_neg apart, if_pos rfl, ← last]
      exact iff_of_true ⟨by omega, rfl⟩ (last ▸ lastLive)
    · rw [if_neg last, Pool.Live]
      constructor
      · rintro ⟨less, here⟩
        rw [if_neg (Nat.ne_of_lt less)] at here
        split_ifs at here with equal
        · exact absurd here.symm last
        · exact ⟨by omega, here⟩
      · rintro ⟨less, here⟩
        have notLast : (pool.items w).index ≠ pool.count - 1 := fun equal =>
          last (by rw [← equal, here])
        have notHere : (pool.items w).index ≠ (pool.items val).index := fun equal =>
          same (by rw [← here, equal, live.2])
        rw [if_neg notLast, if_neg notHere]
        exact ⟨by omega, here⟩

/-- The entry of another event moves along with it. -/
theorem Pool.close_pevents_of_ne (wf : pool.Wf) (live : pool.Live val) (other : pool.Live w)
    (differs : w ≠ val) : (pool.close val).pevents ((pool.close val).items w).index =
      pool.pevents (pool.items w).index := by
  rw [Pool.close_pevents wf live, Pool.close_items_of_ne differs]
  dsimp only
  by_cases last : w = pool.links (pool.count - 1)
  · have inside := live.1
    rw [if_pos last, if_pos rfl, last, wf.index _ (by omega)]
  · rw [if_neg last, if_neg (live.index_ne other differs)]

theorem Pool.known_close (wf : pool.Wf) (live : pool.Live val) (known : pool.Known w) :
    (pool.close val).Known w := by
  by_cases same : w = val
  · subst same
    refine .inr ⟨?_, ?_, ?_⟩
    · rw [Pool.close_items]
    · refine Nat.le_of_eq ?_
      rw [Pool.close_items, Pool.close_iters]
    · rw [Pool.close_timers]
      exact removeTimer_clears
  · refine known.imp (fun alive => (Pool.live_close wf live).mpr ⟨alive, same⟩) ?_
    rintro ⟨fd, iter, off⟩
    rw [Pool.Closed, Pool.close_items_of_ne same, Pool.close_iters, Pool.close_timers]
    exact ⟨fd, iter, (removeTimer_fine wf.timers (.inl live)).2 w off⟩

theorem Pool.close_wf (wf : pool.Wf) (live : pool.Live val) : (pool.close val).Wf := by
  have inside := live.1
  have count_le := wf.count_le
  refine ⟨?_, fun j less k less' same => ?_, fun k less => ?_, fun v alive => ?_, fun v alive => ?_,
    fun v alive => ?_, fun v alive p member => ?_,
    Pool.close_timers ▸ (removeTimer_fine wf.timers (.inl live)).1.congr
      fun _ => Pool.live_close wf live⟩
  · rw [Pool.close_count, Pool.close_max]
    omega
  · rw [Pool.close_max] at less less'
    rw [Pool.close_links wf live, Pool.close_links wf live] at same
    have indexed : ∀ m < pool.max, pool.links m = val → m = (pool.items val).index :=
      fun m less same => wf.distinct m less _ (by omega) (same.trans live.2.symm)
    have last : ∀ m < pool.max, pool.links m = pool.links (pool.count - 1) → m = pool.count - 1 :=
      fun m less same => wf.distinct m less _ (by omega) same
    split_ifs at same with one two three four five six
    · omega
    · have := indexed _ (by omega) same.symm
      omega
    · exact absurd (indexed k less' same.symm) three
    · have := indexed _ (by omega) same
      omega
    · omega
    · have := last k less' same.symm
      omega
    · exact absurd (indexed j less same) four
    · have := last j less same
      omega
    · exact wf.distinct j less k less' same
  · rw [Pool.close_count] at less
    rw [Pool.close_links wf live, if_neg (Nat.ne_of_lt less)]
    split_ifs with here
    · have other : pool.links (pool.count - 1) ≠ val := fun same => by
        have := wf.last_eq live same
        omega
      rw [Pool.close_items_of_ne other]
      dsimp only
      rw [if_pos rfl, here]
    · have other : pool.links k ≠ val := fun same =>
        here (wf.distinct k (by omega) _ (by omega) (same.trans live.2.symm))
      have notLast : pool.links k ≠ pool.links (pool.count - 1) := fun same => by
        have := wf.distinct k (by omega) _ (by omega) same
        omega
      rw [Pool.close_items_of_ne other]
      dsimp only
      rw [if_neg notLast, wf.index k (by omega)]
  all_goals obtain ⟨alive, differs⟩ := (Pool.live_close wf live).mp alive
  · rw [Pool.close_pevents_of_ne wf live alive differs, Pool.close_items_of_ne differs]
    exact wf.socket v alive
  · rw [Pool.close_items_of_ne differs]
    exact wf.positive v alive
  · rw [Pool.close_items_of_ne differs, Pool.close_iters]
    exact wf.iter v alive
  · rw [Pool.close_items_of_ne differs] at member
    have pair := wf.pair v alive p member
    exact ⟨Pool.known_close wf live pair.1, pair.2⟩

theorem Pool.close_swept (wf : pool.Wf) (live : pool.Live val) (swept : pool.Swept offs) :
    (pool.close val).Swept offs := by
  have inside := live.1
  have count_le := wf.count_le
  have unchanged : ∀ k < pool.max, k ≠ (pool.items val).index →
      ((pool.close val).items (pool.links k)).modIter = (pool.items (pool.links k)).modIter := by
    intro k less other
    rw [Pool.close_items_of_ne fun same =>
      other (wf.distinct k less _ (by omega) (same.trans live.2.symm))]
  refine ⟨?_, fun k from' less => ?_, fun k beyond less => ?_⟩
  · rw [Pool.close_max]
    exact swept.inside
  · rw [Pool.close_count] at less
    rw [Pool.close_links wf live, Pool.close_pevents wf live, Pool.close_iters,
      if_neg (Nat.ne_of_lt less)]
    split_ifs with here
    · -- The last event has been served, and so it is where it comes now.
      rw [unchanged _ (by omega) (by omega)]
      exact swept.served _ (by omega) (by omega)
    · rw [unchanged k (by omega) here]
      exact swept.served k from' (by omega)
  · rw [Pool.close_count] at beyond
    have within := swept.inside
    rw [Pool.close_links wf live, Pool.close_iters]
    split_ifs with last here
    · rw [Pool.close_items]
    · omega
    · rw [unchanged k (by omega) here]
      exact swept.closed k (by omega) less

theorem Pool.close_keeps (wf : pool.Wf) (swept : pool.Swept offs) (live : pool.Live val) :
    Keeps offs pool (pool.close val) [.closed val] := by
  refine ⟨Pool.close_wf wf live, Pool.close_swept wf live swept,
    fun _ => Pool.known_close wf live, ?_, Pool.isSome_board.mpr live, trivial⟩
  funext w
  change _ = Function.update pool.board val none w
  by_cases same : w = val
  · rw [same, Function.update_self, Pool.board_of_not_live]
    exact fun alive => ((Pool.live_close wf live).mp alive).2 rfl
  · rw [Function.update_of_ne same]
    refine Pool.board_congr ((Pool.live_close wf live).trans (and_iff_left same)) fun alive => ?_
    rw [Pool.entry, Pool.close_pevents_of_ne wf live alive same, Pool.close_items_of_ne same,
      Pool.close_timers, Pool.close_iters, removeTimer_tvMs, Function.update_of_ne same]
    rfl

end Close

/-! ### Closing with the pairs -/

section Pairs

variable {e w : ℕ} {fuel : ℕ}

theorem delEvent_of_live (wf : pool.Wf) (live : pool.Live val) :
    delEvent (fuel + 1) pool val =
      match (pool.items val).pair with
      | none => some (pool.close val, [val])
      | some e =>
          (delEvent fuel ((pool.close val).unpair val e) e).map fun (pool, closed) =>
            (pool, val :: closed) := by
  have positive := wf.positive val live
  have inside := live.1
  have count_le := wf.count_le
  rw [delEvent]
  dsimp only
  rw [if_neg (not_not.mpr ⟨by omega, wf.iter val live⟩), if_neg (by omega),
    if_neg (not_not.mpr ⟨by omega, (wf.socket val live).symm, by omega⟩)]
  cases pair : (pool.items val).pair with
  | none => rfl
  | some e => exact if_neg (wf.pair val live e pair).2

theorem delEvent_of_closed (closed : pool.Closed val) :
    delEvent (fuel + 1) pool val = some (pool, []) := by
  obtain ⟨fd, iter, -⟩ := closed
  rw [delEvent]
  dsimp only
  rw [if_neg (not_not.mpr ⟨by omega, iter⟩), if_pos fd]

theorem Pool.unpair_keeps (wf : pool.Wf) (swept : pool.Swept offs) :
    Keeps offs pool (pool.unpair val e) [] := by
  rw [Pool.unpair]
  split_ifs with back
  · have first := @Pool.setPair_keeps pool e offs none wf swept (by simp)
    exact first.trans (Pool.setPair_keeps first.wf first.swept (by simp))
  · exact Pool.setPair_keeps wf swept (by simp)

theorem Pool.unpair_count : (pool.unpair val e).count = pool.count := by
  rw [Pool.unpair]
  split_ifs <;> rfl

/-- An event is closed, and with it its pair, the pair of its pair and so on. -/
theorem delEvent_keeps (wf : pool.Wf) (swept : pool.Swept offs) (known : pool.Known val)
    (enough : pool.count < fuel) :
    ∃ pool' closed, delEvent fuel pool val = some (pool', closed) ∧
      Keeps offs pool pool' (closed.map .closed) ∧ closed.length + pool'.count = pool.count ∧
      (pool.Live val → closed ≠ []) := by
  induction fuel generalizing pool val with
  | zero => omega
  | succ fuel ih =>
      by_cases live : pool.Live val
      · have inside := live.1
        have closes := Pool.close_keeps wf swept live
        rw [delEvent_of_live wf live]
        cases pair : (pool.items val).pair with
        | none =>
            refine ⟨_, _, rfl, closes, ?_, fun _ => List.cons_ne_nil _ _⟩
            rw [Pool.close_count, List.length_singleton]
            omega
        | some e =>
            have knownPair := (wf.pair val live e pair).1
            have unpaired := @Pool.unpair_keeps (pool.close val) val offs e closes.wf closes.swept
            have fewer : ((pool.close val).unpair val e).count = pool.count - 1 := by
              rw [Pool.unpair_count, Pool.close_count]
            obtain ⟨pool', closed, deleted, keeps, count, -⟩ :=
              @ih ((pool.close val).unpair val e) e unpaired.wf unpaired.swept
                (unpaired.known e (closes.known e knownPair)) (by omega)
            dsimp only
            rw [deleted]
            refine ⟨_, _, rfl, closes.trans (unpaired.trans keeps), ?_,
              fun _ => List.cons_ne_nil _ _⟩
            change closed.length + 1 + pool'.count = pool.count
            omega
      · rw [delEvent_of_closed (known.resolve_left live)]
        exact ⟨_, _, rfl, .refl wf swept, Nat.zero_add _, fun alive => absurd alive live⟩

/-- The pair of an event, if it is open. -/
def Pool.Leads (pool : Pool) (val e : ℕ) : Prop := (pool.items val).pair = some e ∧ pool.Live e

theorem Pool.live_unpair : (pool.unpair val e).Live w ↔ pool.Live w := by
  rw [Pool.unpair]
  split_ifs with back
  · rw [Pool.live_setPair, Pool.live_setPair]
  · rw [Pool.live_setPair]

theorem Pool.unpair_pair : ((pool.unpair val e).items w).pair =
    if w = val ∨ w = e ∧ (pool.items e).pair = some val then none else (pool.items w).pair := by
  rw [Pool.unpair, Pool.setPair_pair]
  by_cases same : w = val
  · rw [if_pos same, if_pos (.inl same)]
  · rw [if_neg same]
    split_ifs with back either either
    · rw [Pool.setPair_pair, if_pos (either.resolve_left same).1]
    · rw [Pool.setPair_pair, if_neg fun here => either (.inr ⟨here, back⟩)]
    · exact absurd (either.resolve_left same).2 back
    · rfl

theorem Pool.close_pair : ((pool.close val).items w).pair = (pool.items w).pair := by
  by_cases same : w = val
  · rw [same, Pool.close_items]
  · rw [Pool.close_items_of_ne same]

/-- When an event has been closed and its pair is next, the others lead on as before. -/
theorem Pool.leads_next (wf : pool.Wf) (live : pool.Live val) {x y : ℕ} :
    ((pool.close val).unpair val e).Leads x y ↔ pool.Leads x y ∧ x ≠ val ∧ y ≠ val := by
  rw [Pool.Leads, Pool.live_unpair, Pool.live_close wf live, Pool.unpair_pair, Pool.close_pair,
    Pool.close_pair, Pool.Leads]
  constructor
  · rintro ⟨pair, alive, other⟩
    split_ifs at pair with either
    exact ⟨⟨pair, alive⟩, fun same => either (.inl same), other⟩
  · rintro ⟨⟨pair, alive⟩, other, other'⟩
    rw [if_neg]
    · exact ⟨pair, alive, other'⟩
    · rintro (same | ⟨rfl, back⟩)
      · exact other same
      · exact other' (Option.some.inj (pair.symm.trans back))

theorem Pool.reach_next (wf : pool.Wf) (live : pool.Live val) (leads : pool.Leads val e)
    (differs : e ≠ val) : Relation.ReflTransGen pool.Leads val w ↔
      w = val ∨ Relation.ReflTransGen ((pool.close val).unpair val e).Leads e w := by
  constructor
  · intro reach
    induction reach with
    | refl => exact .inl rfl
    | @tail x y _ step ih =>
        by_cases back : y = val
        · exact .inl back
        · right
          obtain same | reach := ih
          · rw [same] at step
            obtain rfl : y = e := Option.some.inj (step.1.symm.trans leads.1)
            exact .refl
          · have other : x ≠ val := by
              cases reach with
              | refl => exact differs
              | tail _ last => exact ((Pool.leads_next wf live).mp last).2.2
            exact reach.tail ((Pool.leads_next wf live).mpr ⟨step, other, back⟩)
  · rintro (rfl | reach)
    · exact .refl
    · induction reach with
      | refl => exact .single leads
      | tail _ step ih => exact ih.tail ((Pool.leads_next wf live).mp step).1

theorem Pool.reach_of_not_leads (alone : ∀ y, ¬ pool.Leads val y) :
    Relation.ReflTransGen pool.Leads val w ↔ w = val := by
  constructor
  · intro reach
    obtain rfl | ⟨y, step, -⟩ := reach.cases_head
    · rfl
    · exact absurd step (alone y)
  · rintro rfl
    exact .refl

theorem Pool.Wf.swept (wf : pool.Wf) : pool.Swept pool.count :=
  ⟨wf.count_le, fun _ from' less => absurd less (Nat.not_lt.mpr from'),
    fun _ beyond less => absurd less (Nat.not_lt.mpr beyond)⟩

theorem mem_delEvent {closed : List ℕ} (wf : pool.Wf) (known : pool.Known val)
    (deleted : delEvent fuel pool val = some (pool', closed)) :
    w ∈ closed ↔ pool.Live val ∧ Relation.ReflTransGen pool.Leads val w := by
  induction fuel generalizing pool val closed with
  | zero => cases deleted
  | succ fuel ih =>
      by_cases live : pool.Live val
      · rw [delEvent_of_live wf live] at deleted
        rw [and_iff_right live]
        cases pair : (pool.items val).pair with
        | none =>
            rw [pair] at deleted
            cases deleted
            rw [List.mem_singleton, Pool.reach_of_not_leads]
            rintro y ⟨leads, -⟩
            rw [pair] at leads
            cases leads
        | some e =>
            rw [pair] at deleted
            obtain ⟨⟨last, rest⟩, later, same⟩ := Option.map_eq_some_iff.mp deleted
            cases same
            obtain ⟨knownPair, differs⟩ := wf.pair val live e pair
            have closes := Pool.close_keeps wf wf.swept live
            have unpaired := @Pool.unpair_keeps (pool.close val) val _ e closes.wf closes.swept
            rw [List.mem_cons, ih unpaired.wf (unpaired.known e (closes.known e knownPair)) later,
              Pool.live_unpair, Pool.live_close wf live]
            by_cases alive : pool.Live e
            · rw [and_iff_right ⟨alive, differs⟩, Pool.reach_next wf live ⟨pair, alive⟩ differs]
            · rw [or_iff_left fun next => alive next.1.1, Pool.reach_of_not_leads]
              rintro y ⟨leads, there⟩
              rw [pair] at leads
              cases leads
              exact alive there
      · rw [delEvent_of_closed (known.resolve_left live)] at deleted
        cases deleted
        exact iff_of_false List.not_mem_nil fun both => live both.1

theorem Board.after_closed {board : Board} {closed : List ℕ} :
    board.after (closed.map .closed) w = if w ∈ closed then none else board w := by
  induction closed generalizing board with
  | nil => rfl
  | cons v closed ih =>
      refine ih.trans ?_
      rw [Board.next]
      by_cases later : w ∈ closed
      · rw [if_pos later, if_pos (List.mem_cons_of_mem v later)]
      · rw [if_neg later]
        by_cases same : w = v
        · rw [if_pos (same ▸ List.mem_cons_self), same, Function.update_self]
        · rw [if_neg fun member => later ((List.mem_cons.mp member).resolve_left same),
            Function.update_of_ne same]

/-- What `del_event` closes: the event, and every event to which the pairs lead from it over open
ones; it ends, and nothing else is closed. -/
theorem delEvent_closes (wf : pool.Wf) (known : pool.Known val) :
    ∃ pool' closed, delEvent (pool.count + 1) pool val = some (pool', closed) ∧ pool'.Wf ∧
      (∀ v, v ∈ closed ↔ pool.Live val ∧ Relation.ReflTransGen pool.Leads val v) ∧
      ∀ v, pool'.Live v ↔ pool.Live v ∧ v ∉ closed := by
  obtain ⟨pool', closed, deleted, keeps, -⟩ :=
    delEvent_keeps wf wf.swept known (Nat.lt_succ_self _)
  refine ⟨pool', closed, deleted, keeps.wf, fun v => mem_delEvent wf known deleted, fun v => ?_⟩
  rw [← Pool.isSome_board, keeps.board, Board.after_closed, ← Pool.isSome_board]
  split_ifs with member
  · exact iff_of_false (by simp) fun both => both.2 member
  · exact (and_iff_left member).symm

section Association

def noMemory : Memory :=
  ⟨fun _ => ⟨0, 0, 0, none⟩, fun _ => ⟨0, 0, 0⟩, fun _ => 0, ⟨fun _ => none, fun _ => none⟩⟩

/-- The three events of a UDP association, each with the next one as its pair. -/
def association : Pool :=
  ((((((initPool 3 noMemory).place 5 pollIn).place 6 pollIn).place 7 pollIn).setPair 0
    (some 1)).setPair 1 (some 2)).setPair 2 (some 0)

theorem association_wf : association.Wf := by
  have one := @Pool.place_wf _ 5 pollIn (initPool_wf 3 noMemory) (by decide) (by decide)
  have two := @Pool.place_wf _ 6 pollIn one (by decide) (by decide)
  have opened := @Pool.place_wf _ 7 pollIn two (by decide) (by decide)
  have first := (@Pool.setPair_keeps _ 0 _ (some 1) opened opened.swept (by decide +kernel)).wf
  have second := (@Pool.setPair_keeps _ 1 _ (some 2) first first.swept (by decide +kernel)).wf
  exact (@Pool.setPair_keeps _ 2 _ (some 0) second second.swept (by decide +kernel)).wf

theorem delEvent_closes_association :
    ∃ pool' closed, delEvent (association.count + 1) association 1 = some (pool', closed) ∧
      pool'.Wf ∧
      (∀ v, v ∈ closed ↔ association.Live 1 ∧ Relation.ReflTransGen association.Leads 1 v) ∧
      ∀ v, pool'.Live v ↔ association.Live v ∧ v ∉ closed :=
  delEvent_closes association_wf (by decide +kernel)

end Association

end Pairs

end ZonDpi.Byedpi
