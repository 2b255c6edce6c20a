import ZonDpi.Byedpi.Board

/-!
The runs of the event loop: `next_event`, `next_event_tv` and `loop_event` of `conev.c`, from
`start_event_loop` on.

The pool follows the rules of the board in every run, whatever `poll` answers and whatever the
callbacks open and close in between (`startEventLoop_follows_rules`). So no event is lost and none
is served twice (`called_once`). What the callbacks owe the pool in turn is `Op.Legal`. `on_tunnel`
does not always pay it: where `tcp_send_hook` has connected anew, it sets the interest of an event
that has just been closed.
-/

namespace ZonDpi.Byedpi

open LinkedList

variable {pool pool' : Pool} {val offs : ℕ}

/-! ### What callbacks do -/

/-- Callbacks have pointers to events that have been opened, and use most of them while they are
open. No deadline is 0, which the code takes for none. -/
def Op.Legal (pool : Pool) : Op → Prop
  | .add fd _ => 0 < fd
  | .del val => pool.Known val
  | .modEtype val _ => pool.Live val
  | .setTimer val now ms => pool.Live val ∧ deadlineOf now ms ≠ 0
  | .removeTimer val => pool.Known val
  | .setPair val pair => ∀ e ∈ pair, pool.Known e ∧ e ≠ val

def LegalAll : Pool → List Op → Prop
  | _, [] => True
  | pool, op :: ops =>
      op.Legal pool ∧
        match perform pool op with
        | none => True
        | some (pool, _) => LegalAll pool ops

instance (pool : Pool) : (op : Op) → Decidable (op.Legal pool)
  | .add fd _ => inferInstanceAs (Decidable (0 < fd))
  | .del val => inferInstanceAs (Decidable (pool.Known val))
  | .modEtype val _ => inferInstanceAs (Decidable (pool.Live val))
  | .setTimer val now ms => inferInstanceAs (Decidable (pool.Live val ∧ deadlineOf now ms ≠ 0))
  | .removeTimer val => inferInstanceAs (Decidable (pool.Known val))
  | .setPair val pair => inferInstanceAs (Decidable (∀ e ∈ pair, pool.Known e ∧ e ≠ val))

instance LegalAll.decidable : (pool : Pool) → (ops : List Op) → Decidable (LegalAll pool ops)
  | _, [] => .isTrue trivial
  | pool, op :: ops =>
      have : Decidable (match perform pool op with
          | none => True
          | some (pool, _) => LegalAll pool ops) :=
        match perform pool op with
        | none => .isTrue trivial
        | some (pool, _) => LegalAll.decidable pool ops
      inferInstanceAs (Decidable (_ ∧ _))

theorem perform_keeps {op : Op} (wf : pool.Wf) (swept : pool.Swept offs) (legal : op.Legal pool) :
    ∃ pool' acts, perform pool op = some (pool', acts) ∧ Keeps offs pool pool' acts := by
  cases op with
  | add fd e =>
      obtain ⟨pool', val, added, keeps⟩ := @addEvent_keeps pool offs fd e wf swept legal
      exact ⟨_, _, by rw [perform, added]; rfl, keeps⟩
  | del val =>
      obtain ⟨pool', closed, deleted, keeps, -⟩ :=
        delEvent_keeps wf swept legal (Nat.lt_succ_self _)
      exact ⟨_, _, by rw [perform, deleted]; rfl, keeps⟩
  | modEtype val type =>
      obtain ⟨pool', modified, keeps⟩ := @modEtype_keeps pool val offs type wf swept legal
      exact ⟨_, _, by rw [perform, modified]; rfl, keeps⟩
  | setTimer val now ms =>
      obtain ⟨timers, set, keeps⟩ := setTimer_keeps wf swept legal.1 legal.2
      exact ⟨_, _, by rw [perform, set]; rfl, keeps⟩
  | removeTimer val =>
      exact ⟨_, _, rfl, Pool.removeTimer_act wf swept legal trivial rfl⟩
  | setPair val pair => exact ⟨_, _, rfl, Pool.setPair_keeps wf swept legal⟩

theorem performAll_keeps {ops : List Op} (wf : pool.Wf) (swept : pool.Swept offs)
    (legal : LegalAll pool ops) :
    ∃ pool' acts, performAll pool ops = some (pool', acts) ∧ Keeps offs pool pool' acts := by
  induction ops generalizing pool with
  | nil => exact ⟨pool, [], rfl, .refl wf swept⟩
  | cons op ops ih =>
      obtain ⟨next, first, performed, keeps⟩ := perform_keeps wf swept legal.1
      have later := legal.2
      rw [performed] at later
      obtain ⟨last, more, rest, kept⟩ := ih keeps.wf keeps.swept later
      refine ⟨last, first ++ more, ?_, keeps.trans kept⟩
      rw [performAll, performed, Option.bind_some]
      dsimp only
      rw [rest, Option.map_some]

/-! ### Going down the array -/

/-- Nothing is left to do about the event at a place. -/
def Pool.Served (pool : Pool) (i : ℕ) : Prop :=
  (pool.pevents i).revents = 0 ∨ (pool.items (pool.links i)).modIter = pool.iters

/-- The way down does not fail, and it ends at the first event that is left. -/
theorem scan_spec {n : ℕ} (swept : pool.Swept offs) (le : n ≤ offs) :
    (scan pool n = some none ∧ ∀ k < n, k < pool.count → pool.Served k) ∨
      ∃ i, scan pool n = some (some i) ∧ i < n ∧ i < pool.count ∧ ¬ pool.Served i ∧
        ∀ k, i < k → k < n → k < pool.count → pool.Served k := by
  induction n with
  | zero => exact .inl ⟨rfl, fun k less => by omega⟩
  | succ n ih =>
      have inside := swept.inside
      by_cases served : pool.Served n
      · have passed : scan pool (n + 1) = scan pool n := by
          rw [scan, if_neg (by omega)]
          dsimp only
          obtain none | same := served
          · rw [if_pos none]
          · rw [if_neg (not_not.mpr (.inr same)), if_pos same, ite_self]
        rw [passed]
        obtain ⟨ends, rest⟩ | ⟨i, found, less, open', left, rest⟩ := ih (by omega)
        · refine .inl ⟨ends, fun k less inside => ?_⟩
          obtain less | rfl := Nat.lt_or_eq_of_le (Nat.le_of_lt_succ less)
          · exact rest k less inside
          · exact served
        · refine .inr ⟨i, found, by omega, open', left, fun k above less inside => ?_⟩
          obtain less | rfl := Nat.lt_or_eq_of_le (Nat.le_of_lt_succ less)
          · exact rest k above less inside
          · exact served
      · -- What is not open any more has been closed on the way and would be passed.
        obtain ⟨reported, other⟩ := not_or.mp served
        have open' : n < pool.count := by
          by_contra beyond
          exact other (swept.closed n (by omega) le)
        refine .inr ⟨n, ?_, by omega, open', served, fun k above less => by omega⟩
        rw [scan, if_neg (by omega), if_neg reported]
        dsimp only
        rw [if_neg (not_not.mpr (.inl open')), if_neg other]

/-- If everything has been served, nothing is pending. -/
theorem Pool.pending_eq_none (served : ∀ k < pool.count, pool.Served k) {v : ℕ} {entry : Entry}
    (there : pool.board v = some entry) : entry.pending = none := by
  have live : pool.Live v := Pool.isSome_board.mp (by rw [there]; rfl)
  rw [Pool.board_of_live live, Option.some.injEq] at there
  rw [← there, Pool.entry]
  dsimp only
  refine if_neg ?_
  rintro ⟨reported, other⟩
  have := served _ live.1
  rw [Pool.Served, live.2] at this
  exact this.elim reported other

/-- The event at a place is called. -/
theorem Pool.call_keeps {i : ℕ} (wf : pool.Wf) (swept : pool.Swept offs) (below : i ≤ offs)
    (open' : i < pool.count) (left : ¬ pool.Served i)
    (above : ∀ k, i < k → k < offs → k < pool.count → pool.Served k) :
    Keeps i pool
      { pool with
        pevents := Function.update pool.pevents i { pool.pevents i with revents := 0 } }
      [.called (pool.links i) (pool.pevents i).revents] := by
  have live := wf.live_links open'
  have index := wf.index i open'
  obtain ⟨reported, other⟩ := not_or.mp left
  refine ⟨wf.setPevent rfl, ⟨Nat.le_trans below swept.inside, fun k from' less => ?_,
    fun k beyond less => swept.closed k beyond (by omega)⟩, fun _ known => known, ?_,
    ⟨pool.entry (pool.links i), Pool.board_of_live live, ?_⟩, trivial⟩
  · by_cases here : k = i
    · left
      simp [here]
    · have served : pool.Served k := by
        by_cases before : k < offs
        · exact above k (by omega) before less
        · exact swept.served k (by omega) less
      refine served.imp_left fun none => ?_
      simp [here, none]
  · refine Pool.board_change (fun _ => Iff.rfl) (fun _ => ?_) fun w differs alive => ?_
    · simp [Pool.entry, index]
    · exact Pool.entry_setPevent (index ▸ live.index_ne alive differs)
  · rw [Pool.entry, index]
    exact if_pos ⟨reported, other⟩

/-! ### Polling -/

section Polling

variable {reports : Reports}

theorem Pool.poll_pevents {i : ℕ} (less : i < pool.count) : (pool.poll reports).pevents i =
    { pool.pevents i with revents := reports.of (pool.pevents i).fd (pool.pevents i).events } :=
  if_pos less

theorem Pool.poll_fd (i : ℕ) : ((pool.poll reports).pevents i).fd = (pool.pevents i).fd := by
  rw [Pool.poll]
  dsimp only
  split_ifs <;> rfl

theorem Pool.poll_wf (wf : pool.Wf) : (pool.poll reports).Wf := by
  refine ⟨wf.count_le, wf.distinct, wf.index, fun v live => ?_, wf.positive, wf.iter, wf.pair,
    wf.timers⟩
  rw [Pool.poll_fd]
  exact wf.socket v live

theorem Pool.not_ready (ready : (pool.poll reports).ready ≠ true) {i : ℕ} (less : i < pool.count) :
    ((pool.poll reports).pevents i).revents = 0 := by
  by_contra reported
  refine ready (List.any_eq_true.mpr ⟨i, List.mem_range.mpr less, ?_⟩)
  exact bne_iff_ne.mpr reported

theorem Pool.entry_polled {v n : ℕ} (wf : pool.Wf) (live : pool.Live v) :
    ((pool.poll reports).setIters n).entry v =
      { pool.entry v with
        pending :=
          let type := reports.of (pool.entry v).fd (pool.entry v).events
          if type ≠ 0 ∧ (pool.items v).modIter ≠ n then some type else none } := by
  simp only [Pool.entry, Pool.setIters, Pool.poll, live.1, if_true, wf.socket v live]
  rfl

/-- After `poll`, the board is what the answer makes of it, if everything that was reported is
newer than the last change of its event. -/
theorem Pool.board_polled {n : ℕ} (wf : pool.Wf)
    (fresh : ∀ v, pool.Live v → reports.of (pool.entry v).fd (pool.entry v).events ≠ 0 →
      (pool.items v).modIter ≠ n) :
    ((pool.poll reports).setIters n).board = pool.board.next (.polled reports) := by
  funext v
  change _ = (pool.board v).map (Entry.report reports)
  by_cases live : pool.Live v
  · rw [Pool.board_of_live (show ((pool.poll reports).setIters n).Live v from live),
      Pool.board_of_live live, Option.map_some, Pool.entry_polled wf live, Entry.report]
    dsimp only
    by_cases silent : reports.of (pool.entry v).fd (pool.entry v).events = 0
    · rw [if_neg fun reported => reported.1 silent, if_pos silent]
    · rw [if_pos ⟨silent, fresh v live silent⟩, if_neg silent]
  · rw [Pool.board_of_not_live (show ¬ ((pool.poll reports).setIters n).Live v from live),
      Pool.board_of_not_live live, Option.map_none]

/-- `poll` has reported nothing. -/
theorem Pool.poll_timeout (wf : pool.Wf) (swept : pool.Swept offs)
    (served : ∀ k < pool.count, pool.Served k) (ready : (pool.poll reports).ready ≠ true) :
    Keeps offs pool (pool.poll reports) [.polled reports] := by
  refine ⟨Pool.poll_wf wf, ⟨swept.inside, fun k _ less => .inl (Pool.not_ready ready less),
    swept.closed⟩, fun _ known => known, ?_, fun _ _ => Pool.pending_eq_none served, trivial⟩
  refine @Pool.board_polled pool reports pool.iters wf fun v live reported => ?_
  have silent := Pool.not_ready ready live.1
  rw [Pool.poll_pevents live.1] at silent
  dsimp only at silent
  rw [wf.socket v live] at silent
  exact absurd silent reported

/-- A new round: what has been reported is pending. -/
theorem Pool.poll_round (wf : pool.Wf) (served : ∀ k < pool.count, pool.Served k) :
    Keeps pool.count pool ((pool.poll reports).setIters (pool.iters + 1)) [.polled reports] := by
  have known : ∀ v, pool.Known v →
      ((pool.poll reports).setIters (pool.iters + 1)).Known v := fun v known =>
    known.imp_right fun closed => ⟨closed.1, Nat.le_succ_of_le closed.2.1, closed.2.2⟩
  have polled := @Pool.poll_wf pool reports wf
  refine ⟨⟨wf.count_le, wf.distinct, wf.index, polled.socket, wf.positive,
    fun v live => Nat.le_succ_of_le (wf.iter v live),
    fun v live e member => (wf.pair v live e member).imp_left (known e), wf.timers⟩,
    ⟨wf.count_le, fun k from' less => absurd less (Nat.not_lt.mpr from'),
      fun k beyond less => absurd less (Nat.not_lt.mpr beyond)⟩, known, ?_,
    fun _ _ => Pool.pending_eq_none served, trivial⟩
  exact Pool.board_polled wf fun v live _ => Nat.ne_of_lt (Nat.lt_succ_of_le (wf.iter v live))

end Polling

/-! ### The next event -/

theorem nextEvent_found {polls : List Poll} {type : ℤ} {i : ℕ}
    (found : scan pool offs = some (some i)) :
    nextEvent polls pool offs type = some
      ⟨{ pool with
          pevents := Function.update pool.pevents i { pool.pevents i with revents := 0 } }, i,
        (pool.pevents i).revents, some (pool.links i),
        [.called (pool.links i) (pool.pevents i).revents]⟩ := by
  rw [nextEvent.eq_def, found]

/-- At most one answer of `poll` is needed. -/
theorem nextEvent_keeps {polls : List Poll} {type : ℤ} (wf : pool.Wf) (swept : pool.Swept offs)
    (asked : polls ≠ []) :
    ∃ found, nextEvent polls pool offs type = some found ∧
      Keeps found.offs pool found.pool found.acts ∧ ∀ v ∈ found.val, found.pool.Live v := by
  obtain ⟨ends, served⟩ | ⟨i, found, less, open', left, above⟩ := scan_spec swept (Nat.le_refl offs)
  · have all : ∀ k < pool.count, pool.Served k := by
      intro k inside
      by_cases before : k < offs
      · exact served k before inside
      · exact swept.served k (by omega) inside
    obtain ⟨poll, polls, rfl⟩ := List.exists_cons_of_ne_nil asked
    cases poll with
    | failed =>
        refine ⟨_, by rw [nextEvent.eq_def, ends], .refl wf swept, ?_⟩
        intro v member
        cases member
    | answered reports =>
        by_cases ready : (pool.poll reports).ready = true
        · -- Everything that has been reported is left to serve, so the second way down finds it.
          have round := @Pool.poll_round pool reports wf all
          obtain ⟨-, silent⟩ | ⟨i, found, less, open', left, above⟩ :=
            scan_spec round.swept (Nat.le_refl pool.count)
          · obtain ⟨k, inside, reported⟩ := List.any_eq_true.mp ready
            have inside := List.mem_range.mp inside
            have old := wf.iter _ (wf.live_links inside)
            obtain none | new := silent k inside inside
            · exact absurd none (bne_iff_ne.mp reported)
            · change (pool.items (pool.links k)).modIter = pool.iters + 1 at new
              omega
          · have called := Pool.call_keeps round.wf round.swept (Nat.le_of_lt less) open' left above
            have next : nextEvent (.answered reports :: polls) pool offs type =
                (nextEvent polls ((pool.poll reports).setIters (pool.iters + 1)) pool.count
                  type).map fun found => { found with acts := .polled reports :: found.acts } := by
              rw [nextEvent.eq_def, ends]
              exact if_pos ready
            rw [nextEvent_found found, Option.map_some] at next
            exact ⟨_, next, round.trans called, fun v member =>
              Option.mem_some.mp member ▸ round.wf.live_links open'⟩
        · have timeout := Pool.poll_timeout wf swept all ready
          refine ⟨_, by rw [nextEvent.eq_def, ends]; exact if_neg ready, timeout, ?_⟩
          intro v member
          cases member
  · exact ⟨_, nextEvent_found found, Pool.call_keeps wf swept (Nat.le_of_lt less) open' left above,
      fun v member => Option.mem_some.mp member ▸ wf.live_links open'⟩

/-- What stands at the start of the timers is allowed to fire. -/
theorem Pool.Wf.fires (wf : pool.Wf) (start : pool.timers.tvStart = some val) :
    pool.board.Allows (.fired val) := by
  obtain ⟨alive, runs, least⟩ := wf.timers.start start
  refine ⟨pool.entry val, pool.timers.tvMs val, Pool.board_of_live alive, if_pos runs, ?_⟩
  intro other entry deadline there set
  have live : pool.Live other := Pool.isSome_board.mp (by rw [there]; rfl)
  rw [Pool.board_of_live live, Option.some.injEq] at there
  rw [← there, Pool.entry] at set
  dsimp only at set
  split_ifs at set with runs'
  rw [← Option.some.inj set]
  exact least other live runs'

theorem nextEventTv_keeps {polls : List Poll} {now type : ℤ} (wf : pool.Wf)
    (swept : pool.Swept offs) (asked : polls ≠ []) :
    ∃ found, nextEventTv polls now pool offs type = some found ∧
      Keeps found.offs pool found.pool found.acts ∧ ∀ v ∈ found.val, found.pool.Live v := by
  rw [nextEventTv]
  cases start : pool.timers.tvStart with
  | none => exact nextEvent_keeps wf swept asked
  | some first =>
      obtain ⟨found, next, keeps, live⟩ : ∃ found,
          (if 0 < wrapLong (pool.timers.tvMs first - now) then nextEvent polls pool offs type
            else some ⟨pool, offs, 0, none, []⟩) = some found ∧
          Keeps found.offs pool found.pool found.acts ∧ ∀ v ∈ found.val, found.pool.Live v := by
        split_ifs with waits
        · exact nextEvent_keeps wf swept asked
        · exact ⟨_, rfl, .refl wf swept, fun v member => by cases member⟩
      dsimp only
      rw [next, Option.map_some]
      refine ⟨_, rfl, ?_⟩
      obtain ⟨pool', offs', type', val, acts⟩ := found
      cases val with
      | some v => exact ⟨keeps, live⟩
      | none =>
          cases start' : pool'.timers.tvStart with
          | none => exact ⟨keeps, live⟩
          | some v =>
              dsimp only
              split_ifs with timeout
              · have alive := (keeps.wf.timers.start start').1
                have fires := Pool.removeTimer_act keeps.wf keeps.swept (.inl alive)
                  (keeps.wf.fires start') rfl
                exact ⟨keeps.trans fires, fun w member => Option.mem_some.mp member ▸ alive⟩
              · exact ⟨keeps, live⟩

/-! ### Runs -/

theorem legalAll_append {ops more : List Op} (legal : LegalAll pool ops)
    (later : ∀ pool' acts, performAll pool ops = some (pool', acts) → LegalAll pool' more) :
    LegalAll pool (ops ++ more) := by
  induction ops generalizing pool with
  | nil => exact later pool [] rfl
  | cons op ops ih =>
      refine ⟨legal.1, ?_⟩
      have rest := legal.2
      cases performed : perform pool op with
      | none => trivial
      | some result =>
          obtain ⟨next, acts⟩ := result
          rw [performed] at rest
          refine ih rest fun pool' acts' done => later pool' (acts ++ acts') ?_
          rw [performAll, performed, Option.bind_some]
          dsimp only
          rw [done, Option.map_some]

/-- In every turn `poll` gives an answer, and the callback does what callbacks may do. -/
def LegalTurns : Loop → List Turn → Prop
  | _, [] => True
  | s, turn :: turns =>
      turn.polls ≠ [] ∧
      (match nextEventTv turn.polls turn.now s.pool s.offs s.etype with
        | none => True
        | some found => LegalAll found.pool turn.ops) ∧
      match loopTurn s turn with
      | some (s, true, _) => LegalTurns s turns
      | _ => True

instance LegalTurns.decidable : (s : Loop) → (turns : List Turn) → Decidable (LegalTurns s turns)
  | _, [] => .isTrue trivial
  | s, turn :: turns =>
      have : Decidable (turn.polls ≠ []) :=
        match turn.polls with
        | [] => .isFalse fun asked => asked rfl
        | _ :: _ => .isTrue (List.cons_ne_nil _ _)
      have : Decidable (match nextEventTv turn.polls turn.now s.pool s.offs s.etype with
          | none => True
          | some found => LegalAll found.pool turn.ops) :=
        match nextEventTv turn.polls turn.now s.pool s.offs s.etype with
        | none => .isTrue trivial
        | some found => LegalAll.decidable found.pool turn.ops
      have : Decidable (match loopTurn s turn with
          | some (s, true, _) => LegalTurns s turns
          | _ => True) :=
        match loopTurn s turn with
        | some (s, true, _) => LegalTurns.decidable s turns
        | some (_, false, _) => .isTrue trivial
        | none => .isTrue trivial
      inferInstanceAs (Decidable (_ ∧ _ ∧ _))

theorem loopTurn_keeps {s : Loop} {turn : Turn} (wf : s.pool.Wf) (swept : s.pool.Swept s.offs)
    (asked : turn.polls ≠ [])
    (legal : ∀ found, nextEventTv turn.polls turn.now s.pool s.offs s.etype = some found →
      LegalAll found.pool turn.ops) :
    ∃ s' goesOn acts, loopTurn s turn = some (s', goesOn, acts) ∧
      Keeps s'.offs s.pool s'.pool acts := by
  obtain ⟨found, next, keeps, live⟩ :=
    @nextEventTv_keeps s.pool s.offs turn.polls turn.now s.etype wf swept asked
  have legal := legal found next
  rw [loopTurn, next, Option.bind_some]
  cases called : found.val with
  | none => exact ⟨_, _, _, rfl, keeps⟩
  | some val =>
      have known : found.pool.Known val := .inl (live val called)
      have legal' : LegalAll found.pool
          (if turn.ret < 0 then turn.ops ++ [.del val] else turn.ops) := by
        split_ifs with failed
        · refine legalAll_append legal fun pool' acts performed => ⟨?_, ?_⟩
          · obtain ⟨pool'', acts', performed', kept⟩ :=
              performAll_keeps keeps.wf keeps.swept legal
            rw [performed] at performed'
            cases performed'
            exact kept.known val known
          · split <;> trivial
        · exact legal
      obtain ⟨pool', acts, performed, kept⟩ := performAll_keeps keeps.wf keeps.swept legal'
      dsimp only
      rw [performed, Option.map_some]
      exact ⟨_, _, _, rfl, keeps.trans kept⟩

theorem loopEvent_keeps {s : Loop} {turns : List Turn} (wf : s.pool.Wf)
    (swept : s.pool.Swept s.offs) (legal : LegalTurns s turns) :
    ∃ s' acts, loopEvent s turns = some (s', acts) ∧ Keeps s'.offs s.pool s'.pool acts := by
  induction turns generalizing s with
  | nil => exact ⟨s, [], rfl, .refl wf swept⟩
  | cons turn turns ih =>
      obtain ⟨asked, callback, later⟩ := legal
      obtain ⟨next, goesOn, acts, done, keeps⟩ := loopTurn_keeps wf swept asked fun found next => by
        rw [next] at callback
        exact callback
      rw [done] at later
      rw [loopEvent, done, Option.bind_some]
      cases goesOn with
      | false => exact ⟨_, _, rfl, keeps⟩
      | true =>
          obtain ⟨last, more, rest, kept⟩ := ih keeps.wf keeps.swept later
          dsimp only
          rw [if_pos rfl, rest, Option.map_some]
          exact ⟨_, _, rfl, keeps.trans kept⟩

/-- In the end every event is closed. -/
theorem destroyPool_keeps {fuel : ℕ} (wf : pool.Wf) (swept : pool.Swept offs)
    (enough : pool.count ≤ fuel) :
    ∃ pool' acts, destroyPool fuel pool = some (pool', acts) ∧ Keeps offs pool pool' acts ∧
      pool'.count = 0 := by
  induction fuel generalizing pool with
  | zero =>
      rw [destroyPool, if_pos (by omega)]
      exact ⟨_, _, rfl, .refl wf swept, by omega⟩
  | succ fuel ih =>
      rw [destroyPool]
      by_cases empty : pool.count = 0
      · rw [if_pos empty]
        exact ⟨_, _, rfl, .refl wf swept, empty⟩
      · have live := wf.live_links (Nat.pos_of_ne_zero empty)
        obtain ⟨next, closed, deleted, keeps, count, some'⟩ :=
          delEvent_keeps wf swept (.inl live) (Nat.lt_succ_self _)
        have fewer := List.length_pos_iff.mpr (some' live)
        obtain ⟨last, acts, rest, kept, none'⟩ := ih keeps.wf keeps.swept (by omega)
        rw [if_neg empty, perform, deleted, Option.map_some, Option.bind_some]
        dsimp only
        rw [rest, Option.map_some]
        exact ⟨_, _, rfl, keeps.trans kept, none'⟩

/-! ### The whole program -/

def Board.empty : Board := fun _ => none

theorem Pool.board_of_count (none' : pool.count = 0) : pool.board = Board.empty := by
  funext v
  refine Pool.board_of_not_live fun live => ?_
  have := live.1
  omega

theorem startEventLoop_keeps (maxOpen : ℕ) (memory : Memory) {srvfd : ℤ} {turns : List Turn}
    (socket : 0 < srvfd)
    (legal : LegalTurns ⟨(initPool (maxOpen * 2 + 1) memory).place srvfd pollIn, 0, -1⟩ turns) :
    ∃ acts offs last, startEventLoop maxOpen memory srvfd turns = some acts ∧
      Keeps offs (initPool (maxOpen * 2 + 1) memory) last acts ∧ last.count = 0 := by
  obtain ⟨pool, pool_eq⟩ : ∃ pool, pool = initPool (maxOpen * 2 + 1) memory := ⟨_, rfl⟩
  have wf : pool.Wf := pool_eq ▸ initPool_wf _ _
  have fresh : pool.count = 0 := by rw [pool_eq]; rfl
  have room : pool.count < pool.max := by
    rw [pool_eq]
    exact Nat.succ_pos _
  have swept : pool.Swept 0 := ⟨Nat.zero_le _, fun i _ less => by omega, fun i _ less => by omega⟩
  have opens := @Pool.place_keeps pool 0 srvfd pollIn wf swept room socket
  rw [← pool_eq] at legal ⊢
  obtain ⟨s, acts, ran, keeps⟩ := @loopEvent_keeps ⟨pool.place srvfd pollIn, 0, -1⟩ turns opens.wf
    opens.swept legal
  obtain ⟨last, closed, destroyed, kept, none'⟩ :=
    destroyPool_keeps keeps.wf keeps.swept (Nat.le_refl _)
  refine ⟨_, _, _, ?_, (opens.trans keeps).trans kept, none'⟩
  have added : perform pool (.add srvfd pollIn) =
      some (pool.place srvfd pollIn, [.opened (pool.links pool.count) srvfd pollIn]) := by
    rw [perform, addEvent, if_neg (by omega), if_neg (by omega)]
    rfl
  rw [startEventLoop, ← pool_eq, added, Option.bind_some]
  dsimp only
  rw [ran, Option.bind_some]
  dsimp only
  rw [destroyed, Option.map_some]

/-- In every run, whatever the memory holds at first, whatever `poll` answers and whatever the
callbacks do of what they may do, no assertion fails and no array is left, the rules of the board
are kept, and in the end everything has been closed. -/
theorem startEventLoop_follows_rules (maxOpen : ℕ) (memory : Memory) {srvfd : ℤ}
    {turns : List Turn} (socket : 0 < srvfd)
    (legal : LegalTurns ⟨(initPool (maxOpen * 2 + 1) memory).place srvfd pollIn, 0, -1⟩ turns) :
    ∃ acts, startEventLoop maxOpen memory srvfd turns = some acts ∧
      Board.empty.AllowsAll acts ∧ Board.empty.after acts = Board.empty := by
  obtain ⟨acts, offs, last, ran, keeps, none'⟩ := startEventLoop_keeps maxOpen memory socket legal
  have board := keeps.board
  have allowed := keeps.allowed
  rw [Pool.board_of_count none', Pool.board_of_count rfl] at board
  rw [Pool.board_of_count rfl] at allowed
  exact ⟨acts, ran, allowed, board.symm⟩

section OneClient

/-- A client is accepted. Then it and the listening socket are reported together; it sets a timer
and is closed, and the listening socket is served. The next `poll` fails. -/
def oneClient : List Turn :=
  [⟨0, [.answered [((5, pollIn), pollIn)]], [.add 7 pollIn], 0, false⟩,
    ⟨0, [.answered [((5, pollIn), pollIn), ((7, pollIn), pollIn)]], [.setTimer 1 0 100], -1, false⟩,
    ⟨0, [.failed], [], 0, false⟩,
    ⟨0, [.failed], [], 0, false⟩]

theorem startEventLoop_follows_rules_oneClient :
    ∃ acts, startEventLoop 1 noMemory 5 oneClient = some acts ∧
      Board.empty.AllowsAll acts ∧ Board.empty.after acts = Board.empty :=
  startEventLoop_follows_rules 1 noMemory (by decide) (by decide +kernel)

end OneClient

/-! ### What the rules come to -/

def Action.isPoll : Action → Bool
  | .polled _ => true
  | _ => false

def Action.calls (val : ℕ) : Action → Bool
  | .called other _ => other == val
  | _ => false

/-- What has been reported about an event and not been served. -/
def Board.pending (board : Board) (val : ℕ) : Option ℕ := (board val).bind Entry.pending

theorem Board.pending_change {board : Board} {v w : ℕ} {f : Entry → Entry}
    (kept : ∀ entry, (f entry).pending = entry.pending) :
    Board.pending (board.change w f) v = board.pending v := by
  by_cases same : v = w
  · rw [Board.pending, Board.change, same, Function.update_self, Board.pending]
    cases board w with
    | none => rfl
    | some entry => exact kept entry
  · rw [Board.pending, Board.change, Function.update_of_ne same, Board.pending]

/-- Between two polls, what is pending about an event stays, or goes with a call or its end. -/
theorem Board.pending_next {board : Board} {act : Action} (allowed : board.Allows act)
    (noPoll : act.isPoll = false) (v : ℕ) :
    (act.calls v = false ∧ (board.next act).pending v = board.pending v) ∨
      (act = .closed v ∧ (board.next act).pending v = none) ∨
      ∃ type, act = .called v type ∧ board.pending v = some type ∧
        (board.next act).pending v = none := by
  cases act with
  | opened w fd events =>
      refine .inl ⟨rfl, ?_⟩
      by_cases same : v = w
      · rw [same, Board.pending, Board.next, Function.update_self, Board.pending, allowed]
        rfl
      · rw [Board.pending, Board.next, Function.update_of_ne same, Board.pending]
  | closed w =>
      by_cases same : v = w
      · rw [same]
        refine .inr (.inl ⟨rfl, ?_⟩)
        rw [Board.pending, Board.next, Function.update_self]
        rfl
      · refine .inl ⟨rfl, ?_⟩
        rw [Board.pending, Board.next, Function.update_of_ne same, Board.pending]
  | asked w events => exact .inl ⟨rfl, Board.pending_change fun _ => rfl⟩
  | timed w deadline => exact .inl ⟨rfl, Board.pending_change fun _ => rfl⟩
  | untimed w => exact .inl ⟨rfl, Board.pending_change fun _ => rfl⟩
  | polled reports => cases noPoll
  | called w type =>
      obtain ⟨entry, there, pending⟩ := allowed
      by_cases same : v = w
      · rw [same]
        refine .inr (.inr ⟨type, rfl, ?_, ?_⟩)
        · rw [Board.pending, there]
          exact pending
        · rw [Board.pending, Board.next, Board.change, Function.update_self, there]
          rfl
      · refine .inl ⟨beq_false_of_ne (Ne.symm same), ?_⟩
        rw [Board.pending, Board.next, Board.change, Function.update_of_ne same, Board.pending]
  | fired w => exact .inl ⟨rfl, Board.pending_change fun _ => rfl⟩

theorem Board.calls_between {board : Board} {acts : List Action} (allowed : board.AllowsAll acts)
    (noPoll : ∀ act ∈ acts, act.isPoll = false) (v : ℕ) :
    (acts.filter (Action.calls v) = [] ∧ (board.after acts).pending v = board.pending v) ∨
      (.closed v ∈ acts ∧ acts.filter (Action.calls v) = [] ∧
        (board.after acts).pending v = none) ∨
      ∃ type, board.pending v = some type ∧ acts.filter (Action.calls v) = [.called v type] ∧
        (board.after acts).pending v = none := by
  induction acts generalizing board with
  | nil => exact .inl ⟨rfl, rfl⟩
  | cons act acts ih =>
      have later := ih allowed.2 fun act member => noPoll act (List.mem_cons_of_mem _ member)
      change _ ∨ _ ∨ _ at later
      obtain ⟨silent, same⟩ | ⟨rfl, gone⟩ | ⟨type, rfl, pending, gone⟩ :=
        Board.pending_next allowed.1 (noPoll act List.mem_cons_self) v
      · rw [List.filter_cons_of_neg (by simp [silent]), ← same]
        obtain first | ⟨closed, second⟩ | third := later
        · exact .inl first
        · exact .inr (.inl ⟨List.mem_cons_of_mem _ closed, second⟩)
        · exact .inr (.inr third)
      · rw [List.filter_cons_of_neg (by simp [Action.calls])]
        obtain ⟨none', same⟩ | ⟨-, none', after⟩ | ⟨type, pending, -⟩ := later
        · exact .inr (.inl ⟨List.mem_cons_self, none', same.trans gone⟩)
        · exact .inr (.inl ⟨List.mem_cons_self, none', after⟩)
        · rw [gone] at pending
          cases pending
      · rw [List.filter_cons_of_pos (by simp [Action.calls])]
        obtain ⟨none', same⟩ | ⟨-, none', after⟩ | ⟨type, pending, -⟩ := later
        · exact .inr (.inr ⟨type, pending, by rw [none'], same.trans gone⟩)
        · exact .inr (.inr ⟨type, pending, by rw [none'], after⟩)
        · rw [gone] at pending
          cases pending

/-- Between two polls, every event that is open at the first is called with what was reported
about it, exactly once, unless it is closed before; and no other event is called. -/
theorem called_once (maxOpen : ℕ) (memory : Memory) {srvfd : ℤ} {turns : List Turn}
    {before between after : List Action} {reports reports' : Reports} (socket : 0 < srvfd)
    (legal : LegalTurns ⟨(initPool (maxOpen * 2 + 1) memory).place srvfd pollIn, 0, -1⟩ turns)
    (ran : startEventLoop maxOpen memory srvfd turns =
      some (before ++ .polled reports :: (between ++ .polled reports' :: after)))
    (noPoll : ∀ act ∈ between, act.isPoll = false) (v : ℕ) :
    match Board.empty.after before v with
    | none => between.filter (Action.calls v) = []
    | some entry =>
        let type := reports.of entry.fd entry.events
        between.filter (Action.calls v) = (if type = 0 then [] else [.called v type]) ∨
          .closed v ∈ between ∧ between.filter (Action.calls v) = [] := by
  obtain ⟨acts, offs, last, ran', keeps, -⟩ := startEventLoop_keeps maxOpen memory socket legal
  rw [ran, Option.some.injEq] at ran'
  have allowed := keeps.allowed
  rw [Pool.board_of_count rfl, ← ran'] at allowed
  obtain ⟨-, -, rest⟩ := Board.allowsAll_append.mp allowed
  obtain ⟨within, served, -⟩ := Board.allowsAll_append.mp rest
  have ends : (((Board.empty.after before).next (.polled reports)).after between).pending v =
      none := by
    rw [Board.pending]
    cases there : ((Board.empty.after before).next (.polled reports)).after between v with
    | none => rfl
    | some entry => exact served v entry there
  have calls := Board.calls_between within noPoll v
  rw [ends] at calls
  cases there : Board.empty.after before v with
  | none =>
      have nothing : ((Board.empty.after before).next (.polled reports)).pending v = none := by
        rw [Board.pending, Board.next]
        dsimp only
        rw [there]
        rfl
      obtain ⟨none', -⟩ | ⟨-, none', -⟩ | ⟨type, pending, -⟩ := calls
      · exact none'
      · exact none'
      · rw [nothing] at pending
        cases pending
  | some entry =>
      have reported : ((Board.empty.after before).next (.polled reports)).pending v =
          if reports.of entry.fd entry.events = 0 then none
          else some (reports.of entry.fd entry.events) := by
        rw [Board.pending, Board.next]
        dsimp only
        rw [there]
        rfl
      rw [reported] at calls
      dsimp only
      split_ifs at calls ⊢ with silent
      · obtain ⟨none', -⟩ | ⟨-, none', -⟩ | ⟨type, pending, -⟩ := calls
        · exact .inl none'
        · exact .inl none'
        · cases pending
      · obtain ⟨-, pending⟩ | ⟨closed, none', -⟩ | ⟨type, pending, once, -⟩ := calls
        · cases pending
        · exact .inr ⟨closed, none'⟩
        · cases pending
          exact .inl once

/-- The listening socket between the two polls of the example. -/
theorem called_once_oneClient :
    [Action.called 0 pollIn, .opened 1 7 pollIn].filter (Action.calls 0) = [.called 0 pollIn] ∨
      .closed 0 ∈ [Action.called 0 pollIn, .opened 1 7 pollIn] ∧
        [Action.called 0 pollIn, .opened 1 7 pollIn].filter (Action.calls 0) = [] :=
  @called_once 1 noMemory 5 oneClient [.opened 0 5 pollIn] [.called 0 pollIn, .opened 1 7 pollIn]
    [.called 1 pollIn, .timed 1 100, .closed 1, .called 0 pollIn, .closed 0]
    [((5, pollIn), pollIn)] [((5, pollIn), pollIn), ((7, pollIn), pollIn)]
    (by decide) (by decide +kernel) (by decide +kernel) (by simp [Action.isPoll]) 0

end ZonDpi.Byedpi
