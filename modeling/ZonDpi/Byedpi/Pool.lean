import ZonDpi.Byedpi.Timers

/-!
The event pool of ByeDPI: `init_pool`, `add_event`, `del_event`, `mod_etype`, `next_event`,
`next_event_tv` and `loop_event` of `conev.c`, as they are built on Windows.

The events lie in `items` and are pointed to by `links`, in which the open ones come first, each
at the place of its entry in `pevents`, the array that is given to `poll`. An event is closed by
putting the last open one in its place, while `next_event` may be on its way down the same array.
What poll and the callbacks do is an input. The result is `none` where the code would fail an
assertion or leave an array.
-/

namespace ZonDpi.Byedpi

open LinkedList

/-- An event; its timer is in `Pool.timers`. -/
structure Eval where
  fd : ℤ
  index : ℕ
  modIter : ℕ
  pair : Option ℕ

structure PollFd where
  fd : ℤ
  events : ℕ
  revents : ℕ

structure Pool where
  max : ℕ
  count : ℕ
  links : ℕ → ℕ
  items : ℕ → Eval
  pevents : ℕ → PollFd
  iters : ℕ
  timers : Timers ℕ

/-- What `poll` reports: for a socket and what is asked about it, what it is ready for. -/
abbrev Reports := List ((ℤ × ℕ) × ℕ)

def Reports.of (reports : Reports) (fd : ℤ) (events : ℕ) : ℕ :=
  (reports.lookup (fd, events)).getD 0

/-- What the pool does that can be seen from outside. -/
inductive Action
  | opened (val : ℕ) (fd : ℤ) (events : ℕ)
  | closed (val : ℕ)
  | asked (val : ℕ) (events : ℕ)
  | timed (val : ℕ) (deadline : ℤ)
  | untimed (val : ℕ)
  | polled (reports : Reports)
  | called (val : ℕ) (type : ℕ)
  | fired (val : ℕ)
deriving DecidableEq, Repr

/-! ### Events -/

/-- What the arrays of a pool hold when they come from `malloc`. -/
structure Memory where
  items : ℕ → Eval
  pevents : ℕ → PollFd
  tvMs : ℕ → ℤ
  tv : Links ℕ

/-- Only the first item is cleared. -/
def initPool (count : ℕ) (memory : Memory) : Pool where
  max := count
  count := 0
  links := id
  items := Function.update memory.items 0 ⟨0, 0, 0, none⟩
  pevents := memory.pevents
  iters := 0
  timers := Timers.clear ⟨memory.tvMs, memory.tv, none, none⟩ 0

/-- The first event that is not open is cleared and opened. -/
def Pool.place (pool : Pool) (fd : ℤ) (e : ℕ) : Pool :=
  let val := pool.links pool.count
  { pool with
    items := Function.update pool.items val ⟨fd, pool.count, pool.iters, none⟩
    timers := pool.timers.clear val
    pevents := Function.update pool.pevents pool.count ⟨fd, e, 0⟩
    count := pool.count + 1 }

def addEvent (pool : Pool) (fd : ℤ) (e : ℕ) : Option (Pool × Option ℕ) :=
  if fd ≤ 0 then none
  else if pool.max ≤ pool.count then some (pool, none)
  else some (pool.place fd e, some (pool.links pool.count))

/-- The event is closed, and the last one comes in its place. -/
def Pool.close (pool : Pool) (val : ℕ) : Pool :=
  let last := pool.count - 1
  let ev := pool.links last
  let index := (pool.items val).index
  let items := Function.update pool.items val
    { pool.items val with fd := -1, modIter := pool.iters }
  let closed := { pool with items, timers := removeTimer pool.timers val, count := last }
  if ev = val then closed
  else
    { closed with
      links := Function.update (Function.update pool.links index ev) last val
      pevents := Function.update pool.pevents index (pool.pevents last)
      items := Function.update items ev { items ev with index } }

def Pool.setPair (pool : Pool) (val : ℕ) (pair : Option ℕ) : Pool :=
  { pool with items := Function.update pool.items val { pool.items val with pair } }

/-- `val->pair` and `val->pair->pair` are cleared, the latter if it points back. -/
def Pool.unpair (pool : Pool) (val e : ℕ) : Pool :=
  (if (pool.items e).pair = some val then pool.setPair e none else pool).setPair val none

/-- The events are returned that have been closed. An event that is its own pair would lead to a
null pointer. -/
def delEvent : ℕ → Pool → ℕ → Option (Pool × List ℕ)
  | 0, _, _ => none
  | fuel + 1, pool, val =>
      let ev := pool.items val
      if ¬ (-1 ≤ ev.fd ∧ ev.modIter ≤ pool.iters) then none
      else if ev.fd = -1 then some (pool, [])
      else if ¬ (ev.index < pool.max ∧ ev.fd = (pool.pevents ev.index).fd ∧ 0 < pool.count) then
        none
      else
        match ev.pair with
        | none => some (pool.close val, [val])
        | some e =>
            if e = val then none
            else
              (delEvent fuel ((pool.close val).unpair val e) e).map fun (pool, closed) =>
                (pool, val :: closed)

def modEtype (pool : Pool) (val type : ℕ) : Option Pool :=
  let index := (pool.items val).index
  if index < pool.count then
    some { pool with
      pevents := Function.update pool.pevents index { pool.pevents index with events := type } }
  else none

/-! ### What callbacks do to the pool -/

inductive Op
  | add (fd : ℤ) (e : ℕ)
  | del (val : ℕ)
  | modEtype (val type : ℕ)
  | setTimer (val : ℕ) (now ms : ℤ)
  | removeTimer (val : ℕ)
  | setPair (val : ℕ) (pair : Option ℕ)

/-- Closing one event after the other ends when none is left. -/
def perform (pool : Pool) : Op → Option (Pool × List Action)
  | .add fd e =>
      (addEvent pool fd e).map fun (pool, val) =>
        (pool, val.toList.map fun v => .opened v fd e)
  | .del val =>
      (delEvent (pool.count + 1) pool val).map fun (pool, closed) => (pool, closed.map .closed)
  | .modEtype val type => (modEtype pool val type).map fun pool => (pool, [.asked val type])
  | .setTimer val now ms =>
      (setTimer pool.max now pool.timers val ms).map fun timers =>
        ({ pool with timers },
          if pool.timers.tvMs val = 0 then [.timed val (deadlineOf now ms)] else [])
  | .removeTimer val =>
      some ({ pool with timers := removeTimer pool.timers val }, [.untimed val])
  | .setPair val pair => some (pool.setPair val pair, [])

def performAll : Pool → List Op → Option (Pool × List Action)
  | pool, [] => some (pool, [])
  | pool, op :: ops =>
      (perform pool op).bind fun (pool, acts) =>
        (performAll pool ops).map fun (pool, more) => (pool, acts ++ more)

/-! ### The loop -/

/-- What `poll` does: it fails, or it answers about all sockets. -/
inductive Poll
  | failed
  | answered (reports : Reports)

def Pool.poll (pool : Pool) (reports : Reports) : Pool :=
  { pool with
    pevents := fun i =>
      let p := pool.pevents i
      if i < pool.count then { p with revents := reports.of p.fd p.events } else p }

/-- Whether `poll` returns more than zero. -/
def Pool.ready (pool : Pool) : Bool :=
  (List.range pool.count).any fun i => (pool.pevents i).revents != 0

/-- The way down the array, from the place before the given one. -/
def scan (pool : Pool) : ℕ → Option (Option ℕ)
  | 0 => some none
  | i + 1 =>
      if pool.max ≤ i then none
      else if (pool.pevents i).revents = 0 then scan pool i
      else
        let val := pool.items (pool.links i)
        if ¬ (i < pool.count ∨ val.modIter = pool.iters) then none
        else if val.modIter = pool.iters then scan pool i
        else some (some i)

structure Found where
  pool : Pool
  offs : ℕ
  type : ℤ
  val : Option ℕ
  acts : List Action

def Pool.setIters (pool : Pool) (iters : ℕ) : Pool := { pool with iters }

/-- `offs` is one more than in the code. -/
def nextEvent (polls : List Poll) (pool : Pool) (offs : ℕ) (type : ℤ) : Option Found :=
  match scan pool offs with
  | none => none
  | some (some i) =>
      let p := pool.pevents i
      let val := pool.links i
      some ⟨{ pool with pevents := Function.update pool.pevents i { p with revents := 0 } }, i,
        p.revents, some val, [.called val p.revents]⟩
  | some none =>
      match polls with
      | [] => none
      | .failed :: _ => some ⟨pool, offs, type, none, []⟩
      | .answered reports :: polls =>
          let pool := pool.poll reports
          if pool.ready then
            (nextEvent polls (pool.setIters (pool.iters + 1)) pool.count type).map
              fun found => { found with acts := .polled reports :: found.acts }
          else some ⟨pool, offs, 0, none, [.polled reports]⟩

/-- The type `POLLTIMEOUT` is 0. -/
def nextEventTv (polls : List Poll) (now : ℤ) (pool : Pool) (offs : ℕ) (type : ℤ) :
    Option Found :=
  match pool.timers.tvStart with
  | none => nextEvent polls pool offs type
  | some start =>
      (if 0 < wrapLong (pool.timers.tvMs start - now) then nextEvent polls pool offs type
        else some ⟨pool, offs, 0, none, []⟩).map fun found =>
        match found.val, found.pool.timers.tvStart with
        | none, some val =>
            if found.type = 0 then
              { found with
                pool := { found.pool with timers := removeTimer found.pool.timers val }
                val := some val
                acts := found.acts ++ [.fired val] }
            else found
        | _, _ => found

structure Loop where
  pool : Pool
  offs : ℕ
  etype : ℤ

/-- What comes from outside in one turn of the loop: the clock, `poll`, what the callback does
and returns, and whether a failure was an interruption. -/
structure Turn where
  now : ℤ
  polls : List Poll
  ops : List Op
  ret : ℤ
  eintr : Bool

/-- One turn; the loop goes on if the second component says so. -/
def loopTurn (s : Loop) (turn : Turn) : Option (Loop × Bool × List Action) :=
  (nextEventTv turn.polls turn.now s.pool s.offs s.etype).bind fun found =>
    match found.val with
    | none => some (⟨found.pool, found.offs, found.type⟩, turn.eintr, found.acts)
    | some val =>
        let ops := if turn.ret < 0 then turn.ops ++ [.del val] else turn.ops
        (performAll found.pool ops).map fun (pool, acts) =>
          (⟨pool, found.offs, found.type⟩, true, found.acts ++ acts)

def loopEvent : Loop → List Turn → Option (Loop × List Action)
  | s, [] => some (s, [])
  | s, turn :: turns =>
      (loopTurn s turn).bind fun (s, goesOn, acts) =>
        if goesOn then (loopEvent s turns).map fun (s, more) => (s, acts ++ more)
        else some (s, acts)

/-- The loop of `destroy_pool`, which closes the first event until none is left. -/
def destroyPool : ℕ → Pool → Option (Pool × List Action)
  | fuel, pool =>
      if pool.count = 0 then some (pool, [])
      else
        match fuel with
        | 0 => none
        | fuel + 1 =>
            (perform pool (.del (pool.links 0))).bind fun (pool, acts) =>
              (destroyPool fuel pool).map fun (pool, more) => (pool, acts ++ more)

/-- `POLLIN` of Winsock -/
def pollIn : ℕ := 0x300

/-- `start_event_loop` of `proxy.c`, up to the socket itself and the messages. The result is what
was done. -/
def startEventLoop (maxOpen : ℕ) (memory : Memory) (srvfd : ℤ) (turns : List Turn) :
    Option (List Action) :=
  (perform (initPool (maxOpen * 2 + 1) memory) (.add srvfd pollIn)).bind fun (pool, opened) =>
    match opened with
    | [] => (destroyPool pool.count pool).map (·.2)
    | _ =>
        (loopEvent ⟨pool, 0, -1⟩ turns).bind fun (s, acts) =>
          (destroyPool s.pool.count s.pool).map fun (_, closed) => opened ++ acts ++ closed

end ZonDpi.Byedpi
