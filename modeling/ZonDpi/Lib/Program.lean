import Mathlib.Logic.Basic

/-!
Programs as trees of typed requests.

A program either returns or issues one request and continues with the answer.
Nothing here fixes what the requests are: a `Machine` says, for a world of any
type, which answers a request may get and what the world is afterwards.

* `Prog.Always` is the weakest precondition that also watches the way: every
  request is issued in a world its guard accepts, and every return meets the
  postcondition. A crash between two requests leaves a world some guard saw.
* `Prog.run` evaluates a program against a handler that answers every request;
  `Prog.Ends` is the same notion for a nondeterministic machine.
* `Prog.Only` bounds the requests a program can issue, so that handlers that agree
  on those run it alike (`run_related`).

`Prog.embed` runs a program over a larger signature, and `Always.embed` carries
what is known of it there. The rules (`always_bind`, `always_andThen`,
`Always.mono`) are what proofs about programs use.
-/

namespace Effects

/-- A program over a signature of requests. -/
inductive Prog (Req : Type) (Resp : Req → Type) (α : Type) : Type where
  | pure (value : α) : Prog Req Resp α
  | request (req : Req) (next : Resp req → Prog Req Resp α) : Prog Req Resp α

/-- `machine w r x w'`: in world `w` the request `r` may be answered by `x`,
and the world is then `w'`. -/
abbrev Machine (Req : Type) (Resp : Req → Type) (W : Type) : Type :=
  W → (r : Req) → Resp r → W → Prop

variable {Req : Type} {Resp : Req → Type} {W V α β ε : Type}

namespace Prog

def bind : Prog Req Resp α → (α → Prog Req Resp β) → Prog Req Resp β
  | .pure value, k => k value
  | .request r next, k => .request r fun x => (next x).bind k

instance : Monad (Prog Req Resp) where
  pure := .pure
  bind := .bind

/-- Issue one request and return its answer. -/
def ask (r : Req) : Prog Req Resp (Resp r) := .request r .pure

/-- The `?` operator: an error ends the enclosing function with that error. -/
def andThen (p : Prog Req Resp (Except ε α)) (k : α → Prog Req Resp (Except ε β)) :
    Prog Req Resp (Except ε β) :=
  p >>= fun result =>
    match result with
    | .error e => Pure.pure (.error e)
    | .ok value => k value

/-! ### Weakest precondition with a watch on every request -/

/-- Every request the program issues is issued in a world the guard accepts,
whatever the machine answers, and every return meets `post`. -/
def Always (machine : Machine Req Resp W) (guard : W → Req → Prop) (post : α → W → Prop) :
    Prog Req Resp α → W → Prop
  | .pure value, w => post value w
  | .request r next, w =>
      guard w r ∧ ∀ x w', machine w r x w' → (next x).Always machine guard post w'

section Rules

variable {machine : Machine Req Resp W} {guard : W → Req → Prop} {w : W}

@[simp] theorem always_pure {post : α → W → Prop} (value : α) :
    (Pure.pure value : Prog Req Resp α).Always machine guard post w ↔ post value w :=
  Iff.rfl

@[simp] theorem always_ask {r : Req} {post : Resp r → W → Prop} :
    (ask r).Always machine guard post w ↔
      guard w r ∧ ∀ x w', machine w r x w' → post x w' :=
  Iff.rfl

@[simp] theorem always_bind {p : Prog Req Resp α} {k : α → Prog Req Resp β} {post : β → W → Prop} :
    (p >>= k).Always machine guard post w ↔
      p.Always machine guard (fun a w' => (k a).Always machine guard post w') w := by
  induction p generalizing w with
  | pure value => exact Iff.rfl
  | request r next ih =>
      constructor
      · rintro ⟨seen, rest⟩
        exact ⟨seen, fun x w' step => ih x |>.mp (rest x w' step)⟩
      · rintro ⟨seen, rest⟩
        exact ⟨seen, fun x w' step => ih x |>.mpr (rest x w' step)⟩

/-- Strengthen the guard's premise and weaken the postcondition. -/
theorem Always.mono {p : Prog Req Resp α} {guard' : W → Req → Prop} {post post' : α → W → Prop}
    (always : p.Always machine guard post w) (guards : ∀ w r, guard w r → guard' w r)
    (posts : ∀ a w, post a w → post' a w) : p.Always machine guard' post' w := by
  induction p generalizing w with
  | pure value => exact posts value w always
  | request r next ih =>
      exact ⟨guards w r always.1, fun x w' step => ih x (always.2 x w' step)⟩

/-- Weaken the postcondition only. -/
theorem Always.imp {p : Prog Req Resp α} {post post' : α → W → Prop}
    (always : p.Always machine guard post w) (posts : ∀ a w, post a w → post' a w) :
    p.Always machine guard post' w :=
  always.mono (fun _ _ seen => seen) posts

/-- A continuation rule in the form proofs apply it: the first program's
postcondition is what the rest may assume. -/
theorem Always.bind {p : Prog Req Resp α} {k : α → Prog Req Resp β} {mid : α → W → Prop}
    {post : β → W → Prop} (first : p.Always machine guard mid w)
    (rest : ∀ a w', mid a w' → (k a).Always machine guard post w') :
    (p >>= k).Always machine guard post w :=
  always_bind.mpr (first.imp rest)

/-- The rule for `?`. -/
theorem Always.andThen {p : Prog Req Resp (Except ε α)} {k : α → Prog Req Resp (Except ε β)}
    {mid : Except ε α → W → Prop} {post : Except ε β → W → Prop}
    (first : p.Always machine guard mid w)
    (failed : ∀ e w', mid (.error e) w' → post (.error e) w')
    (rest : ∀ a w', mid (.ok a) w' → (k a).Always machine guard post w') :
    (p.andThen k).Always machine guard post w := by
  refine first.bind fun result w' known => ?_
  cases result with
  | error e => exact failed e w' known
  | ok value => exact rest value w' known

@[simp] theorem always_andThen {p : Prog Req Resp (Except ε α)}
    {k : α → Prog Req Resp (Except ε β)} {post : Except ε β → W → Prop} :
    (p.andThen k).Always machine guard post w ↔
      p.Always machine guard (fun result w' =>
        match result with
        | .error e => post (.error e) w'
        | .ok value => (k value).Always machine guard post w') w := by
  unfold Prog.andThen
  rw [always_bind]
  constructor <;> intro always <;> refine always.imp fun result w' known => ?_ <;>
    cases result <;> exact known

/-- With nothing to watch and nothing to show, every program will do. -/
theorem always_trivial (p : Prog Req Resp α) :
    p.Always machine (fun _ _ => True) (fun _ _ => True) w := by
  induction p generalizing w with
  | pure value => trivial
  | request r next ih => exact ⟨trivial, fun x _ _ => ih x⟩

/-- A world changes under the program's feet: if the machine absorbs the drift
before a request, and guard and postcondition survive it, so does `Always`. -/
theorem Always.drift {p : Prog Req Resp α} {post : α → W → Prop} {drift : W → W → Prop} {w' : W}
    (absorbs : ∀ w w' r x w'', drift w w' → machine w' r x w'' → machine w r x w'')
    (guards : ∀ w w' r, drift w w' → guard w r → guard w' r)
    (posts : ∀ a w w', drift w w' → post a w → post a w')
    (always : p.Always machine guard post w) (moved : drift w w') :
    p.Always machine guard post w' := by
  cases p with
  | pure value => exact posts value w w' moved always
  | request r next =>
      exact ⟨guards w w' r moved always.1,
        fun x w'' step => always.2 x w'' (absorbs w w' r x w'' moved step)⟩

end Rules

/-! ### Programs over a larger signature -/

/-- The same program, with each of its requests issued as a request of another
signature. -/
def embed {Req' : Type} {Resp' : Req' → Type} (inject : Req → Req')
    (answer : ∀ r, Resp' (inject r) → Resp r) : Prog Req Resp α → Prog Req' Resp' α
  | .pure value => .pure value
  | .request r next => .request (inject r) fun x => (next (answer r x)).embed inject answer

/-- Simulation: what holds of a program in its own world holds of the embedded
program in a world related to it, when every step of the larger machine on an
embedded request is matched by a step of the smaller one. -/
theorem Always.embed {Req' : Type} {Resp' : Req' → Type} {inject : Req → Req'}
    {answer : ∀ r, Resp' (inject r) → Resp r} {machine : Machine Req Resp V}
    {machine' : Machine Req' Resp' W} (related : V → W → Prop)
    (steps : ∀ v w r x w', related v w → machine' w (inject r) x w' →
      ∃ v', machine v r (answer r x) v' ∧ related v' w')
    {guard : V → Req → Prop} {guard' : W → Req' → Prop} {post : α → V → Prop}
    {post' : α → W → Prop} (guards : ∀ v w r, related v w → guard v r → guard' w (inject r))
    (posts : ∀ a v w, related v w → post a v → post' a w) {p : Prog Req Resp α} {v : V} {w : W}
    (start : related v w) (always : p.Always machine guard post v) :
    (p.embed inject answer).Always machine' guard' post' w := by
  induction p generalizing v w with
  | pure value => exact posts value v w start always
  | request r next ih =>
      refine ⟨guards v w r start always.1, fun x w' step => ?_⟩
      obtain ⟨v', matched, still⟩ := steps v w r x w' start step
      exact ih _ still (always.2 _ v' matched)

/-! ### Complete executions -/

/-- `p.Ends machine w a w'`: some sequence of answers takes `p` from `w` to a
return of `a` in `w'`. -/
inductive Ends (machine : Machine Req Resp W) : Prog Req Resp α → W → α → W → Prop where
  | pure {value : α} {w : W} : Ends machine (.pure value) w value w
  | request {r : Req} {next : Resp r → Prog Req Resp α} {x : Resp r} {w w' w'' : W} {value : α} :
      machine w r x w' → Ends machine (next x) w' value w'' →
        Ends machine (.request r next) w value w''

theorem Always.ends {machine : Machine Req Resp W} {guard : W → Req → Prop} {post : α → W → Prop}
    {p : Prog Req Resp α} {w w' : W} {value : α} (always : p.Always machine guard post w)
    (ends : p.Ends machine w value w') : post value w' := by
  induction ends with
  | pure => exact always
  | request step _ ih => exact ih (always.2 _ _ step)

/-! ### Handlers -/

/-- A handler answers every request and says what the world is afterwards. -/
structure Handler (Req : Type) (Resp : Req → Type) (W : Type) where
  answer : W → (r : Req) → Resp r
  effect : W → (r : Req) → Resp r → W

/-- The machine with exactly the handler's answers. -/
def Handler.machine (h : Handler Req Resp W) : Machine Req Resp W :=
  fun w r x w' => x = h.answer w r ∧ w' = h.effect w r x

def run (h : Handler Req Resp W) : Prog Req Resp α → W → α × W
  | .pure value, w => (value, w)
  | .request r next, w => (next (h.answer w r)).run h (h.effect w r (h.answer w r))

section Run

variable {h : Handler Req Resp W} {w : W}

@[simp] theorem run_pure (value : α) :
    (Pure.pure value : Prog Req Resp α).run h w = (value, w) := rfl

@[simp] theorem run_ask (r : Req) :
    (ask r).run h w = (h.answer w r, h.effect w r (h.answer w r)) := rfl

@[simp] theorem run_bind (p : Prog Req Resp α) (k : α → Prog Req Resp β) :
    (p >>= k).run h w = (k (p.run h w).1).run h (p.run h w).2 := by
  induction p generalizing w with
  | pure value => rfl
  | request r next ih => exact ih (h.answer w r)

/-- A sequence of fallible steps succeeds when the first does and then the rest. -/
theorem run_andThen_isOk {p : Prog Req Resp (Except ε α)} {k : α → Prog Req Resp (Except ε β)}
    {b : Bool} (rest : ∀ value w', ((k value).run h w').1.toBool = b) :
    ((p.andThen k).run h w).1.toBool = ((p.run h w).1.toBool && b) := by
  rw [andThen, run_bind]
  cases (p.run h w).1 with
  | error e => rfl
  | ok value => exact rest value _

/-- For a handler's own machine `Always` is a statement about its one run and
the guards on the way. -/
theorem always_run_iff {p : Prog Req Resp α} {post : α → W → Prop} :
    p.Always h.machine (fun _ _ => True) post w ↔ post (p.run h w).1 (p.run h w).2 := by
  induction p generalizing w with
  | pure value => exact Iff.rfl
  | request r next ih =>
      constructor
      · intro always
        exact (ih _).mp (always.2 _ _ ⟨rfl, rfl⟩)
      · intro final
        refine ⟨trivial, ?_⟩
        rintro x w' ⟨rfl, rfl⟩
        exact (ih _).mpr final

/-- An embedded program runs on the part of the world it sees. -/
theorem run_embed {Req' : Type} {Resp' : Req' → Type} {inject : Req → Req'}
    {answer : ∀ r, Resp' (inject r) → Resp r} {small : Handler Req Resp V}
    {large : Handler Req' Resp' W} (view : W → V) (put : W → V → W)
    (answers : ∀ w r, answer r (large.answer w (inject r)) = small.answer (view w) r)
    (effects : ∀ w r, large.effect w (inject r) (large.answer w (inject r)) =
      put w (small.effect (view w) r (small.answer (view w) r)))
    (view_put : ∀ w v, view (put w v) = v) (put_put : ∀ w v v', put (put w v) v' = put w v')
    (put_view : ∀ w, put w (view w) = w) (p : Prog Req Resp α) (w : W) :
    (p.embed inject answer).run large w =
      ((p.run small (view w)).1, put w (p.run small (view w)).2) := by
  induction p generalizing w with
  | pure value => exact congrArg (Prod.mk value) (put_view w).symm
  | request r next ih =>
      rw [embed, run, answers, effects, ih, view_put, put_put]
      rfl

/-- A handler whose answers the machine allows gives a complete execution. -/
theorem run_ends {machine : Machine Req Resp W} {p : Prog Req Resp α}
    (allowed : ∀ w r, machine w r (h.answer w r) (h.effect w r (h.answer w r))) :
    p.Ends machine w (p.run h w).1 (p.run h w).2 := by
  induction p generalizing w with
  | pure value => exact .pure
  | request r next ih => exact .request (allowed w r) (ih _)

end Run

/-! ### Which requests a program can issue -/

/-- Whatever the answers, the program issues no request outside `Q`. -/
def Only (Q : Req → Prop) : Prog Req Resp α → Prop
  | .pure _ => True
  | .request r next => Q r ∧ ∀ x, (next x).Only Q

section Only

variable {Q : Req → Prop}

@[simp] theorem only_pure (value : α) : (Pure.pure value : Prog Req Resp α).Only Q := trivial

@[simp] theorem only_ask {r : Req} : (ask r : Prog Req Resp (Resp r)).Only Q ↔ Q r :=
  and_iff_left fun _ => trivial

theorem Only.bind {p : Prog Req Resp α} {k : α → Prog Req Resp β} (first : p.Only Q)
    (rest : ∀ a, (k a).Only Q) : (p >>= k).Only Q := by
  induction p with
  | pure value => exact rest value
  | request r next ih => exact ⟨first.1, fun x => ih x (first.2 x)⟩

theorem only_embed {Req' : Type} {Resp' : Req' → Type} {inject : Req → Req'}
    {answer : ∀ r, Resp' (inject r) → Resp r} {Q : Req' → Prop} (all : ∀ r, Q (inject r))
    (p : Prog Req Resp α) : (p.embed inject answer).Only Q := by
  induction p with
  | pure value => trivial
  | request r next ih => exact ⟨all r, fun x => ih (answer r x)⟩

/-- Two handlers that agree on the requests a program issues run it alike. -/
theorem run_related {small : Handler Req Resp V} {large : Handler Req Resp W}
    (related : V → W → Prop)
    (answers : ∀ v w r, related v w → Q r → large.answer w r = small.answer v r)
    (effects : ∀ v w r x, related v w → Q r → related (small.effect v r x) (large.effect w r x))
    {p : Prog Req Resp α} (only : p.Only Q) {v : V} {w : W} (start : related v w) :
    (p.run large w).1 = (p.run small v).1 ∧ related (p.run small v).2 (p.run large w).2 := by
  induction p generalizing v w with
  | pure value => exact ⟨rfl, start⟩
  | request r next ih =>
      have same := answers v w r start only.1
      simp only [run, same]
      exact ih _ (only.2 _) (effects v w r _ start only.1)

end Only

end Prog

/-! ### Sequences of operations -/

/-- The exact condition of a run: if an invariant is kept by the steps that are
`Fit`, implies what is wanted, and no unfit step leads to a wanted world, then
every world of the run is wanted exactly when every step of it is fit. -/
theorem forall_prefix_iff {Act : Type} {step : W → Act → W} (Inv : W → Prop) {Wanted : W → Prop}
    {Fit : W → Act → Prop} (wanted : ∀ w, Inv w → Wanted w)
    (keeps : ∀ w a, Inv w → Fit w a → Inv (step w a))
    (needs : ∀ w a, Inv w → Wanted (step w a) → Fit w a) (acts : List Act) (w : W) (inv : Inv w) :
    (∀ n, Wanted ((acts.take n).foldl step w)) ↔
      ∀ n a, acts[n]? = some a → Fit ((acts.take n).foldl step w) a := by
  induction acts generalizing w with
  | nil => simpa using wanted w inv
  | cons first rest ih =>
      constructor
      · intro all
        have fit : Fit w first := needs w first inv (all 1)
        have tail := (ih (step w first) (keeps w first inv fit)).mp fun n => all (n + 1)
        intro n a found
        cases n with
        | zero =>
            obtain rfl : first = a := by simpa using found
            exact fit
        | succ n => exact tail n a (by simpa using found)
      · intro all n
        have fit : Fit w first := all 0 first rfl
        have tail := (ih (step w first) (keeps w first inv fit)).mpr fun n a found =>
          all (n + 1) a (by simpa using found)
        cases n with
        | zero => exact wanted w inv
        | succ n => exact tail n

end Effects
