import ZonDpi.Lib.Fold

/-!
Readers that consume a list of words and collect what they find in a state.

A piece of the list is understood on its own if, in front of anything, all it does is
change the state (`Takes`). Pieces of this kind compose, so that a list that was written
piece by piece is read piece by piece.

`loop` reads the words of a command line. A word stands alone, or takes the word behind it
as its value, or is not known and passed on (`Kind`). How the words belong together does
not depend on the state, so that the line is a list of `items`, each of which takes a step.
What holds of the state at the end follows from what one step does (`loop_invariant`,
`loop_collects`, `loop_field`).
-/

namespace Reader

open Fold

variable {σ τ ε : Type}

/-! ### Pieces -/

/-- In front of any rest, the piece has the effect `change` and is used up. -/
def Takes (read : σ → List τ → Except ε σ) (piece : List τ) (change : σ → σ) : Prop :=
  ∀ s rest, read s (piece ++ rest) = read (change s) rest

section Pieces

variable {read : σ → List τ → Except ε σ} {piece second : List τ} {change after : σ → σ}

theorem Takes.append (first : Takes read piece change) (next : Takes read second after) :
    Takes read (piece ++ second) (after ∘ change) := by
  intro s rest
  rw [List.append_assoc, first, next]
  rfl

theorem Takes.congr (takes : Takes read piece change) (same : ∀ s, change s = after s) :
    Takes read piece after := by
  intro s rest
  rw [takes, same]

end Pieces

/-! ### Words and items -/

inductive Kind (σ τ ε : Type) where
  /-- The word stands alone. -/
  | alone (set : σ → σ)
  /-- The word behind it is its value. -/
  | value (read : σ → τ → Except ε σ)
  /-- The word behind it is its value if it can be one, and `fallback` is otherwise. -/
  | optional (set : σ → τ → σ) (isValue : τ → Bool) (fallback : τ)
  | other

/-- A word together with its value. -/
inductive Item (σ τ ε : Type) where
  | alone (word : τ) (set : σ → σ)
  | value (word : τ) (read : σ → τ → Except ε σ) (text : τ)
  | optional (word : τ) (set : σ → τ → σ) (text : τ)
  | other (word : τ)

/-- A word at the end that lacks its value is dropped. -/
def items (kind : τ → Kind σ τ ε) : List τ → List (Item σ τ ε)
  | [] => []
  | word :: rest =>
      match kind word with
      | .alone set => .alone word set :: items kind rest
      | .value read =>
          match rest with
          | [] => []
          | text :: beyond => .value word read text :: items kind beyond
      | .optional set isValue fallback =>
          match rest with
          | [] => [.optional word set fallback]
          | text :: beyond =>
              if isValue text then .optional word set text :: items kind beyond
              else .optional word set fallback :: items kind (text :: beyond)
      | .other => .other word :: items kind rest

namespace Item

/-- One turn of the loop. A word that is not known goes to `pass`. -/
def step (pass : σ → τ → σ) (s : σ) : Item σ τ ε → Except ε σ
  | alone _ set => .ok (set s)
  | value _ read text => read s text
  | optional _ set text => .ok (set s text)
  | other word => .ok (pass s word)

def passed? : Item σ τ ε → Option τ
  | other word => some word
  | _ => none

/-- The value of a word that is `named`. -/
def valueOf? (named : τ → Bool) : Item σ τ ε → Option τ
  | value word _ text => if named word then some text else none
  | _ => none

/-- The item is what the kind of its word makes of it. -/
def Of (kind : τ → Kind σ τ ε) : Item σ τ ε → Prop
  | alone word set => kind word = .alone set
  | value word read _ => kind word = .value read
  | optional word set text =>
      ∃ isValue fallback, kind word = .optional set isValue fallback ∧
        (isValue text = true ∨ text = fallback)
  | other word => kind word = .other

theorem eq_value_of_valueOf? {named : τ → Bool} {item : Item σ τ ε} {text : τ}
    (given : item.valueOf? named = some text) :
    ∃ word read, item = value word read text ∧ named word = true := by
  cases item with
  | value word read text' =>
      by_cases called : named word = true
      · rw [valueOf?, if_pos called] at given
        cases given
        exact ⟨word, read, rfl, called⟩
      · rw [valueOf?, if_neg called] at given
        cases given
  | _ => cases given

end Item

def loop (kind : τ → Kind σ τ ε) (pass : σ → τ → σ) (s : σ) (args : List τ) : Except ε σ :=
  (items kind args).foldlM (Item.step pass) s

/-- The words that are not known. -/
def passed (kind : τ → Kind σ τ ε) (args : List τ) : List τ :=
  (items kind args).filterMap Item.passed?

/-- The values of the words that are `named`. -/
def values (kind : τ → Kind σ τ ε) (named : τ → Bool) (args : List τ) : List τ :=
  (items kind args).filterMap (Item.valueOf? named)

variable {kind : τ → Kind σ τ ε} {pass : σ → τ → σ} {s s' : σ} {word value : τ}
  {args rest : List τ}

/-! ### One word -/

section Alone

variable {set : σ → σ} (alone : kind word = .alone set)

include alone

theorem items_alone : items kind (word :: rest) = .alone word set :: items kind rest := by
  rw [items.eq_def]
  simp only [alone]

theorem loop_alone : loop kind pass s (word :: rest) = loop kind pass (set s) rest :=
  congrArg (List.foldlM (Item.step pass) s) (items_alone alone)

theorem passed_alone : passed kind (word :: rest) = passed kind rest :=
  (congrArg (List.filterMap Item.passed?) (items_alone alone)).trans rfl

end Alone

section Value

variable {read : σ → τ → Except ε σ} (valued : kind word = .value read)

include valued

theorem items_value : items kind [word] = [] ∧ ∀ text beyond,
    items kind (word :: text :: beyond) = .value word read text :: items kind beyond := by
  constructor
  · rw [items.eq_def]
    simp only [valued]
  · intro text beyond
    rw [items.eq_def]
    simp only [valued]

theorem loop_read : loop kind pass s (word :: value :: rest) =
    read s value >>= fun s => loop kind pass s rest :=
  congrArg (List.foldlM (Item.step pass) s) ((items_value valued).2 value rest)

theorem loop_value (ok : read s value = .ok s') :
    loop kind pass s (word :: value :: rest) = loop kind pass s' rest := by
  rw [loop_read valued, ok]
  rfl

theorem loop_error {e : ε} (failed : read s value = .error e) :
    loop kind pass s (word :: value :: rest) = .error e := by
  rw [loop_read valued, failed]
  rfl

theorem loop_lacking : loop kind pass s [word] = .ok s :=
  congrArg (List.foldlM (Item.step pass) s) (items_value valued).1

theorem passed_value : passed kind (word :: value :: rest) = passed kind rest :=
  (congrArg (List.filterMap Item.passed?) ((items_value valued).2 value rest)).trans rfl

end Value

section Optional

variable {set : σ → τ → σ} {isValue : τ → Bool} {fallback : τ}
  (optional : kind word = .optional set isValue fallback)

include optional

theorem items_optional_eq : items kind (word :: value :: rest) =
    if isValue value then .optional word set value :: items kind rest
    else .optional word set fallback :: items kind (value :: rest) := by
  rw [items.eq_def]
  simp only [optional]

theorem items_optional (can : isValue value = true) :
    items kind (word :: value :: rest) = .optional word set value :: items kind rest :=
  (items_optional_eq optional).trans (if_pos can)

theorem items_fallback (cannot : isValue value = false) :
    items kind (word :: value :: rest) =
      .optional word set fallback :: items kind (value :: rest) :=
  (items_optional_eq optional).trans (if_neg (Bool.eq_false_iff.mp cannot))

theorem loop_optional (can : isValue value = true) :
    loop kind pass s (word :: value :: rest) = loop kind pass (set s value) rest :=
  congrArg (List.foldlM (Item.step pass) s) (items_optional optional can)

theorem passed_optional (can : isValue value = true) :
    passed kind (word :: value :: rest) = passed kind rest :=
  (congrArg (List.filterMap Item.passed?) (items_optional optional can)).trans rfl

theorem loop_fallback (cannot : isValue value = false) :
    loop kind pass s (word :: value :: rest) =
      loop kind pass (set s fallback) (value :: rest) :=
  congrArg (List.foldlM (Item.step pass) s) (items_fallback optional cannot)

theorem passed_fallback (cannot : isValue value = false) :
    passed kind (word :: value :: rest) = passed kind (value :: rest) :=
  (congrArg (List.filterMap Item.passed?) (items_fallback optional cannot)).trans rfl

end Optional

section Other

variable (other : kind word = .other)

include other

theorem items_other : items kind (word :: rest) = .other word :: items kind rest := by
  rw [items.eq_def]
  simp only [other]

theorem loop_other : loop kind pass s (word :: rest) = loop kind pass (pass s word) rest :=
  congrArg (List.foldlM (Item.step pass) s) (items_other other)

theorem passed_other : passed kind (word :: rest) = word :: passed kind rest :=
  congrArg (List.filterMap Item.passed?) (items_other other)

end Other

/-! ### The whole list -/

theorem loop_passed (all : ∀ word ∈ args, kind word = .other) :
    loop kind pass s args = .ok (args.foldl pass s) := by
  induction args generalizing s with
  | nil => rfl
  | cons word args ih =>
      rw [List.forall_mem_cons] at all
      rw [loop_other all.1, ih all.2, List.foldl_cons]

theorem items_of (kind : τ → Kind σ τ ε) (args : List τ) :
    ∀ item ∈ items kind args, item.Of kind := by
  fun_induction items kind args with
  | case1 => exact nofun
  | case2 word rest set is ih => exact List.forall_mem_cons.mpr ⟨is, ih⟩
  | case3 => exact nofun
  | case4 word read is text beyond ih => exact List.forall_mem_cons.mpr ⟨is, ih⟩
  | case5 word set isValue fallback is =>
      exact List.forall_mem_cons.mpr ⟨⟨isValue, fallback, is, .inr rfl⟩, nofun⟩
  | case6 word set isValue fallback is text beyond can ih =>
      exact List.forall_mem_cons.mpr ⟨⟨isValue, fallback, is, .inl can⟩, ih⟩
  | case7 word set isValue fallback is text beyond cannot ih =>
      exact List.forall_mem_cons.mpr ⟨⟨isValue, fallback, is, .inr rfl⟩, ih⟩
  | case8 word rest is ih => exact List.forall_mem_cons.mpr ⟨is, ih⟩

/-- What every step keeps, of the state and the items so far, holds at the end. -/
theorem loop_induction (Inv : σ → List (Item σ τ ε) → Prop)
    (step : ∀ s done item s', item.Of kind → item.step pass s = .ok s' → Inv s done →
      Inv s' (done ++ [item]))
    (ok : loop kind pass s args = .ok s') (inv : Inv s []) : Inv s' (items kind args) := by
  have run : ∀ (l done : List (Item σ τ ε)) (s : σ), (∀ item ∈ l, item.Of kind) →
      l.foldlM (Item.step pass) s = .ok s' → Inv s done → Inv s' (done ++ l) := by
    intro l
    induction l with
    | nil =>
        intro done s _ ok inv
        cases ok
        rwa [List.append_nil]
    | cons item l ih =>
        intro done s all ok inv
        rw [List.forall_mem_cons] at all
        obtain ⟨next, here, ok⟩ := cons_eq_ok.mp ok
        rw [← List.singleton_append, ← List.append_assoc]
        exact ih _ next all.2 ok (step s done item next all.1 here inv)
  exact run (items kind args) [] s (items_of kind args) ok inv

theorem loop_invariant (Inv : σ → Prop)
    (step : ∀ s (item : Item σ τ ε) s', item.Of kind → item.step pass s = .ok s' → Inv s → Inv s')
    (ok : loop kind pass s args = .ok s') (inv : Inv s) : Inv s' :=
  loop_induction (fun s _ => Inv s) (fun s _ item s' => step s item s') ok inv

/-- What `pass` collects, if nothing else touches it, is the words that are not known. -/
theorem loop_collects (collected : σ → List τ)
    (step : ∀ s (item : Item σ τ ε) s', item.Of kind → item.step pass s = .ok s' →
      collected s' = collected s ++ item.passed?.toList)
    (ok : loop kind pass s args = .ok s') :
    collected s' = collected s ++ passed kind args := by
  refine loop_induction
    (fun s' done => collected s' = collected s ++ done.filterMap Item.passed?) ?_ ok (by simp)
  intro s₁ done item s₂ of here inv
  rw [step s₁ item s₂ of here, inv, List.filterMap_append, List.append_assoc]
  cases passed : item.passed? <;> simp [passed]

/-- Every value has been accepted. -/
theorem loop_values {named : τ → Bool} (P : τ → Prop)
    (accepts : ∀ s word read text s', kind word = .value read → named word = true →
      read s text = .ok s' → P text)
    (ok : loop kind pass s args = .ok s') : ∀ value ∈ values kind named args, P value := by
  refine loop_induction
    (fun _ done => ∀ value ∈ done.filterMap (Item.valueOf? named), P value) ?_ ok nofun
  intro s₁ done item s₂ of here inv
  rw [List.filterMap_append, List.forall_mem_append]
  refine ⟨inv, ?_⟩
  intro value member
  obtain ⟨_, member, given⟩ := List.mem_filterMap.mp member
  obtain rfl := List.mem_singleton.mp member
  obtain ⟨word, read, rfl, called⟩ := Item.eq_value_of_valueOf? given
  exact accepts s₁ word read value s₂ of called here

/-- A field holds the last value of the words that set it. -/
theorem loop_field {named : τ → Bool} {α : Type} (field : σ → α) (set : τ → α)
    (step : ∀ s (item : Item σ τ ε) s', item.Of kind → item.step pass s = .ok s' →
      field s' = ((item.valueOf? named).map set).getD (field s))
    (ok : loop kind pass s args = .ok s') :
    field s' = ((values kind named args).getLast?.map set).getD (field s) := by
  refine loop_induction
    (fun s' done => field s' =
      ((done.filterMap (Item.valueOf? named)).getLast?.map set).getD (field s)) ?_ ok rfl
  intro s₁ done item s₂ of here inv
  rw [step s₁ item s₂ of here, inv, List.filterMap_append]
  cases given : item.valueOf? named <;> simp [given]

end Reader
