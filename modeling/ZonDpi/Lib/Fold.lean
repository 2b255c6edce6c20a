import Mathlib.Logic.Basic

/-!
Loops that may fail.

A loop over a list gives every item to a function on a state and stops at the first
error. Items that leave every state alone may be left out (`filter_idle`). Items that
trade places one by one may trade places with a whole list (`foldlM_swaps`), and a
relation between states that every item respects is respected by the loop
(`Respects.foldlM`). A list simulates another if it succeeds wherever that does, with the
same result (`Simulates`). `lastSome` is what the last item gives that gives anything.
-/

namespace Fold

variable {σ α ε : Type} {f : σ → α → Except ε σ} {a b : α} {l l' : List α} {v v' v₁ v₂ w : σ}

theorem bind_eq_ok {β γ : Type} {x : Except ε β} {g : β → Except ε γ} {c : γ} :
    x >>= g = .ok c ↔ ∃ b, x = .ok b ∧ g b = .ok c := by
  cases x with
  | error e => exact iff_of_false nofun nofun
  | ok b =>
      constructor
      · intro ok
        exact ⟨b, rfl, ok⟩
      · rintro ⟨_, ⟨⟩, ok⟩
        exact ok

theorem cons_eq_ok :
    (a :: l).foldlM f v = .ok v' ↔ ∃ next, f v a = .ok next ∧ l.foldlM f next = .ok v' := by
  rw [List.foldlM_cons]
  exact bind_eq_ok

theorem append_eq_ok :
    (l ++ l').foldlM f v = .ok v' ↔
      ∃ next, l.foldlM f v = .ok next ∧ l'.foldlM f next = .ok v' := by
  rw [List.foldlM_append]
  exact bind_eq_ok

theorem filter_idle {active : α → Bool} (idle : ∀ a, active a = false → ∀ v, f v a = .ok v)
    (l : List α) (v : σ) : (l.filter active).foldlM f v = l.foldlM f v := by
  induction l generalizing v with
  | nil => rfl
  | cons a l ih =>
      rw [List.foldlM_cons]
      cases here : active a with
      | true =>
          rw [List.filter_cons_of_pos here, List.foldlM_cons]
          exact congrArg _ (funext ih)
      | false =>
          rw [List.filter_cons_of_neg (by simp [here]), idle a here]
          exact ih v

/-! ### Trading places -/

/-- If the two succeed one after the other, they do so in the other order and with the
same result. -/
def Swaps (f : σ → α → Except ε σ) (a b : α) : Prop :=
  ∀ v v₁ v₂, f v a = .ok v₁ → f v₁ b = .ok v₂ → ∃ w, f v b = .ok w ∧ f w a = .ok v₂

theorem swaps_of_idle_left (idle : ∀ v, f v a = .ok v) : Swaps f a b := by
  intro v v₁ v₂ first second
  rw [idle] at first
  cases first
  exact ⟨v₂, second, idle v₂⟩

theorem swaps_of_idle_right (idle : ∀ v, f v b = .ok v) : Swaps f a b := by
  intro v v₁ v₂ first second
  rw [idle] at second
  cases second
  exact ⟨v, idle v, first⟩

/-- Two items that set everything anew, and to the same. -/
theorem swaps_of_same {r : Except ε σ} (first : ∀ v, f v a = r) (second : ∀ v, f v b = r) :
    Swaps f a b := by
  intro v v₁ v₂ _ last
  rw [second] at last
  exact ⟨v₂, (second v).trans last, (first v₂).trans last⟩

/-- Two items that read and write different parts of the state. -/
theorem swaps_of_apart {β β' γ γ' : Type} {read : σ → β} {read' : σ → β'} {g : β → Except ε γ}
    {g' : β' → Except ε γ'} {write : σ → γ → σ} {write' : σ → γ' → σ}
    (first : ∀ v, f v a = g (read v) >>= fun x => .ok (write v x))
    (second : ∀ v, f v b = g' (read' v) >>= fun x => .ok (write' v x))
    (kept : ∀ v x, read' (write v x) = read' v) (kept' : ∀ v x, read (write' v x) = read v)
    (apart : ∀ v x x', write' (write v x) x' = write (write' v x') x) : Swaps f a b := by
  intro v v₁ v₂ one two
  rw [first] at one
  obtain ⟨x, found, ⟨⟩⟩ := bind_eq_ok.mp one
  rw [second, kept] at two
  obtain ⟨x', found', ⟨⟩⟩ := bind_eq_ok.mp two
  refine ⟨write' v x', ?_, ?_⟩
  · rw [second]
    exact bind_eq_ok.mpr ⟨x', found', rfl⟩
  · rw [first, kept', apart]
    exact bind_eq_ok.mpr ⟨x, found, rfl⟩

theorem foldlM_swaps (swaps : ∀ a ∈ l, Swaps f a b) (first : l.foldlM f v = .ok v₁)
    (second : f v₁ b = .ok v₂) : ∃ w, f v b = .ok w ∧ l.foldlM f w = .ok v₂ := by
  induction l generalizing v with
  | nil =>
      cases first
      exact ⟨v₂, second, rfl⟩
  | cons a l ih =>
      obtain ⟨next, here, rest⟩ := cons_eq_ok.mp first
      obtain ⟨w, moved, ended⟩ := ih (fun a member => swaps a (List.mem_cons_of_mem _ member)) rest
      obtain ⟨w', moved', here'⟩ := swaps a List.mem_cons_self v next w here moved
      exact ⟨w', moved', cons_eq_ok.mpr ⟨w, here', ended⟩⟩

/-! ### Lists that do as much -/

/-- Where the first list succeeds, the second does, with the same result. -/
def Simulates (f : σ → α → Except ε σ) (l l' : List α) : Prop :=
  ∀ v v', l.foldlM f v = .ok v' → l'.foldlM f v = .ok v'

section Simulates

variable {l₁ l₂ l₃ : List α}

theorem Simulates.refl (l : List α) : Simulates f l l :=
  fun _ _ ended => ended

theorem Simulates.trans (first : Simulates f l₁ l₂) (second : Simulates f l₂ l₃) :
    Simulates f l₁ l₃ :=
  fun v v' ended => second v v' (first v v' ended)

theorem Simulates.append (first : Simulates f l l₁) (second : Simulates f l' l₂) :
    Simulates f (l ++ l') (l₁ ++ l₂) := by
  intro v v' ended
  obtain ⟨next, before, after⟩ := append_eq_ok.mp ended
  exact append_eq_ok.mpr ⟨next, first v next before, second next v' after⟩

theorem simulates_of_filter {active : α → Bool} (idle : ∀ a, active a = false → ∀ v, f v a = .ok v)
    (same : l.filter active = l'.filter active) : Simulates f l l' := by
  intro v v' ended
  rw [← filter_idle idle, ← same, filter_idle idle]
  exact ended

/-- An item that comes last may come first. -/
theorem simulates_swaps (swaps : ∀ a ∈ l, Swaps f a b) : Simulates f (l ++ [b]) (b :: l) := by
  intro v v' ended
  obtain ⟨next, before, last⟩ := append_eq_ok.mp ended
  obtain ⟨last', step, ⟨⟩⟩ := cons_eq_ok.mp last
  exact cons_eq_ok.mpr (foldlM_swaps swaps before step)

/-- An item that comes last may take the place of one whose effect it undoes. -/
theorem simulates_undoes (undoes : ∀ u u₁ u₂, f u a = .ok u₁ → f u₁ b = .ok u₂ → f u b = .ok u₂)
    (swaps : ∀ a ∈ l, Swaps f a b) : Simulates f (a :: l ++ [b]) (b :: l) := by
  intro v v' ended
  obtain ⟨next, first, rest⟩ := cons_eq_ok.mp ended
  obtain ⟨w, second, rest⟩ := cons_eq_ok.mp (simulates_swaps swaps next v' rest)
  exact cons_eq_ok.mpr ⟨w, undoes v next w first second, rest⟩

theorem simulates_behind (simulates : Simulates f (l' ++ [b]) l₁) :
    Simulates f (l ++ l' ++ [b]) (l ++ l₁) := by
  rw [List.append_assoc]
  exact (Simulates.refl l).append simulates

theorem simulates_idle (idle : ∀ v, f v b = .ok v) : Simulates f (l ++ [b]) l := by
  intro v v' ended
  obtain ⟨next, before, last⟩ := append_eq_ok.mp ended
  rw [List.foldlM_cons, idle] at last
  cases last
  exact before

end Simulates

/-! ### Related states -/

def Respects (R : σ → σ → Prop) (f : σ → α → Except ε σ) : Prop :=
  ∀ a v w v', R v w → f v a = .ok v' → ∃ w', f w a = .ok w' ∧ R v' w'

theorem Respects.foldlM {R : σ → σ → Prop} (respects : Respects R f) (related : R v w)
    (ended : l.foldlM f v = .ok v') : ∃ w', l.foldlM f w = .ok w' ∧ R v' w' := by
  induction l generalizing v w with
  | nil =>
      cases ended
      exact ⟨w, rfl, related⟩
  | cons a l ih =>
      obtain ⟨next, first, rest⟩ := cons_eq_ok.mp ended
      obtain ⟨next', first', related'⟩ := respects a v w next related first
      obtain ⟨w', rest', related''⟩ := ih related' rest
      exact ⟨w', cons_eq_ok.mpr ⟨next', first', rest'⟩, related''⟩

/-! ### The last item that counts -/

/-- What the last item gives that gives anything. -/
def lastSome {β : Type} (given : α → Option β) (l : List α) : Option β :=
  (l.filterMap given).getLast?

section Last

variable {β : Type} {given : α → Option β}

@[simp]
theorem lastSome_nil : lastSome given [] = none := rfl

theorem lastSome_append :
    lastSome given (l ++ l') = (lastSome given l').or (lastSome given l) := by
  unfold lastSome
  rw [List.filterMap_append, List.getLast?_append]

theorem lastSome_singleton : lastSome given [a] = given a := by
  unfold lastSome
  cases here : given a <;> simp [here]

theorem lastSome_cons : lastSome given (a :: l) = (lastSome given l).or (given a) := by
  rw [← List.singleton_append, lastSome_append, lastSome_singleton]

theorem lastSome_eq_none : lastSome given l = none ↔ ∀ a ∈ l, given a = none := by
  unfold lastSome
  rw [List.getLast?_eq_none_iff, List.filterMap_eq_nil_iff]

end Last

end Fold
