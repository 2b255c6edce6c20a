import Mathlib.Data.List.Nodup
import Mathlib.Logic.Function.Basic

/-!
Doubly linked lists of nodes that exist before they are linked, as C programs have them.

The two pointers of every node are functions, and an assignment is an update at one node.
`Linked` says that a segment of the nodes is linked up in an order, between what stands before it
and behind it; it is cut and joined at any place (`linked_append`), and it is not touched by
assignments elsewhere (`Linked.setNext`, `Linked.setPrev`). What the assignments of an insertion
and of a removal do is then a fact about lists (`Linked.insert`, `Linked.remove`).
-/

namespace LinkedList

structure Links (α : Type) where
  next : α → Option α
  prev : α → Option α

/-- The nodes are linked in this order, behind `before` and in front of `after`. -/
def Linked {α : Type} (links : Links α) : Option α → List α → Option α → Prop
  | _, [], _ => True
  | before, a :: rest, after =>
      links.prev a = before ∧ links.next a = rest.head?.or after ∧
        Linked links (some a) rest after

variable {α : Type} {links : Links α} {before after : Option α} {front back nodes : List α}

theorem linked_append :
    Linked links before (front ++ back) after ↔
      Linked links before front (back.head?.or after) ∧
        Linked links (front.getLast?.or before) back after := by
  induction front generalizing before with
  | nil => simp [Linked]
  | cons a front ih =>
      rw [List.cons_append, Linked, Linked, ih, List.getLast?_cons, List.head?_append,
        Option.or_assoc]
      cases front.getLast? <;> simp [and_assoc]

/-- What a node of a list points to. -/
theorem Linked.neighbours {a : α} (linked : Linked links none (front ++ a :: back) none) :
    links.prev a = front.getLast? ∧ links.next a = back.head? := by
  obtain ⟨-, prev, next, -⟩ := linked_append.mp linked
  rw [Option.or_none] at prev next
  exact ⟨prev, next⟩

section Assignments

variable [DecidableEq α] {a b : α} {target : Option α}

def Links.setNext (links : Links α) (a : α) (target : Option α) : Links α :=
  { links with next := Function.update links.next a target }

def Links.setPrev (links : Links α) (a : α) (target : Option α) : Links α :=
  { links with prev := Function.update links.prev a target }

@[simp] theorem Links.next_setNext : (links.setNext a target).next a = target :=
  Function.update_self ..

@[simp] theorem Links.prev_setPrev : (links.setPrev a target).prev a = target :=
  Function.update_self ..

theorem Links.next_setNext_of_ne (other : b ≠ a) :
    (links.setNext a target).next b = links.next b :=
  Function.update_of_ne other ..

theorem Links.prev_setPrev_of_ne (other : b ≠ a) :
    (links.setPrev a target).prev b = links.prev b :=
  Function.update_of_ne other ..

@[simp] theorem Links.prev_setNext : (links.setNext a target).prev = links.prev := rfl

@[simp] theorem Links.next_setPrev : (links.setPrev a target).next = links.next := rfl

/-- An assignment through a pointer, if it points to something. -/
def Links.setNextOf (links : Links α) (pointer target : Option α) : Links α :=
  pointer.elim links (links.setNext · target)

def Links.setPrevOf (links : Links α) (pointer target : Option α) : Links α :=
  pointer.elim links (links.setPrev · target)

theorem Links.next_setNextOf_of_ne {pointer : Option α} (other : pointer ≠ some a) :
    (links.setNextOf pointer target).next a = links.next a := by
  cases pointer with
  | none => rfl
  | some b => exact Links.next_setNext_of_ne fun same => other (congrArg some same.symm)

theorem Links.prev_setPrevOf_of_ne {pointer : Option α} (other : pointer ≠ some a) :
    (links.setPrevOf pointer target).prev a = links.prev a := by
  cases pointer with
  | none => rfl
  | some b => exact Links.prev_setPrev_of_ne fun same => other (congrArg some same.symm)

@[simp] theorem Links.prev_setNextOf {pointer : Option α} :
    (links.setNextOf pointer target).prev = links.prev := by
  cases pointer <;> rfl

@[simp] theorem Links.next_setPrevOf {pointer : Option α} :
    (links.setPrevOf pointer target).next = links.next := by
  cases pointer <;> rfl

theorem Linked.setNext (linked : Linked links before nodes after) (other : a ∉ nodes) :
    Linked (links.setNext a target) before nodes after := by
  induction nodes generalizing before with
  | nil => trivial
  | cons b nodes ih =>
      obtain ⟨differs, others⟩ := not_or.mp (List.mem_cons.not.mp other)
      obtain ⟨prev, next, rest⟩ := linked
      exact ⟨prev, (Links.next_setNext_of_ne (Ne.symm differs)).trans next, ih rest others⟩

theorem Linked.setPrev (linked : Linked links before nodes after) (other : a ∉ nodes) :
    Linked (links.setPrev a target) before nodes after := by
  induction nodes generalizing before with
  | nil => trivial
  | cons b nodes ih =>
      obtain ⟨differs, others⟩ := not_or.mp (List.mem_cons.not.mp other)
      obtain ⟨prev, next, rest⟩ := linked
      exact ⟨(Links.prev_setPrev_of_ne (Ne.symm differs)).trans prev, next, ih rest others⟩

theorem Linked.setNextOf (linked : Linked links before nodes after) {pointer : Option α}
    (other : ∀ a ∈ pointer, a ∉ nodes) :
    Linked (links.setNextOf pointer target) before nodes after := by
  cases pointer with
  | none => exact linked
  | some a => exact linked.setNext (other a rfl)

theorem Linked.setPrevOf (linked : Linked links before nodes after) {pointer : Option α}
    (other : ∀ a ∈ pointer, a ∉ nodes) :
    Linked (links.setPrevOf pointer target) before nodes after := by
  cases pointer with
  | none => exact linked
  | some a => exact linked.setPrev (other a rfl)

/-- The last node is made to point to something else. -/
theorem Linked.setNextOf_last (linked : Linked links before nodes after) (once : nodes.Nodup) :
    Linked (links.setNextOf nodes.getLast? target) before nodes target := by
  obtain rfl | ⟨front, a, rfl⟩ := nodes.eq_nil_or_concat
  · trivial
  · rw [List.concat_eq_append] at *
    rw [List.getLast?_concat, Links.setNextOf, Option.elim_some]
    have apart : a ∉ front := fun member =>
      List.disjoint_of_nodup_append once member (List.mem_singleton_self a)
    obtain ⟨first, prev, -, -⟩ := linked_append.mp linked
    exact linked_append.mpr ⟨first.setNext apart, prev, Links.next_setNext, trivial⟩

/-- The first node is made to point back to something else. -/
theorem Linked.setPrevOf_head (linked : Linked links before nodes after) (once : nodes.Nodup) :
    Linked (links.setPrevOf nodes.head? target) target nodes after := by
  cases nodes with
  | nil => trivial
  | cons a nodes =>
      obtain ⟨-, next, rest⟩ := linked
      exact ⟨Links.prev_setPrev, next, rest.setPrev (List.nodup_cons.mp once).1⟩

/-! ### Insertion and removal -/

/-- A node is put between two pointers. -/
def Links.insert (links : Links α) (a : α) (prev next : Option α) : Links α :=
  (((links.setNext a next).setPrev a prev).setPrevOf next (some a)).setNextOf prev (some a)

/-- A node is taken out: its neighbours are made to point past it. -/
def Links.remove (links : Links α) (a : α) : Links α :=
  let links := links.setNextOf (links.prev a) (links.next a)
  links.setPrevOf (links.next a) (links.prev a)

theorem Links.insert_of_ne {prev next : Option α} (other : b ≠ a) (notPrev : prev ≠ some b)
    (notNext : next ≠ some b) : (links.insert a prev next).next b = links.next b ∧
      (links.insert a prev next).prev b = links.prev b := by
  rw [Links.insert, Links.next_setNextOf_of_ne notPrev, Links.next_setPrevOf, Links.next_setPrev,
    Links.next_setNext_of_ne other, Links.prev_setNextOf, Links.prev_setPrevOf_of_ne notNext,
    Links.prev_setPrev_of_ne other, Links.prev_setNext]
  exact ⟨rfl, rfl⟩

theorem Links.remove_of_ne (notPrev : links.prev a ≠ some b) (notNext : links.next a ≠ some b)
    (notSelf : links.prev a ≠ some a) : (links.remove a).next b = links.next b ∧
      (links.remove a).prev b = links.prev b := by
  rw [Links.remove, Links.next_setNextOf_of_ne notSelf, Links.next_setPrevOf,
    Links.next_setNextOf_of_ne notPrev, Links.prev_setPrevOf_of_ne notNext, Links.prev_setNextOf]
  exact ⟨rfl, rfl⟩

theorem Linked.insert (linked : Linked links none (front ++ back) none)
    (once : (front ++ back).Nodup) (new : a ∉ front ++ back) :
    Linked (links.insert a front.getLast? back.head?) none (front ++ a :: back) none := by
  obtain ⟨first, second⟩ := linked_append.mp linked
  obtain ⟨newFront, newBack⟩ := not_or.mp (List.mem_append.not.mp new)
  obtain ⟨onceFront, onceBack, apart⟩ := List.nodup_append.mp once
  have lastApart : ∀ b ∈ front.getLast?, b ∉ back := fun b last member =>
    apart b (List.mem_of_getLast? last) b member rfl
  have headApart : ∀ b ∈ back.head?, b ∉ front := fun b head member =>
    apart b member b (List.mem_of_head? head) rfl
  have lastNew : front.getLast? ≠ some a := fun last => newFront (List.mem_of_getLast? last)
  have headNew : back.head? ≠ some a := fun head => newBack (List.mem_of_head? head)
  refine linked_append.mpr ⟨?_, ?_, ?_, ?_⟩
  · exact (((first.setNext newFront).setPrev newFront).setPrevOf headApart).setNextOf_last onceFront
  · rw [Links.insert, Links.prev_setNextOf, Links.prev_setPrevOf_of_ne headNew, Links.prev_setPrev,
      Option.or_none]
  · rw [Links.insert, Links.next_setNextOf_of_ne lastNew, Links.next_setPrevOf, Links.next_setPrev,
      Links.next_setNext, Option.or_none]
  · exact (((second.setNext newBack).setPrev newBack).setPrevOf_head onceBack).setNextOf lastApart

theorem Linked.remove (linked : Linked links none (front ++ a :: back) none)
    (once : (front ++ a :: back).Nodup) :
    Linked (links.remove a) none (front ++ back) none := by
  obtain ⟨prev, next⟩ := linked.neighbours
  obtain ⟨first, -, -, second⟩ := linked_append.mp linked
  obtain ⟨onceFront, onceRest, apart⟩ := List.nodup_append.mp once
  obtain ⟨newBack, onceBack⟩ := List.nodup_cons.mp onceRest
  have lastApart : ∀ b ∈ front.getLast?, b ∉ back := fun b last member =>
    apart b (List.mem_of_getLast? last) b (List.mem_cons_of_mem a member) rfl
  have headApart : ∀ b ∈ back.head?, b ∉ front := fun b head member =>
    apart b member b (List.mem_cons_of_mem a (List.mem_of_head? head)) rfl
  have lastNew : front.getLast? ≠ some a := fun last =>
    apart a (List.mem_of_getLast? last) a List.mem_cons_self rfl
  rw [Links.remove, prev, Links.next_setNextOf_of_ne lastNew, Links.prev_setNextOf, prev, next]
  refine linked_append.mpr ⟨?_, ?_⟩
  · rw [Option.or_none]
    exact (first.setNextOf_last onceFront).setPrevOf headApart
  · rw [Option.or_none]
    exact (second.setNextOf lastApart).setPrevOf_head onceBack

end Assignments

end LinkedList
