import ZonDpi.Engine.CiadpiOptions
import Mathlib.Data.List.Forall2

/-!
What the jumps of `--copy` come to.

At `--copy` the loop of `parse_args` goes back to the beginning of a group, takes up its
options once more and returns when it meets the `--auto` behind them. A group that is
copied does not bring its own copies along, and a copy of the group that is still open
never returns. So the loop takes up the options of the line with the options of the named
group in the place of each `--copy` (`Division.expand`), and `parse_args` accepts a line
just if it can be expanded in this way and the options succeed one after the other
(`accepts_iff`).
-/

namespace ZonDpi.Engine

open Getopt Fold ZonDpi.Std

def ciadpiLook (opt : CiadpiOpt) (optarg : Option String) (_ : List String) :
    CiadpiOpt × Option String :=
  (opt, optarg)

/-- The loop does not leave its place at this option. -/
def jumpless (o : CiadpiOpt × Option String) : Bool := o.1 ≠ .copy || copiesNothing o.2

/-- The options that a copy takes up: those of each finished group, and those of the open
one. -/
structure Division where
  finished : List (List (CiadpiOpt × Option String))
  current : List (CiadpiOpt × Option String)
deriving DecidableEq, Repr

namespace Division

def start : Division := ⟨[], []⟩

def add (d : Division) (o : CiadpiOpt × Option String) : Division :=
  match o.1 with
  | .auto => ⟨d.finished ++ [d.current], []⟩
  | .copy => d
  | _ => { d with current := d.current ++ [o] }

/-- The finished group that `--copy` names. -/
def group (d : Division) (optarg : Option String) : Option (List (CiadpiOpt × Option String)) :=
  let val := (strtol (optarg.getD "").toList).1
  if val ≤ 0 then none else d.finished[val.toNat - 1]?

/-- The options in the place of one option. -/
def comesTo (d : Division) (o : CiadpiOpt × Option String) :
    Option (List (CiadpiOpt × Option String)) :=
  if jumpless o then some [o] else d.group o.2

/-- The options in the place of those that follow; none if a copy names no finished
group. -/
def expand (d : Division) :
    List (CiadpiOpt × Option String) → Option (List (CiadpiOpt × Option String))
  | [] => some []
  | o :: opts => (d.comesTo o).bind fun found => ((d.add o).expand opts).map (found ++ ·)

end Division

variable {host : CiadpiHost} {cursor cursor' : Cursor} {opt : CiadpiOpt} {optarg : Option String}
  {rest target start args : List String} {events evs : List (Event CiadpiOpt)}
  {v v' : CiadpiState} {d : Division} {o : CiadpiOpt × Option String}
  {opts found expanded : List (CiadpiOpt × Option String)}

/-! ### Runs that end -/

def Ends (host : CiadpiHost) (cursor : Cursor) (events : List (Event CiadpiOpt))
    (v v' : CiadpiState) : Prop :=
  ∃ fuel, host.run fuel cursor events v = .ok v'

theorem ends_nil : Ends host cursor [] v v' ↔ v = v' := by
  constructor
  · rintro ⟨fuel, ended⟩
    cases fuel with
    | zero => cases ended
    | succ fuel => exact Except.ok.inj ended
  · rintro rfl
    exact ⟨1, rfl⟩

theorem not_ends_invalid : ¬ Ends host cursor (.invalid :: events) v v' := by
  rintro ⟨fuel, ended⟩
  cases fuel <;> cases ended

theorem ends_takes (move : cursor.move opt optarg rest = .takes cursor') :
    Ends host cursor (.option opt optarg rest :: events) v v' ↔
      ∃ next, host.effect v (opt, optarg) = .ok next ∧ Ends host cursor' events next v' := by
  constructor
  · rintro ⟨fuel, ended⟩
    cases fuel with
    | zero => cases ended
    | succ fuel =>
        rw [CiadpiHost.run, move] at ended
        obtain ⟨next, first, ended⟩ := bind_eq_ok.mp ended
        exact ⟨next, first, fuel, ended⟩
  · rintro ⟨next, first, fuel, ended⟩
    refine ⟨fuel + 1, ?_⟩
    rw [CiadpiHost.run, move]
    exact bind_eq_ok.mpr ⟨next, first, ended⟩

theorem ends_skips (move : cursor.move opt optarg rest = .skips) :
    Ends host cursor (.option opt optarg rest :: events) v v' ↔
      Ends host cursor events v v' := by
  constructor
  · rintro ⟨fuel, ended⟩
    cases fuel with
    | zero => cases ended
    | succ fuel =>
        rw [CiadpiHost.run, move] at ended
        exact ⟨fuel, ended⟩
  · rintro ⟨fuel, ended⟩
    refine ⟨fuel + 1, ?_⟩
    rw [CiadpiHost.run, move]
    exact ended

theorem ends_jumps (move : cursor.move opt optarg rest = .jumps cursor' target) :
    Ends host cursor (.option opt optarg rest :: events) v v' ↔
      Ends host cursor' (ciadpiTable.read none target) v v' := by
  constructor
  · rintro ⟨fuel, ended⟩
    cases fuel with
    | zero => cases ended
    | succ fuel =>
        rw [CiadpiHost.run, move] at ended
        exact ⟨fuel, ended⟩
  · rintro ⟨fuel, ended⟩
    refine ⟨fuel + 1, ?_⟩
    rw [CiadpiHost.run, move]
    exact ended

theorem not_ends_fails (move : cursor.move opt optarg rest = .fails) :
    ¬ Ends host cursor (.option opt optarg rest :: events) v v' := by
  rintro ⟨fuel, ended⟩
  cases fuel with
  | zero => cases ended
  | succ fuel =>
      rw [CiadpiHost.run, move] at ended
      cases ended

/-! ### Reading a group once more -/

/-- The option that is taken up again where the loop has come back to it. -/
def repeated : Event CiadpiOpt → Option (CiadpiOpt × Option String)
  | .option opt optarg _ => if opt = .copy then none else some (opt, optarg)
  | .invalid => none

/-- An option of the group. -/
def Inside : Event CiadpiOpt → Prop
  | .option opt _ _ => opt ≠ .auto
  | .invalid => False

/-- A copy that stands before the place where the loop has left the line. -/
def Before (left : List String) : Event CiadpiOpt → Prop
  | .option opt _ rest => opt = .copy → left.length < rest.length
  | .invalid => True

theorem move_again (inside : opt ≠ .auto)
    (before : opt = .copy → cursor.curr.length < rest.length) :
    cursor.move opt optarg rest = if opt = .copy then .skips else .takes cursor := by
  unfold Cursor.move
  split
  · exact absurd rfl inside
  · rw [if_pos rfl, if_pos (by simpa [Cursor.again] using before rfl)]
  · rename_i other
    rw [if_neg other]

theorem ends_again (inside : ∀ e ∈ evs, Inside e) (before : ∀ e ∈ evs, Before cursor.curr e) :
    Ends host cursor (evs ++ events) v v' ↔
      ∃ next, (evs.filterMap repeated).foldlM host.effect v = .ok next ∧
        Ends host cursor events next v' := by
  induction evs generalizing v with
  | nil =>
      constructor
      · intro ended
        exact ⟨v, rfl, ended⟩
      · rintro ⟨next, ⟨⟩, ended⟩
        exact ended
  | cons e evs ih =>
      rw [List.forall_mem_cons] at inside before
      cases e with
      | invalid => exact inside.1.elim
      | option opt optarg rest =>
          have move : cursor.move opt optarg rest = _ := move_again inside.1 before.1
          by_cases copy : opt = .copy
          · have none : repeated (.option opt optarg rest) = none := if_pos copy
            rw [if_pos copy] at move
            rw [List.cons_append, ends_skips move, ih inside.2 before.2,
              List.filterMap_cons_none none]
          · have some : repeated (.option opt optarg rest) = some (opt, optarg) := if_neg copy
            rw [if_neg copy] at move
            rw [List.cons_append, ends_takes move, List.filterMap_cons_some some]
            simp only [ih inside.2 before.2, cons_eq_ok]
            constructor
            · rintro ⟨next, first, last, others, ended⟩
              exact ⟨last, ⟨next, first, others⟩, ended⟩
            · rintro ⟨last, ⟨next, first, others⟩, ended⟩
              exact ⟨next, first, last, others, ended⟩

/-! ### Where the loop stands -/

theorem closes_auto : ciadpiTable.Closes .auto := by
  unfold Table.Closes
  decide

theorem closes_copy : ciadpiTable.Closes .copy := by
  unfold Table.Closes
  decide

/-- Every copy of a group stands before what follows the group. -/
theorem before_of_read
    (line : ciadpiTable.read none start = evs ++ .option opt optarg rest :: events) :
    ∀ e ∈ evs, Before rest e := by
  intro e member
  cases e with
  | invalid => trivial
  | option opt' optarg' rest' =>
      intro copy
      subst copy
      obtain ⟨front, back, rfl⟩ := List.append_of_mem member
      rw [List.append_assoc, List.cons_append] at line
      have behind := read_behind closes_copy line
      have member : .option opt optarg rest ∈ ciadpiTable.read none rest' := by
        rw [← behind]
        exact List.mem_append_right _ List.mem_cons_self
      exact length_rest_lt member

/-- A finished group: an option that ends it stands before all that are left. -/
def Finished (events : List (Event CiadpiOpt)) (start : List String)
    (group : List (CiadpiOpt × Option String)) : Prop :=
  ∃ evs optarg rest more, ciadpiTable.read none start = evs ++ .option .auto optarg rest :: more ∧
    (∀ e ∈ evs, Inside e) ∧ evs.filterMap repeated = group ∧
    ∀ opt optarg' rest', .option opt optarg' rest' ∈ events → rest'.length < rest.length

theorem Finished.mono {events' : List (Event CiadpiOpt)} (finished : Finished events start opts)
    (fewer : ∀ e ∈ events', e ∈ events) : Finished events' start opts := by
  obtain ⟨evs, optarg, rest, more, line, inside, group, ahead⟩ := finished
  exact ⟨evs, optarg, rest, more, line, inside, group,
    fun opt optarg' rest' member => ahead opt optarg' rest' (fewer _ member)⟩

/-- The loop returns from a finished group. -/
theorem ends_finished (finished : Finished (.option opt optarg cursor.curr :: events) start found) :
    Ends host cursor (ciadpiTable.read none start) v v' ↔
      ∃ next, found.foldlM host.effect v = .ok next ∧
        Ends host cursor (ciadpiTable.read none cursor.curr) next v' := by
  obtain ⟨evs, optarg', rest, more, line, inside, rfl, ahead⟩ := finished
  have short := ahead _ _ _ List.mem_cons_self
  have before : ∀ e ∈ evs, Before cursor.curr e := by
    intro e member
    have before := before_of_read line e member
    cases e with
    | invalid => trivial
    | option opt optarg rest => exact fun copy => short.trans (before copy)
  have back : cursor.move .auto optarg' rest = .jumps cursor cursor.curr :=
    if_pos (by simpa [Cursor.again] using short)
  rw [line, ends_again inside before]
  simp only [ends_jumps back]

/-- The loop does not return from the open group. -/
theorem not_ends_open
    (line : ciadpiTable.read none start = evs ++ .option .copy optarg rest :: events)
    (inside : ∀ e ∈ evs, Inside e) (jumps : copiesNothing optarg = false)
    (group : cursor.group optarg = some start) (left : cursor.curr = rest) :
    ¬ Ends host cursor (ciadpiTable.read none start) v v' := by
  have before := before_of_read line
  have back : cursor.move .copy optarg rest = .jumps cursor start := by
    have first : cursor.again rest = false := by simp [Cursor.again, left]
    subst left
    simp only [Cursor.move, first, jumps, group]
    rfl
  -- wherever it is in the group, it comes back to the copy, with less fuel each time
  have never : ∀ fuel evs' v, (∀ e ∈ evs', Inside e) → (∀ e ∈ evs', Before rest e) →
      host.run fuel cursor (evs' ++ .option .copy optarg rest :: events) v ≠ .ok v' := by
    intro fuel
    induction fuel with
    | zero => exact fun _ _ _ _ => nofun
    | succ fuel ih =>
        intro evs' v inside' before' ended
        cases evs' with
        | nil =>
            rw [List.nil_append, CiadpiHost.run, back] at ended
            dsimp only at ended
            rw [line] at ended
            exact ih evs v inside before ended
        | cons e evs' =>
            rw [List.forall_mem_cons] at inside' before'
            cases e with
            | invalid => exact inside'.1.elim
            | option opt optarg' rest' =>
                have move : cursor.move opt optarg' rest' = _ :=
                  move_again inside'.1 (left ▸ before'.1)
                rw [List.cons_append, CiadpiHost.run, move] at ended
                split_ifs at ended with copy
                · exact ih evs' v inside'.2 before'.2 ended
                · obtain ⟨next, _, ended⟩ := bind_eq_ok.mp ended
                  exact ih evs' next inside'.2 before'.2 ended
  rintro ⟨fuel, ended⟩
  rw [line] at ended
  exact never fuel evs v inside before ended

/-- The loop has come to `events`: it knows where the finished groups and the open one
begin, and it has left nothing behind. -/
structure Stands (cursor : Cursor) (d : Division) (events : List (Event CiadpiOpt)) : Prop where
  groups : ∃ starts start evs, cursor.starts = starts ++ [start] ∧
    List.Forall₂ (Finished events) starts d.finished ∧
    ciadpiTable.read none start = evs ++ events ∧ (∀ e ∈ evs, Inside e) ∧
    evs.filterMap repeated = d.current
  ahead : ∀ opt optarg rest, .option opt optarg rest ∈ events → rest.length ≤ cursor.curr.length

theorem stands_start (args : List String) :
    Stands (.start args) .start (ciadpiTable.read none args) where
  groups := ⟨[], args, [], rfl, .nil, rfl, nofun, rfl⟩
  ahead := fun _ _ _ member => (length_rest_lt member).le

/-- One option further, with the cursor where it is. -/
theorem Stands.inside (stands : Stands cursor d (.option opt optarg rest :: events))
    (inside : opt ≠ .auto) : Stands cursor (d.add (opt, optarg)) events := by
  obtain ⟨⟨starts, start, evs, places, finished, line, group, current⟩, ahead⟩ := stands
  have fewer : ∀ e ∈ events, e ∈ Event.option opt optarg rest :: events :=
    fun e member => List.mem_cons_of_mem _ member
  have add : d.add (opt, optarg) =
      ⟨d.finished, d.current ++ (repeated (.option opt optarg rest)).toList⟩ := by
    unfold Division.add repeated
    split
    · rename_i auto
      exact absurd auto inside
    · rename_i copy
      simp [show opt = .copy from copy]
    · rename_i _ other
      simp [show opt ≠ .copy from other]
  refine ⟨⟨starts, start, evs ++ [.option opt optarg rest], places, ?_, ?_, ?_, ?_⟩, ?_⟩
  · rw [add]
    exact finished.imp fun _ _ finished => finished.mono fewer
  · rw [line, List.append_assoc]
    rfl
  · intro e member
    rcases List.mem_append.mp member with before | last
    · exact group e before
    · rw [List.mem_singleton.mp last]
      exact inside
  · rw [add, List.filterMap_append, current, List.filterMap_cons, List.filterMap_nil]
    cases repeated (Event.option opt optarg rest) <;> rfl
  · exact fun opt' optarg' rest' member => ahead opt' optarg' rest' (fewer _ member)

theorem Stands.auto (stands : Stands cursor d (.option .auto optarg rest :: events)) :
    Stands { cursor with starts := cursor.starts ++ [rest] } (d.add (.auto, optarg)) events := by
  obtain ⟨⟨starts, start, evs, places, finished, line, group, current⟩, ahead⟩ := stands
  have behind : events = ciadpiTable.read none rest := read_behind closes_auto line
  have fewer : ∀ e ∈ events, e ∈ Event.option .auto optarg rest :: events :=
    fun e member => List.mem_cons_of_mem _ member
  refine ⟨⟨starts ++ [start], rest, [], ?_, ?_, behind.symm, nofun, rfl⟩, ?_⟩
  · rw [places]
  · refine List.rel_append (finished.imp fun _ _ finished => finished.mono fewer) (.cons ?_ .nil)
    refine ⟨evs, optarg, rest, events, line, group, current, fun opt optarg' rest' member => ?_⟩
    rw [behind] at member
    exact length_rest_lt member
  · exact fun opt' optarg' rest' member => ahead opt' optarg' rest' (fewer _ member)

/-! ### The expanded line -/

/-- The options of these events, expanded, lead from one state to the other. -/
def Means (host : CiadpiHost) (d : Division) (events : List (Event CiadpiOpt))
    (v v' : CiadpiState) : Prop :=
  ∃ opts expanded, events.mapM (Event.parsed ciadpiLook) = some opts ∧
    d.expand opts = some expanded ∧ expanded.foldlM host.effect v = .ok v'

theorem means_nil : Means host d [] v v' ↔ v = v' := by
  constructor
  · rintro ⟨_, _, ⟨⟩, ⟨⟩, same⟩
    exact Except.ok.inj same
  · rintro rfl
    exact ⟨[], [], rfl, rfl, rfl⟩

theorem means_cons : Means host d (.option opt optarg rest :: events) v v' ↔
    ∃ found next, d.comesTo (opt, optarg) = some found ∧
      found.foldlM host.effect v = .ok next ∧ Means host (d.add (opt, optarg)) events next v' := by
  unfold Means
  rw [List.mapM_cons]
  constructor
  · rintro ⟨opts, expanded, parsed, expands, applied⟩
    cases others : events.mapM (Event.parsed ciadpiLook) with
    | none =>
        rw [others] at parsed
        cases parsed
    | some opts =>
        rw [others] at parsed
        cases parsed
        obtain ⟨found, here, both⟩ := Option.bind_eq_some_iff.mp expands
        obtain ⟨more, behind, rfl⟩ := Option.map_eq_some_iff.mp both
        obtain ⟨next, first, applied⟩ := append_eq_ok.mp applied
        exact ⟨found, next, here, first, opts, more, rfl, behind, applied⟩
  · rintro ⟨found, next, here, first, opts, more, parsed, expands, applied⟩
    refine ⟨(opt, optarg) :: opts, found ++ more, ?_, ?_, append_eq_ok.mpr ⟨next, first, applied⟩⟩
    · rw [parsed]
      rfl
    · rw [Division.expand, show d.comesTo (opt, optarg) = some found from here, Option.bind_some,
        expands]
      rfl

theorem group_eq (optarg : Option String) {starts : List (List String)}
    (places : cursor.starts = starts ++ [start]) (same : starts.length = d.finished.length) :
    (cursor.group optarg = none ∧ d.group optarg = none) ∨
      (cursor.group optarg = some start ∧ d.group optarg = none) ∨
      ∃ n, cursor.group optarg = starts[n]? ∧ d.group optarg = d.finished[n]? ∧
        n < starts.length := by
  unfold Cursor.group Division.group
  dsimp only
  split_ifs with low
  · exact .inl ⟨rfl, rfl⟩
  · rw [places]
    rcases Nat.lt_trichotomy ((strtol (optarg.getD "").toList).1.toNat - 1) starts.length with
      before | here | behind
    · exact .inr (.inr ⟨_, List.getElem?_append_left before, rfl, before⟩)
    · refine .inr (.inl ⟨?_, List.getElem?_eq_none (by omega)⟩)
      rw [here, List.getElem?_append_right le_rfl, Nat.sub_self]
      rfl
    · refine .inl ⟨List.getElem?_eq_none ?_, List.getElem?_eq_none (by omega)⟩
      rw [List.length_append, List.length_singleton]
      omega

/-- At a copy the loop goes on with the options of the group that it names, or does not
come to an end. -/
theorem ends_copy (stands : Stands cursor d (.option .copy optarg rest :: events))
    (jumps : copiesNothing optarg = false) :
    Ends host cursor (.option .copy optarg rest :: events) v v' ↔
      ∃ found next, d.group optarg = some found ∧ found.foldlM host.effect v = .ok next ∧
        Ends host { cursor with curr := rest } events next v' := by
  obtain ⟨⟨starts, start, evs, places, finished, line, group, _⟩, ahead⟩ := stands
  have behind : events = ciadpiTable.read none rest := read_behind closes_copy line
  have first : cursor.again rest = false := by
    simpa [Cursor.again] using ahead _ _ _ List.mem_cons_self
  have move : cursor.move .copy optarg rest =
      (cursor.group optarg).elim .fails (.jumps { cursor with curr := rest }) := by
    simp only [Cursor.move, first, jumps]
    cases cursor.group optarg <;> rfl
  rcases group_eq optarg places finished.length_eq with
    ⟨none, none'⟩ | ⟨here, none⟩ | ⟨n, here, there, inside⟩
  · rw [none] at move
    rw [none']
    exact iff_of_false (not_ends_fails move) (by simp)
  · rw [here] at move
    rw [ends_jumps move, none]
    refine iff_of_false (not_ends_open line group jumps ?_ rfl) (by simp)
    exact here
  · have inside' : n < d.finished.length := finished.length_eq ▸ inside
    rw [List.getElem?_eq_getElem inside] at here
    rw [List.getElem?_eq_getElem inside'] at there
    rw [here] at move
    have named := (List.forall₂_iff_get.mp finished).2 n inside inside'
    rw [ends_jumps move, there, ends_finished named]
    simp [behind]

theorem Stands.takes (stands : Stands cursor d (.option opt optarg rest :: events))
    (stays : jumpless (opt, optarg) = true) :
    ∃ cursor', cursor.move opt optarg rest = .takes cursor' ∧
      Stands cursor' (d.add (opt, optarg)) events := by
  have first : cursor.again rest = false := by
    simpa [Cursor.again] using stands.ahead _ _ _ List.mem_cons_self
  by_cases auto : opt = .auto
  · subst auto
    exact ⟨_, if_neg (by simp [first]), stands.auto⟩
  · refine ⟨cursor, ?_, stands.inside auto⟩
    unfold Cursor.move
    split
    · exact absurd rfl auto
    · have nothing : copiesNothing optarg = true := by simpa [jumpless] using stays
      rw [first, nothing]
      rfl
    · rfl

theorem Stands.jumps (stands : Stands cursor d (.option .copy optarg rest :: events)) :
    Stands { cursor with curr := rest } (d.add (.copy, optarg)) events := by
  have behind : events = ciadpiTable.read none rest := by
    obtain ⟨⟨_, _, _, _, _, line, _, _⟩, _⟩ := stands
    exact read_behind closes_copy line
  refine ⟨(stands.inside (by decide)).groups, fun opt optarg' rest' member => ?_⟩
  rw [behind] at member
  exact (length_rest_lt member).le

theorem foldlM_singleton : [o].foldlM host.effect v = .ok v' ↔ host.effect v o = .ok v' := by
  rw [cons_eq_ok]
  constructor
  · rintro ⟨_, first, ⟨⟩⟩
    exact first
  · intro first
    exact ⟨v', first, rfl⟩

/-- The loop takes up the options of the expanded line. -/
theorem ends_iff (stands : Stands cursor d events) :
    Ends host cursor events v v' ↔ Means host d events v v' := by
  induction events generalizing cursor d v with
  | nil => rw [ends_nil, means_nil]
  | cons e events ih =>
      cases e with
      | invalid => exact iff_of_false not_ends_invalid nofun
      | option opt optarg rest =>
          rw [means_cons, Division.comesTo]
          cases stays : jumpless (opt, optarg) with
          | true =>
              obtain ⟨cursor', move, stands'⟩ := stands.takes stays
              rw [ends_takes move, if_pos rfl]
              simp only [ih stands']
              constructor
              · rintro ⟨next, first, others⟩
                exact ⟨_, next, rfl, foldlM_singleton.mpr first, others⟩
              · rintro ⟨_, next, ⟨⟩, first, others⟩
                exact ⟨next, foldlM_singleton.mp first, others⟩
          | false =>
              simp only [jumpless, Bool.or_eq_false_iff, decide_eq_false_iff_not, not_not] at stays
              obtain ⟨copy, jumps⟩ := stays
              subst copy
              rw [ends_copy stands jumps, if_neg (by simp)]
              simp only [ih stands.jumps]

/-- A line is accepted if its copies name finished groups and the options, with those of
the groups in the place of the copies, succeed one after the other. -/
theorem accepts_iff {p : CiadpiParams} :
    host.Accepts args p ↔
      ∃ opts expanded v, ciadpiTable.parse ciadpiLook args = some opts ∧
        Division.start.expand opts = some expanded ∧
        expanded.foldlM host.effect .initial = .ok v ∧ p = v.finish := by
  have ends : ∀ v, Ends host (.start args) (ciadpiTable.read none args) .initial v ↔ _ :=
    fun v => ends_iff (stands_start args)
  constructor
  · rintro ⟨fuel, runs⟩
    obtain ⟨v, ended, ⟨⟩⟩ := bind_eq_ok.mp runs
    obtain ⟨opts, expanded, parsed, expands, applied⟩ := (ends v).mp ⟨fuel, ended⟩
    exact ⟨opts, expanded, v, parsed, expands, applied, rfl⟩
  · rintro ⟨opts, expanded, v, parsed, expands, applied, rfl⟩
    obtain ⟨fuel, ended⟩ := (ends v).mpr ⟨opts, expanded, parsed, expands, applied⟩
    exact ⟨fuel, bind_eq_ok.mpr ⟨v, ended, rfl⟩⟩

/-! ### Lines in pieces -/

namespace Division

theorem expand_append (d : Division) (opts others : List (CiadpiOpt × Option String)) :
    d.expand (opts ++ others) =
      (d.expand opts).bind fun first => ((opts.foldl add d).expand others).map (first ++ ·) := by
  induction opts generalizing d with
  | nil => simp [expand]
  | cons o opts ih =>
      rw [List.cons_append, expand, expand, List.foldl_cons, ih]
      cases d.comesTo o with
      | none => rfl
      | some found =>
          cases (d.add o).expand opts with
          | none => rfl
          | some first =>
              cases (opts.foldl add (d.add o)).expand others <;> simp

theorem expand_jumpless (d : Division) (stay : ∀ o ∈ opts, jumpless o = true) :
    d.expand opts = some opts := by
  induction opts generalizing d with
  | nil => rfl
  | cons o opts ih =>
      rw [List.forall_mem_cons] at stay
      rw [expand, comesTo, if_pos stay.1, Option.bind_some, ih _ stay.2]
      rfl

/-- Options that begin no group: without its copies, they belong to the open one. -/
theorem foldl_add (d : Division) (inside : ∀ o ∈ opts, o.1 ≠ .auto) :
    opts.foldl add d = ⟨d.finished, d.current ++ opts.filter (·.1 ≠ .copy)⟩ := by
  induction opts generalizing d with
  | nil => simp
  | cons o opts ih =>
      rw [List.forall_mem_cons] at inside
      rw [List.foldl_cons, ih _ inside.2, List.filter_cons]
      unfold add
      split
      · rename_i auto
        exact absurd auto inside.1
      · rename_i copy
        simp [copy]
      · rename_i _ other
        simp [show o.1 ≠ .copy from other]

theorem foldl_add_plain (d : Division) (plain : ∀ o ∈ opts, o.1 ≠ .auto ∧ o.1 ≠ .copy) :
    opts.foldl add d = ⟨d.finished, d.current ++ opts⟩ := by
  have copyless : opts.filter (·.1 ≠ .copy) = opts := by
    rw [List.filter_eq_self]
    intro o member
    simpa using (plain o member).2
  rw [d.foldl_add fun o member => (plain o member).1, copyless]

theorem add_plain (d : Division) (inside : o.1 ≠ .auto) (other : o.1 ≠ .copy) :
    d.add o = ⟨d.finished, d.current ++ [o]⟩ := by
  unfold add
  split
  · rename_i auto
    exact absurd auto inside
  · rename_i copy
    exact absurd copy other
  · rfl

theorem add_finished (other : o.1 ≠ .auto) : (d.add o).finished = d.finished := by
  unfold add
  split
  · rename_i auto
    exact absurd auto other
  · rfl
  · rfl

/-- Where no group is finished, nothing can be copied. -/
theorem jumpless_of_expand (empty : d.finished = []) (inside : ∀ o ∈ opts, o.1 ≠ .auto)
    (expands : d.expand opts = some expanded) : ∀ o ∈ opts, jumpless o = true := by
  induction opts generalizing d expanded with
  | nil => exact nofun
  | cons o opts ih =>
      rw [List.forall_mem_cons] at inside
      obtain ⟨found, here, both⟩ := Option.bind_eq_some_iff.mp expands
      obtain ⟨more, behind, _⟩ := Option.map_eq_some_iff.mp both
      refine List.forall_mem_cons.mpr
        ⟨?_, ih ((add_finished inside.1).trans empty) inside.2 behind⟩
      by_contra jumps
      rw [comesTo, if_neg jumps, group, empty] at here
      simp at here

/-- Options that begin no group see the finished ones only. -/
theorem expand_congr {d' : Division} (same : d.finished = d'.finished)
    (inside : ∀ o ∈ opts, o.1 ≠ .auto) : d.expand opts = d'.expand opts := by
  induction opts generalizing d d' with
  | nil => rfl
  | cons o opts ih =>
      rw [List.forall_mem_cons] at inside
      have finished : (d.add o).finished = (d'.add o).finished := by
        rw [add_finished inside.1, add_finished inside.1, same]
      rw [expand, expand, comesTo, comesTo, group, group, same, ih finished inside.2]

theorem mem_expand_of_jumpless (expands : d.expand opts = some expanded) (member : o ∈ opts)
    (stays : jumpless o = true) : o ∈ expanded := by
  induction opts generalizing d expanded with
  | nil => cases member
  | cons o' opts ih =>
      obtain ⟨found, here, both⟩ := Option.bind_eq_some_iff.mp expands
      obtain ⟨more, behind, rfl⟩ := Option.map_eq_some_iff.mp both
      rcases List.mem_cons.mp member with rfl | later
      · rw [comesTo, if_pos stays] at here
        cases here
        exact List.mem_cons_self
      · exact List.mem_append_right _ (ih behind later)

theorem mem_expand (expands : d.expand opts = some expanded) (member : o ∈ expanded) :
    (o ∈ opts ∧ jumpless o = true) ∨ o ∈ d.current ∨ ∃ group ∈ d.finished, o ∈ group := by
  induction opts generalizing d expanded with
  | nil =>
      cases expands
      cases member
  | cons o' opts ih =>
      obtain ⟨found, here, both⟩ := Option.bind_eq_some_iff.mp expands
      obtain ⟨more, behind, rfl⟩ := Option.map_eq_some_iff.mp both
      rcases List.mem_append.mp member with first | later
      · unfold comesTo at here
        split_ifs at here with stays
        · cases here
          obtain rfl := List.mem_singleton.mp first
          exact .inl ⟨List.mem_cons_self, stays⟩
        · unfold group at here
          dsimp only at here
          split_ifs at here
          exact .inr (.inr ⟨found, List.mem_of_getElem? here, first⟩)
      · rcases ih behind later with ⟨inside, stays⟩ | current | ⟨group, finished, inside⟩
        · exact .inl ⟨List.mem_cons_of_mem _ inside, stays⟩
        · unfold add at current
          split at current
          · cases current
          · exact .inr (.inl current)
          · rename_i _ other
            rcases List.mem_append.mp current with before | last
            · exact .inr (.inl before)
            · obtain rfl := List.mem_singleton.mp last
              exact .inl ⟨List.mem_cons_self, by simp [jumpless, show o.1 ≠ .copy from other]⟩
        · unfold add at finished
          split at finished
          · rcases List.mem_append.mp finished with before | last
            · exact .inr (.inr ⟨group, before, inside⟩)
            · obtain rfl := List.mem_singleton.mp last
              exact .inr (.inl inside)
          · exact .inr (.inr ⟨group, finished, inside⟩)
          · exact .inr (.inr ⟨group, finished, inside⟩)

end Division

/-! ### Related lines -/

/-- A relation between pieces of a line that holds of a whole if it holds of its parts. -/
structure Composes
    (Q : List (CiadpiOpt × Option String) → List (CiadpiOpt × Option String) → Prop) : Prop where
  nil : Q [] []
  append : ∀ a a' b b', Q a a' → Q b b' → Q (a ++ b) (a' ++ b')

section Related

variable {Q : List (CiadpiOpt × Option String) → List (CiadpiOpt × Option String) → Prop}
  {d' : Division}

structure Division.Related
    (Q : List (CiadpiOpt × Option String) → List (CiadpiOpt × Option String) → Prop)
    (d d' : Division) : Prop where
  finished : List.Forall₂ Q d.finished d'.finished
  current : Q d.current d'.current

theorem Division.Related.imp
    {R : List (CiadpiOpt × Option String) → List (CiadpiOpt × Option String) → Prop}
    (related : Related Q d d') (implies : ∀ a b, Q a b → R a b) : Related R d d' :=
  ⟨related.finished.imp implies, implies _ _ related.current⟩

theorem forall₂_trans {α : Type} {R : α → α → Prop} (transitive : ∀ a b c, R a b → R b c → R a c)
    {l l' l'' : List α} (first : List.Forall₂ R l l') (second : List.Forall₂ R l' l'') :
    List.Forall₂ R l l'' := by
  induction first generalizing l'' with
  | nil => exact second
  | cons here _ ih =>
      cases second with
      | cons there behind => exact .cons (transitive _ _ _ here there) (ih behind)

theorem Division.Related.trans {d'' : Division} (transitive : ∀ a b c, Q a b → Q b c → Q a c)
    (first : Related Q d d') (second : Related Q d' d'') : Related Q d d'' :=
  ⟨forall₂_trans transitive first.finished second.finished,
    transitive _ _ _ first.current second.current⟩

theorem Division.Related.add (related : Related Q d d') (composes : Composes Q) (same : Q [o] [o]) :
    Related Q (d.add o) (d'.add o) := by
  unfold Division.add
  split
  · exact ⟨List.rel_append related.finished (.cons related.current .nil), composes.nil⟩
  · exact related
  · exact ⟨related.finished, composes.append _ _ _ _ related.current same⟩

theorem Division.Related.foldl (related : Related Q d d') (composes : Composes Q)
    (same : ∀ o ∈ opts, Q [o] [o]) :
    Related Q (opts.foldl Division.add d) (opts.foldl Division.add d') := by
  induction opts generalizing d d' with
  | nil => exact related
  | cons o opts ih =>
      rw [List.forall_mem_cons] at same
      exact ih (related.add composes same.1) same.2

theorem Division.Related.comesTo (related : Related Q d d') (same : Q [o] [o])
    (here : d.comesTo o = some found) : ∃ found', d'.comesTo o = some found' ∧ Q found found' := by
  unfold Division.comesTo at here ⊢
  split_ifs at here ⊢ with stays
  · cases here
    exact ⟨[o], rfl, same⟩
  · unfold Division.group at here ⊢
    dsimp only at here ⊢
    split_ifs at here ⊢
    obtain ⟨inside, rfl⟩ := List.getElem?_eq_some_iff.mp here
    have inside' := related.finished.length_eq ▸ inside
    exact ⟨_, List.getElem?_eq_getElem inside',
      (List.forall₂_iff_get.mp related.finished).2 _ inside inside'⟩

/-- Behind related groups the same options come to related ones. -/
theorem Division.Related.expand (related : Related Q d d') (composes : Composes Q)
    (same : ∀ o ∈ opts, Q [o] [o]) (expands : d.expand opts = some expanded) :
    ∃ expanded', d'.expand opts = some expanded' ∧ Q expanded expanded' := by
  induction opts generalizing d d' expanded with
  | nil =>
      cases expands
      exact ⟨[], rfl, composes.nil⟩
  | cons o opts ih =>
      rw [List.forall_mem_cons] at same
      obtain ⟨found, here, both⟩ := Option.bind_eq_some_iff.mp expands
      obtain ⟨more, behind, rfl⟩ := Option.map_eq_some_iff.mp both
      obtain ⟨found', here', first⟩ := related.comesTo same.1 here
      obtain ⟨more', behind', others⟩ := ih (related.add composes same.1) same.2 behind
      refine ⟨found' ++ more', ?_, composes.append _ _ _ _ first others⟩
      rw [Division.expand, here', Option.bind_some, behind']
      rfl

end Related

end ZonDpi.Engine
