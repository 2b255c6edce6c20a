import ZonDpi.Engine.CiadpiVariables

/-!
Options of `ciadpi` that may trade places.

The service writes the options it knows before all others, so an option may move past
others on its way. What it does does not depend on them, and theirs not on it, unless both
give the listening address, the port or the limit on connections, both add a part or set
the TTL of a group, and not to the same, or one of them begins a group and the other acts on
one (`CiadpiHost.clashes`). On the groups the others may trade places (`stepGroups_swaps`).
-/

namespace ZonDpi.Engine

open Getopt Fold ZonDpi.Std

namespace CiadpiOpt

/-- The options that decide about others. -/
def isLimit : CiadpiOpt → Bool
  | hosts | ipset | proto | pf | copy | fakeData | fakeOffset | connectTo => true
  | _ => false

def actsOnGroup (opt : CiadpiOpt) : Bool :=
  opt = .auto || opt.demode.isSome || opt = .ttl || opt = .autoMode || opt.isLimit

end CiadpiOpt

/-- The part that an option adds. -/
def partGiven (o : CiadpiOpt × Option String) : Option Part :=
  o.1.demode.bind fun mode => (parseOffset .zero (chars o)).map fun part => { part with m := mode }

def ttlGiven (o : CiadpiOpt × Option String) : Option Int :=
  if o.1 = .ttl then number 1 255 (chars o) else none

/-- Both give something, and not the same. -/
def differ {α : Type} [DecidableEq α] (given : CiadpiOpt × Option String → Option α)
    (o o' : CiadpiOpt × Option String) : Bool :=
  match given o, given o' with
  | some a, some a' => a ≠ a'
  | _, _ => false

def groupClash (o o' : CiadpiOpt × Option String) : Bool :=
  o.1 = .auto && o'.1.actsOnGroup || o.1.actsOnGroup && o'.1 = .auto || differ partGiven o o' ||
    differ ttlGiven o o'

/-- The second option, which the service knows, would do something else before the first. -/
def CiadpiHost.clashes (host : CiadpiHost) (o o' : CiadpiOpt × Option String) : Bool :=
  differ host.given o o' || o'.1 = .port && differ portGiven o o' || differ connGiven o o' ||
    groupClash o o'

variable {host : CiadpiHost} {o o' : CiadpiOpt × Option String}

theorem eq_of_differ {α : Type} [DecidableEq α] {given : CiadpiOpt × Option String → Option α}
    (same : differ given o o' = false) {a a' : α} (first : given o = some a)
    (second : given o' = some a') : a = a' := by
  simpa [differ, first, second] using same

theorem differ_eq_false {α : Type} [DecidableEq α] {given : CiadpiOpt × Option String → Option α}
    (none : given o = none ∨ given o' = none) : differ given o o' = false := by
  rcases none with none | none
  · simp [differ, none]
  · unfold differ
    rw [none]
    cases given o <;> rfl

theorem groupClash_eq_false (inside : o.1 ≠ .auto) (inside' : o'.1 ≠ .auto)
    (parts : partGiven o = none ∨ partGiven o' = none)
    (ttls : ttlGiven o = none ∨ ttlGiven o' = none) : groupClash o o' = false := by
  simp [groupClash, inside, inside', differ_eq_false parts, differ_eq_false ttls]

/-! ### Groups -/

theorem letters_or (bit : Char → Option Nat) (a mask : Nat) (text : List Char) :
    letters bit (a ||| mask) text = (letters bit mask text).map (a ||| ·) := by
  unfold letters
  induction items text generalizing mask with
  | nil => rfl
  | cons item items ih =>
      rw [List.foldlM_cons, List.foldlM_cons]
      cases item.head?.bind bit with
      | none => rfl
      | some b =>
          change items.foldlM _ (a ||| mask ||| b) = _
          rw [Nat.or_assoc]
          exact ih (mask ||| b)

theorem stepAutoLevel_eq (level : Nat) (mode : o.1 = .autoMode) :
    stepAutoLevel level o = orInvalid o ((letters autoLevelBit 0 (chars o)).map (level ||| ·)) := by
  rw [stepAutoLevel, if_pos mode, ← letters_or, Nat.or_zero]

theorem stepAutoLevel_swaps : Swaps stepAutoLevel o o' := by
  by_cases mode : o.1 = .autoMode
  · by_cases mode' : o'.1 = .autoMode
    · intro level level₁ level₂ first second
      rw [stepAutoLevel_eq _ mode, orInvalid_eq_ok] at first
      rw [stepAutoLevel_eq _ mode', orInvalid_eq_ok] at second
      obtain ⟨bits, read, rfl⟩ := Option.map_eq_some_iff.mp first
      obtain ⟨bits', read', rfl⟩ := Option.map_eq_some_iff.mp second
      refine ⟨level ||| bits', ?_, ?_⟩
      · rw [stepAutoLevel_eq _ mode', read']
        rfl
      · have same : level ||| bits' ||| bits = level ||| bits ||| bits' := by
          rw [Nat.or_assoc, Nat.or_comm bits', ← Nat.or_assoc]
        rw [stepAutoLevel_eq _ mode, read, ← same]
        rfl
    · exact swaps_of_idle_right fun level => if_neg mode'
  · exact swaps_of_idle_left fun level => if_neg mode

theorem stepParts_idle (none : o.1.demode = none) (parts : List Part) :
    stepParts parts o = .ok parts := by
  rw [stepParts, none]

theorem stepParts_eq_ok {mode : Demode} (some : o.1.demode = some mode) {parts parts' : List Part} :
    stepParts parts o = .ok parts' ↔
      ∃ part, partGiven o = .some part ∧ parts' = parts ++ [part] := by
  rw [stepParts, some, partGiven, some, Option.bind_some]
  cases parseOffset .zero (chars o) with
  | none => exact iff_of_false nofun (by simp)
  | some part =>
      constructor
      · rintro ⟨⟩
        exact ⟨_, rfl, rfl⟩
      · rintro ⟨_, ⟨⟩, rfl⟩
        rfl

theorem stepParts_swaps (free : differ partGiven o o' = false) : Swaps stepParts o o' := by
  cases mode : o.1.demode with
  | none => exact swaps_of_idle_left (stepParts_idle mode)
  | some m =>
      cases mode' : o'.1.demode with
      | none => exact swaps_of_idle_right (stepParts_idle mode')
      | some m' =>
          intro parts parts₁ parts₂ first second
          obtain ⟨part, given, rfl⟩ := (stepParts_eq_ok mode).mp first
          obtain ⟨part', given', rfl⟩ := (stepParts_eq_ok mode').mp second
          obtain rfl := eq_of_differ free given given'
          exact ⟨_, (stepParts_eq_ok mode').mpr ⟨part, given', rfl⟩,
            (stepParts_eq_ok mode).mpr ⟨part, given, rfl⟩⟩

theorem stepGroupTtl_swaps (free : differ ttlGiven o o' = false) : Swaps stepGroupTtl o o' := by
  by_cases ttl : o.1 = .ttl
  · by_cases ttl' : o'.1 = .ttl
    · intro level level₁ level₂ first second
      rw [stepGroupTtl, if_pos ttl, orInvalid_eq_ok] at first
      rw [stepGroupTtl, if_pos ttl', orInvalid_eq_ok] at second
      have given : ttlGiven o = some level₁ := by rw [ttlGiven, if_pos ttl, first]
      have given' : ttlGiven o' = some level₂ := by rw [ttlGiven, if_pos ttl', second]
      obtain rfl := eq_of_differ free given given'
      refine ⟨level₁, ?_, ?_⟩
      · rw [stepGroupTtl, if_pos ttl', orInvalid_eq_ok, second]
      · rw [stepGroupTtl, if_pos ttl, orInvalid_eq_ok, first]
    · exact swaps_of_idle_right fun level => if_neg ttl'
  · exact swaps_of_idle_left fun level => if_neg ttl

theorem stepLimits_idle (other : o.1.isLimit = false) (limits : GroupLimits) :
    host.stepLimits limits o = .ok limits := by
  unfold CiadpiHost.stepLimits
  split <;> simp_all [CiadpiOpt.isLimit]

theorem stepDp_eq_ok {dp dp' : DesyncParams} : host.stepDp dp o = .ok dp' ↔
    stepParts dp.parts o = .ok dp'.parts ∧ stepGroupTtl dp.ttl o = .ok dp'.ttl ∧
      stepAutoLevel dp.autoLevel o = .ok dp'.autoLevel ∧ dp'.detect = dp.detect ∧
      host.stepLimits dp.limits o = .ok dp'.limits := by
  simp only [CiadpiHost.stepDp, bind_eq_ok]
  constructor
  · rintro ⟨_, parts, _, ttl, _, level, _, limits, ⟨⟩⟩
    exact ⟨parts, ttl, level, rfl, limits⟩
  · rintro ⟨parts, ttl, level, detect, limits⟩
    refine ⟨_, parts, _, ttl, _, level, _, limits, ?_⟩
    rw [← detect]
    rfl

theorem stepDp_swaps (free : groupClash o o' = false) (typed : o'.1.isLimit = false) :
    Swaps host.stepDp o o' := by
  simp only [groupClash, Bool.or_eq_false_iff] at free
  obtain ⟨⟨_, freeParts⟩, freeTtl⟩ := free
  intro dp next last first second
  obtain ⟨parts, ttl, level, detect, limits⟩ := stepDp_eq_ok.mp first
  obtain ⟨parts', ttl', level', detect', limits'⟩ := stepDp_eq_ok.mp second
  obtain ⟨_, parts', parts⟩ := stepParts_swaps freeParts _ _ _ parts parts'
  obtain ⟨_, ttl', ttl⟩ := stepGroupTtl_swaps freeTtl _ _ _ ttl ttl'
  obtain ⟨_, level', level⟩ := stepAutoLevel_swaps _ _ _ level level'
  obtain ⟨_, limits', limits⟩ :=
    swaps_of_idle_right (a := o) (stepLimits_idle typed) _ _ _ limits limits'
  exact ⟨⟨_, _, _, dp.detect, _⟩, stepDp_eq_ok.mpr ⟨parts', ttl', level', rfl, limits'⟩,
    stepDp_eq_ok.mpr ⟨parts, ttl, level, detect'.trans detect, limits⟩⟩

theorem stepGroups_of_ne_auto (other : o.1 ≠ .auto) (groups : Groups) :
    host.stepGroups groups o =
      host.stepDp groups.dp o >>= fun dp => .ok { groups with dp := dp } := by
  rw [CiadpiHost.stepGroups, if_neg other]
  rfl

theorem stepGroups_idle (idle : o.1.actsOnGroup = false) (groups : Groups) :
    host.stepGroups groups o = .ok groups := by
  simp only [CiadpiOpt.actsOnGroup, Bool.or_eq_false_iff, decide_eq_false_iff_not] at idle
  obtain ⟨⟨⟨⟨auto, parts⟩, ttl⟩, level⟩, limit⟩ := idle
  have dp : host.stepDp groups.dp o = .ok groups.dp :=
    stepDp_eq_ok.mpr ⟨stepParts_idle (by simpa using parts) _, if_neg ttl, if_neg level, rfl,
      stepLimits_idle limit _⟩
  rw [stepGroups_of_ne_auto auto, dp]
  rfl

theorem stepGroups_swaps (free : groupClash o o' = false) (typed : o'.1.isLimit = false) :
    Swaps host.stepGroups o o' := by
  have clash := free
  simp only [groupClash, Bool.or_eq_false_iff] at clash
  obtain ⟨⟨⟨freeAuto, freeAuto'⟩, _⟩, _⟩ := clash
  by_cases auto : o.1 = .auto
  · exact swaps_of_idle_right (stepGroups_idle (by simpa [auto] using freeAuto))
  by_cases auto' : o'.1 = .auto
  · exact swaps_of_idle_left (stepGroups_idle (by simpa [auto'] using freeAuto'))
  intro groups next last first second
  rw [stepGroups_of_ne_auto auto] at first
  obtain ⟨dp, here, ⟨⟩⟩ := bind_eq_ok.mp first
  rw [stepGroups_of_ne_auto auto'] at second
  obtain ⟨dp', here', ⟨⟩⟩ := bind_eq_ok.mp second
  obtain ⟨dp'', moved', moved⟩ := stepDp_swaps free typed _ _ _ here here'
  refine ⟨{ groups with dp := dp'' }, ?_, ?_⟩
  · rw [stepGroups_of_ne_auto auto']
    exact bind_eq_ok.mpr ⟨dp'', moved', rfl⟩
  · rw [stepGroups_of_ne_auto auto]
    exact bind_eq_ok.mpr ⟨dp', moved, rfl⟩

end ZonDpi.Engine
