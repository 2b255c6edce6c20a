import ZonDpi.Engine.Types
import ZonDpi.Lib.Getopt
import ZonDpi.Lib.Reader
import ZonDpi.Std.Strtol

/-!
What the adapters of the engines share: how they read a profile and the numbers in it, and
the pieces that they write their command lines from, an argument that stands alone and an
argument with its value behind it.
-/

namespace ZonDpi.Engine

open Getopt Reader ZonDpi.Std

/-! ### Reading a profile -/

variable {σ ε : Type}

/-- A number in the range of its field, or the error that names it. -/
def parseNumber (invalid : String → ε) (maximum : Nat) (label value : String) : Except ε Nat :=
  match parseUnsigned maximum value with
  | some n => .ok n
  | none => .error (invalid s!"{label}: {value}")

/-- `from_profile`: the profile is for the engine, by one of its names, and its arguments
are read. -/
def readProfile (name other : String) (mismatch : String → ε) (read : List String → Except ε σ)
    (profile : ProfileDefinition) : Except ε σ :=
  let target := toLowercase profile.targetEngine
  if target ≠ name.toList ∧ target ≠ other.toList then .error (mismatch profile.targetEngine)
  else read profile.arguments

theorem parseNumber_map_eq_ok {invalid : String → ε} {maximum : Nat} {label value : String}
    {f : Nat → σ} {s : σ} :
    (parseNumber invalid maximum label value).map f = .ok s ↔
      ∃ n, parseUnsigned maximum value = some n ∧ s = f n := by
  unfold parseNumber
  cases parseUnsigned maximum value with
  | none => exact iff_of_false nofun nofun
  | some n =>
      constructor
      · rintro ⟨⟩
        exact ⟨n, rfl, rfl⟩
      · rintro ⟨_, ⟨⟩, rfl⟩
        rfl

theorem parseNumber_map_toString {invalid : String → ε} {maximum n : Nat} {label : String}
    {f : Nat → σ} (small : n ≤ maximum) :
    (parseNumber invalid maximum label (toString n)).map f = .ok (f n) :=
  parseNumber_map_eq_ok.mpr ⟨n, parseUnsigned_toString small, rfl⟩

/-- The arguments decide nothing about the engine. -/
theorem readProfile_arguments {name other : String} {mismatch : String → ε}
    {read : List String → Except ε σ} {profile : ProfileDefinition} {s : σ}
    (accepted : readProfile name other mismatch read profile = .ok s) (args : List String) :
    readProfile name other mismatch read { profile with arguments := args } = read args := by
  simp only [readProfile] at accepted ⊢
  split at accepted
  · cases accepted
  · rename_i known
    rw [if_neg known]

/-! ### Writing a line -/

def flagArg (name : String) (present : Bool) : List String := if present then [name] else []

def textArg (name : String) : Option String → List String
  | some value => [name, value]
  | none => []

def numberArg (name : String) (value : Option Nat) : List String :=
  textArg name (value.map toString)

/-! ### What `from_profile` reads from it -/

section Takes

variable (kind : String → Kind σ String ε) {pass : σ → String → σ}

theorem takes_flagArg (name : String) (put : Bool → σ → σ) (alone : kind name = .alone (put true))
    (idle : ∀ s, put false s = s) (present : Bool) :
    Takes (loop kind pass) (flagArg name present) (put present) := by
  intro s rest
  cases present with
  | false => rw [idle, flagArg, if_neg Bool.false_ne_true, List.nil_append]
  | true => exact loop_alone alone

theorem takes_textArg (name : String) (put : Option String → σ → σ)
    {read : σ → String → Except ε σ} (valued : kind name = .value read)
    (reads : ∀ text s, read s text = .ok (put (some text) s)) (idle : ∀ s, put none s = s)
    (value : Option String) : Takes (loop kind pass) (textArg name value) (put value) := by
  intro s rest
  cases value with
  | none => rw [idle, textArg, List.nil_append]
  | some text => exact loop_value valued (reads text s)

/-- A number is read back if it is in the range of its field. -/
theorem takes_numberArg (name : String) (put : Option Nat → σ → σ) {invalid : String → ε}
    {label : String} {maximum : Nat} {value : Option Nat}
    (valued : kind name = .value fun s text =>
      (parseNumber invalid maximum label text).map fun n => put (some n) s)
    (idle : ∀ s, put none s = s) (within : ∀ n ∈ value, n ≤ maximum) :
    Takes (loop kind pass) (numberArg name value) (put value) := by
  intro s rest
  cases value with
  | none => rw [idle, numberArg, Option.map_none, textArg, List.nil_append]
  | some n => exact loop_value valued (parseNumber_map_toString (within n rfl))

end Takes

/-! ### What `getopt_long` finds in it -/

/-- The option with this value, if there is one. -/
def valueOptions {ι : Type} (opt : ι) (value : Option String) : List (ι × Option String) :=
  (value.map fun text => (opt, some text)).toList

theorem mem_valueOptions {ι : Type} {opt : ι} {value : Option String} {o : ι × Option String}
    (member : o ∈ valueOptions opt value) : o.1 = opt := by
  cases value with
  | none => cases member
  | some text =>
      obtain rfl := List.mem_singleton.mp member
      rfl

theorem parses_textArg {ι : Type} {t : Table ι}
    {look : ι → Option String → List String → ι × Option String} {name : String} {opt : ι}
    (value : Option String) (needs : t.classify name = .options [] (.needs opt))
    (same : ∀ text rest, look opt (some text) rest = (opt, some text)) :
    Parses t look (textArg name value) (valueOptions opt value) := by
  cases value with
  | none => exact parses_nil
  | some text => exact parses_value needs (same text)

end ZonDpi.Engine
