import ZonDpi.Lib.Components
import ZonDpi.Std.Text

/-!
# Whose driver a path is (`service_scm.rs`)

`is_zondpi_owned_driver_path` looks for three texts anywhere in the lower-cased path: the
product's name, the directory of the running executable, and `ProgramFiles\zondpi`. What
it is meant to tell is whether the path lies inside one of two directories, component by
component (`LiesInside`).

* `not_owned_iff`: the third text is never looked for in vain, because it contains the
  first; and the first stands in the path exactly if it stands in one component.
* `owned_only_inside_iff`: so the answer is right for the paths inside the directories and
  for the paths that have the name in no component and the executable's directory nowhere
  in their text (`Apart`), and for no others.
-/

namespace ZonDpi.Scm

open ZonDpi.Std Components

/-- What the process knows about itself. -/
structure DriverSystem where
  lowercase : Lowercase
  /-- The parent of `current_exe`. -/
  executableDir : Option String
  programFiles : Option String

namespace DriverSystem

variable (system : DriverSystem) (path : String)

/-! ### The code -/

def isZondpiOwnedDriverPath (driverPath : String) : Bool :=
  let lowerPath := system.lowercase.apply driverPath
  if contains "zondpi".toList lowerPath then true
  else if system.executableDir.any fun parent =>
      contains (system.lowercase.apply parent) lowerPath then true
  else system.programFiles.any fun progFiles =>
      contains (system.lowercase.apply progFiles ++ "\\zondpi".toList) lowerPath

/-! ### What it is meant to tell -/

def isSeparator (c : Char) : Bool := c = '\\' || c = '/'

def ntPrefixes : List (List Char) :=
  ["\\??\\".toList, "\\\\?\\".toList, "\\\\.\\".toList]

/-- The text without the prefix of a path of the NT kernel. -/
def withoutNtPrefix (text : List Char) : List Char :=
  match ntPrefixes.find? fun nt => nt.isPrefixOf text with
  | some nt => text.drop nt.length
  | none => text

/-- The components of a path in lower case. -/
def parts (path : String) : List (List Char) :=
  components isSeparator (withoutNtPrefix (system.lowercase.apply path))

/-- One path lies inside a directory. -/
def Below (directory path : List (List Char)) : Prop := directory <+: path ∧ directory ≠ path

instance (directory path : List (List Char)) : Decidable (Below directory path) :=
  inferInstanceAs (Decidable (_ ∧ _))

/-- The path lies inside the directory of the executable or inside `ProgramFiles\ZonDPI`. -/
def LiesInside : Prop :=
  (∃ dir ∈ system.executableDir, Below (system.parts dir) (system.parts path)) ∨
    ∃ progFiles ∈ system.programFiles,
      Below (system.parts progFiles ++ ["zondpi".toList]) (system.parts path)

instance : Decidable (system.LiesInside path) := inferInstanceAs (Decidable (_ ∨ _))

/-- No component of the path has the product's name in it, and the executable's directory
stands nowhere in its text. -/
def Apart : Prop :=
  (∀ component ∈ components isSeparator (system.lowercase.apply path),
      contains "zondpi".toList component = false) ∧
    ∀ dir ∈ system.executableDir,
      contains (system.lowercase.apply dir) (system.lowercase.apply path) = false

/-- A path counts as the product's own only if it lies inside its directories. -/
def OwnedOnlyInside : Prop :=
  system.isZondpiOwnedDriverPath path = true → system.LiesInside path

/-! ### The searches -/

/-- The name stands in the text exactly if it stands in one component. -/
theorem name_iff_component (text : List Char) :
    contains "zondpi".toList text = true ↔
      ∃ component ∈ components isSeparator text, contains "zondpi".toList component = true := by
  have whole : ("zondpi".toList.all fun c => !isSeparator c) = true := rfl
  have solid : Solid isSeparator "zondpi".toList := fun c member => by
    simpa using List.all_eq_true.mp whole c member
  simp only [contains_iff_within]
  exact infix_iff_component (by decide) solid

/-- A text with the name at its end is not found where the name is not. -/
theorem name_of_contains {front text : List Char}
    (found : contains (front ++ "\\zondpi".toList) text = true) :
    contains "zondpi".toList text = true := by
  rw [contains_iff_within] at found ⊢
  have within : "zondpi".toList <:+: front ++ "\\zondpi".toList :=
    ⟨front ++ ['\\'], [], by simp⟩
  exact within.trans found

/-- The third search finds nothing that the first has not found. -/
theorem owned_iff :
    system.isZondpiOwnedDriverPath path = true ↔
      contains "zondpi".toList (system.lowercase.apply path) = true ∨
        ∃ dir ∈ system.executableDir,
          contains (system.lowercase.apply dir) (system.lowercase.apply path) = true := by
  unfold isZondpiOwnedDriverPath
  dsimp only
  by_cases name : contains "zondpi".toList (system.lowercase.apply path) = true
  · rw [if_pos name]
    exact iff_of_true rfl (.inl name)
  · rw [if_neg name]
    by_cases parent : ∃ dir ∈ system.executableDir,
        contains (system.lowercase.apply dir) (system.lowercase.apply path) = true
    · rw [if_pos ((Option.any_eq_true _ _).mpr parent)]
      exact iff_of_true rfl (.inr parent)
    · rw [if_neg (mt (Option.any_eq_true _ _).mp parent)]
      refine iff_of_false ?_ (not_or_intro name parent)
      rw [Option.any_eq_true]
      rintro ⟨progFiles, _, found⟩
      exact name (name_of_contains found)

theorem not_owned_iff : system.isZondpiOwnedDriverPath path = false ↔ system.Apart path := by
  rw [← Bool.not_eq_true, owned_iff, name_iff_component, Apart]
  simp only [not_or, not_exists, not_and, Bool.not_eq_true]

theorem owned_only_inside_iff :
    system.OwnedOnlyInside path ↔ system.LiesInside path ∨ system.Apart path := by
  unfold OwnedOnlyInside
  rw [← not_owned_iff]
  cases system.isZondpiOwnedDriverPath path <;> simp

end DriverSystem

end ZonDpi.Scm
