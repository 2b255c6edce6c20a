import Mathlib.Data.List.DropRight
import ZonDpi.Engine.Types
import ZonDpi.Std.Serde

/-!
# The detection of security products (`security_detector.rs`)

`detect_windows` runs a PowerShell script and reads the products from the JSON it prints.
An output that cannot be read counts as an empty list, with the status `Available`, and so
does an array in which one entry cannot be read. `listed` says which products an output
lists, if it is one that the script is meant to print; for those, and for the error
messages of the script, the detection reports what it should (`detection_sound_iff`).
-/

namespace ZonDpi.Engine

open Json ZonDpi.Std

/-! ### The code -/

/-- `RawWmiProduct` -/
structure RawWmiProduct where
  displayName : Option String
  productState : Option Nat
  pathToSignedProductExe : Option String
  pathToSignedReportingExe : Option String
deriving DecidableEq, Repr

namespace RawWmiProduct

def fromDoc (doc : Doc) : Option RawWmiProduct :=
  match Serde.members ["displayName", "productState", "pathToSignedProductExe",
      "pathToSignedReportingExe"] doc with
  | some [displayName, productState, productExe, reportingExe] => do
      let displayName ← Serde.optional Serde.string displayName
      let productState ← Serde.optional (Serde.unsigned u32Max) productState
      let productExe ← Serde.optional Serde.string productExe
      let reportingExe ← Serde.optional Serde.string reportingExe
      return ⟨displayName, productState, productExe, reportingExe⟩
  | _ => none

def toProduct (raw : RawWmiProduct) : SecurityProduct where
  displayName := raw.displayName.getD ""
  productState := raw.productState.getD 0
  pathToSignedProductExe := raw.pathToSignedProductExe.filter (· ≠ "")
  pathToSignedReportingExe := raw.pathToSignedReportingExe.filter (· ≠ "")

end RawWmiProduct

/-- How the PowerShell process ended. -/
inductive ProbeOutcome where
  | notExecuted (error : String)
  | failed (stderr : String)
  | success (stdout : String)
deriving DecidableEq, Repr

/-- `trim_start_matches`, which removes the text as often as it stands there. -/
def trimStartMatches (pattern : List Char) : Nat → List Char → List Char
  | 0, text => text
  | fuel + 1, text =>
      if pattern.isPrefixOf text then trimStartMatches pattern fuel (text.drop pattern.length)
      else text

namespace SecurityEnvironment

def failed (error : String) : SecurityEnvironment := ⟨[], .failed error⟩

end SecurityEnvironment

/-- `raw_items` -/
def rawItems (stdout : List Char) : List RawWmiProduct :=
  if stdout.head? = some '[' then
    (Doc.read stdout >>= Serde.vec RawWmiProduct.fromDoc).getD []
  else
    match Doc.read stdout >>= RawWmiProduct.fromDoc with
    | some single => [single]
    | none => []

def detectWindows : ProbeOutcome → SecurityEnvironment
  | .notExecuted error => .failed s!"Failed to execute detection probe: {error}"
  | .failed stderr => .failed s!"Detector query failed with exit code: {debugString stderr}"
  | .success output =>
      let stdout := trim output
      if "ERROR:".toList.isPrefixOf stdout then
        .failed (String.ofList (trimStartMatches "ERROR:".toList stdout.length stdout))
      else if stdout = [] ∨ stdout = "null".toList then ⟨[], .available⟩
      else ⟨(rawItems stdout).map RawWmiProduct.toProduct, .available⟩

/-! ### What the output lists -/

/-- The product of a JSON object. -/
def objectProduct : Doc → Option SecurityProduct
  | .object fields => (RawWmiProduct.fromDoc (.object fields)).map RawWmiProduct.toProduct
  | _ => none

/-- The products of an output that is empty, `null`, a product or an array of products. -/
def listed (stdout : List Char) : Option (List SecurityProduct) :=
  if stdout = [] ∨ stdout = "null".toList then some []
  else
    match Doc.read stdout with
    | some (.array items) => items.mapM objectProduct
    | some doc => (objectProduct doc).map ([·])
    | none => none

variable {stdout : List Char} {products : List SecurityProduct}

/-! ### Both readings -/

theorem mapM_objectProduct {items : List Doc} (all : items.mapM objectProduct = some products) :
    ∃ raws, items.mapM RawWmiProduct.fromDoc = some raws ∧
      raws.map RawWmiProduct.toProduct = products := by
  induction items generalizing products with
  | nil =>
      cases all
      exact ⟨[], rfl, rfl⟩
  | cons doc items ih =>
      simp only [List.mapM_cons, Option.bind_eq_bind, Option.bind_eq_some_iff] at all ⊢
      obtain ⟨product, first, others, rest, made⟩ := all
      cases made
      obtain ⟨raws, read, same⟩ := ih rest
      cases doc with
      | object fields =>
          obtain ⟨raw, found, rfl⟩ := Option.map_eq_some_iff.mp first
          exact ⟨raw :: raws, ⟨raw, found, raws, read, rfl⟩, by simp [same]⟩
      | _ => cases first

theorem space_of_isSpace {c : Char} (space : Machine.isSpace c = true) : isWhitespace c = true := by
  simp only [Machine.isSpace, Bool.or_eq_true, decide_eq_true_eq] at space
  rcases space with ((rfl | rfl) | rfl) | rfl <;> decide

theorem head_trim {s : String} {c : Char} {text : List Char} (trimmed : trim s = c :: text) :
    Machine.isSpace c = false := by
  have start := List.head?_dropWhile_not isWhitespace s.toList
  obtain ⟨rest, split⟩ := List.rdropWhile_prefix isWhitespace (s.toList.dropWhile isWhitespace)
  rw [show List.rdropWhile isWhitespace (s.toList.dropWhile isWhitespace) = trim s from rfl,
    trimmed] at split
  rw [← split] at start
  cases space : Machine.isSpace c with
  | false => rfl
  | true => exact absurd (space_of_isSpace space) (by simpa using start)

/-- An output that lists products is read as it should be. -/
theorem rawItems_of_listed {c : Char} {text : List Char} (black : Machine.isSpace c = false)
    (other : c :: text ≠ "null".toList) (lists : listed (c :: text) = some products) :
    (rawItems (c :: text)).map RawWmiProduct.toProduct = products := by
  have present : ¬ (c :: text = [] ∨ c :: text = "null".toList) := by
    rintro (empty | null)
    · cases empty
    · exact other null
  rw [listed, if_neg present] at lists
  unfold rawItems
  cases read : Doc.read (c :: text) with
  | none =>
      rw [read] at lists
      cases lists
  | some doc =>
      rw [read] at lists
      have kind := read_kind read black
      cases doc with
      | array items =>
          have bracket : c = '[' := by
            by_contra no
            rw [if_neg no] at kind
            split_ifs at kind <;> cases kind
          obtain ⟨raws, all, same⟩ := mapM_objectProduct lists
          rw [if_pos (by rw [List.head?_cons, bracket])]
          simp [Serde.vec, all, same]
      | object fields =>
          have noBracket : c ≠ '[' := by
            rintro rfl
            cases kind
          rw [if_neg (by simpa using noBracket)]
          obtain ⟨product, found, rfl⟩ := Option.map_eq_some_iff.mp lists
          obtain ⟨raw, parsed, rfl⟩ := Option.map_eq_some_iff.mp found
          simp [parsed]
      | _ => cases lists

/-! ### The result -/

/-- The status is `Available` only for an output that lists products, and then they are
these, and it is `Failed` for every other output. -/
def DetectionSound (output : String) : Prop :=
  ((detectWindows (.success output)).detectionStatus = .available →
      listed (trim output) = some (detectWindows (.success output)).products) ∧
    (listed (trim output) = none →
      ∃ message, (detectWindows (.success output)).detectionStatus = .failed message)

theorem detection_sound_iff (output : String) :
    DetectionSound output ↔
      (listed (trim output)).isSome = true ∨ "ERROR:".toList.isPrefixOf (trim output) = true := by
  unfold DetectionSound detectWindows
  dsimp only
  by_cases error : "ERROR:".toList.isPrefixOf (trim output) = true
  · rw [if_pos error]
    exact iff_of_true ⟨nofun, fun _ => ⟨_, rfl⟩⟩ (.inr error)
  · rw [if_neg error]
    simp only [error, Bool.false_eq_true, or_false]
    by_cases absent : trim output = [] ∨ trim output = "null".toList
    · rw [if_pos absent]
      have empty : listed (trim output) = some [] := if_pos absent
      simp [empty]
    · rw [if_neg absent]
      constructor
      · rintro ⟨products, _⟩
        rw [products rfl]
        rfl
      · intro lists
        obtain ⟨products, lists⟩ := Option.isSome_iff_exists.mp lists
        rw [not_or] at absent
        obtain ⟨c, text, trimmed⟩ := List.exists_cons_of_ne_nil absent.1
        rw [trimmed] at lists absent ⊢
        refine ⟨fun _ => ?_, fun none => ?_⟩
        · rw [rawItems_of_listed (head_trim trimmed) absent.2 lists, lists]
        · rw [none] at lists
          cases lists

/-- One entry that cannot be read hides a Kaspersky product beside it. -/
theorem detection_drops_kaspersky :
    ¬ DetectionSound "[\x7b\"displayName\":\"Kaspersky\"\x7d,5]" ∧
      detectWindows (.success "[\x7b\"displayName\":\"Kaspersky\"\x7d,5]") = ⟨[], .available⟩ ∧
      listed (trim "\x7b\"displayName\":\"Kaspersky\"\x7d") =
        some [⟨"Kaspersky", 0, none, none⟩] := by
  have detected : detectWindows (.success "[\x7b\"displayName\":\"Kaspersky\"\x7d,5]") =
      ⟨[], .available⟩ := by decide +kernel
  have others : listed (trim "[\x7b\"displayName\":\"Kaspersky\"\x7d,5]") = none := by
    decide +kernel
  refine ⟨?_, detected, by decide +kernel⟩
  rintro ⟨products, _⟩
  have lists := products (by rw [detected])
  rw [others] at lists
  cases lists

end ZonDpi.Engine
