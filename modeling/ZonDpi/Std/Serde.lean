import ZonDpi.Lib.JsonReader
import ZonDpi.Std.Text

/-!
What `serde_json::from_str` makes of a text, for the types that derive `Deserialize` in the
service. Why a text is refused is not kept.
-/

namespace ZonDpi.Std.Serde

open Json

/-- The fields of a structure: from an object, in which no name may be repeated and other
names are passed over, or from an array with one value for each field. -/
def members (names : List String) : Doc → Option (List (Option Doc))
  | .object fields =>
      if fields.all (fun field => field.1.isSome) &&
          names.all (fun name => (fields.filter fun field => field.1 = some name).length ≤ 1) then
        some (names.map fun name =>
          (fields.find? fun field => field.1 = some name).map Prod.snd)
      else none
  | .array items => if items.length = names.length then some (items.map some) else none
  | _ => none

def string : Doc → Option String
  | .string text => text
  | _ => none

def unsigned (maximum : Nat) : Doc → Option Nat
  | .natural n => if n ≤ maximum then some n else none
  | _ => none

def vec {α : Type} (decode : Doc → Option α) : Doc → Option (List α)
  | .array items => items.mapM decode
  | _ => none

/-- A field of another type than `Option`. -/
def required {α : Type} (decode : Doc → Option α) (field : Option Doc) : Option α :=
  field.bind decode

/-- A field of type `Option`, which may be missing. -/
def optional {α : Type} (decode : Doc → Option α) : Option Doc → Option (Option α)
  | none | some .null => some none
  | some doc => (decode doc).map some

def fromStr {α : Type} (decode : Doc → Option α) (text : String) : Option α :=
  Doc.read text.toList >>= decode

end ZonDpi.Std.Serde
