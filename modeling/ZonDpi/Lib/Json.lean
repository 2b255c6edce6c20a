import Mathlib.Algebra.Ring.Nat
import Mathlib.Data.Nat.Notation
import Mathlib.Logic.Basic
import Mathlib.Tactic.SplitIfs

/-!
JSON texts as bytes, without white space, and their sizes.

`render` writes a value; `size` says how many bytes that takes, by arithmetic on the
value alone (`render_length`). An object is the list of its fields in the order in
which they are written. Of the numbers there are only the natural ones.
-/

namespace Json

inductive Value where
  | null
  | bool (value : Bool)
  | number (value : ℕ)
  | string (value : String)
  | array (items : List Value)
  | object (fields : List (String × Value))

def utf8 (s : String) : List UInt8 := s.toList.flatMap String.utf8EncodeChar

/-! ### Strings -/

/-- The escapes of two characters. -/
def shortEscape (c : Char) : Option Char :=
  if c = '"' then some '"'
  else if c = '\\' then some '\\'
  else if c = '\x08' then some 'b'
  else if c = '\x0c' then some 'f'
  else if c = '\n' then some 'n'
  else if c = '\r' then some 'r'
  else if c = '\t' then some 't'
  else none

/-- A character inside quotes. Control characters without a short escape are written
by their number, everything else as it is. -/
def renderChar (c : Char) : List UInt8 :=
  match shortEscape c with
  | some letter => utf8 (String.ofList ['\\', letter])
  | none =>
      if c.toNat < 0x20 then
        utf8 (String.ofList ['\\', 'u', '0', '0', Nat.digitChar (c.toNat / 16),
          Nat.digitChar (c.toNat % 16)])
      else String.utf8EncodeChar c

def charSize (c : Char) : ℕ :=
  if (shortEscape c).isSome then 2 else if c.toNat < 0x20 then 6 else c.utf8Size

def renderString (s : String) : List UInt8 :=
  utf8 "\"" ++ s.toList.flatMap renderChar ++ utf8 "\""

/-- With its quotes. -/
def stringSize (s : String) : ℕ := (s.toList.map charSize).sum + 2

theorem shortEscape_eq {c letter : Char} (short : shortEscape c = some letter) :
    (utf8 (String.ofList ['\\', letter])).length = 2 := by
  unfold shortEscape at short
  split_ifs at short <;> cases short <;> rfl

theorem digitChar_size : ∀ n, n < 16 → (Nat.digitChar n).utf8Size = 1 := by
  decide

theorem renderChar_length (c : Char) : (renderChar c).length = charSize c := by
  unfold renderChar charSize
  cases short : shortEscape c with
  | some letter => exact shortEscape_eq short
  | none =>
      simp only [Option.isSome_none, Bool.false_eq_true, if_false]
      split
      · rename_i control
        simp [utf8, String.length_utf8EncodeChar, digitChar_size _ (Nat.mod_lt _ (by decide)),
          digitChar_size (c.toNat / 16) (by omega)]
        decide
      · exact String.length_utf8EncodeChar c

theorem renderString_length (s : String) : (renderString s).length = stringSize s := by
  have chars : (s.toList.flatMap renderChar).length = (s.toList.map charSize).sum := by
    rw [List.length_flatMap]
    simp only [renderChar_length]
  have quote : (utf8 "\"").length = 1 := by decide
  rw [renderString, stringSize, List.length_append, List.length_append, chars, quote]
  omega

/-! ### Values -/

def renderNumber (n : ℕ) : List UInt8 := utf8 (toString n)

def numberSize (n : ℕ) : ℕ := (renderNumber n).length

mutual

def render : Value → List UInt8
  | .null => utf8 "null"
  | .bool true => utf8 "true"
  | .bool false => utf8 "false"
  | .number n => renderNumber n
  | .string s => renderString s
  | .array items => utf8 "[" ++ renderItems items ++ utf8 "]"
  | .object fields => utf8 "\x7b" ++ renderFields fields ++ utf8 "\x7d"

def renderItems : List Value → List UInt8
  | [] => []
  | [v] => render v
  | v :: next :: rest => render v ++ utf8 "," ++ renderItems (next :: rest)

def renderFields : List (String × Value) → List UInt8
  | [] => []
  | [(name, v)] => renderString name ++ utf8 ":" ++ render v
  | (name, v) :: next :: rest =>
      renderString name ++ utf8 ":" ++ render v ++ utf8 "," ++ renderFields (next :: rest)

end

mutual

def size : Value → ℕ
  | .null => 4
  | .bool true => 4
  | .bool false => 5
  | .number n => numberSize n
  | .string s => stringSize s
  | .array items => sizeItems items + 2
  | .object fields => sizeFields fields + 2

def sizeItems : List Value → ℕ
  | [] => 0
  | [v] => size v
  | v :: next :: rest => size v + 1 + sizeItems (next :: rest)

def sizeFields : List (String × Value) → ℕ
  | [] => 0
  | [(name, v)] => stringSize name + 1 + size v
  | (name, v) :: next :: rest => stringSize name + 1 + size v + 1 + sizeFields (next :: rest)

end

mutual

theorem render_length (v : Value) : (render v).length = size v := by
  cases v with
  | null => rfl
  | bool b => cases b <;> rfl
  | number n => rfl
  | string s => exact renderString_length s
  | array items =>
      have brackets : (utf8 "[").length = 1 ∧ (utf8 "]").length = 1 := by decide
      rw [render, size, List.length_append, List.length_append, renderItems_length items,
        brackets.1, brackets.2]
      omega
  | object fields =>
      have braces : (utf8 "\x7b").length = 1 ∧ (utf8 "\x7d").length = 1 := by decide
      rw [render, size, List.length_append, List.length_append, renderFields_length fields,
        braces.1, braces.2]
      omega

theorem renderItems_length (items : List Value) : (renderItems items).length = sizeItems items := by
  match items with
  | [] => rfl
  | [v] => exact render_length v
  | v :: next :: rest =>
      have comma : (utf8 ",").length = 1 := by decide
      rw [renderItems, sizeItems, List.length_append, List.length_append, render_length v, comma,
        renderItems_length (next :: rest)]

theorem renderFields_length (fields : List (String × Value)) :
    (renderFields fields).length = sizeFields fields := by
  have colon : (utf8 ":").length = 1 := by decide
  match fields with
  | [] => rfl
  | [(name, v)] =>
      rw [renderFields, sizeFields, List.length_append, List.length_append,
        renderString_length name, render_length v, colon]
  | (name, v) :: next :: rest =>
      have comma : (utf8 ",").length = 1 := by decide
      rw [renderFields, sizeFields, List.length_append, List.length_append, List.length_append,
        List.length_append, renderString_length name, render_length v, colon, comma,
        renderFields_length (next :: rest)]

end

end Json
