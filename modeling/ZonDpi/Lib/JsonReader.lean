import Mathlib.Data.List.Basic
import Mathlib.Data.Nat.Notation
import Mathlib.Data.Option.Basic

/-!
Reading JSON texts, one character after the other.

The reader is a stack machine: its mode says what may come next, and the stack holds the
arrays and objects that are still open. `Doc.read` runs it over a text. A document keeps
what a typed deserializer may ask for: of a number that is not a natural one only that it
is a number, and of a string whether its escapes name characters at all. The fields of an
object stand in their order, repeated names included.

The first character of a text decides what kind of document it is (`read_kind`): the frame
at the bottom of the stack stays there until the end (`Under.step`).
-/

namespace Json

inductive Doc where
  | null
  | bool (value : Bool)
  | natural (value : ℕ)
  | otherNumber
  | string (text : Option String)
  | array (items : List Doc)
  | object (fields : List (Option String × Doc))

/-! ### Strings -/

inductive Piece where
  | char (c : Char)
  /-- `\u` and four digits -/
  | unit (n : ℕ)

def isHighSurrogate (n : ℕ) : Bool := 0xD800 ≤ n && n ≤ 0xDBFF

def isLowSurrogate (n : ℕ) : Bool := 0xDC00 ≤ n && n ≤ 0xDFFF

/-- The characters of a literal. A surrogate needs its partner. -/
def decode : List Piece → Option (List Char)
  | [] => some []
  | .char c :: rest => (decode rest).map (c :: ·)
  | .unit high :: .unit low :: rest =>
      if isHighSurrogate high && isLowSurrogate low then
        (decode rest).map (Char.ofNat (0x10000 + (high - 0xD800) * 0x400 + (low - 0xDC00)) :: ·)
      else if isHighSurrogate high || isLowSurrogate high then none
      else (decode (.unit low :: rest)).map (Char.ofNat high :: ·)
  | .unit n :: rest =>
      if isHighSurrogate n || isLowSurrogate n then none
      else (decode rest).map (Char.ofNat n :: ·)

def unescape (c : Char) : Option Char :=
  if c = '"' then some '"'
  else if c = '\\' then some '\\'
  else if c = '/' then some '/'
  else if c = 'b' then some '\x08'
  else if c = 'f' then some '\x0c'
  else if c = 'n' then some '\n'
  else if c = 'r' then some '\r'
  else if c = 't' then some '\t'
  else none

def hexValue (c : Char) : Option ℕ :=
  if '0' ≤ c ∧ c ≤ '9' then some (c.toNat - '0'.toNat)
  else if 'a' ≤ c ∧ c ≤ 'f' then some (c.toNat - 'a'.toNat + 10)
  else if 'A' ≤ c ∧ c ≤ 'F' then some (c.toNat - 'A'.toNat + 10)
  else none

/-! ### Numbers and names -/

def dropDigits (text : List Char) : List Char := text.dropWhile Char.isDigit

/-- Behind the digits before the point, which have no leading zero. -/
def integerPart : List Char → Option (List Char)
  | '0' :: rest => some rest
  | c :: rest => if c.isDigit then some (dropDigits rest) else none
  | [] => none

def digitsPart : List Char → Option (List Char)
  | c :: rest => if c.isDigit then some (dropDigits rest) else none
  | [] => none

def fractionPart : List Char → Option (List Char)
  | '.' :: rest => digitsPart rest
  | rest => some rest

def exponentPart : List Char → Option (List Char)
  | c :: rest =>
      if c = 'e' ∨ c = 'E' then
        match rest with
        | sign :: digits => digitsPart (if sign = '+' ∨ sign = '-' then digits else sign :: digits)
        | [] => none
      else some (c :: rest)
  | [] => some []

def decimal (digits : List Char) : ℕ :=
  digits.foldl (fun value c => value * 10 + (c.toNat - '0'.toNat)) 0

def numberDoc (word : List Char) : Option Doc := do
  let negative := word.head? = some '-'
  let digits := if negative then word.tail else word
  let behind ← integerPart digits
  let rest ← fractionPart behind >>= exponentPart
  guard (rest = [])
  return if negative ∨ behind ≠ [] then .otherNumber else .natural (decimal digits)

def wordDoc (word : List Char) : Option Doc :=
  if word = "null".toList then some .null
  else if word = "true".toList then some (.bool true)
  else if word = "false".toList then some (.bool false)
  else numberDoc word

/-! ### The machine -/

inductive Escape where
  | none
  | backslash
  /-- the value so far, and how many digits are missing -/
  | hex (value left : ℕ)

inductive Mode where
  | value
  /-- a value or the end of the array -/
  | firstItem
  /-- a name or the end of the object -/
  | firstKey
  | key
  | colon
  /-- behind a value in an array or object -/
  | behind
  | text (isKey : Bool) (pieces : List Piece) (escape : Escape)
  | word (chars : List Char)
  | done (doc : Doc)

/-- What is open, with what it holds so far in reverse; an object with the name of the
value that is awaited. -/
inductive Frame where
  | items (before : List Doc)
  | fields (before : List (Option String × Doc)) (key : Option String)

structure Machine where
  mode : Mode
  stack : List Frame

namespace Machine

def start : Machine := ⟨.value, []⟩

def complete (doc : Doc) : List Frame → Machine
  | [] => ⟨.done doc, []⟩
  | .items before :: rest => ⟨.behind, .items (doc :: before) :: rest⟩
  | .fields before key :: rest => ⟨.behind, .fields ((key, doc) :: before) key :: rest⟩

def isSpace (c : Char) : Bool := c = ' ' || c = '\n' || c = '\t' || c = '\r'

def beginValue (stack : List Frame) (c : Char) : Machine :=
  if c = '"' then ⟨.text false [] .none, stack⟩
  else if c = '[' then ⟨.firstItem, .items [] :: stack⟩
  else if c = '\x7b' then ⟨.firstKey, .fields [] none :: stack⟩
  else ⟨.word [c], stack⟩

/-- A character behind a value. -/
def afterValue (s : Machine) (c : Char) : Option Machine :=
  if isSpace c then some s
  else
    match s.mode, s.stack with
    | .behind, .items before :: rest =>
        if c = ',' then some ⟨.value, s.stack⟩
        else if c = ']' then some (complete (.array before.reverse) rest)
        else none
    | .behind, .fields before _ :: rest =>
        if c = ',' then some ⟨.key, s.stack⟩
        else if c = '\x7d' then some (complete (.object before.reverse) rest)
        else none
    | _, _ => none

def endText (isKey : Bool) (pieces : List Piece) (stack : List Frame) : Option Machine :=
  let text := (decode pieces.reverse).map String.ofList
  if isKey then
    match stack with
    | .fields before _ :: rest => some ⟨.colon, .fields before text :: rest⟩
    | _ => none
  else some (complete (.string text) stack)

/-- A character inside a string. -/
def textStep (isKey : Bool) (pieces : List Piece) (escape : Escape) (stack : List Frame)
    (c : Char) : Option Machine :=
  match escape with
  | .none =>
      if c = '"' then endText isKey pieces stack
      else if c = '\\' then some ⟨.text isKey pieces .backslash, stack⟩
      else if c.toNat < 0x20 then none
      else some ⟨.text isKey (.char c :: pieces) .none, stack⟩
  | .backslash =>
      if c = 'u' then some ⟨.text isKey pieces (.hex 0 4), stack⟩
      else (unescape c).map fun meant => ⟨.text isKey (.char meant :: pieces) .none, stack⟩
  | .hex value left =>
      (hexValue c).map fun digit =>
        if left ≤ 1 then ⟨.text isKey (.unit (value * 16 + digit) :: pieces) .none, stack⟩
        else ⟨.text isKey pieces (.hex (value * 16 + digit) (left - 1)), stack⟩

def step (s : Machine) (c : Char) : Option Machine :=
  match s.mode with
  | .value => if isSpace c then some s else some (beginValue s.stack c)
  | .firstItem =>
      if isSpace c then some s
      else if c = ']' then
        match s.stack with
        | .items _ :: rest => some (complete (.array []) rest)
        | _ => none
      else some (beginValue s.stack c)
  | .firstKey =>
      if isSpace c then some s
      else if c = '\x7d' then
        match s.stack with
        | .fields _ _ :: rest => some (complete (.object []) rest)
        | _ => none
      else if c = '"' then some ⟨.text true [] .none, s.stack⟩
      else none
  | .key =>
      if isSpace c then some s
      else if c = '"' then some ⟨.text true [] .none, s.stack⟩
      else none
  | .colon => if isSpace c then some s else if c = ':' then some ⟨.value, s.stack⟩ else none
  | .behind => afterValue s c
  | .text isKey pieces escape => textStep isKey pieces escape s.stack c
  | .word chars =>
      -- a name or a number is only known to be over at what follows it
      if isSpace c || c = ',' || c = ']' || c = '\x7d' then do
        let doc ← wordDoc chars.reverse
        afterValue (complete doc s.stack) c
      else some ⟨.word (c :: chars), s.stack⟩
  | .done _ => afterValue s c

def finish (s : Machine) : Option Doc :=
  match s.mode, s.stack with
  | .done doc, _ => some doc
  | .word chars, [] => wordDoc chars.reverse
  | _, _ => none

end Machine

def Doc.read (text : List Char) : Option Doc :=
  text.foldlM Machine.step .start >>= Machine.finish

/-! ### The kind of a document -/

inductive Kind where
  | scalar
  | array
  | object
deriving DecidableEq, Repr

def Doc.kind : Doc → Kind
  | .array _ => .array
  | .object _ => .object
  | _ => .scalar

def Frame.kind : Frame → Kind
  | .items _ => .array
  | .fields _ _ => .object

theorem numberDoc_kind {word : List Char} {doc : Doc} (read : numberDoc word = some doc) :
    doc.kind = .scalar := by
  simp only [numberDoc, Option.bind_eq_bind, Option.bind_eq_some_iff] at read
  obtain ⟨behind, -, rest, -, -, -, made⟩ := read
  split_ifs at made <;> cases made <;> rfl

theorem wordDoc_kind {word : List Char} {doc : Doc} (read : wordDoc word = some doc) :
    doc.kind = .scalar := by
  unfold wordDoc at read
  split_ifs at read
  iterate 3
    · cases read
      rfl
  · exact numberDoc_kind read

namespace Machine

/-- The kind of the outermost array or object. -/
def bottom (stack : List Frame) : Option Kind := stack.getLast?.map Frame.kind

/-- The document will be of this kind. -/
def Under (kind : Kind) (s : Machine) : Prop :=
  match s.mode with
  | .done doc => doc.kind = kind
  | .text false _ _ | .word _ => (bottom s.stack).getD .scalar = kind
  | _ => bottom s.stack = some kind

variable {kind : Kind} {s s' : Machine} {c : Char} {doc : Doc} {frame : Frame}
  {stack : List Frame}

theorem bottom_cons : bottom (frame :: stack) = some ((bottom stack).getD frame.kind) := by
  cases stack with
  | nil => rfl
  | cons next rest =>
      rw [bottom, List.getLast?_cons_cons, bottom]
      simp [List.getLast?_cons]

theorem under_complete (kinds : (bottom stack).getD doc.kind = kind) :
    (complete doc stack).Under kind := by
  cases stack with
  | nil => exact kinds
  | cons frame rest =>
      rw [bottom_cons] at kinds
      cases frame with
      | items before =>
          rw [← kinds]
          exact bottom_cons
      | fields before key =>
          rw [← kinds]
          exact bottom_cons

theorem under_beginValue (kinds : bottom stack = some kind) :
    (beginValue stack c).Under kind := by
  unfold beginValue
  split_ifs
  · exact congrArg (·.getD .scalar) kinds
  · simp [Under, bottom_cons, kinds]
  · simp [Under, bottom_cons, kinds]
  · exact congrArg (·.getD .scalar) kinds

theorem Under.afterValue (under : s.Under kind) (moved : s.afterValue c = some s') :
    s'.Under kind := by
  unfold Machine.afterValue at moved
  by_cases space : isSpace c = true
  · rw [if_pos space] at moved
    cases moved
    exact under
  rw [if_neg space] at moved
  split at moved
  · rename_i before rest mode stack
    rw [Under, mode, stack, bottom_cons] at under
    split_ifs at moved <;> cases moved
    · rw [Under, stack, bottom_cons]
      exact under
    · exact under_complete (Option.some.inj under)
  · rename_i before key rest mode stack
    rw [Under, mode, stack, bottom_cons] at under
    split_ifs at moved <;> cases moved
    · rw [Under, stack, bottom_cons]
      exact under
    · exact under_complete (Option.some.inj under)
  · cases moved

theorem under_endText {isKey : Bool} {pieces : List Piece} {escape : Escape}
    (under : (⟨.text isKey pieces escape, stack⟩ : Machine).Under kind)
    (moved : endText isKey pieces stack = some s') : s'.Under kind := by
  unfold endText at moved
  cases isKey with
  | false =>
      rw [if_neg Bool.false_ne_true] at moved
      cases moved
      exact under_complete under
  | true =>
      rw [if_pos rfl] at moved
      split at moved
      · cases moved
        rw [Under, bottom_cons]
        rw [Under, bottom_cons] at under
        exact under
      · cases moved

/-- Inside a string only its end changes anything. -/
theorem under_text {isKey : Bool} {pieces pieces' : List Piece} {escape escape' : Escape}
    (under : (⟨.text isKey pieces escape, stack⟩ : Machine).Under kind) :
    (⟨.text isKey pieces' escape', stack⟩ : Machine).Under kind := by
  cases isKey <;> exact under

theorem under_textStep {isKey : Bool} {pieces : List Piece} {escape : Escape}
    (under : (⟨.text isKey pieces escape, stack⟩ : Machine).Under kind)
    (moved : textStep isKey pieces escape stack c = some s') : s'.Under kind := by
  cases escape with
  | none =>
      rw [textStep] at moved
      split_ifs at moved
      · exact under_endText under moved
      · cases moved
        exact under_text under
      · cases moved
        exact under_text under
  | backslash =>
      rw [textStep] at moved
      split_ifs at moved
      · cases moved
        exact under_text under
      · obtain ⟨meant, -, rfl⟩ := Option.map_eq_some_iff.mp moved
        exact under_text under
  | hex value left =>
      rw [textStep] at moved
      obtain ⟨digit, -, rfl⟩ := Option.map_eq_some_iff.mp moved
      split_ifs <;> exact under_text under

/-- One character changes nothing about the kind. -/
theorem Under.step (under : s.Under kind) (moved : s.step c = some s') : s'.Under kind := by
  obtain ⟨mode, stack⟩ := s
  cases mode with
  | value =>
      simp only [Machine.step] at moved
      split_ifs at moved <;> cases moved
      · exact under
      · exact under_beginValue under
  | firstItem =>
      simp only [Machine.step] at moved
      split_ifs at moved
      · cases moved
        exact under
      · split at moved <;> cases moved
        rw [Under, bottom_cons] at under
        exact under_complete (Option.some.inj under)
      · cases moved
        exact under_beginValue under
  | firstKey =>
      simp only [Machine.step] at moved
      split_ifs at moved
      · cases moved
        exact under
      · split at moved <;> cases moved
        rw [Under, bottom_cons] at under
        exact under_complete (Option.some.inj under)
      · cases moved
        exact under
  | key =>
      simp only [Machine.step] at moved
      split_ifs at moved <;> cases moved <;> exact under
  | colon =>
      simp only [Machine.step] at moved
      split_ifs at moved <;> cases moved <;> exact under
  | behind => exact under.afterValue moved
  | text isKey pieces escape => exact under_textStep under moved
  | word chars =>
      simp only [Machine.step] at moved
      split_ifs at moved
      · obtain ⟨doc, word, moved⟩ := Option.bind_eq_some_iff.mp moved
        refine (under_complete ?_).afterValue moved
        rw [wordDoc_kind word]
        exact under
      · cases moved
        exact under
  | done doc => exact under.afterValue moved

theorem Under.run {text : List Char} (under : s.Under kind)
    (moved : text.foldlM Machine.step s = some s') : s'.Under kind := by
  induction text generalizing s with
  | nil =>
      cases moved
      exact under
  | cons c text ih =>
      rw [List.foldlM_cons] at moved
      obtain ⟨next, first, rest⟩ := Option.bind_eq_some_iff.mp moved
      exact ih (under.step first) rest

theorem Under.finish (under : s.Under kind) (ended : s.finish = some doc) : doc.kind = kind := by
  unfold Machine.finish at ended
  unfold Under at under
  split at ended
  · rename_i mode
    rw [mode] at under
    cases ended
    exact under
  · rename_i mode stack
    rw [mode, stack] at under
    rw [wordDoc_kind ended]
    exact under
  · cases ended

end Machine

/-- The first character decides about the kind. -/
theorem read_kind {c : Char} {text : List Char} {doc : Doc} (read : Doc.read (c :: text) = some doc)
    (black : Machine.isSpace c = false) :
    doc.kind = if c = '[' then .array else if c = '{' then .object else .scalar := by
  obtain ⟨s, run, ended⟩ := Option.bind_eq_some_iff.mp read
  rw [List.foldlM_cons] at run
  obtain ⟨first, begun, rest⟩ := Option.bind_eq_some_iff.mp run
  have under : first.Under
      (if c = '[' then .array else if c = '{' then .object else .scalar) := by
    rw [Machine.step, Machine.start] at begun
    simp only [black, Bool.false_eq_true, if_false, Option.some.injEq] at begun
    rw [← begun, Machine.beginValue]
    by_cases quote : c = '"'
    · subst quote
      rfl
    · rw [if_neg quote]
      split_ifs <;> rfl
  exact (under.run rest).finish ended

end Json
