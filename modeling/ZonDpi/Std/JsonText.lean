import ZonDpi.Lib.Json
import ZonDpi.Lib.JsonReader
import ZonDpi.Std.Strtol

/-!
The JSON that is written is the JSON that is read.

`render` writes bytes and `Doc.read` reads characters. `readBytes` puts the two together, as
`serde_json::from_slice` does, and gives every rendered value back (`readBytes_render`). The
reader does not know that a number or a name is over before it sees what follows, so the
lemma about a value says where the machine stands behind it (`Behind`): either the value is
complete, or a word is still open that will be the value.
-/

namespace Json

/-! ### The characters of a text -/

def escaped (c : Char) : List Char :=
  match shortEscape c with
  | some letter => ['\\', letter]
  | none =>
      if c.toNat < 0x20 then
        ['\\', 'u', '0', '0', Nat.digitChar (c.toNat / 16), Nat.digitChar (c.toNat % 16)]
      else [c]

def quoted (s : String) : List Char := '"' :: (s.toList.flatMap escaped ++ ['"'])

mutual

def chars : Value → List Char
  | .null => "null".toList
  | .bool true => "true".toList
  | .bool false => "false".toList
  | .number n => Nat.toDigits 10 n
  | .string s => quoted s
  | .array items => '[' :: (charsItems items ++ [']'])
  | .object fields => '\x7b' :: (charsFields fields ++ ['\x7d'])

def charsItems : List Value → List Char
  | [] => []
  | [v] => chars v
  | v :: next :: rest => chars v ++ ',' :: charsItems (next :: rest)

def charsFields : List (String × Value) → List Char
  | [] => []
  | [(name, v)] => quoted name ++ ':' :: chars v
  | (name, v) :: next :: rest =>
      quoted name ++ ':' :: (chars v ++ ',' :: charsFields (next :: rest))

end

def encode (text : List Char) : List UInt8 := text.flatMap String.utf8EncodeChar

theorem encode_append (front back : List Char) :
    encode (front ++ back) = encode front ++ encode back :=
  List.flatMap_append

theorem encode_cons (c : Char) (text : List Char) :
    encode (c :: text) = String.utf8EncodeChar c ++ encode text :=
  rfl

theorem renderChar_eq (c : Char) : renderChar c = encode (escaped c) := by
  unfold renderChar escaped
  cases shortEscape c with
  | some letter => simp [utf8, encode]
  | none =>
      dsimp only
      split
      · simp [utf8, encode]
      · simp [encode]

theorem renderString_eq (s : String) : renderString s = encode (quoted s) := by
  have inside : s.toList.flatMap renderChar = encode (s.toList.flatMap escaped) := by
    rw [encode, List.flatMap_assoc]
    exact List.flatMap_congr fun c _ => renderChar_eq c
  have quote : utf8 "\"" = String.utf8EncodeChar '"' := rfl
  rw [renderString, quoted, encode_cons, encode_append, inside, quote, List.append_assoc]
  rfl

mutual

theorem render_eq (v : Value) : render v = encode (chars v) := by
  cases v with
  | null => rfl
  | bool b => cases b <;> rfl
  | number n =>
      rw [render, renderNumber, utf8, chars, Nat.toString_eq_repr, Nat.toList_repr, encode]
  | string s => exact renderString_eq s
  | array items =>
      rw [render, chars, encode_cons, encode_append, ← renderItems_eq items, List.append_assoc]
      rfl
  | object fields =>
      rw [render, chars, encode_cons, encode_append, ← renderFields_eq fields, List.append_assoc]
      rfl

theorem renderItems_eq (items : List Value) : renderItems items = encode (charsItems items) := by
  match items with
  | [] => rfl
  | [v] => exact render_eq v
  | v :: next :: rest =>
      rw [renderItems, charsItems, encode_append, encode_cons, ← render_eq v,
        ← renderItems_eq (next :: rest), List.append_assoc]
      rfl

theorem renderFields_eq (fields : List (String × Value)) :
    renderFields fields = encode (charsFields fields) := by
  match fields with
  | [] => rfl
  | [(name, v)] =>
      rw [renderFields, charsFields, encode_append, encode_cons, ← render_eq v,
        ← renderString_eq name, List.append_assoc]
      rfl
  | (name, v) :: next :: rest =>
      rw [renderFields, charsFields, encode_append, encode_cons, encode_append, encode_cons,
        ← render_eq v, ← renderString_eq name, ← renderFields_eq (next :: rest)]
      simp only [List.append_assoc]
      rfl

end

/-! ### Documents -/

mutual

def Value.toDoc : Value → Doc
  | .null => .null
  | .bool value => .bool value
  | .number n => .natural n
  | .string s => .string (some s)
  | .array items => .array (toDocs items)
  | .object fields => .object (toDocFields fields)

def toDocs : List Value → List Doc
  | [] => []
  | v :: rest => v.toDoc :: toDocs rest

def toDocFields : List (String × Value) → List (Option String × Doc)
  | [] => []
  | (name, v) :: rest => (some name, v.toDoc) :: toDocFields rest

end

/-! ### Strings -/

/-- What the reader keeps of a character that was written. -/
def piece (c : Char) : Piece :=
  if (shortEscape c).isNone ∧ c.toNat < 0x20 then .unit c.toNat else .char c

theorem decode_pieces (text : List Char) : decode (text.map piece) = some text := by
  induction text with
  | nil => rfl
  | cons c text ih =>
      rw [List.map_cons]
      by_cases control : (shortEscape c).isNone ∧ c.toNat < 0x20
      · have plain : (isHighSurrogate c.toNat || isLowSurrogate c.toNat) = false := by
          simp only [isHighSurrogate, isLowSurrogate, Bool.or_eq_false_iff, Bool.and_eq_false_iff,
            decide_eq_false_iff_not]
          omega
        have high : isHighSurrogate c.toNat = false := (Bool.or_eq_false_iff.mp plain).1
        rw [piece, if_pos control]
        unfold decode
        split
        · rename_i same
          cases same
        · rename_i same
          cases same
        · rename_i number low rest same
          obtain ⟨first, later⟩ := List.cons.inj same
          cases first
          rw [plain, high, Bool.false_and, if_neg Bool.false_ne_true, if_neg Bool.false_ne_true,
            ← later, ih, Option.map_some, Char.ofNat_toNat]
        · rename_i number rest _ same
          obtain ⟨first, later⟩ := List.cons.inj same
          cases first
          rw [plain, if_neg Bool.false_ne_true, ← later, ih, Option.map_some, Char.ofNat_toNat]
      · rw [piece, if_neg control, decode, ih, Option.map_some]

theorem hexValue_digitChar : ∀ n < 16, hexValue (Nat.digitChar n) = some n := by
  decide

namespace Machine

variable {isKey : Bool} {pieces : List Piece} {stack : List Frame}

/-- An escape is read as the character it stands for. -/
theorem run_escaped (c : Char) :
    (escaped c).foldlM step ⟨.text isKey pieces .none, stack⟩ =
      some ⟨.text isKey (piece c :: pieces) .none, stack⟩ := by
  unfold escaped
  cases short : shortEscape c with
  | some letter =>
      have kept : piece c = .char c := by simp [piece, short]
      rw [kept]
      unfold shortEscape at short
      split_ifs at short with h1 h2 h3 h4 h5 h6 h7 <;> cases short <;> subst_vars <;> rfl
  | none =>
      dsimp only
      split
      · rename_i control
        have kept : piece c = .unit c.toNat := by simp [piece, short, control]
        have high := hexValue_digitChar (c.toNat / 16) (by omega)
        have low := hexValue_digitChar (c.toNat % 16) (by omega)
        have value : ((0 * 16 + 0) * 16 + 0) * 16 + c.toNat / 16 = c.toNat / 16 := by omega
        have whole : c.toNat / 16 * 16 + c.toNat % 16 = c.toNat := by omega
        have zero : hexValue '0' = some 0 := by decide
        simp [step, textStep, zero, high, low, kept, whole]
      · rename_i plain
        have kept : piece c = .char c := by simp [piece, plain]
        have quote : c ≠ '"' := by
          rintro rfl
          cases short
        have slash : c ≠ '\\' := by
          rintro rfl
          cases short
        simp [step, textStep, quote, slash, plain, kept]

theorem run_text (text : List Char) :
    (text.flatMap escaped).foldlM step ⟨.text isKey pieces .none, stack⟩ =
      some ⟨.text isKey ((text.map piece).reverse ++ pieces) .none, stack⟩ := by
  induction text generalizing pieces with
  | nil => rfl
  | cons c text ih =>
      rw [List.flatMap_cons, List.foldlM_append, run_escaped]
      simp [ih]

/-- A string behind its first quote. -/
theorem run_quoted (s : String) :
    (s.toList.flatMap escaped ++ ['"']).foldlM step ⟨.text false [] .none, stack⟩ =
      some (complete (.string (some s)) stack) := by
  rw [List.foldlM_append, run_text]
  simp [Machine.step, textStep, endText, decode_pieces]

theorem run_name (s : String) {before : List (Option String × Doc)} {key : Option String} :
    (s.toList.flatMap escaped ++ ['"']).foldlM step
        ⟨.text true [] .none, .fields before key :: stack⟩ =
      some ⟨.colon, .fields before (some s) :: stack⟩ := by
  rw [List.foldlM_append, run_text]
  simp [Machine.step, textStep, endText, decode_pieces]

end Machine

/-! ### Numbers -/

theorem integerPart_toDigits (n : ℕ) : integerPart (Nat.toDigits 10 n) = some [] := by
  by_cases zero : n = 0
  · subst zero
    rfl
  · have digits : ∀ c ∈ Nat.toDigits 10 n, c.isDigit = true :=
      fun c member => Nat.isDigit_of_mem_toDigits (by decide) (by decide) member
    have head := ZonDpi.Std.head_toDigits_ne_zero (Nat.pos_of_ne_zero zero)
    obtain ⟨c, rest, text⟩ := List.exists_cons_of_ne_nil (Nat.toDigits_ne_nil (b := 10) (n := n))
    rw [text] at digits head ⊢
    unfold integerPart
    split
    · rename_i same
      cases same
      exact absurd rfl head
    · rename_i same
      cases same
      rw [if_pos (digits c List.mem_cons_self)]
      exact congrArg some (List.dropWhile_eq_nil_iff.mpr fun d member =>
        digits d (List.mem_cons_of_mem _ member))
    · rename_i same
      cases same

theorem decimal_toDigits (n : ℕ) : decimal (Nat.toDigits 10 n) = n := by
  calc decimal (Nat.toDigits 10 n)
      = Nat.ofDigitChars 10 (Nat.toDigits 10 n) 0 := by
        rw [decimal, Nat.ofDigitChars_eq_foldl]
        simp only [Nat.mul_comm]
    _ = n := Nat.ofDigitChars_toDigits (by decide) (by decide)

/-- A word that begins with a digit is a number. -/
theorem wordDoc_toDigits (n : ℕ) : wordDoc (Nat.toDigits 10 n) = some (.natural n) := by
  have digits : ∀ c ∈ Nat.toDigits 10 n, c.isDigit = true :=
    fun c member => Nat.isDigit_of_mem_toDigits (by decide) (by decide) member
  have other : ∀ word : List Char, (∃ c ∈ word, c.isDigit = false) → Nat.toDigits 10 n ≠ word := by
    rintro word ⟨c, member, letter⟩ rfl
    rw [digits c member] at letter
    cases letter
  have unsigned : (Nat.toDigits 10 n).head? ≠ some '-' := by
    intro head
    exact absurd (digits '-' (List.mem_of_head? head)) (by decide)
  rw [wordDoc, if_neg (other _ ⟨'n', by decide, rfl⟩), if_neg (other _ ⟨'t', by decide, rfl⟩),
    if_neg (other _ ⟨'f', by decide, rfl⟩)]
  simp [numberDoc, unsigned, integerPart_toDigits, fractionPart, exponentPart, decimal_toDigits]

/-! ### Values -/

namespace Machine

/-- The machine behind the text of a document. A number or a name may still go on. -/
def Behind (doc : Doc) (stack : List Frame) (s : Machine) : Prop :=
  s = complete doc stack ∨ ∃ word, s = ⟨.word word, stack⟩ ∧ wordDoc word.reverse = some doc

variable {doc : Doc} {stack : List Frame} {s : Machine} {text : List Char}

/-- What ends a value in an array or object. -/
theorem step_behind (behind : Behind doc stack s) {c : Char}
    (ends : c = ',' ∨ c = ']' ∨ c = '\x7d') : s.step c = (complete doc stack).afterValue c := by
  obtain rfl | ⟨word, rfl, read⟩ := behind
  · cases stack with
    | nil => rfl
    | cons frame rest => cases frame <;> rfl
  · have ended : (isSpace c || c = ',' || c = ']' || c = '\x7d') = true := by
      rcases ends with rfl | rfl | rfl <;> rfl
    simp only [Machine.step, ended, if_true, read, Option.bind_eq_bind, Option.bind_some]

theorem finish_behind (behind : Behind doc [] s) : s.finish = some doc := by
  obtain rfl | ⟨word, rfl, read⟩ := behind
  · rfl
  · exact read

/-- From where a value is awaited, the text leads to the state. -/
def Leads (text : List Char) (stack : List Frame) (s : Machine) : Prop :=
  ∃ c rest, text = c :: rest ∧ isSpace c = false ∧ c ≠ ']' ∧
    rest.foldlM step (beginValue stack c) = some s

theorem Leads.value (leads : Leads text stack s) : text.foldlM step ⟨.value, stack⟩ = some s := by
  obtain ⟨c, rest, rfl, black, -, run⟩ := leads
  simpa [Machine.step, black] using run

theorem Leads.firstItem (leads : Leads text stack s) :
    text.foldlM step ⟨.firstItem, stack⟩ = some s := by
  obtain ⟨c, rest, rfl, black, opens, run⟩ := leads
  simpa [Machine.step, black, opens] using run

theorem Leads.append {more : List Char} {s' : Machine} (leads : Leads text stack s)
    (goes : more.foldlM step s = some s') : Leads (text ++ more) stack s' := by
  obtain ⟨c, rest, rfl, black, opens, run⟩ := leads
  refine ⟨c, rest ++ more, rfl, black, opens, ?_⟩
  rw [List.foldlM_append, run]
  exact goes

def isWordChar (c : Char) : Bool :=
  !(isSpace c || c = ',' || c = ']' || c = '\x7d' || c = '"' || c = '[' || c = '\x7b')

theorem run_word {word : List Char} {before : List Char}
    (inside : ∀ c ∈ word, isWordChar c = true) :
    word.foldlM step ⟨.word before, stack⟩ = some ⟨.word (word.reverse ++ before), stack⟩ := by
  induction word generalizing before with
  | nil => rfl
  | cons c word ih =>
      have goesOn : (isSpace c || c = ',' || c = ']' || c = '\x7d') = false := by
        have first := inside c List.mem_cons_self
        simp only [isWordChar, Bool.not_eq_true', Bool.or_eq_false_iff] at first
        simp [first]
      simp only [List.foldlM_cons, Machine.step, goesOn, Option.bind_eq_bind]
      rw [if_neg Bool.false_ne_true, Option.bind_some,
        ih fun d member => inside d (List.mem_cons_of_mem _ member)]
      simp

theorem leads_word (word : List Char) (some : word ≠ []) (read : wordDoc word = .some doc)
    (inside : ∀ c ∈ word, isWordChar c = true) : ∃ s, Leads word stack s ∧ Behind doc stack s := by
  obtain ⟨c, rest, rfl⟩ := List.exists_cons_of_ne_nil some
  have first := inside c List.mem_cons_self
  simp only [isWordChar, Bool.not_eq_true', Bool.or_eq_false_iff, decide_eq_false_iff_not] at first
  obtain ⟨⟨⟨⟨⟨⟨black, -⟩, closes⟩, -⟩, quote⟩, bracket⟩, brace⟩ := first
  refine ⟨⟨.word (rest.reverse ++ [c]), stack⟩, ⟨c, rest, rfl, black, closes, ?_⟩,
    .inr ⟨_, rfl, by simpa using read⟩⟩
  rw [beginValue, if_neg quote, if_neg bracket, if_neg brace,
    run_word fun d member => inside d (List.mem_cons_of_mem _ member)]

theorem isWordChar_of_digit {c : Char} (digit : c.isDigit = true) : isWordChar c = true := by
  by_contra other
  simp only [isWordChar, isSpace, Bool.not_eq_true', Bool.not_eq_false, Bool.or_eq_true,
    decide_eq_true_eq] at other
  rcases other with ((((((((rfl | rfl) | rfl) | rfl) | rfl) | rfl) | rfl) | rfl) | rfl) | rfl <;>
    cases digit

end Machine

open Machine

mutual

/-- The text of a value leads behind the value. -/
theorem leads_chars (v : Value) (stack : List Frame) :
    ∃ s, Leads (chars v) stack s ∧ Behind v.toDoc stack s := by
  cases v with
  | null => exact leads_word "null".toList (by decide) rfl (List.all_eq_true.mp rfl)
  | bool b =>
      cases b with
      | true => exact leads_word "true".toList (by decide) rfl (List.all_eq_true.mp rfl)
      | false => exact leads_word "false".toList (by decide) rfl (List.all_eq_true.mp rfl)
  | number n =>
      exact leads_word _ Nat.toDigits_ne_nil (wordDoc_toDigits n) fun c member =>
        isWordChar_of_digit (Nat.isDigit_of_mem_toDigits (by decide) (by decide) member)
  | string s => exact ⟨_, ⟨'"', _, rfl, by decide, by decide, run_quoted s⟩, .inl rfl⟩
  | array items =>
      refine ⟨_, ⟨'[', _, rfl, by decide, by decide, ?_⟩, .inl rfl⟩
      cases items with
      | nil => rfl
      | cons v rest => exact (leads_items v rest [] stack).firstItem
  | object fields =>
      refine ⟨_, ⟨'\x7b', _, rfl, by decide, by decide, ?_⟩, .inl rfl⟩
      cases fields with
      | nil => rfl
      | cons field rest => exact run_fields field rest [] none stack (.inl rfl)
termination_by sizeOf v

theorem leads_items (v : Value) (rest : List Value) (before : List Doc) (stack : List Frame) :
    Leads (charsItems (v :: rest) ++ [']']) (.items before :: stack)
      (complete (.array (before.reverse ++ toDocs (v :: rest))) stack) := by
  obtain ⟨s, leads, behind⟩ := leads_chars v (.items before :: stack)
  cases rest with
  | nil =>
      refine leads.append ?_
      simp [step_behind behind, complete, afterValue, isSpace, toDocs]
  | cons next rest =>
      have later := (leads_items next rest (v.toDoc :: before) stack).value
      rw [charsItems, List.append_assoc]
      refine leads.append ?_
      rw [List.cons_append, List.foldlM_cons, step_behind behind (.inl rfl)]
      simpa [complete, afterValue, isSpace, toDocs] using later
termination_by sizeOf v + sizeOf rest + 1

theorem run_fields (field : String × Value) (rest : List (String × Value))
    (before : List (Option String × Doc)) (key : Option String) (stack : List Frame) {mode : Mode}
    (awaits : mode = .firstKey ∨ mode = .key) :
    (charsFields (field :: rest) ++ ['\x7d']).foldlM step ⟨mode, .fields before key :: stack⟩ =
      some (complete (.object (before.reverse ++ toDocFields (field :: rest))) stack) := by
  obtain ⟨name, v⟩ := field
  obtain ⟨s, leads, behind⟩ := leads_chars v (.fields before (some name) :: stack)
  have opens : step ⟨mode, .fields before key :: stack⟩ '"' =
      some ⟨.text true [] .none, .fields before key :: stack⟩ := by
    rcases awaits with rfl | rfl <;> rfl
  have named : ∀ more : List Char, (quoted name ++ ':' :: more).foldlM step
      ⟨mode, .fields before key :: stack⟩ =
        more.foldlM step ⟨.value, .fields before (some name) :: stack⟩ := by
    intro more
    rw [quoted, List.cons_append, List.foldlM_cons, opens, Option.bind_eq_bind, Option.bind_some,
      List.foldlM_append, run_name]
    rfl
  cases rest with
  | nil =>
      rw [charsFields, List.append_assoc, List.cons_append, named, List.foldlM_append, leads.value]
      simp [step_behind behind, complete, afterValue, isSpace, toDocFields]
  | cons next rest =>
      have later := run_fields next rest ((some name, v.toDoc) :: before) (some name) stack
        (.inr rfl)
      rw [charsFields, List.append_assoc, List.cons_append, named, List.append_assoc,
        List.foldlM_append, leads.value, Option.bind_eq_bind, Option.bind_some, List.cons_append,
        List.foldlM_cons, step_behind behind (.inl rfl)]
      simpa [complete, afterValue, isSpace, toDocFields] using later
termination_by sizeOf field + sizeOf rest + 1

end

theorem read_chars (v : Value) : Doc.read (chars v) = some v.toDoc := by
  obtain ⟨s, leads, behind⟩ := leads_chars v []
  rw [Doc.read, start, leads.value, Option.bind_eq_bind, Option.bind_some, finish_behind behind]

/-! ### Bytes -/

/-- `from_slice`: the bytes have to be UTF-8. -/
def readBytes (bytes : List UInt8) : Option Doc :=
  bytes.toByteArray.utf8Decode? >>= fun text => Doc.read text.toList

theorem readBytes_render (v : Value) : readBytes (render v) = some v.toDoc := by
  have decoded : (render v).toByteArray.utf8Decode? = some (chars v).toArray := by
    rw [render_eq, encode]
    exact List.utf8Decode?_utf8Encode
  rw [readBytes, decoded, Option.bind_eq_bind, Option.bind_some, read_chars]

/-! ### `serde_json::Value` -/

def u64Max : ℕ := 2 ^ 64 - 1

/-- An object is a map: sorted by name, and the last of several values for a name stays. -/
def insertField (name : String) (v : Value) : List (String × Value) → List (String × Value)
  | [] => [(name, v)]
  | (other, w) :: rest =>
      if name < other then (name, v) :: (other, w) :: rest
      else if name = other then (name, v) :: rest
      else (other, w) :: insertField name v rest

mutual

/-- With the levels of nesting that the reader still allows. A number that is not a `u64`
is no value here. -/
def Doc.toValue : ℕ → Doc → Option Value
  | _, .null => some .null
  | _, .bool value => some (.bool value)
  | _, .natural n => if n ≤ u64Max then some (.number n) else none
  | _, .otherNumber => none
  | _, .string text => text.map .string
  | 0, .array _ => none
  | 0, .object _ => none
  | room + 1, .array items => (toValues room items).map .array
  | room + 1, .object fields => (toFields room [] fields).map .object

def toValues : ℕ → List Doc → Option (List Value)
  | _, [] => some []
  | room, doc :: rest => do
      let v ← doc.toValue room
      let others ← toValues room rest
      return v :: others

def toFields : ℕ → List (String × Value) → List (Option String × Doc) →
    Option (List (String × Value))
  | _, map, [] => some map
  | room, map, (name, doc) :: rest => do
      let name ← name
      let v ← doc.toValue room
      toFields room (insertField name v map) rest

end

mutual

/-- Numbers are `u64`, objects are sorted, and the nesting is within the limit. -/
def Kept : ℕ → Value → Prop
  | _, .null => True
  | _, .bool _ => True
  | _, .number n => n ≤ u64Max
  | _, .string _ => True
  | 0, .array _ => False
  | 0, .object _ => False
  | room + 1, .array items => KeptItems room items
  | room + 1, .object fields =>
      (fields.map Prod.fst).Pairwise (· < ·) ∧ KeptFields room fields

def KeptItems : ℕ → List Value → Prop
  | _, [] => True
  | room, v :: rest => Kept room v ∧ KeptItems room rest

def KeptFields : ℕ → List (String × Value) → Prop
  | _, [] => True
  | room, (_, v) :: rest => Kept room v ∧ KeptFields room rest

end

/-- A name behind all others comes last. -/
theorem insertField_last {name : String} {v : Value} {map : List (String × Value)}
    (last : ∀ field ∈ map, field.1 < name) : insertField name v map = map ++ [(name, v)] := by
  induction map with
  | nil => rfl
  | cons field rest ih =>
      obtain ⟨other, w⟩ := field
      have less : other < name := last _ List.mem_cons_self
      have notLess : ¬ name < other := String.lt_asymm less
      have differs : name ≠ other := by
        rintro rfl
        exact String.lt_irrefl _ less
      rw [insertField, if_neg notLess, if_neg differs,
        ih fun field member => last field (List.mem_cons_of_mem _ member), List.cons_append]

mutual

theorem toValue_toDoc {v : Value} {room : ℕ} (kept : Kept room v) :
    v.toDoc.toValue room = some v := by
  cases v with
  | null => rw [Value.toDoc, Doc.toValue]
  | bool b => rw [Value.toDoc, Doc.toValue]
  | number n =>
      rw [Kept] at kept
      rw [Value.toDoc, Doc.toValue, if_pos kept]
  | string s => rw [Value.toDoc, Doc.toValue, Option.map_some]
  | array items =>
      cases room with
      | zero =>
          rw [Kept] at kept
          exact kept.elim
      | succ room =>
          rw [Kept] at kept
          rw [Value.toDoc, Doc.toValue, toValues_toDocs kept, Option.map_some]
  | object fields =>
      cases room with
      | zero =>
          rw [Kept] at kept
          exact kept.elim
      | succ room =>
          rw [Kept] at kept
          rw [Value.toDoc, Doc.toValue, toFields_toDocFields [] kept.2 kept.1, List.nil_append,
            Option.map_some]

theorem toValues_toDocs {items : List Value} {room : ℕ} (kept : KeptItems room items) :
    toValues room (toDocs items) = some items := by
  cases items with
  | nil => rw [toDocs, toValues]
  | cons v rest =>
      rw [KeptItems] at kept
      rw [toDocs, toValues, toValue_toDoc kept.1, toValues_toDocs kept.2]
      rfl

theorem toFields_toDocFields {fields : List (String × Value)} (map : List (String × Value))
    {room : ℕ} (kept : KeptFields room fields)
    (sorted : ((map ++ fields).map Prod.fst).Pairwise (· < ·)) :
    toFields room map (toDocFields fields) = some (map ++ fields) := by
  cases fields with
  | nil => rw [toDocFields, toFields, List.append_nil]
  | cons field rest =>
      obtain ⟨name, v⟩ := field
      rw [KeptFields] at kept
      have last : ∀ field ∈ map, field.1 < name := by
        intro field member
        rw [List.map_append, List.pairwise_append] at sorted
        exact sorted.2.2 _ (List.mem_map_of_mem member) _ List.mem_cons_self
      rw [toDocFields, toFields, toValue_toDoc kept.1]
      dsimp only [Option.bind_eq_bind, Option.bind_some]
      rw [insertField_last last, toFields_toDocFields _ kept.2]
      · rw [List.append_assoc, List.singleton_append]
      · rwa [List.append_assoc, List.singleton_append]

end

end Json
