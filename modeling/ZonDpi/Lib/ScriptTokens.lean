import Mathlib.Data.List.Basic

/-!
The tokens of a PowerShell command line, as far as plain words and literal strings go.

A literal string stands between single quotes, a doubled quote in it stands for one, and
nothing else in it has a meaning. PowerShell takes the typographic single quotes for
quotes too. A statement ends at `;`, `|`, `&` or the end of a line. Characters that could
begin anything else (a variable, a sub-expression, an expandable string) are tokens of
their own (`Token.other`), so that no reader of commands takes them for part of a word.

* `lex_word`, `lex_list`: words followed by a space, and a list of literal strings without
  quotes in them, are read as they stand.
-/

namespace Script

inductive Token where
  | word (text : List Char)
  | literal (text : List Char)
  /-- `@(` -/
  | arrayOpen
  | comma
  | close
  /-- The end of a statement. -/
  | separator
  | other (c : Char)
deriving DecidableEq, Repr

def isQuote (c : Char) : Bool :=
  c = '\'' || c = '‘' || c = '’' || c = '‚' || c = '‛'

def isWordChar (c : Char) : Bool := c.isAlphanum || c = '-' || c = '_'

def isSeparator (c : Char) : Bool := c = ';' || c = '|' || c = '&' || c = '\n' || c = '\r'

/-- Where the lexer stands; texts are kept in reverse. -/
inductive Mode where
  | between
  | word (text : List Char)
  | literal (text : List Char)
  /-- A quote in a literal string: its end, or the first half of a doubled quote. -/
  | quote (text : List Char)
  /-- A `@`, which opens an array if a bracket follows. -/
  | array
deriving DecidableEq, Repr

/-- A character that begins something new. -/
def start (c : Char) : Mode × List Token :=
  if c = ' ' then (.between, [])
  else if isQuote c then (.literal [], [])
  else if isWordChar c then (.word [c], [])
  else if c = '@' then (.array, [])
  else if c = ',' then (.between, [.comma])
  else if c = ')' then (.between, [.close])
  else if isSeparator c then (.between, [.separator])
  else (.between, [.other c])

/-- The character ends what came before it. -/
def startAfter (token : Token) (c : Char) : Mode × List Token :=
  ((start c).1, token :: (start c).2)

def step : Mode → Char → Mode × List Token
  | .between, c => start c
  | .word text, c =>
      if isWordChar c then (.word (c :: text), []) else startAfter (.word text.reverse) c
  | .literal text, c => if isQuote c then (.quote text, []) else (.literal (c :: text), [])
  | .quote text, c =>
      if isQuote c then (.literal (c :: text), []) else startAfter (.literal text.reverse) c
  | .array, c => if c = '(' then (.between, [.arrayOpen]) else startAfter (.other '@') c

/-- The tokens from a mode on; a literal string that is not closed has none. -/
def lex : Mode → List Char → Option (List Token)
  | .between, [] => some []
  | .word text, [] => some [.word text.reverse]
  | .literal _, [] => none
  | .quote text, [] => some [.literal text.reverse]
  | .array, [] => some [.other '@']
  | mode, c :: rest => (lex (step mode c).1 rest).map ((step mode c).2 ++ ·)

theorem lex_cons (mode : Mode) (c : Char) (rest : List Char) :
    lex mode (c :: rest) = (lex (step mode c).1 rest).map ((step mode c).2 ++ ·) := by
  cases mode <;> rfl

/-! ### Words -/

section Words

variable {word : List Char}

theorem lex_word_tail (text rest : List Char) (plain : ∀ c ∈ word, isWordChar c = true) :
    lex (.word text) (word ++ rest) = lex (.word (word.reverse ++ text)) rest := by
  induction word generalizing text with
  | nil => rfl
  | cons c word ih =>
      have first := plain c List.mem_cons_self
      rw [List.cons_append, lex_cons, step, if_pos first,
        ih _ fun d member => plain d (List.mem_cons_of_mem c member)]
      simp

theorem start_wordChar {c : Char} (plain : isWordChar c = true) : start c = (.word [c], []) := by
  have blank : c ≠ ' ' := by
    rintro rfl
    cases plain
  have quote : isQuote c = false := by
    by_contra quoted
    simp only [isQuote, Bool.not_eq_false, Bool.or_eq_true, decide_eq_true_eq] at quoted
    rcases quoted with (((rfl | rfl) | rfl) | rfl) | rfl <;> cases plain
  rw [start, if_neg blank, if_neg (by simp [quote]), if_pos plain]

/-- A text that is one word. -/
def isWord (text : List Char) : Bool := !text.isEmpty && text.all isWordChar

theorem isWord_iff : isWord word = true ↔ word ≠ [] ∧ ∀ c ∈ word, isWordChar c = true := by
  simp [isWord]

/-- A word and the space after it. -/
theorem lex_word (rest : List Char) (single : isWord word = true) :
    lex .between (word ++ ' ' :: rest) = (lex .between rest).map (.word word :: ·) := by
  obtain ⟨nonempty, plain⟩ := isWord_iff.mp single
  obtain ⟨c, tail, rfl⟩ := List.exists_cons_of_ne_nil nonempty
  rw [List.cons_append, lex_cons, step, start_wordChar (plain c List.mem_cons_self),
    lex_word_tail _ _ fun d member => plain d (List.mem_cons_of_mem c member), lex_cons]
  simp [step, isWordChar, startAfter, start, Function.comp_def]

/-- A word at the end of the text. -/
theorem lex_last (single : isWord word = true) : lex .between word = some [.word word] := by
  obtain ⟨nonempty, plain⟩ := isWord_iff.mp single
  obtain ⟨c, tail, rfl⟩ := List.exists_cons_of_ne_nil nonempty
  have read := lex_word_tail [c] [] fun d member => plain d (List.mem_cons_of_mem c member)
  rw [List.append_nil] at read
  rw [lex_cons, step, start_wordChar (plain c List.mem_cons_self), read]
  simp [lex]

end Words

/-! ### Lists of literal strings -/

/-- The text in single quotes. -/
def quoted (text : List Char) : List Char := '\'' :: (text ++ ['\''])

/-- A text that has no quote in it. -/
def Unquoted (text : List Char) : Prop := ∀ c ∈ text, isQuote c = false

/-- The tokens of a list with commas, up to its closing bracket. -/
def listTokens : List (List Char) → List Token
  | [] => [.close]
  | [item] => [.literal item, .close]
  | item :: items => .literal item :: .comma :: listTokens items

/-- The items of a list with at least one item, and what follows its closing bracket. -/
def readItems : List Token → Option (List (List Char) × List Token)
  | .literal item :: .comma :: rest =>
      (readItems rest).map fun (items, rest) => (item :: items, rest)
  | .literal item :: .close :: rest => some ([item], rest)
  | _ => none

/-- An array of literal strings, and what follows it. -/
def readArray : List Token → Option (List (List Char) × List Token)
  | .arrayOpen :: .close :: rest => some ([], rest)
  | .arrayOpen :: rest => readItems rest
  | _ => none

theorem lex_literal_tail {item : List Char} (plain : Unquoted item) (text rest : List Char) :
    lex (.literal text) (item ++ '\'' :: rest) = lex (.quote (item.reverse ++ text)) rest := by
  induction item generalizing text with
  | nil => simp [lex_cons, step, isQuote]
  | cons c item ih =>
      have later : Unquoted item := fun d member => plain d (List.mem_cons_of_mem c member)
      rw [List.cons_append, lex_cons, step, if_neg (by simp [plain c List.mem_cons_self]),
        ih later]
      simp

/-- What stands behind the closing quote is read as if nothing stood before it. -/
theorem lex_quoted {item : List Char} {c : Char} (plain : Unquoted item)
    (other : isQuote c = false) (rest : List Char) :
    lex .between (quoted item ++ c :: rest) =
      (lex .between (c :: rest)).map (.literal item :: ·) := by
  have opened : step .between '\'' = (.literal [], []) := rfl
  have closed : step (.quote (item.reverse ++ [])) c = startAfter (.literal item) c := by
    simp [step, other]
  rw [quoted, List.cons_append, List.append_assoc, lex_cons, opened, List.singleton_append,
    lex_literal_tail plain, lex_cons, closed, lex_cons]
  simp [startAfter, step, Function.comp_def]

theorem lex_list {items : List (List Char)} (plain : ∀ item ∈ items, Unquoted item) :
    lex .between ([','].intercalate (items.map quoted) ++ [')']) = some (listTokens items) := by
  induction items with
  | nil => rfl
  | cons item items ih =>
      have first := plain item List.mem_cons_self
      cases items with
      | nil =>
          rw [List.map_singleton, List.intercalate_singleton, lex_quoted first rfl]
          rfl
      | cons next items =>
          have read := ih fun other member => plain other (List.mem_cons_of_mem item member)
          rw [List.map_cons, List.map_cons, List.intercalate_cons_cons, List.append_assoc,
            List.append_assoc, List.singleton_append, lex_quoted first rfl, lex_cons,
            show step .between ',' = (.between, [.comma]) from rfl]
          rw [List.map_cons] at read
          rw [read]
          rfl

theorem readItems_listTokens {items : List (List Char)} (nonempty : items ≠ []) :
    readItems (listTokens items) = some (items, []) := by
  induction items with
  | nil => exact absurd rfl nonempty
  | cons item items ih =>
      cases items with
      | nil => rfl
      | cons next items =>
          rw [listTokens, readItems, ih nofun]
          · rfl
          · nofun

theorem readArray_listTokens (items : List (List Char)) :
    readArray (.arrayOpen :: listTokens items) = some (items, []) := by
  cases items with
  | nil => rfl
  | cons item items =>
      have read := readItems_listTokens (List.cons_ne_nil item items)
      cases items <;> exact read

end Script
