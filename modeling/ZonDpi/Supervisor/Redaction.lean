import ZonDpi.Supervisor.RingBuffer

/-!
How far the log is free of wallet addresses.

`sanitize_log_presentation` leaves a line alone unless it mentions one of five keywords, and
then judges each word as a whole, by how it begins and how long it is once the characters
around it are gone. An address is a run of letters and digits inside a word. So an address
stays if the line has no keyword or if something else in the word comes before it, and a word
that is no address goes if it begins and measures like one. A line is stored as it should be
exactly if none of its words is misjudged (`redaction_iff`). A word with a single run, all in
ASCII, never is, whatever stands around the run (`isRedacted_of_run`).
-/

namespace ZonDpi.Supervisor

open Components ZonDpi.Std

/-! ### Addresses -/

/-- The run looks like an address. -/
def addressShaped (run : List Char) : Bool :=
  (startsLikeBtc run && decide (26 ≤ run.length) && decide (run.length ≤ 45)) ||
    (startsLikeEth run && decide (run.length = 42))

/-- The maximal runs of letters and digits. -/
def alphanumericRuns (chars : WordChars) (text : List Char) : List (List Char) :=
  components (fun c => !chars.test c) text

def showsAddress (chars : WordChars) (text : List Char) : Bool :=
  (alphanumericRuns chars text).any addressShaped

/-- The line is stored as it should be: the text shows no address, and the words that show
none are in it, unchanged and in order. -/
def RedactsLine (chars : WordChars) (line : String) : Prop :=
  ∀ text, LogRingBuffer.stored chars line = some text →
    showsAddress chars text.toList = false ∧
      ((splitWhitespace line).filter fun word => !showsAddress chars word).Sublist
        (splitWhitespace text)

/-! ### Texts in ASCII -/

section Ascii

variable {text : List Char}

theorem dropWhile_congr {drops drops' : Char → Bool} (same : ∀ c ∈ text, drops c = drops' c) :
    text.dropWhile drops = text.dropWhile drops' := by
  induction text with
  | nil => rfl
  | cons c text ih =>
      rw [List.dropWhile_cons, List.dropWhile_cons, same c List.mem_cons_self,
        ih fun d member => same d (List.mem_cons_of_mem c member)]

theorem trimMatches_congr {drops drops' : Char → Bool} (same : ∀ c ∈ text, drops c = drops' c) :
    trimMatches drops text = trimMatches drops' text := by
  unfold trimMatches List.rdropWhile
  rw [dropWhile_congr same]
  refine congrArg List.reverse (dropWhile_congr fun c member => same c ?_)
  exact (List.dropWhile_sublist drops').subset (List.mem_reverse.mp member)

variable (chars : WordChars)

theorem test_ascii (ascii : text.all (fun c => decide (c.toNat < 128)) = true) :
    ∀ c ∈ text, (!chars.test c) = !asciiWordChars.test c := by
  intro c member
  have small : c.toNat < 128 := of_decide_eq_true (List.all_eq_true.mp ascii c member)
  rw [chars.ascii c small]
  rfl

theorem showsAddress_ascii (ascii : text.all (fun c => decide (c.toNat < 128)) = true) :
    showsAddress chars text = showsAddress asciiWordChars text := by
  unfold showsAddress alphanumericRuns
  rw [components_congr (test_ascii chars ascii)]

theorem isRedacted_ascii (ascii : text.all (fun c => decide (c.toNat < 128)) = true) :
    isRedacted chars text = isRedacted asciiWordChars text := by
  unfold isRedacted
  rw [trimMatches_congr (test_ascii chars ascii)]

theorem showsAddress_redactedMark : showsAddress chars redactedMark = false := by
  rw [showsAddress_ascii chars (by decide)]
  decide

theorem isRedacted_redactedMark : isRedacted chars redactedMark = false := by
  rw [isRedacted_ascii chars (by decide)]
  decide

end Ascii

/-! ### What becomes of the words -/

/-- The word is replaced in this line. -/
def masks (chars : WordChars) (line : String) (word : List Char) : Bool :=
  mentionsDonation line && isRedacted chars word

variable {chars : WordChars} {line : String} {word : List Char}

theorem splitWhitespace_trimEnd : splitWhitespace (trimEnd line) = splitWhitespace line := by
  rw [splitWhitespace, trimEnd, String.toList_ofList, components_rdropWhile fun _ => id]
  rfl

theorem splitWhitespace_empty : splitWhitespace "" = [] := by
  rw [splitWhitespace, String.toList_empty, components_nil]

/-- An address does not reach over the end of a word. -/
theorem showsAddress_eq_any :
    showsAddress chars line.toList = (splitWhitespace line).any (showsAddress chars) := by
  have finer (c : Char) (space : isWhitespace c = true) : (!chars.test c) = true := by
    rw [chars.blank c space]
    rfl
  unfold showsAddress alphanumericRuns
  rw [← components_components finer, List.any_flatMap]
  rfl

theorem splitWhitespace_sanitize :
    splitWhitespace (sanitizeLogPresentation chars line) = (splitWhitespace line).map
      fun word => if masks chars line word then redactedMark else word := by
  unfold sanitizeLogPresentation masks
  cases mentionsDonation line with
  | false => simp
  | true =>
      rw [if_pos rfl, splitWhitespace, String.toList_ofList,
        components_intercalate (by decide : isWhitespace ' ' = true)]
      -- each word that goes in is one word of what comes out
      have one : ∀ word ∈ splitWhitespace line,
          components isWhitespace (redact chars word) = [redact chars word] := by
        intro word member
        unfold redact
        split
        · decide
        · obtain ⟨nonempty, solid⟩ := of_mem_components member
          exact components_of_solid nonempty solid
      rw [List.flatMap_map, List.flatMap_congr one, ← List.map_eq_flatMap]
      rfl

theorem RedactsLine.judged (redacts : RedactsLine chars line) :
    ∀ word ∈ splitWhitespace line,
      showsAddress chars word = masks chars (trimEnd line) word := by
  intro word member
  by_cases blank : trimEnd line = ""
  · rw [← splitWhitespace_trimEnd, blank, splitWhitespace_empty] at member
    exact absurd member List.not_mem_nil
  · obtain ⟨hidden, kept⟩ := redacts _ (if_neg blank)
    rw [showsAddress_eq_any, splitWhitespace_sanitize, splitWhitespace_trimEnd] at hidden
    rw [splitWhitespace_sanitize, splitWhitespace_trimEnd] at kept
    cases masked : masks chars (trimEnd line) word with
    | true =>
        by_contra clean
        -- the word should have stayed, but every word that stayed is another one
        have stays := kept.subset (List.mem_filter.mpr ⟨member, by simpa using clean⟩)
        obtain ⟨other, -, same⟩ := List.mem_map.mp stays
        split at same
        · rw [← same, masks, isRedacted_redactedMark, Bool.and_false] at masked
          cases masked
        · rename_i unmasked
          rw [same] at unmasked
          exact unmasked masked
    | false =>
        rw [List.any_map, List.any_eq_false] at hidden
        simpa [masked] using hidden word member

theorem redactsLine_of_judged (judged : ∀ word ∈ splitWhitespace line,
    showsAddress chars word = masks chars (trimEnd line) word) : RedactsLine chars line := by
  intro text stored
  simp only [LogRingBuffer.stored] at stored
  split at stored
  · cases stored
  · rw [← Option.some.inj stored]
    constructor
    · rw [showsAddress_eq_any, splitWhitespace_sanitize, splitWhitespace_trimEnd, List.any_map,
        List.any_eq_false]
      intro word member
      cases masked : masks chars (trimEnd line) word with
      | true => simp [masked, showsAddress_redactedMark]
      | false => simp [masked, judged word member]
    · rw [splitWhitespace_sanitize, splitWhitespace_trimEnd]
      -- the words without an address are those that are not masked
      have same : ((splitWhitespace line).filter fun word => !showsAddress chars word).map
          (fun word => if masks chars (trimEnd line) word then redactedMark else word) =
            (splitWhitespace line).filter fun word => !showsAddress chars word := by
        refine (List.map_congr_left fun word member => ?_).trans (List.map_id _)
        obtain ⟨member, clean⟩ := List.mem_filter.mp member
        rw [judged word member, Bool.not_eq_true'] at clean
        rw [clean]
        rfl
      rw [← same]
      exact List.filter_sublist.map _

theorem byteLen_ascii {text : List Char} (ascii : ∀ c ∈ text, c.toNat < 128) :
    byteLen text = text.length := by
  induction text with
  | nil => rfl
  | cons c text ih =>
      have one : c.utf8Size = 1 :=
        Char.utf8Size_eq_one_iff.mpr (UInt32.le_iff_toNat_le.mpr (Nat.le_of_lt_succ
          (ascii c List.mem_cons_self)))
      have rest := ih fun d member => ascii d (List.mem_cons_of_mem c member)
      rw [byteLen, List.map_cons, List.sum_cons, one, ← byteLen, rest, List.length_cons,
        Nat.add_comm]

/-- A word with a single run, all in ASCII, is judged rightly. -/
theorem isRedacted_of_run
    (single : ∀ c ∈ trimMatches (fun c => !chars.test c) word, chars.test c = true)
    (ascii : ∀ c ∈ trimMatches (fun c => !chars.test c) word, c.toNat < 128) :
    isRedacted chars word = showsAddress chars word := by
  have runs : alphanumericRuns chars word =
      alphanumericRuns chars (trimMatches (fun c => !chars.test c) word) := by
    unfold alphanumericRuns trimMatches
    rw [components_rdropWhile fun _ => id, components_dropWhile fun _ => id]
  rw [showsAddress, runs]
  simp only [isRedacted]
  generalize trimMatches (fun c => !chars.test c) word = run at single ascii
  by_cases empty : run = []
  · rw [empty]
    rfl
  · have solid : Solid (fun c => !chars.test c) run := by
      intro c member
      simp [single c member]
    rw [alphanumericRuns, components_of_solid empty solid, List.any_cons, List.any_nil,
      Bool.or_false, byteLen_ascii ascii]
    rfl

/-- A line is stored as it should be exactly if none of its words is misjudged. -/
theorem redaction_iff (chars : WordChars) (line : String) :
    RedactsLine chars line ↔ ∀ word ∈ splitWhitespace line, showsAddress chars word =
      (mentionsDonation (trimEnd line) && isRedacted chars word) :=
  ⟨RedactsLine.judged, redactsLine_of_judged⟩

/-- A misjudged word in ASCII is misjudged whatever counts as a letter elsewhere. -/
theorem not_redactsLine (chars : WordChars) (line word : String)
    (member : word.toList ∈ splitWhitespace line)
    (ascii : word.toList.all (fun c => decide (c.toNat < 128)) = true)
    (differ : showsAddress asciiWordChars word.toList ≠
      masks asciiWordChars (trimEnd line) word.toList) : ¬ RedactsLine chars line := by
  intro redacts
  have judged := redacts.judged word.toList member
  rw [masks, showsAddress_ascii chars ascii, isRedacted_ascii chars ascii] at judged
  exact differ judged

/-- An address on a line without a keyword stays, as does one with a prefix in the same word;
and the two ends of a connection are taken for an address. -/
theorem redaction_misjudges :
    (¬ ∃ chars, RedactsLine chars "1A1zP1eP5QGefi2DMPTfTL5SLmv7DivfNa") ∧
      (¬ ∃ chars, RedactsLine chars "Donate bitcoin:1A1zP1eP5QGefi2DMPTfTL5SLmv7DivfNa") ∧
      ¬ ∃ chars, RedactsLine chars "btc 192.168.100.100:65535->10.0.0.1:443" := by
  refine ⟨?_, ?_, ?_⟩
  · rintro ⟨chars, redacts⟩
    exact not_redactsLine chars _ "1A1zP1eP5QGefi2DMPTfTL5SLmv7DivfNa" (by decide +kernel)
      (by decide +kernel) (by decide +kernel) redacts
  · rintro ⟨chars, redacts⟩
    exact not_redactsLine chars _ "bitcoin:1A1zP1eP5QGefi2DMPTfTL5SLmv7DivfNa" (by decide +kernel)
      (by decide +kernel) (by decide +kernel) redacts
  · rintro ⟨chars, redacts⟩
    exact not_redactsLine chars _ "192.168.100.100:65535->10.0.0.1:443" (by decide +kernel)
      (by decide +kernel) (by decide +kernel) redacts

end ZonDpi.Supervisor
