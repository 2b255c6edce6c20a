import ZonDpi.Lib.Fold

/-!
Command lines as `getopt_long` reads them.

An argument that begins with a dash holds options: letters, of which the last may
take the rest of the argument or the next argument as its value, or after a second
dash a long name, whole or abbreviated without ambiguity, with its value after an
equals sign or in the next argument. Other arguments are passed over (the function
moves them behind the options), and `--` ends the options.

`Table.read` lists the options in the order in which they are reported, and
`Table.parse` gives them in a form of the program's own. `Parses` says what a piece of a
command line holds, whatever follows it. `Table.reported` lists the options that are
reported to a program that goes on after an error. `loop` is the usual loop: it gives
every option to a function on a state and stops at the first error. It parses and applies
(`loop_eq_ok`).
-/

namespace Getopt

inductive HasArg where
  | no
  | required
  | optional
deriving DecidableEq, Repr

structure LongOption (ι : Type) where
  name : String
  hasArg : HasArg
  val : ι

structure ShortOption (ι : Type) where
  letter : Char
  takesArg : Bool
  val : ι

structure Table (ι : Type) where
  short : List (ShortOption ι)
  long : List (LongOption ι)

/-- How an argument ends: nothing is left open, the next argument is the value of an
option, or there is no such option. -/
inductive Tail (ι : Type) where
  | done
  | needs (val : ι)
  | bad

inductive Arg (ι : Type) where
  | plain
  | stop
  | options (found : List (ι × Option String)) (tail : Tail ι)

/-- What is reported: an option with its value and the arguments that are left, or a
question mark. -/
inductive Event (ι : Type) where
  | option (val : ι) (optarg : Option String) (rest : List String)
  | invalid

namespace Table

variable {ι : Type}

/-- A whole name ends the search; a second abbreviation is ambiguous. -/
def findLong (name : List Char) : List (LongOption ι) → Option (LongOption ι) →
    Option (LongOption ι)
  | [], partly => partly
  | o :: rest, partly =>
      if !name.isPrefixOf o.name.toList then findLong name rest partly
      else if o.name.toList.length = name.length then some o
      else
        match partly with
        | none => findLong name rest (some o)
        | some _ => none

def longToken (t : Table ι) (text : List Char) : List (ι × Option String) × Tail ι :=
  let name := text.takeWhile (· ≠ '=')
  let value := (text.dropWhile (· ≠ '=')).tail?
  match findLong name t.long none with
  | none => ([], .bad)
  | some o =>
      match o.hasArg, value with
      | .no, some _ => ([], .bad)
      | .required, none => ([], .needs o.val)
      | _, value => ([(o.val, value.map String.ofList)], .done)

/-- The characters after the dash. A second dash begins a long name, also behind
letters. -/
def cluster (t : Table ι) : List Char → List (ι × Option String) × Tail ι
  | [] => ([], .done)
  | c :: place =>
      if c = '-' then t.longToken place
      else
        match t.short.find? (fun o => o.letter == c) with
        | none => ([], .bad)
        | some o =>
            if o.takesArg then
              if place = [] then ([], .needs o.val)
              else ([(o.val, some (String.ofList place))], .done)
            else ((o.val, none) :: (t.cluster place).1, (t.cluster place).2)

def classify (t : Table ι) (arg : String) : Arg ι :=
  match arg.toList with
  | '-' :: c :: place =>
      if c = '-' ∧ place = [] then .stop
      else .options (t.cluster (c :: place)).1 (t.cluster (c :: place)).2
  | _ => .plain

/-- The options of a command line; `pending` waits for its value. -/
def read (t : Table ι) : Option ι → List String → List (Event ι)
  | none, [] => []
  | some _, [] => [.invalid]
  | some val, arg :: rest => .option val (some arg) rest :: t.read none rest
  | none, arg :: rest =>
      match t.classify arg with
      | .plain => t.read none rest
      | .stop => []
      | .options found tail =>
          found.map (fun o => .option o.1 o.2 rest) ++
            match tail with
            | .done => t.read none rest
            | .needs val => t.read (some val) rest
            | .bad => [.invalid]

end Table

/-! ### Parsed command lines -/

section Parse

variable {ι α : Type} (t : Table ι) (look : ι → Option String → List String → α)

def Event.parsed : Event ι → Option α
  | .option val optarg rest => some (look val optarg rest)
  | .invalid => none

/-- The options, each in the form in which `look` sees it. An invalid one leaves
nothing. -/
def Table.parse (args : List String) : Option (List α) :=
  (t.read none args).mapM (Event.parsed look)

/-- This piece of a command line holds these options, whatever stands behind it. -/
def Parses (piece : List String) (opts : List α) : Prop :=
  ∀ rest, t.parse look (piece ++ rest) = (t.parse look rest).map (opts ++ ·)

/-- The options without their values. -/
def Table.vals (args : List String) : List ι :=
  (t.read none args).filterMap fun
    | .option val _ _ => some val
    | .invalid => none

variable {t look} {arg value : String} {args rest : List String} {val : ι}
  {found : List (ι × Option String)}

theorem classify_plain (plain : arg.toList.head? ≠ some '-') : t.classify arg = .plain := by
  unfold Table.classify
  split
  · rename_i same
    rw [same] at plain
    exact absurd rfl plain
  · rfl

theorem mapM_parsed_append {events : List (Event ι)} :
    (found.map (fun o => Event.option o.1 o.2 rest) ++ events).mapM (Event.parsed look) =
      (events.mapM (Event.parsed look)).map
        (found.map (fun o => look o.1 o.2 rest) ++ ·) := by
  induction found with
  | nil => simp
  | cons o found ih =>
      rw [List.map_cons, List.cons_append, List.mapM_cons, ih]
      cases events.mapM (Event.parsed look) <;> rfl

theorem parse_plain (plain : t.classify arg = .plain) :
    t.parse look (arg :: rest) = t.parse look rest := by
  rw [Table.parse, Table.read, plain]
  rfl

theorem parse_stop (stop : t.classify arg = .stop) : t.parse look (arg :: rest) = some [] := by
  rw [Table.parse, Table.read, stop]
  rfl

theorem parse_options {tail : Tail ι} (options : t.classify arg = .options found tail) :
    t.parse look (arg :: rest) =
      ((match tail with
        | .done => t.read none rest
        | .needs val => t.read (some val) rest
        | .bad => [.invalid]).mapM (Event.parsed look)).map
        (found.map (fun o : ι × Option String => look o.1 o.2 rest) ++ ·) := by
  rw [Table.parse, Table.read, options]
  exact mapM_parsed_append

theorem parse_done (done : t.classify arg = .options found .done) :
    t.parse look (arg :: rest) =
      (t.parse look rest).map (found.map (fun o => look o.1 o.2 rest) ++ ·) :=
  parse_options done

theorem parse_needs (needs : t.classify arg = .options found (.needs val)) :
    t.parse look (arg :: value :: rest) =
      (t.parse look rest).map fun opts =>
        found.map (fun o => look o.1 o.2 (value :: rest)) ++
          look val (some value) rest :: opts := by
  have behind : (t.read (some val) (value :: rest)).mapM (Event.parsed look) =
      (t.parse look rest).map (look val (some value) rest :: ·) := by
    refine (List.mapM_cons ..).trans ?_
    rw [Table.parse]
    cases (t.read none rest).mapM (Event.parsed look) <;> rfl
  rw [parse_options needs, behind, Option.map_map]
  rfl

theorem parse_needs_nil (needs : t.classify arg = .options found (.needs val)) :
    t.parse look [arg] = none :=
  (parse_options needs).trans rfl

theorem parse_bad (bad : t.classify arg = .options found .bad) :
    t.parse look (arg :: rest) = none :=
  (parse_options bad).trans rfl

/-- What is left behind an option is a part of the command line. -/
theorem length_rest_lt {pending : Option ι} {optarg : Option String}
    (member : Event.option val optarg rest ∈ t.read pending args) : rest.length < args.length := by
  fun_induction Table.read t pending args with
  | case1 => cases member
  | case2 => simp at member
  | case3 val' arg beyond ih =>
      rcases List.mem_cons.mp member with here | later
      · cases here
        exact Nat.lt_succ_self _
      · exact Nat.lt_succ_of_lt (ih later)
  | case4 arg beyond plain ih => exact Nat.lt_succ_of_lt (ih member)
  | case5 => cases member
  | case6 arg beyond found tail classified ih₁ ih₂ =>
      rcases List.mem_append.mp member with here | later
      · obtain ⟨o, _, same⟩ := List.mem_map.mp here
        cases same
        exact Nat.lt_succ_self _
      · cases tail with
        | done => exact Nat.lt_succ_of_lt (ih₁ later)
        | needs val' => exact Nat.lt_succ_of_lt (ih₂ val' later)
        | bad => simp at later

/-- The option takes a value, so its argument ends with it. -/
def Table.Closes (t : Table ι) (val : ι) : Prop :=
  ∀ o ∈ t.short, o.val = val → o.takesArg = true

theorem longToken_found {text : List Char} {before after : List (ι × Option String)}
    {o : ι × Option String} (found : (t.longToken text).1 = before ++ o :: after) :
    after = [] ∧ (t.longToken text).2 = .done := by
  have single : (t.longToken text).1 = [] ∨
      ∃ o, (t.longToken text).1 = [o] ∧ (t.longToken text).2 = .done := by
    unfold Table.longToken
    dsimp only
    split
    · exact .inl rfl
    · split
      · exact .inl rfl
      · exact .inl rfl
      · exact .inr ⟨_, rfl, rfl⟩
  rcases single with none | ⟨o', one, done⟩
  · rw [none] at found
    simp at found
  · rw [one] at found
    have lengths := congrArg List.length found
    simp only [List.length_append, List.length_cons, List.length_nil] at lengths
    exact ⟨List.eq_nil_of_length_eq_zero (by omega), done⟩

theorem cluster_closes (closes : t.Closes val) {text : List Char}
    {before after : List (ι × Option String)} {optarg : Option String}
    (found : (t.cluster text).1 = before ++ (val, optarg) :: after) :
    after = [] ∧ (t.cluster text).2 = .done := by
  fun_induction Table.cluster t text generalizing before with
  | case1 => simp at found
  | case2 place => exact longToken_found found
  | case3 => simp at found
  | case4 => simp at found
  | case5 c place dash o known takes more =>
      have lengths := congrArg List.length found
      simp only [List.length_append, List.length_cons, List.length_nil] at lengths
      exact ⟨List.eq_nil_of_length_eq_zero (by omega), rfl⟩
  | case6 c place dash o known takes ih =>
      cases before with
      | nil =>
          cases found
          exact absurd (closes o (List.mem_of_find?_eq_some known) rfl) takes
      | cons first before => exact ih (List.cons.inj found).2

theorem classify_options {tail : Tail ι} (classified : t.classify arg = .options found tail) :
    ∃ text, t.cluster text = (found, tail) := by
  unfold Table.classify at classified
  split at classified
  · split at classified
    · cases classified
    · cases classified
      exact ⟨_, rfl⟩
  · cases classified

/-- Behind an option that ends its argument the reading begins anew. -/
theorem read_behind (closes : t.Closes val) {pending : Option ι} {optarg : Option String}
    {before after : List (Event ι)}
    (split : t.read pending args = before ++ .option val optarg rest :: after) :
    after = t.read none rest := by
  fun_induction Table.read t pending args generalizing before with
  | case1 => simp at split
  | case2 => cases before <;> simp at split
  | case3 val' arg beyond ih =>
      cases before with
      | nil =>
          cases split
          rfl
      | cons first before => exact ih (List.cons.inj split).2
  | case4 arg beyond plain ih => exact ih split
  | case5 => simp at split
  | case6 arg beyond found tail classified ih₁ ih₂ =>
      obtain ⟨text, cluster⟩ := classify_options classified
      rcases List.append_eq_append_iff.mp split with ⟨between, rfl, later⟩ | ⟨between, here, later⟩
      · cases tail with
        | done => exact ih₁ later
        | needs val' => exact ih₂ val' later
        | bad => cases between <;> simp at later
      · cases between with
        | nil =>
            cases tail with
            | done =>
                have first : t.read none beyond = [] ++ .option val optarg rest :: after :=
                  later.symm
                exact ih₁ first
            | needs val' =>
                have first : t.read (some val') beyond = [] ++ .option val optarg rest :: after :=
                  later.symm
                exact ih₂ val' first
            | bad => simp at later
        | cons e between =>
            obtain ⟨rfl, behind⟩ := List.cons.inj later
            obtain ⟨first, others, rfl, _, same⟩ := List.map_eq_append_iff.mp here
            obtain ⟨o, last, rfl, event, rfl⟩ := List.map_eq_cons_iff.mp same
            obtain ⟨val', optarg'⟩ := o
            cases event
            have inside : (t.cluster text).1 = first ++ (val', optarg') :: last :=
              congrArg Prod.fst cluster
            have closed := cluster_closes closes inside
            rw [cluster] at closed
            obtain ⟨rfl, rfl⟩ := closed
            exact behind

theorem vals_of_parse {opts : List α} (name : α → ι)
    (named : ∀ val optarg rest, name (look val optarg rest) = val)
    (parsed : t.parse look args = some opts) : t.vals args = opts.map name := by
  unfold Table.parse Table.vals at *
  generalize t.read none args = events at parsed ⊢
  induction events generalizing opts with
  | nil =>
      cases parsed
      rfl
  | cons e events ih =>
      rw [List.mapM_cons] at parsed
      cases e with
      | invalid => cases parsed
      | option val optarg rest =>
          cases others : events.mapM (Event.parsed look) with
          | none =>
              rw [others] at parsed
              cases parsed
          | some opts =>
              rw [others] at parsed
              cases parsed
              simp [ih others, named]

theorem parses_nil : Parses t look [] [] := by
  intro rest
  simp

theorem Parses.append {first second : List String} {opts others : List α}
    (head : Parses t look first opts) (tail : Parses t look second others) :
    Parses t look (first ++ second) (opts ++ others) := by
  intro rest
  rw [List.append_assoc, head, tail, Option.map_map]
  simp [Function.comp_def]

/-- An option without a value. -/
theorem parses_flag {a : α} (found : t.classify arg = .options [(val, none)] .done)
    (same : ∀ rest, look val none rest = a) : Parses t look [arg] [a] := by
  intro rest
  simp [parse_done found, same]

/-- An option and the value it requires. -/
theorem parses_value {a : α} (needs : t.classify arg = .options [] (.needs val))
    (same : ∀ rest, look val (some value) rest = a) : Parses t look [arg, value] [a] := by
  intro rest
  simp [parse_needs needs, same]

/-- An option without a value that looks at the argument behind it. -/
theorem parses_ahead {a : α} (found : t.classify arg = .options [(val, none)] .done)
    (plain : t.classify value = .plain) (same : ∀ rest, look val none (value :: rest) = a) :
    Parses t look [arg, value] [a] := by
  intro rest
  simp [parse_done found, parse_plain plain, same]

end Parse

/-! ### Going on after an error -/

namespace Table

variable {ι : Type}

/-- The options of an argument if the search goes on behind what is unknown, and the one
that waits for its value. -/
def heardCluster (t : Table ι) : List Char → List ι × Option ι
  | [] => ([], none)
  | c :: place =>
      if c = '-' then
        match t.longToken place with
        | (found, .needs val) => (found.map Prod.fst, some val)
        | (found, _) => (found.map Prod.fst, none)
      else
        match t.short.find? (fun o => o.letter == c) with
        | none => t.heardCluster place
        | some o =>
            if o.takesArg then if place = [] then ([], some o.val) else ([o.val], none)
            else (o.val :: (t.heardCluster place).1, (t.heardCluster place).2)

/-- Nothing behind `--`. -/
def heard (t : Table ι) (arg : String) : Option (List ι × Option ι) :=
  match arg.toList with
  | '-' :: c :: place => if c = '-' ∧ place = [] then none else some (t.heardCluster (c :: place))
  | _ => some ([], none)

/-- The options that are reported to a program that calls on after every question mark. -/
def reported (t : Table ι) : Option ι → List String → List ι
  | _, [] => []
  | some val, _ :: rest => val :: t.reported none rest
  | none, arg :: rest =>
      match t.heard arg with
      | none => []
      | some (vals, pending) => vals ++ t.reported pending rest

end Table

section Reports

variable {ι : Type} {t : Table ι} {arg value : String} {piece second : List String}
  {vals others : List ι} {val : ι}

/-- These options are reported for this piece of a command line, whatever stands behind it. -/
def Reports (t : Table ι) (piece : List String) (vals : List ι) : Prop :=
  ∀ rest, t.reported none (piece ++ rest) = vals ++ t.reported none rest

theorem heard_plain (plain : arg.toList.head? ≠ some '-') : t.heard arg = some ([], none) := by
  unfold Table.heard
  split
  · rename_i same
    rw [same] at plain
    exact absurd rfl plain
  · rfl

theorem reports_nil : Reports t [] [] :=
  fun _ => rfl

theorem Reports.append (first : Reports t piece vals) (next : Reports t second others) :
    Reports t (piece ++ second) (vals ++ others) := by
  intro rest
  rw [List.append_assoc, first, next, List.append_assoc]

theorem reports_arg (heard : t.heard arg = some (vals, none)) : Reports t [arg] vals := by
  intro rest
  rw [List.singleton_append, Table.reported, heard]

theorem reports_value (heard : t.heard arg = some ([], some val)) (value : String) :
    Reports t [arg, value] [val] := by
  intro rest
  rw [List.cons_append, Table.reported, heard]
  rfl

end Reports

/-! ### The loop over the options -/

section Loop

variable {ι α σ ε : Type} (t : Table ι)
  (apply : ι → Option String → List String → σ → Except ε σ) (usage : ε)

def step (v : σ) : Event ι → Except ε σ
  | .option val optarg rest => apply val optarg rest v
  | .invalid => .error usage

def loop (v : σ) (args : List String) : Except ε σ :=
  (t.read none args).foldlM (step apply usage) v

variable {t apply usage}

/-- The loop succeeds if every option is valid and each in its turn is applied. -/
theorem loop_eq_ok {look : ι → Option String → List String → α} {effect : σ → α → Except ε σ}
    (factors : ∀ val optarg rest v, apply val optarg rest v = effect v (look val optarg rest))
    {args : List String} {v v' : σ} :
    loop t apply usage v args = .ok v' ↔
      ∃ opts, t.parse look args = some opts ∧ opts.foldlM effect v = .ok v' := by
  unfold loop Table.parse
  induction t.read none args generalizing v with
  | nil =>
      constructor
      · intro ended
        exact ⟨[], rfl, ended⟩
      · rintro ⟨_, ⟨⟩, ended⟩
        exact ended
  | cons e events ih =>
      cases e with
      | invalid => exact iff_of_false nofun nofun
      | option val optarg rest =>
          rw [Fold.cons_eq_ok, List.mapM_cons]
          simp only [step, factors, ih]
          constructor
          · rintro ⟨next, applied, opts, parsed, ended⟩
            refine ⟨look val optarg rest :: opts, ?_, Fold.cons_eq_ok.mpr ⟨_, applied, ended⟩⟩
            rw [parsed]
            rfl
          · rintro ⟨opts, parsed, ended⟩
            cases others : events.mapM (Event.parsed look) with
            | none =>
                rw [others] at parsed
                cases parsed
            | some opts =>
                rw [others] at parsed
                cases parsed
                obtain ⟨next, applied, ended⟩ := Fold.cons_eq_ok.mp ended
                exact ⟨next, applied, opts, rfl, ended⟩

end Loop

end Getopt
