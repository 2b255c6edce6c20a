import ZonDpi.Engine.ByeDpiWritten

/-!
# What the ByeDPI adapter keeps of a profile

`from_profile` has one field for each option it knows and writes the fields in a fixed
order before the arguments it passes through. To `ciadpi` the options are a program: parts
are added in the order of their options, `--auto` divides them into groups, and `--copy`
repeats a group. So an option that is repeated, that comes out of order or that stands
behind `--auto` or behind an argument passed through may mean something else in the line
that is written, and a copy may repeat an address, a port or a limit that belonged to
another group.

`ByeDpiConfig.keeps` follows an argument list in the manner of `from_profile` and looks for
such options; where it finds none, the line that is written leads to the same parameters
(`byeDpi_translation_of_keeps`), with the loopback address where the profile gives none.
-/

namespace ZonDpi.Engine

open Getopt Fold ZonDpi.Std

def loopbackAddr : IpAddr := .v4 [127, 0, 0, 1]

/-- The address, the port and the limit on connections that a list of options gives. -/
def CiadpiHost.gives (host : CiadpiHost) (opts : List (CiadpiOpt × Option String)) :
    Option IpAddr × Option Nat × Option Int :=
  (lastSome host.given opts, lastSome portGiven opts, lastSome connGiven opts)

/-- The same with the address and the port that the service writes where none is given. -/
def CiadpiHost.listens (host : CiadpiHost) (opts : List (CiadpiOpt × Option String)) :
    Option IpAddr × Option Nat × Option Int :=
  ((host.gives opts).1.or (some loopbackAddr), (host.gives opts).2.1.or (some 1080),
    (host.gives opts).2.2)

/-- The options that `ciadpi` has taken up behind these. -/
def expanded (read : List (CiadpiOpt × Option String)) : List (CiadpiOpt × Option String) :=
  (Division.start.expand read).getD []

namespace ByeDpiConfig

/-! ### When the translation is faithful -/

/-- Nothing is lost at an option behind the options `read`, of which `seen` have been
passed through. -/
def allows (config : ByeDpiConfig) (host : CiadpiHost)
    (read seen : List (CiadpiOpt × Option String)) (o : CiadpiOpt × Option String) : Bool :=
  config.fits (host.listens (expanded read)).2.1 o && seen.all fun custom => !host.clashes custom o

/-- Nothing is lost at an option that is passed through: if it copies a group, that of the
profile and that of the written line leave the same address, port and limit. -/
def allowsPassed (config : ByeDpiConfig) (host : CiadpiHost)
    (read seen : List (CiadpiOpt × Option String)) (o : CiadpiOpt × Option String) : Bool :=
  match (read.foldl Division.add .start).comesTo o,
    (seen.foldl Division.add config.division).comesTo o with
  | some found, some found' =>
      host.listens (expanded read ++ found) = host.listens (expanded read ++ found')
  | _, _ => true

def allowsAll (config : ByeDpiConfig) (host : CiadpiHost)
    (read seen : List (CiadpiOpt × Option String)) : List (CiadpiOpt × Option String) → Bool
  | [] => true
  | o :: opts =>
      config.allowsPassed host read seen o &&
        config.allowsAll host (read ++ [o]) (seen ++ [o]) opts

/-- The arguments change no field but the list of those that are passed through. -/
def unmoved (config : ByeDpiConfig) (rest : List String) : Bool :=
  match readArgs config rest with
  | .ok next => next = { config with customArgs := next.customArgs }
  | .error _ => true

/-- Nothing is lost in this argument list, behind the options `read`, of which `seen` have
been passed through. -/
def keeps (config : ByeDpiConfig) (host : CiadpiHost)
    (read seen : List (CiadpiOpt × Option String)) : List String → Bool
  | [] => true
  | arg :: rest =>
      match valueOption arg with
      | some set =>
          match rest with
          -- not accepted by `ciadpi`
          | [] => true
          | value :: beyond =>
              match set config value with
              | .error _ => true
              | .ok next =>
                  match typedCiadpiOpt arg with
                  | none => true
                  | some opt =>
                      config.allows host read seen (opt, some value) &&
                        keeps next host (read ++ [(opt, some value)]) seen beyond
      | none =>
          match ciadpiTable.classify arg with
          | .plain => keeps (config.pass arg) host read seen rest
          | .stop => (config.pass arg).unmoved rest
          | .options found .done =>
              config.allowsAll host read seen found &&
                keeps (config.pass arg) host (read ++ found) (seen ++ found) rest
          | .options found (.needs opt) =>
              match rest with
              | [] => true
              | value :: beyond =>
                  (valueOption value).isNone &&
                    (config.allowsAll host read seen (found ++ [(opt, some value)]) &&
                      keeps ((config.pass arg).pass value) host
                        (read ++ (found ++ [(opt, some value)]))
                        (seen ++ (found ++ [(opt, some value)])) beyond)
          | .options _ .bad => true

end ByeDpiConfig

variable {host : CiadpiHost} {config config' : ByeDpiConfig} {opt : CiadpiOpt}
  {o : CiadpiOpt × Option String}
  {opts read seen done found more e : List (CiadpiOpt × Option String)} {args rest : List String}
  {arg value : String}

/-! ### Following both sides -/

/-- What the written line comes to behind the options `seen` that have been passed through,
compared with what `ciadpi` has taken up of the profile. -/
structure Agrees (host : CiadpiHost) (config : ByeDpiConfig)
    (seen done e : List (CiadpiOpt × Option String)) : Prop where
  expands : config.division.expand seen = some e
  listens : host.gives (config.options ++ e) = host.listens done
  groups : Simulates host.stepGroups done (config.groupOptions ++ e)

/-- The service has come to the configuration and has passed the options `seen` through;
`ciadpi` has read the options `read` of the profile and taken up `done`. -/
structure Follows (host : CiadpiHost) (config : ByeDpiConfig)
    (read seen done : List (CiadpiOpt × Option String)) : Prop where
  course : Division.start.expand read = some done
  sound : config.Sound host
  valid : ∀ o ∈ seen, jumpless o = true → host.Valid o
  related : Division.Related (Simulates host.stepGroups) (read.foldl Division.add .start)
    (seen.foldl Division.add config.division)
  written : ∃ e, Agrees host config seen done e

theorem composes_simulates : Composes (Simulates host.stepGroups) where
  nil := Simulates.refl []
  append := fun _ _ _ _ first second => first.append second

theorem expand_snoc (course : Division.start.expand read = some done)
    (here : (read.foldl Division.add .start).comesTo o = some found) :
    Division.start.expand (read ++ [o]) = some (done ++ found) := by
  rw [Division.expand_append, course, Option.bind_some, Division.expand, here]
  simp [Division.expand]

theorem gives_append : host.gives (done ++ found) =
    ((host.gives found).1.or (host.gives done).1, (host.gives found).2.1.or (host.gives done).2.1,
      (host.gives found).2.2.or (host.gives done).2.2) := by
  simp only [CiadpiHost.gives, lastSome_append]

theorem listens_append : host.listens (done ++ found) =
    ((host.gives found).1.or (host.listens done).1,
      (host.gives found).2.1.or (host.listens done).2.1,
      (host.gives found).2.2.or (host.listens done).2.2) := by
  simp only [CiadpiHost.listens, gives_append, Option.or_assoc]

/-! ### Options that are passed through -/

theorem Agrees.passed {found' : List (CiadpiOpt × Option String)}
    (written : Agrees host config seen done e)
    (here : (seen.foldl Division.add config.division).comesTo o = some found')
    (simulates : Simulates host.stepGroups found found')
    (alike : host.listens (done ++ found) = host.listens (done ++ found')) :
    Agrees host config (seen ++ [o]) (done ++ found) (e ++ found') := by
  obtain ⟨expands, listens, groups⟩ := written
  refine ⟨?_, ?_, ?_⟩
  · rw [Division.expand_append, expands, Option.bind_some, Division.expand, here]
    simp [Division.expand]
  · rw [← List.append_assoc, gives_append, listens, alike, listens_append]
  · rw [← List.append_assoc]
    exact groups.append simulates

theorem Follows.passed (follows : Follows host config read seen done)
    (here : (read.foldl Division.add .start).comesTo o = some found)
    (valid : ∀ o ∈ found, host.Valid o) (kept : config.allowsPassed host read seen o = true) :
    Follows host config (read ++ [o]) (seen ++ [o]) (done ++ found) := by
  obtain ⟨course, sound, seenValid, related, e, written⟩ := follows
  obtain ⟨found', here', simulates⟩ := related.comesTo (Simulates.refl [o]) here
  have alike : host.listens (done ++ found) = host.listens (done ++ found') := by
    simpa [ByeDpiConfig.allowsPassed, here, here', expanded, course] using kept
  refine ⟨expand_snoc course here, sound, ?_, ?_, _, written.passed here' simulates alike⟩
  · intro o' member stays
    rcases List.mem_append.mp member with before | last
    · exact seenValid o' before stays
    · obtain rfl := List.mem_singleton.mp last
      rw [Division.comesTo, if_pos stays] at here
      cases here
      exact valid o' List.mem_cons_self
  · rw [List.foldl_append, List.foldl_append]
    exact related.add composes_simulates (Simulates.refl [o])

theorem Follows.passedAll (follows : Follows host config read seen done)
    (expands : (read.foldl Division.add .start).expand opts = some more)
    (valid : ∀ o ∈ more, host.Valid o) (kept : config.allowsAll host read seen opts = true) :
    Follows host config (read ++ opts) (seen ++ opts) (done ++ more) := by
  induction opts generalizing read seen done more with
  | nil =>
      cases expands
      simpa using follows
  | cons o opts ih =>
      obtain ⟨found, here, both⟩ := Option.bind_eq_some_iff.mp expands
      obtain ⟨others, behind, rfl⟩ := Option.map_eq_some_iff.mp both
      rw [ByeDpiConfig.allowsAll, Bool.and_eq_true] at kept
      rw [List.forall_mem_append] at valid
      have next := ih (follows.passed here valid.1 kept.1)
        (by rw [List.foldl_append]; exact behind) valid.2 kept.2
      simpa using next

theorem Follows.withCustomArgs (follows : Follows host config read seen done)
    (customArgs : List String) :
    Follows host { config with customArgs := customArgs } read seen done := by
  obtain ⟨course, ⟨address, port, maxConn⟩, valid, related, e, written⟩ := follows
  exact ⟨course, ⟨address, port, maxConn⟩, valid, related, e,
    ⟨written.expands, written.listens, written.groups⟩⟩

/-! ### The address, the port and the limit -/

section Listen

variable {e' : List (CiadpiOpt × Option String)} {α : Type}
  {given : CiadpiOpt × Option String → Option α}

/-- Only the address, the port and the limit change. -/
theorem ByeDpiConfig.Sets.listen (sets : config.Sets value opt config')
    (listen : opt.isGroupTyped = false) :
    config'.partOptions = config.partOptions ∧ config'.autoParams = config.autoParams ∧
      config'.autoMode = config.autoMode := by
  cases sets <;> first
    | exact ⟨rfl, rfl, rfl⟩
    | cases listen

theorem ByeDpiConfig.Sets.related
    {Q : List (CiadpiOpt × Option String) → List (CiadpiOpt × Option String) → Prop}
    (sets : config.Sets value opt config') (listen : opt.isGroupTyped = false)
    (composes : Composes Q) (step : Q config.listenOptions config'.listenOptions)
    (self : ∀ l, (∀ o ∈ l, o.1.isGroupTyped = true) → Q l l) :
    Division.Related Q config.division config'.division := by
  obtain ⟨parts, auto, mode⟩ := sets.listen listen
  have first : Q config.firstGroup config'.firstGroup := by
    rw [ByeDpiConfig.firstGroup, ByeDpiConfig.firstGroup, parts]
    exact composes.append _ _ _ _ step
      (self _ fun o member => (config.partOptions_typed o member).1)
  have last : Q (valueOptions .autoMode config.autoMode) (valueOptions .autoMode config.autoMode) :=
    self _ fun o member => by rw [mem_valueOptions member]; rfl
  unfold ByeDpiConfig.division
  rw [auto, mode]
  cases config.autoParams with
  | none => exact ⟨.nil, composes.append _ _ _ _ first last⟩
  | some text => exact ⟨.cons first .nil, last⟩

/-- What is not set is kept, also where it is copied. -/
theorem ByeDpiConfig.Sets.lastSome_kept (sets : config.Sets value opt config')
    (listen : opt.isGroupTyped = false)
    (outside : ∀ o, o.1.isGroupTyped = true → given o = none)
    (same : lastSome given config.listenOptions = lastSome given config'.listenOptions)
    (expands : config.division.expand seen = some e)
    (expands' : config'.division.expand seen = some e') :
    lastSome given (config'.options ++ e') = lastSome given (config.options ++ e) := by
  have related := sets.related listen (composes_lastSome given) same fun _ _ => rfl
  obtain ⟨e'', expands'', alike⟩ :=
    related.expand (composes_lastSome given) (fun _ _ => rfl) expands
  obtain rfl := Option.some.inj (expands'.symm.trans expands'')
  rw [lastSome_append, lastSome_append, ByeDpiConfig.lastSome_options outside,
    ByeDpiConfig.lastSome_options outside, alike, same]

theorem composes_const (given : CiadpiOpt × Option String → Option α) (x : α) :
    Composes fun _ b => ∀ y ∈ lastSome given b, y = x where
  nil := nofun
  append := by
    intro _ a _ b first second y member
    rw [lastSome_append] at member
    rcases Option.or_eq_some_iff.mp member with later | ⟨_, before⟩
    · exact second y later
    · exact first y before

/-- What is set is what the written line ends with, unless something else is passed
through. -/
theorem ByeDpiConfig.Sets.lastSome_set {x : α} (sets : config.Sets value opt config')
    (listen : opt.isGroupTyped = false)
    (outside : ∀ o, o.1.isGroupTyped = true → given o = none)
    (new : lastSome given config'.listenOptions = some x)
    (free : ∀ o ∈ seen, ∀ y ∈ given o, y = x)
    (expands : config.division.expand seen = some e)
    (expands' : config'.division.expand seen = some e') :
    lastSome given (config'.options ++ e') = some x := by
  have step : ∀ y ∈ lastSome given config'.listenOptions, y = x := by
    rw [new]
    rintro _ ⟨⟩
    rfl
  have self : ∀ l : List (CiadpiOpt × Option String), (∀ o ∈ l, o.1.isGroupTyped = true) →
      ∀ y ∈ lastSome given l, y = x := by
    intro l typed y member
    rw [lastSome_eq_none.mpr fun o inside => outside o (typed o inside)] at member
    cases member
  have alone : ∀ o ∈ seen, ∀ y ∈ lastSome given [o], y = x := by
    intro o member
    rw [lastSome_singleton]
    exact free o member
  have related := sets.related listen (composes_const given x) step self
  obtain ⟨e'', expands'', alike⟩ := related.expand (composes_const given x) alone expands
  obtain rfl := Option.some.inj (expands'.symm.trans expands'')
  rw [lastSome_append, ByeDpiConfig.lastSome_options outside, new]
  cases last : lastSome given e' with
  | none => rfl
  | some y =>
      rw [alike y last]
      rfl

end Listen

theorem listens_snoc : host.listens (done ++ [o]) =
    ((host.given o).or (host.listens done).1, (portGiven o).or (host.listens done).2.1,
      (connGiven o).or (host.listens done).2.2) := by
  simp only [listens_append, CiadpiHost.gives, lastSome_singleton]

theorem composes_acting : Composes fun a b =>
    a.filter (fun o => o.1.actsOnGroup) = b.filter (fun o => o.1.actsOnGroup) where
  nil := rfl
  append := by
    intro a a' b b' first second
    rw [List.filter_append, List.filter_append, first, second]

theorem simulates_acting {a b : List (CiadpiOpt × Option String)}
    (same : a.filter (fun o => o.1.actsOnGroup) = b.filter (fun o => o.1.actsOnGroup)) :
    Simulates host.stepGroups a b :=
  simulates_of_filter (fun _ idle groups => stepGroups_idle idle groups) same

theorem listenOptions_acting (config : ByeDpiConfig) :
    config.listenOptions.filter (fun o => o.1.actsOnGroup) = [] := by
  rw [List.filter_eq_nil_iff]
  intro o member
  rcases config.listenOptions_plain o member with opt | opt | opt <;> rw [opt] <;> decide

/-- What an option that clashes with nothing gives is not given otherwise. -/
theorem free_of_differ {α : Type} [DecidableEq α] {given : CiadpiOpt × Option String → Option α}
    {x : α} (free : ∀ o' ∈ seen, differ given o' o = false) (here : given o = some x) :
    ∀ o' ∈ seen, ∀ y ∈ given o', y = x :=
  fun o' member _ gives => eq_of_differ (free o' member) gives here

/-- Without a second group all that is written is in the open one. -/
theorem ByeDpiConfig.current_eq (config : ByeDpiConfig) (single : config.autoParams = none) :
    config.division.current = config.listenOptions ++ config.groupOptions := by
  rw [division, single, groupOptions_eq, autoOptions, single]
  simp [firstGroup, valueOptions]

theorem ByeDpiConfig.Sets.ne_copy (sets : config.Sets value opt config') : opt ≠ .copy := by
  cases sets <;> decide

theorem ByeDpiConfig.Sets.isLimit (sets : config.Sets value opt config') :
    opt.isLimit = false := by
  cases sets <;> rfl

theorem ByeDpiConfig.Sets.listenOptions (sets : config.Sets value opt config')
    (typed : opt.isGroupTyped = true) : config'.listenOptions = config.listenOptions := by
  cases sets <;> first
    | rfl
    | cases typed

section Typed

variable (sets : config.Sets value opt config')
  (fits : config.fits (host.listens done).2.1 (opt, some value) = true)
  (free : ∀ o ∈ seen, host.clashes o (opt, some value) = false)
  (valid : host.Valid (opt, some value))

include sets fits free valid

theorem ByeDpiConfig.Sets.gives {e' : List (CiadpiOpt × Option String)}
    (listen : opt.isGroupTyped = false) (sound : config.Sound host)
    (written : Agrees host config seen done e)
    (expands' : config'.division.expand seen = some e') :
    host.gives (config'.options ++ e') = host.listens (done ++ [(opt, some value)]) := by
  obtain ⟨expands, listens, _⟩ := written
  have sound' := sets.sound fits valid sound
  have kept : ∀ {α : Type} {given : CiadpiOpt × Option String → Option α},
      (∀ o, o.1.isGroupTyped = true → given o = none) →
      lastSome given config.listenOptions = lastSome given config'.listenOptions →
      lastSome given (config'.options ++ e') = lastSome given (config.options ++ e) :=
    fun outside same => sets.lastSome_kept listen outside same expands expands'
  have set : ∀ {α : Type} [DecidableEq α] {given : CiadpiOpt × Option String → Option α} {x : α},
      (∀ o, o.1.isGroupTyped = true → given o = none) →
      lastSome given config'.listenOptions = some x → given (opt, some value) = some x →
      (∀ o ∈ seen, differ given o (opt, some value) = false) →
      lastSome given (config'.options ++ e') = some x :=
    fun outside new here free =>
      sets.lastSome_set listen outside new (free_of_differ free here) expands expands'
  have address : ∀ a b : ByeDpiConfig, a.listenIp = b.listenIp →
      lastSome host.given a.listenOptions = lastSome host.given b.listenOptions := by
    intro a b same
    rw [a.listenOptions_given, b.listenOptions_given, same]
  simp only [CiadpiHost.clashes, Bool.or_eq_false_iff] at free
  rw [listens_snoc, ← listens]
  cases sets with
  | ip =>
      obtain ⟨addr, given⟩ := ByeDpiConfig.Sets.given_eq fits valid
      simp only [ByeDpiConfig.fits, Bool.and_eq_true, Bool.or_eq_true, decide_eq_true_eq] at fits
      refine Prod.ext ?_ (Prod.ext ?_ ?_)
      · change lastSome host.given _ = (host.given _).or _
        rw [given, set given_outside ((ByeDpiConfig.listenOptions_given _).trans given) given
          fun o member => (free o member).1.1.1]
        rfl
      · change lastSome portGiven _ = (portGiven _).or _
        rw [kept portGiven_outside (sound.listenOptions_port.trans sound'.listenOptions_port.symm),
          portGiven_ip rfl]
        rcases fits.2 with none | some
        · rw [none, Option.none_or]
          rfl
        · rw [some, ← listens, Option.or_self]
          rfl
      · exact kept connGiven_outside
          (sound.listenOptions_conn.trans sound'.listenOptions_conn.symm)
  | port parsed =>
      obtain ⟨given, _⟩ := ByeDpiConfig.Sets.portGiven_eq fits valid parsed
      refine Prod.ext ?_ (Prod.ext ?_ ?_)
      · exact kept given_outside (address _ _ rfl)
      · change lastSome portGiven _ = (portGiven _).or _
        rw [given, set portGiven_outside sound'.listenOptions_port given
          fun o member => by simpa using (free o member).1.1.2]
        rfl
      · exact kept connGiven_outside
          (sound.listenOptions_conn.trans sound'.listenOptions_conn.symm)
  | maxConn parsed =>
      obtain ⟨given, _⟩ := ByeDpiConfig.Sets.connGiven_eq fits valid parsed
      refine Prod.ext ?_ (Prod.ext ?_ ?_)
      · exact kept given_outside (address _ _ rfl)
      · exact kept portGiven_outside
          (sound.listenOptions_port.trans sound'.listenOptions_port.symm)
      · change lastSome connGiven _ = (connGiven _).or _
        rw [given, set connGiven_outside sound'.listenOptions_conn given
          fun o member => (free o member).1.2]
        rfl
  | _ => cases listen

/-- An option that sets the address, the port or the limit. -/
theorem Follows.listen (follows : Follows host config read seen done)
    (listen : opt.isGroupTyped = false) :
    Follows host config' (read ++ [(opt, some value)]) seen (done ++ [(opt, some value)]) := by
  obtain ⟨course, sound, seenValid, related, e, written⟩ := follows
  have plain : opt ≠ .auto ∧ opt ≠ .copy ∧ opt.actsOnGroup = false := by
    cases sets <;> first
      | exact ⟨nofun, nofun, rfl⟩
      | cases listen
  obtain ⟨inside, other, idle⟩ := plain
  have stays : (read.foldl Division.add .start).comesTo (opt, some value) =
      some [(opt, some value)] := if_pos (by simp [jumpless, other])
  have acting := sets.related listen composes_acting
    ((listenOptions_acting config).trans (listenOptions_acting config').symm) fun _ _ => rfl
  obtain ⟨e', expands', same⟩ := acting.expand composes_acting (fun _ _ => rfl) written.expands
  refine ⟨expand_snoc course stays, sets.sound fits valid sound, seenValid, ?_, e', expands',
    sets.gives fits free valid listen sound written expands', ?_⟩
  · rw [List.foldl_append, List.foldl_cons, List.foldl_nil, Division.add_plain _ inside other]
    have first : Division.Related (Simulates host.stepGroups)
        ⟨_, (read.foldl Division.add .start).current ++ [(opt, some value)]⟩
        (read.foldl Division.add .start) :=
      ⟨List.forall₂_same.mpr fun _ _ => Simulates.refl _, simulates_idle (stepGroups_idle idle)⟩
    have last : Division.Related (Simulates host.stepGroups)
        (seen.foldl Division.add config.division) (seen.foldl Division.add config'.division) :=
      (acting.foldl composes_acting fun _ _ => rfl).imp fun _ _ same => simulates_acting same
    exact (first.trans (fun _ _ _ => .trans) related).trans (fun _ _ _ => .trans) last
  · obtain ⟨parts, auto, mode⟩ := sets.listen listen
    have line : config'.groupOptions = config.groupOptions := by
      rw [config'.groupOptions_eq, config.groupOptions_eq, parts, ByeDpiConfig.autoOptions,
        ByeDpiConfig.autoOptions, auto, mode]
    refine (simulates_idle (stepGroups_idle idle)).trans (written.groups.trans ?_)
    rw [line]
    exact (Simulates.refl _).append (simulates_acting same)

omit valid fits in
/-- An option that sets something of a group finds no other group among the options that
have been passed through. -/
theorem ByeDpiConfig.Sets.inside (typed : opt.isGroupTyped = true) : ∀ o ∈ seen, o.1 ≠ .auto := by
  intro o member auto
  have clash := free o member
  have acts : opt.actsOnGroup = true := by
    cases sets <;> first
      | rfl
      | cases typed
  simp [CiadpiHost.clashes, groupClash, auto, acts] at clash

omit free valid in
/-- Behind the second group that is written only the auto level can be set. -/
theorem ByeDpiConfig.Sets.auto_or (typed : opt.isGroupTyped = true) :
    config.autoParams = none ∨ opt = .autoMode ∧ config'.autoParams = config.autoParams ∧
      config'.firstGroup = config.firstGroup := by
  cases sets with
  | autoMode => exact .inr ⟨rfl, rfl, rfl⟩
  | split | disorder | fake | ttl | auto =>
      simp only [ByeDpiConfig.fits, Bool.and_eq_true, Option.isNone_iff_eq_none] at fits
      tauto
  | ip | port | maxConn => cases typed

/-- The options that have been passed through come to the same. -/
theorem ByeDpiConfig.Sets.expand (typed : opt.isGroupTyped = true)
    (expands : config.division.expand seen = some e) :
    config'.division.expand seen = some e ∧
      ∀ o ∈ e, groupClash o (opt, some value) = false := by
  have inside := sets.inside free typed
  have clashless : ∀ o ∈ seen, groupClash o (opt, some value) = false := by
    intro o member
    have clash := free o member
    simp only [CiadpiHost.clashes, Bool.or_eq_false_iff] at clash
    exact clash.2
  by_cases single : config.autoParams = none
  · have empty : config.division.finished = [] := by rw [ByeDpiConfig.division, single]
    have stay := Division.jumpless_of_expand empty inside expands
    rw [Division.expand_jumpless _ stay] at expands
    cases expands
    exact ⟨Division.expand_jumpless _ stay, clashless⟩
  · obtain ⟨rfl, same, first⟩ := (sets.auto_or fits typed).resolve_left single
    have division : ∀ c : ByeDpiConfig, c.autoParams = config.autoParams →
        c.division = ⟨[c.firstGroup], valueOptions .autoMode c.autoMode⟩ := by
      intro c auto
      rw [ByeDpiConfig.division, auto]
      cases text : config.autoParams with
      | none => exact absurd text single
      | some text => rfl
    constructor
    · rw [← expands]
      refine Division.expand_congr ?_ inside
      rw [division config' same, division config rfl, first]
    · intro o member
      have plain : o.1 ≠ .auto := by
        rw [division config rfl] at expands
        rcases Division.mem_expand expands member with ⟨here, _⟩ | mode | ⟨group, here, member⟩
        · exact inside o here
        · rw [mem_valueOptions mode]
          decide
        · rw [List.mem_singleton.mp here] at member
          exact (config.firstGroup_plain o member).1
      have other : CiadpiOpt.autoMode ≠ .auto := by decide
      exact groupClash_eq_false plain other (.inr rfl) (.inr rfl)

omit free valid in
/-- The open group does what it did before with the option behind it. -/
theorem ByeDpiConfig.Sets.current (typed : opt.isGroupTyped = true) (other : opt ≠ .auto) :
    Simulates host.stepGroups (config.division.current ++ [(opt, some value)])
      config'.division.current := by
  by_cases single : config.autoParams = none
  · have single' : config'.autoParams = none := by
      cases sets <;> first
        | exact single
        | exact absurd rfl other
    rw [config.current_eq single, config'.current_eq single', sets.listenOptions typed]
    exact simulates_behind (sets.groups fits)
  · obtain ⟨rfl, same, _⟩ := (sets.auto_or fits typed).resolve_left single
    cases sets
    simp only [ByeDpiConfig.division]
    cases text : config.autoParams with
    | none => exact absurd text single
    | some text => exact simulates_autoMode fits

omit free valid in
theorem ByeDpiConfig.Sets.finished (typed : opt.isGroupTyped = true) (other : opt ≠ .auto) :
    config'.division.finished = config.division.finished := by
  by_cases single : config.autoParams = none
  · have single' : config'.autoParams = none := by
      cases sets <;> first
        | exact single
        | exact absurd rfl other
    rw [ByeDpiConfig.division, ByeDpiConfig.division, single, single']
  · obtain ⟨rfl, same, first⟩ := (sets.auto_or fits typed).resolve_left single
    rw [ByeDpiConfig.division, ByeDpiConfig.division, same, first]
    cases config.autoParams <;> rfl

omit valid in
/-- The groups on both sides, with one more option of a group. -/
theorem ByeDpiConfig.Sets.groups_related (typed : opt.isGroupTyped = true)
    (related : Division.Related (Simulates host.stepGroups) (read.foldl Division.add .start)
      (seen.foldl Division.add config.division)) :
    Division.Related (Simulates host.stepGroups)
      ((read ++ [(opt, some value)]).foldl Division.add .start)
      (seen.foldl Division.add config'.division) := by
  have inside := sets.inside free typed
  rw [Division.foldl_add _ inside] at related ⊢
  rw [List.foldl_append, List.foldl_cons, List.foldl_nil]
  obtain ⟨finished, current⟩ := related
  have clashless : ∀ o ∈ seen.filter (·.1 ≠ .copy), groupClash o (opt, some value) = false := by
    intro o member
    have clash := free o (List.mem_of_mem_filter member)
    simp only [CiadpiHost.clashes, Bool.or_eq_false_iff] at clash
    exact clash.2
  by_cases auto : opt = .auto
  · -- what has been passed through does nothing on the group that is finished here
    subst auto
    cases sets
    simp only [ByeDpiConfig.fits, Bool.and_eq_true, Option.isNone_iff_eq_none] at fits
    obtain ⟨single, mode⟩ := fits
    have idle : (seen.filter (·.1 ≠ .copy)).filter (fun o => o.1.actsOnGroup) = [] := by
      rw [List.filter_eq_nil_iff]
      intro o member
      have clash := clashless o member
      simp only [groupClash, Bool.or_eq_false_iff] at clash
      simpa using clash.1.1.2
    simp only [ByeDpiConfig.division, single, mode] at finished current ⊢
    have empty : (read.foldl Division.add .start).finished = [] :=
      List.forall₂_nil_right_iff.mp finished
    change Division.Related _ ⟨(read.foldl Division.add .start).finished ++ [_], []⟩ _
    rw [empty]
    refine ⟨.cons (current.trans (simulates_acting ?_)) .nil, simulates_acting ?_⟩
    · rw [List.filter_append, idle]
      simp only [valueOptions, Option.map_none, Option.toList_none, List.append_nil]
      rfl
    · rw [List.filter_append, idle]
      rfl
  · rw [Division.add_plain _ auto sets.ne_copy]
    refine ⟨?_, ?_⟩
    · rw [sets.finished fits typed auto]
      exact finished
    · have swapped : Simulates host.stepGroups
          (config.division.current ++ seen.filter (·.1 ≠ .copy) ++ [(opt, some value)])
          (config.division.current ++ [(opt, some value)] ++ seen.filter (·.1 ≠ .copy)) := by
        rw [List.append_assoc _ [(opt, some value)]]
        exact simulates_behind (simulates_swaps fun o member =>
          stepGroups_swaps (clashless o member) sets.isLimit)
      exact ((current.append (Simulates.refl _)).trans swapped).trans
        ((sets.current fits typed auto).append (Simulates.refl _))

/-- An option that sets something of a group. -/
theorem Follows.group (follows : Follows host config read seen done)
    (typed : opt.isGroupTyped = true) :
    Follows host config' (read ++ [(opt, some value)]) seen (done ++ [(opt, some value)]) := by
  obtain ⟨course, sound, seenValid, related, e, written⟩ := follows
  have stays : (read.foldl Division.add .start).comesTo (opt, some value) =
      some [(opt, some value)] := if_pos (by simp [jumpless, sets.ne_copy])
  obtain ⟨expands', clashless⟩ := sets.expand fits free valid typed written.expands
  refine ⟨expand_snoc course stays, sets.sound fits valid sound, seenValid,
    sets.groups_related fits free typed related, e, expands', ?_, ?_⟩
  · have same : host.gives config'.options = host.gives config.options := by
      simp only [CiadpiHost.gives, ByeDpiConfig.lastSome_options given_outside,
        ByeDpiConfig.lastSome_options portGiven_outside,
        ByeDpiConfig.lastSome_options connGiven_outside, sets.listenOptions typed]
    rw [listens_snoc, given_outside _ typed, portGiven_outside _ typed, connGiven_outside _ typed,
      gives_append, same, ← gives_append, written.listens]
    rfl
  · have swapped : Simulates host.stepGroups
        (config.groupOptions ++ e ++ [(opt, some value)])
        (config.groupOptions ++ [(opt, some value)] ++ e) := by
      rw [List.append_assoc _ [(opt, some value)]]
      exact simulates_behind (simulates_swaps fun o member =>
        stepGroups_swaps (clashless o member) sets.isLimit)
    exact ((written.groups.append (Simulates.refl _)).trans swapped).trans
      ((sets.groups fits).append (Simulates.refl _))

end Typed

theorem Follows.typed (follows : Follows host config read seen done)
    (sets : config.Sets value opt config')
    (allows : config.allows host read seen (opt, some value) = true)
    (valid : host.Valid (opt, some value)) :
    Follows host config' (read ++ [(opt, some value)]) seen (done ++ [(opt, some value)]) := by
  simp only [ByeDpiConfig.allows, expanded, follows.course, Option.getD_some, Bool.and_eq_true,
    List.all_eq_true, Bool.not_eq_true'] at allows
  obtain ⟨fits, free⟩ := allows
  cases typed : opt.isGroupTyped with
  | false => exact follows.listen sets fits free valid typed
  | true => exact follows.group sets fits free valid typed

/-! ### The whole list -/

theorem parse_found (classified : ciadpiTable.classify arg = .options found .done) :
    ciadpiTable.parse ciadpiLook (arg :: rest) =
      (ciadpiTable.parse ciadpiLook rest).map (found ++ ·) := by
  simp [parse_done classified, ciadpiLook]

theorem parse_found_value (classified : ciadpiTable.classify arg = .options found (.needs opt)) :
    ciadpiTable.parse ciadpiLook (arg :: value :: rest) =
      (ciadpiTable.parse ciadpiLook rest).map ((found ++ [(opt, some value)]) ++ ·) := by
  simp [parse_needs classified, ciadpiLook]

theorem classify_valueOption
    {set : ByeDpiConfig → String → Except ByeDpiAdapterError ByeDpiConfig}
    (option : ByeDpiConfig.valueOption arg = some set) :
    ∃ opt, ciadpiTable.classify arg = .options [] (.needs opt) := by
  unfold ByeDpiConfig.valueOption at option
  split at option <;> first
    | exact ⟨_, rfl⟩
    | cases option

/-- What a line with these options in front comes to. -/
theorem split_expanded {first : List (CiadpiOpt × Option String)} {whole : List String}
    (split : ciadpiTable.parse ciadpiLook whole =
      (ciadpiTable.parse ciadpiLook rest).map (first ++ ·))
    (parsed : ciadpiTable.parse ciadpiLook whole = some opts)
    (expands : (read.foldl Division.add .start).expand opts = some more)
    (valid : ∀ o ∈ more, host.Valid o) :
    ∃ others found more', opts = first ++ others ∧ more = found ++ more' ∧
      ciadpiTable.parse ciadpiLook rest = some others ∧
      (read.foldl Division.add .start).expand first = some found ∧
      ((read ++ first).foldl Division.add .start).expand others = some more' ∧
      (∀ o ∈ found, host.Valid o) ∧ ∀ o ∈ more', host.Valid o := by
  rw [split] at parsed
  obtain ⟨others, behind, rfl⟩ := Option.map_eq_some_iff.mp parsed
  rw [Division.expand_append] at expands
  obtain ⟨found, before, both⟩ := Option.bind_eq_some_iff.mp expands
  obtain ⟨more', after, rfl⟩ := Option.map_eq_some_iff.mp both
  rw [List.forall_mem_append] at valid
  exact ⟨others, found, more', rfl, rfl, behind, before,
    by rw [List.foldl_append]; exact after, valid.1, valid.2⟩

/-- Both sides can be followed through an argument list in which nothing is lost. -/
theorem Follows.readArgs (follows : Follows host config read seen done)
    (kept : config.keeps host read seen args = true) (ok : config.readArgs args = .ok config')
    (parsed : ciadpiTable.parse ciadpiLook args = some opts)
    (expands : (read.foldl Division.add .start).expand opts = some more)
    (valid : ∀ o ∈ more, host.Valid o) :
    ∃ custom, ciadpiTable.parse ciadpiLook (ByeDpiConfig.passed args) = some custom ∧
      Follows host config' (read ++ opts) (seen ++ custom) (done ++ more) := by
  -- one case for each way `keeps` can go on: a typed option with its value goes to its field,
  -- everything else is passed through, and the rest are lists that one of the sides refuses
  fun_induction ByeDpiConfig.keeps config host read seen args generalizing done opts more with
  | case1 config read seen =>
      cases ok
      cases parsed
      cases expands
      exact ⟨[], rfl, by simpa using follows⟩
  | case2 config read seen arg set option =>
      obtain ⟨opt, classified⟩ := classify_valueOption option
      rw [parse_needs_nil classified] at parsed
      cases parsed
  | case3 config read seen arg set option value beyond e failed =>
      rw [ByeDpiConfig.readArgs_error option failed] at ok
      cases ok
  | case4 config read seen arg set option value beyond next accepted unnamed =>
      obtain ⟨opt, classified⟩ := classify_valueOption option
      rw [typedCiadpiOpt, classified] at unnamed
      cases unnamed
  | case5 config read seen arg set option value beyond next accepted opt named ih =>
      obtain ⟨opt', classified, sets⟩ := sets_of_valueOption option accepted
      have same : opt' = opt := by
        rw [typedCiadpiOpt, classified] at named
        exact Option.some.inj named
      subst same
      rw [Bool.and_eq_true] at kept
      rw [ByeDpiConfig.readArgs_value option accepted] at ok
      obtain ⟨others, found, more', rfl, rfl, parsed, before, after, validFound, validMore⟩ :=
        split_expanded (parse_found_value classified) parsed expands valid
      have stays : ∀ o ∈ [] ++ [(opt', some value)], jumpless o = true := by
        intro o member
        obtain rfl := List.mem_singleton.mp member
        simp [jumpless, sets.ne_copy]
      rw [Division.expand_jumpless _ stays] at before
      cases before
      have next := follows.typed sets kept.1 (validFound _ List.mem_cons_self)
      obtain ⟨custom, behind, last⟩ := ih next kept.2 ok parsed after validMore
      rw [ByeDpiConfig.passed_value option]
      exact ⟨custom, behind, by simpa using last⟩
  | case6 config read seen arg rest option plain ih =>
      rw [ByeDpiConfig.readArgs_pass option] at ok
      rw [parse_plain plain] at parsed
      rw [ByeDpiConfig.passed_pass option, parse_plain plain]
      exact ih (follows.withCustomArgs _) kept ok parsed expands valid
  | case7 config read seen arg rest option stop =>
      rw [parse_stop stop] at parsed
      cases parsed
      cases expands
      rw [ByeDpiConfig.readArgs_pass option] at ok
      rw [ByeDpiConfig.unmoved, ok, decide_eq_true_eq] at kept
      rw [kept]
      refine ⟨[], ?_, ?_⟩
      · rw [ByeDpiConfig.passed_pass option, parse_stop stop]
      · rw [List.append_nil, List.append_nil, List.append_nil]
        exact follows.withCustomArgs _
  | case8 config read seen arg rest option found classified ih =>
      rw [Bool.and_eq_true] at kept
      rw [ByeDpiConfig.readArgs_pass option] at ok
      obtain ⟨others, found', more', rfl, rfl, parsed, before, after, validFound, validMore⟩ :=
        split_expanded (parse_found classified) parsed expands valid
      have next := (follows.passedAll before validFound kept.1).withCustomArgs
        (config.customArgs ++ [arg])
      obtain ⟨custom, behind, last⟩ := ih next kept.2 ok parsed after validMore
      refine ⟨found ++ custom, ?_, by simpa using last⟩
      rw [ByeDpiConfig.passed_pass option, parse_found classified, behind]
      rfl
  | case9 config read seen arg option found opt classified =>
      rw [parse_needs_nil classified] at parsed
      cases parsed
  | case10 config read seen arg option found opt classified value beyond ih =>
      simp only [Bool.and_eq_true, Option.isNone_iff_eq_none] at kept
      obtain ⟨valueless, allowed, kept⟩ := kept
      rw [ByeDpiConfig.readArgs_pass option, ByeDpiConfig.readArgs_pass valueless] at ok
      obtain ⟨others, found', more', rfl, rfl, parsed, before, after, validFound, validMore⟩ :=
        split_expanded (parse_found_value classified) parsed expands valid
      have next := (follows.passedAll before validFound allowed).withCustomArgs
        (config.customArgs ++ [arg] ++ [value])
      obtain ⟨custom, behind, last⟩ := ih next kept ok parsed after validMore
      refine ⟨found ++ [(opt, some value)] ++ custom, ?_, by simpa using last⟩
      rw [ByeDpiConfig.passed_pass option, ByeDpiConfig.passed_pass valueless,
        parse_found_value classified, behind]
      rfl
  | case11 config read seen arg rest option found bad =>
      rw [parse_bad bad] at parsed
      cases parsed

/-! ### The whole translation -/

theorem follows_default (host : CiadpiHost) : Follows host .default [] [] [] := by
  have given : host.given (.ip, some "127.0.0.1") = some loopbackAddr := by
    have read : host.getAddr "127.0.0.1".toList =
        (host.numericHost "127.0.0.1").map fun addr => (some addr, none) := rfl
    change ((host.getAddr "127.0.0.1".toList).map _).bind _ = _
    rw [read, host.loopback]
    rfl
  have sound : ByeDpiConfig.default.Sound host :=
    ⟨by rw [ByeDpiConfig.default, given]; rfl, by decide, nofun⟩
  refine ⟨rfl, sound, nofun, ⟨.nil, ?_⟩, [], rfl, ?_, Simulates.refl _⟩
  · exact simulates_acting rfl
  · have address : lastSome host.given ByeDpiConfig.default.options = some loopbackAddr := by
      rw [ByeDpiConfig.lastSome_options given_outside, ByeDpiConfig.listenOptions_given]
      exact given
    rw [List.append_nil, CiadpiHost.gives, address]
    rfl

/-- The address that the options of a command line give. -/
def CiadpiHost.givenIn (host : CiadpiHost) (args : List String) : Option IpAddr :=
  (ciadpiTable.parse ciadpiLook args).bind (lastSome host.given)

/-- A copy gives an address only if one is given. -/
theorem givenIn_eq_none (parsed : ciadpiTable.parse ciadpiLook args = some opts)
    (expands : Division.start.expand opts = some more) :
    host.givenIn args = none ↔ lastSome host.given more = none := by
  rw [CiadpiHost.givenIn, parsed, Option.bind_some, lastSome_eq_none, lastSome_eq_none]
  constructor
  · intro none o member
    rcases Division.mem_expand expands member with ⟨inside, _⟩ | nothing | ⟨_, nothing, _⟩
    · exact none o inside
    · cases nothing
    · cases nothing
  · intro none o member
    cases stays : jumpless o with
    | true => exact none o (Division.mem_expand_of_jumpless expands member stays)
    | false =>
        simp only [jumpless, Bool.or_eq_false_iff, decide_eq_false_iff_not, not_not] at stays
        exact if_neg (by rw [stays.1]; decide)

end ZonDpi.Engine
