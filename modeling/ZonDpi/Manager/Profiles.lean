import ZonDpi.Manager.Program
import ZonDpi.Std.Serde

/-!
# Where profiles are found (`runtime_paths.rs`)

`resolve_profile_path` looks for a profile in a list of directories, first by the name of
the file and then by the identifier inside. It is a program over three requests to the file
system, so that what it asks for is a part of the model: an identifier that is refused
leads to no request at all.

A `Volume` answers the requests. `Volume.offered` lists the profiles in its directories in
the order of the searches, and the two passes of the search are the first file of that name
(`eval_findNamed`) and the first profile of that identifier (`eval_scanRoots`).

How a text is parsed is given by `parse`; `profileFromStr` is what `serde_json` does. The
install, data and log directories, which no modelled function reads, are left out, and a
directory that cannot be listed holds nothing for the second pass.
-/

namespace ZonDpi.Manager

open Effects ZonDpi.Std ZonDpi.Engine

/-- A file directly in a directory. -/
structure ProfilePath where
  root : String
  fileName : String
deriving DecidableEq, Repr

/-- `PathBuf::join` for a directory that does not end in a separator. -/
def ProfilePath.text (path : ProfilePath) : String := path.root ++ "\\" ++ path.fileName

/-- A name in a directory, as opposed to a path. -/
def IsFileName (name : String) : Prop :=
  name ≠ "" ∧ name ≠ "." ∧ name ≠ ".." ∧ '/' ∉ name.toList ∧ '\\' ∉ name.toList

instance (name : String) : Decidable (IsFileName name) := inferInstanceAs (Decidable (_ ∧ _))

/-- `Path::extension`: what stands behind the last dot, unless that is the first
character. -/
def extension (name : String) : Option (List Char) :=
  if name = ".." then none
  else
    match name.toList.reverse.dropWhile (· ≠ '.') with
    | [] | [_] => none
    | _ => some (name.toList.reverse.takeWhile (· ≠ '.')).reverse

example : extension "a.json" = some "json".toList ∧ extension "a.b.json" = some "json".toList ∧
    extension ".json" = none ∧ extension "json" = none ∧ extension "a." = some [] := by decide

/-- `serde_json::from_str::<ProfileDefinition>` -/
def profileFromStr : String → Option ProfileDefinition :=
  Serde.fromStr fun doc =>
    match Serde.members ["id", "name", "description", "target_engine", "arguments"] doc with
    | some [id, name, description, targetEngine, arguments] => do
        let id ← Serde.required Serde.string id
        let name ← Serde.required Serde.string name
        let description ← Serde.required Serde.string description
        let targetEngine ← Serde.required Serde.string targetEngine
        let arguments ← Serde.required (Serde.vec Serde.string) arguments
        return ⟨id, name, description, targetEngine, arguments⟩
    | _ => none

/-! ### Requests -/

inductive FileReq where
  | isFile (path : ProfilePath)
  /-- `fs::read_dir`, with the names of the entries -/
  | readDir (root : String)
  | readToString (path : ProfilePath)

abbrev FileResp : FileReq → Type
  | .isFile _ => Bool
  | .readDir _ => Option (List String)
  | .readToString _ => Option String

abbrev FileProg (α : Type) : Type := Prog FileReq FileResp α

def isFile (path : ProfilePath) : FileProg Bool := Prog.ask (FileReq.isFile path)

def readDir (root : String) : FileProg (Option (List String)) := Prog.ask (FileReq.readDir root)

def readToString (path : ProfilePath) : FileProg (Option String) :=
  Prog.ask (FileReq.readToString path)

/-! ### The search -/

/-- What the searches need to know: the characters of identifiers, how a text is parsed and
where to look. -/
structure RuntimePaths where
  alphanumeric : Alphanumeric
  parse : String → Except String ProfileDefinition
  profileRoots : List String

namespace RuntimePaths

variable (paths : RuntimePaths)

def isIdChar (c : Char) : Bool := paths.alphanumeric.test c || c = '_' || c = '-'

def refuses (profileId : String) : Bool :=
  profileId = "" || '/' ∈ profileId.toList || '\\' ∈ profileId.toList ||
    contains "..".toList profileId.toList || !profileId.toList.all paths.isIdChar

def profileFileName (profileId : String) : String :=
  if ".json".toList.isSuffixOf profileId.toList then profileId else profileId ++ ".json"

/-- The profile in a file, if it is one: the tests that both `resolve_profile_path` and
`list_profiles` make of an entry. -/
def readProfile (path : ProfilePath) : FileProg (Option ProfileDefinition) := do
  if extension path.fileName = some "json".toList then
    match ← readToString path with
    | some content =>
        match paths.parse content with
        | .ok profile => return some profile
        | .error _ => return none
    | none => return none
  else return none

/-- The first pass: a file of this name. -/
def findNamed (fileName : String) : List String → FileProg (Option ProfilePath)
  | [] => return none
  | root :: rest => do
      if ← isFile ⟨root, fileName⟩ then return some ⟨root, fileName⟩
      else findNamed fileName rest

/-- The entries of one directory in the second pass. -/
def scanEntries (profileId root : String) : List String → FileProg (Option ProfilePath)
  | [] => return none
  | name :: rest => do
      match ← paths.readProfile ⟨root, name⟩ with
      | some profile =>
          if profile.id = profileId then return some ⟨root, name⟩
          else scanEntries profileId root rest
      | none => scanEntries profileId root rest

/-- The second pass: a profile with this identifier. -/
def scanRoots (profileId : String) : List String → FileProg (Option ProfilePath)
  | [] => return none
  | root :: rest => do
      match ← readDir root with
      | some names =>
          match ← paths.scanEntries profileId root names with
          | some path => return some path
          | none => scanRoots profileId rest
      | none => scanRoots profileId rest

def resolveProfilePath (profileId : String) : FileProg (Except PathError ProfilePath) :=
  if paths.refuses profileId then return .error (.invalidProfileId profileId)
  else do
    let fileName := profileFileName profileId
    match ← findNamed fileName paths.profileRoots with
    | some path => return .ok path
    | none =>
        match ← paths.scanRoots profileId paths.profileRoots with
        | some path => return .ok path
        | none =>
            return .error (.profileNotFound profileId
              (paths.profileRoots.map fun root => ProfilePath.text ⟨root, fileName⟩))

end RuntimePaths

/-! ### Volumes -/

/-- What is in the directories. -/
structure Volume where
  isFile : ProfilePath → Bool
  readDir : String → Option (List String)
  readToString : ProfilePath → Option String
  plain : ∀ root names, readDir root = some names → ∀ name ∈ names, IsFileName name

namespace Volume

def handler : Prog.Handler FileReq FileResp Volume where
  answer v
    | .isFile path => v.isFile path
    | .readDir root => v.readDir root
    | .readToString path => v.readToString path
  effect v _ _ := v

def eval {α : Type} (v : Volume) (p : FileProg α) : α := (p.run handler v).1

variable {α β : Type} (v : Volume)

theorem run_volume (p : FileProg α) : (p.run handler v).2 = v := by
  induction p with
  | pure value => rfl
  | request r next ih => exact ih _

@[simp] theorem eval_pure (value : α) : v.eval (pure value) = value := rfl

@[simp] theorem eval_bind (p : FileProg α) (k : α → FileProg β) :
    v.eval (p >>= k) = v.eval (k (v.eval p)) := by
  simp only [eval, Prog.run_bind, run_volume]

@[simp] theorem eval_isFile (path : ProfilePath) :
    v.eval (Manager.isFile path) = v.isFile path := rfl

@[simp] theorem eval_readDir (root : String) :
    v.eval (Manager.readDir root) = v.readDir root := rfl

@[simp] theorem eval_readToString (path : ProfilePath) :
    v.eval (Manager.readToString path) = v.readToString path := rfl

/-! ### What the searches find -/

variable (paths : RuntimePaths)

/-- The profile that a file holds. -/
def profileAt (path : ProfilePath) : Option ProfileDefinition :=
  if extension path.fileName = some "json".toList then
    (v.readToString path).bind fun content => (paths.parse content).toOption
  else none

/-- The profiles in one directory, in its order. -/
def offeredIn (root : String) : List (ProfilePath × ProfileDefinition) :=
  ((v.readDir root).getD []).filterMap fun name =>
    (v.profileAt paths ⟨root, name⟩).map fun profile => (⟨root, name⟩, profile)

/-- The profiles in all directories, in the order of the searches. -/
def offered (roots : List String) : List (ProfilePath × ProfileDefinition) :=
  roots.flatMap (v.offeredIn paths)

theorem eval_readProfile (path : ProfilePath) :
    v.eval (paths.readProfile path) = v.profileAt paths path := by
  unfold RuntimePaths.readProfile profileAt
  split_ifs with json
  · rw [eval_bind, eval_readToString]
    cases v.readToString path with
    | none => rfl
    | some content =>
        dsimp only [Option.bind_some]
        cases paths.parse content <;> rfl
  · rfl

theorem eval_findNamed (fileName : String) (roots : List String) :
    v.eval (RuntimePaths.findNamed fileName roots) =
      (roots.map fun root => ProfilePath.mk root fileName).find? v.isFile := by
  induction roots with
  | nil => rfl
  | cons root rest ih =>
      rw [RuntimePaths.findNamed, eval_bind, eval_isFile, List.map_cons, List.find?_cons]
      cases v.isFile ⟨root, fileName⟩ with
      | true => rfl
      | false => exact ih

theorem eval_scanEntries (profileId root : String) (names : List String) :
    v.eval (paths.scanEntries profileId root names) =
      ((names.filterMap fun name =>
          (v.profileAt paths ⟨root, name⟩).map fun profile =>
            (ProfilePath.mk root name, profile)).find?
        fun found => found.2.id = profileId).map Prod.fst := by
  induction names with
  | nil => rfl
  | cons name rest ih =>
      rw [RuntimePaths.scanEntries, eval_bind, eval_readProfile, List.filterMap_cons]
      cases v.profileAt paths ⟨root, name⟩ with
      | none => exact ih
      | some profile =>
          simp only [Option.map_some, List.find?_cons]
          by_cases same : profile.id = profileId
          · simp [same]
          · simp [same, ih]

theorem offered_cons (root : String) (rest : List String) :
    v.offered paths (root :: rest) = v.offeredIn paths root ++ v.offered paths rest :=
  List.flatMap_cons

theorem eval_scanRoots (profileId : String) (roots : List String) :
    v.eval (paths.scanRoots profileId roots) =
      ((v.offered paths roots).find? fun found => found.2.id = profileId).map Prod.fst := by
  induction roots with
  | nil => rfl
  | cons root rest ih =>
      rw [RuntimePaths.scanRoots, eval_bind, eval_readDir, offered_cons, List.find?_append,
        offeredIn]
      cases v.readDir root with
      | none => exact ih
      | some names =>
          dsimp only [Option.getD_some]
          rw [eval_bind, eval_scanEntries]
          cases List.find? (fun found => decide (found.2.id = profileId))
              (names.filterMap fun name => (v.profileAt paths ⟨root, name⟩).map fun profile =>
                (ProfilePath.mk root name, profile)) with
          | none => exact ih
          | some found => rfl

end Volume

/-! ### Identifiers -/

namespace RuntimePaths

variable {paths : RuntimePaths} {profileId : String}

theorem isIdChar_of_accepted (accepted : paths.refuses profileId = false) :
    profileId ≠ "" ∧ ∀ c ∈ profileId.toList, paths.isIdChar c = true := by
  simp only [refuses, Bool.or_eq_false_iff, decide_eq_false_iff_not, Bool.not_eq_false',
    List.all_eq_true] at accepted
  exact ⟨accepted.1.1.1.1, accepted.2⟩

/-- Separators and dots are no characters of an identifier. -/
theorem isIdChar_ne {c : Char} (idChar : paths.isIdChar c = true) :
    c ≠ '/' ∧ c ≠ '\\' ∧ c ≠ '.' := by
  have ascii : paths.alphanumeric.test '/' = false ∧ paths.alphanumeric.test '\\' = false ∧
      paths.alphanumeric.test '.' = false := by
    refine ⟨?_, ?_, ?_⟩ <;> rw [paths.alphanumeric.ascii _ (by decide)] <;> decide
  simp only [isIdChar, Bool.or_eq_true, decide_eq_true_eq] at idChar
  refine ⟨?_, ?_, ?_⟩ <;> rintro rfl <;> simp [ascii] at idChar

theorem refuses_of_mem {c : Char} (member : c ∈ profileId.toList)
    (other : paths.isIdChar c = false) : paths.refuses profileId = true := by
  by_contra accepted
  rw [Bool.not_eq_true] at accepted
  rw [(isIdChar_of_accepted accepted).2 c member] at other
  cases other

theorem accepted_of_isIdChar (present : profileId ≠ "")
    (idChars : ∀ c ∈ profileId.toList, paths.isIdChar c = true) :
    paths.refuses profileId = false := by
  have slash : '/' ∉ profileId.toList := fun member => (isIdChar_ne (idChars _ member)).1 rfl
  have backslash : '\\' ∉ profileId.toList := fun member => (isIdChar_ne (idChars _ member)).2.1 rfl
  have dots : contains "..".toList profileId.toList = false := by
    rw [← Bool.not_eq_true, contains_iff_within]
    intro inside
    exact (isIdChar_ne (idChars '.' (inside.subset (by decide)))).2.2 rfl
  have all : profileId.toList.all paths.isIdChar = true := List.all_eq_true.mpr idChars
  simp only [refuses, present, slash, backslash, dots, all]
  rfl

theorem profileFileName_eq (accepted : paths.refuses profileId = false) :
    profileFileName profileId = profileId ++ ".json" := by
  rw [profileFileName, if_neg]
  intro suffix
  have dot : '.' ∈ profileId.toList :=
    (List.isSuffixOf_iff_suffix.mp suffix).subset (by decide)
  exact (isIdChar_ne ((isIdChar_of_accepted accepted).2 '.' dot)).2.2 rfl

theorem json_ne (short : String) (length : short.toList.length < 5) :
    profileId ++ ".json" ≠ short := by
  rintro rfl
  rw [String.toList_append, List.length_append] at length
  have five : ".json".toList.length = 5 := by decide
  omega

theorem isFileName_json (accepted : paths.refuses profileId = false) :
    IsFileName (profileId ++ ".json") := by
  have idChars := (isIdChar_of_accepted accepted).2
  refine ⟨json_ne "" (by decide), json_ne "." (by decide), json_ne ".." (by decide), ?_, ?_⟩
  · rw [String.toList_append, List.mem_append]
    rintro (inside | behind)
    · exact (isIdChar_ne (idChars _ inside)).1 rfl
    · exact absurd behind (by decide)
  · rw [String.toList_append, List.mem_append]
    rintro (inside | behind)
    · exact (isIdChar_ne (idChars _ inside)).2.1 rfl
    · exact absurd behind (by decide)

theorem extension_json (present : profileId ≠ "") :
    extension (profileId ++ ".json") = some "json".toList := by
  have reversed : (profileId ++ ".json").toList.reverse =
      ['n', 'o', 's', 'j'] ++ '.' :: profileId.toList.reverse := by
    rw [String.toList_append, List.reverse_append]
    rfl
  obtain ⟨c, rest, id⟩ := List.exists_cons_of_ne_nil
    (show profileId.toList.reverse ≠ [] by simpa using present)
  rw [extension, if_neg (json_ne ".." (by decide)), reversed, id]
  rfl

/-! ### The result -/

/-- The file that the first pass finds. -/
def named (paths : RuntimePaths) (v : Volume) (profileId : String) : Option ProfilePath :=
  (paths.profileRoots.map fun root => ProfilePath.mk root (profileId ++ ".json")).find? v.isFile

/-- The file that the second pass finds. -/
def identified (paths : RuntimePaths) (v : Volume) (profileId : String) : Option ProfilePath :=
  ((v.offered paths paths.profileRoots).find? fun found => found.2.id = profileId).map Prod.fst

theorem eval_resolveProfilePath (v : Volume) (accepted : paths.refuses profileId = false) :
    v.eval (paths.resolveProfilePath profileId) =
      match (paths.named v profileId).or (paths.identified v profileId) with
      | some path => .ok path
      | none => .error (.profileNotFound profileId (paths.profileRoots.map fun root =>
          ProfilePath.text ⟨root, profileId ++ ".json"⟩)) := by
  rw [resolveProfilePath, accepted, if_neg Bool.false_ne_true]
  dsimp only
  rw [Volume.eval_bind, Volume.eval_findNamed, profileFileName_eq accepted, ← named]
  cases paths.named v profileId with
  | some path => rfl
  | none =>
      dsimp only [Option.none_or]
      rw [Volume.eval_bind, Volume.eval_scanRoots, ← identified]
      cases paths.identified v profileId <;> rfl

theorem accepted_of_ok {v : Volume} {path : ProfilePath}
    (found : v.eval (paths.resolveProfilePath profileId) = .ok path) :
    paths.refuses profileId = false := by
  cases accepted : paths.refuses profileId with
  | false => rfl
  | true =>
      rw [resolveProfilePath, accepted, if_pos rfl] at found
      cases found

end RuntimePaths

namespace Volume

variable (v : Volume) (paths : RuntimePaths)

/-- The directory has a file with this identifier as its name. -/
def Names (root profileId : String) : Prop := v.isFile ⟨root, profileId ++ ".json"⟩ = true

/-- The file is an entry of its directory, has the extension `json`, can be read and is a
profile with this identifier. -/
def Offers (path : ProfilePath) (profileId : String) : Prop :=
  (∃ names, v.readDir path.root = some names ∧ path.fileName ∈ names) ∧
    extension path.fileName = some "json".toList ∧
    ∃ content, v.readToString path = some content ∧
      ∃ profile, paths.parse content = .ok profile ∧ profile.id = profileId

variable {v paths}

theorem profileAt_eq_some {path : ProfilePath} {profile : ProfileDefinition} :
    v.profileAt paths path = some profile ↔
      extension path.fileName = some "json".toList ∧
        ∃ content, v.readToString path = some content ∧ paths.parse content = .ok profile := by
  unfold profileAt
  split_ifs with json
  · rw [Option.bind_eq_some_iff]
    simp only [json, true_and]
    refine exists_congr fun content => and_congr_right fun _ => ?_
    cases paths.parse content <;> simp [Except.toOption]
  · exact iff_of_false nofun fun found => json found.1

theorem mem_offeredIn {root : String} {path : ProfilePath} {profile : ProfileDefinition} :
    (path, profile) ∈ v.offeredIn paths root ↔
      path.root = root ∧ (∃ names, v.readDir root = some names ∧ path.fileName ∈ names) ∧
        v.profileAt paths path = some profile := by
  obtain ⟨root', name⟩ := path
  simp only [offeredIn, List.mem_filterMap, Option.map_eq_some_iff, Prod.mk.injEq,
    ProfilePath.mk.injEq]
  constructor
  · rintro ⟨name', member, profile', found, ⟨rfl, rfl⟩, rfl⟩
    cases listing : v.readDir root with
    | none => simp [listing] at member
    | some names => exact ⟨rfl, ⟨names, rfl, by simpa [listing] using member⟩, found⟩
  · rintro ⟨rfl, ⟨names, listing, member⟩, found⟩
    exact ⟨name, by simpa [listing] using member, profile, found, ⟨rfl, rfl⟩, rfl⟩

theorem offers_iff {path : ProfilePath} {profileId : String} :
    v.Offers paths path profileId ↔
      ∃ profile, (path, profile) ∈ v.offeredIn paths path.root ∧ profile.id = profileId := by
  constructor
  · rintro ⟨listed, json, content, read, profile, parsed, same⟩
    have found := profileAt_eq_some.mpr ⟨json, content, read, parsed⟩
    exact ⟨profile, mem_offeredIn.mpr ⟨rfl, listed, found⟩, same⟩
  · rintro ⟨profile, member, same⟩
    obtain ⟨-, listed, found⟩ := mem_offeredIn.mp member
    obtain ⟨json, content, read, parsed⟩ := profileAt_eq_some.mp found
    exact ⟨listed, json, content, read, profile, parsed, same⟩

/-- The first pass finds the first directory with a file of this name. -/
theorem first_named {profileId : String} {path : ProfilePath}
    (found : paths.named v profileId = some path) :
    path.fileName = profileId ++ ".json" ∧ v.isFile path = true ∧ ∃ before after,
      paths.profileRoots = before ++ path.root :: after ∧
        ∀ root ∈ before, ¬ v.Names root profileId := by
  rw [RuntimePaths.named, List.find?_map, Option.map_eq_some_iff] at found
  obtain ⟨root, found, rfl⟩ := found
  obtain ⟨file, before, after, split, earlier⟩ := List.find?_eq_some_iff_append.mp found
  refine ⟨rfl, file, before, after, split, ?_⟩
  intro root member
  simpa [Names] using earlier root member

theorem none_named {profileId : String} (absent : paths.named v profileId = none) :
    ∀ root ∈ paths.profileRoots, ¬ v.Names root profileId := by
  intro root member
  exact List.find?_eq_none.mp absent _ (List.mem_map_of_mem member)

/-- The second pass finds the first directory with a profile of this identifier. -/
theorem first_identified {profileId : String} {path : ProfilePath}
    (found : paths.identified v profileId = some path) :
    v.Offers paths path profileId ∧ ∃ before after,
      paths.profileRoots = before ++ path.root :: after ∧
        ∀ earlier, earlier.root ∈ before → ¬ v.Offers paths earlier profileId := by
  obtain ⟨⟨path', profile⟩, first, rfl⟩ := Option.map_eq_some_iff.mp found
  rw [offered, List.find?_flatMap, List.findSome?_eq_some_iff] at first
  obtain ⟨before, root, after, split, here, earlier⟩ := first
  have member := List.mem_of_find?_eq_some here
  have same : profile.id = profileId := by simpa using List.find?_some here
  obtain ⟨rfl, -, -⟩ := mem_offeredIn.mp member
  refine ⟨offers_iff.mpr ⟨profile, member, same⟩, before, after, split, ?_⟩
  intro other inside offers
  obtain ⟨profile', member', same'⟩ := offers_iff.mp offers
  have noMatch := List.find?_eq_none.mp (earlier other.root inside) _ member'
  exact noMatch (by simpa using same')

theorem none_identified {profileId : String} (absent : paths.identified v profileId = none)
    {path : ProfilePath} (inside : path.root ∈ paths.profileRoots) :
    ¬ v.Offers paths path profileId := by
  intro offers
  obtain ⟨profile, member, same⟩ := offers_iff.mp offers
  have whole : (path, profile) ∈ v.offered paths paths.profileRoots :=
    List.mem_flatMap.mpr ⟨path.root, inside, member⟩
  have noMatch := List.find?_eq_none.mp (Option.map_eq_none_iff.mp absent) _ whole
  exact noMatch (by simpa using same)

theorem Offers.isFileName {path : ProfilePath} {profileId : String}
    (offers : v.Offers paths path profileId) : IsFileName path.fileName := by
  obtain ⟨⟨names, listing, member⟩, -⟩ := offers
  exact v.plain path.root names listing path.fileName member

end Volume

/-- What is found is a file of one of the directories, by its name if one has it and by the
identifier inside otherwise, in the first directory that offers one; if nothing is found
there is nothing to find; an identifier with any other character in it leads to no request;
and no other identifier is refused. -/
theorem resolveProfilePath_confined (paths : RuntimePaths) (v : Volume) (profileId : String) :
    (∀ path, v.eval (paths.resolveProfilePath profileId) = .ok path →
      path.root ∈ paths.profileRoots ∧ IsFileName path.fileName ∧
        extension path.fileName = some "json".toList ∧
        ((path.fileName = profileId ++ ".json" ∧ v.isFile path = true ∧
            ∃ before after, paths.profileRoots = before ++ path.root :: after ∧
              ∀ root ∈ before, ¬ v.Names root profileId) ∨
          ((∀ root ∈ paths.profileRoots, ¬ v.Names root profileId) ∧
            v.Offers paths path profileId ∧
            ∃ before after, paths.profileRoots = before ++ path.root :: after ∧
              ∀ earlier, earlier.root ∈ before → ¬ v.Offers paths earlier profileId))) ∧
    (∀ id searched,
      v.eval (paths.resolveProfilePath profileId) = .error (.profileNotFound id searched) →
        ∀ root ∈ paths.profileRoots, ¬ v.Names root profileId ∧
          ∀ path, path.root = root → ¬ v.Offers paths path profileId) ∧
    (∀ c ∈ profileId.toList,
      c = '/' ∨ c = '\\' ∨ c = '.' ∨
          ¬ (paths.alphanumeric.test c = true ∨ c = '_' ∨ c = '-') →
        paths.resolveProfilePath profileId = pure (.error (.invalidProfileId profileId))) ∧
    (profileId ≠ "" →
      (∀ c ∈ profileId.toList, paths.alphanumeric.test c = true ∨ c = '_' ∨ c = '-') →
        ∀ id, v.eval (paths.resolveProfilePath profileId) ≠ .error (.invalidProfileId id)) := by
  refine ⟨?_, ?_, ?_, ?_⟩
  · intro path found
    have accepted := RuntimePaths.accepted_of_ok found
    rw [RuntimePaths.eval_resolveProfilePath v accepted] at found
    cases named : paths.named v profileId with
    | some path' =>
        rw [named] at found
        cases found
        obtain ⟨name, file, before, after, split, earlier⟩ := Volume.first_named named
        have inside : path.root ∈ paths.profileRoots := by simp [split]
        have present := (RuntimePaths.isIdChar_of_accepted accepted).1
        refine ⟨inside, ?_, ?_, .inl ⟨name, file, before, after, split, earlier⟩⟩
        · exact name ▸ RuntimePaths.isFileName_json accepted
        · exact name ▸ RuntimePaths.extension_json present
    | none =>
        rw [named, Option.none_or] at found
        cases identified : paths.identified v profileId with
        | none =>
            rw [identified] at found
            cases found
        | some path' =>
            rw [identified] at found
            cases found
            obtain ⟨offers, before, after, split, earlier⟩ := Volume.first_identified identified
            have inside : path.root ∈ paths.profileRoots := by simp [split]
            refine ⟨inside, offers.isFileName, offers.2.1, .inr ⟨?_, offers, ?_⟩⟩
            · exact Volume.none_named named
            · exact ⟨before, after, split, earlier⟩
  · intro id searched missing root member
    cases accepted : paths.refuses profileId with
    | true =>
        rw [RuntimePaths.resolveProfilePath, accepted, if_pos rfl] at missing
        cases missing
    | false =>
        rw [RuntimePaths.eval_resolveProfilePath v accepted] at missing
        cases named : paths.named v profileId with
        | some path =>
            rw [named] at missing
            cases missing
        | none =>
            rw [named, Option.none_or] at missing
            cases identified : paths.identified v profileId with
            | some path =>
                rw [identified] at missing
                cases missing
            | none =>
                refine ⟨Volume.none_named named root member, ?_⟩
                rintro path rfl
                exact Volume.none_identified identified member
  · intro c member other
    have noIdChar : paths.isIdChar c = false := by
      cases idChar : paths.isIdChar c with
      | false => rfl
      | true =>
          obtain ⟨slash, backslash, dot⟩ := RuntimePaths.isIdChar_ne idChar
          simp only [RuntimePaths.isIdChar, Bool.or_eq_true, decide_eq_true_eq, or_assoc] at idChar
          simp [slash, backslash, dot, idChar] at other
    rw [RuntimePaths.resolveProfilePath, RuntimePaths.refuses_of_mem member noIdChar, if_pos rfl]
  · intro present idChars id
    have accepted : paths.refuses profileId = false :=
      RuntimePaths.accepted_of_isIdChar present fun c member => by
        simpa [RuntimePaths.isIdChar, or_assoc] using idChars c member
    rw [RuntimePaths.eval_resolveProfilePath v accepted]
    cases (paths.named v profileId).or (paths.identified v profileId) with
    | none => exact nofun
    | some path => exact nofun

end ZonDpi.Manager
