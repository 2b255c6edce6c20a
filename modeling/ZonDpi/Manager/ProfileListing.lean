import Mathlib.Data.List.Sort
import Mathlib.Data.String.Basic
import ZonDpi.Ipc.Protocol
import ZonDpi.Lib.FirstByKey
import ZonDpi.Manager.Profiles

/-!
# Listing and loading profiles (`engine_mgr/mod.rs`)

`list_profiles` goes through the directories and keeps the first profile for each
identifier; `load_profile` takes what `resolve_profile_path` finds. The list is the sorted
form of the first profiles in `Volume.offered` (`eval_listProfiles`).

The two do not agree in general. The list goes by the identifiers inside the files, of
whatever form, while loading refuses some identifiers and prefers a file that has the
identifier as its name, whatever it holds. `Volume.LoadsListed` says when the profiles that
are listed can be loaded, and it is exact (`listed_loads_iff`).
-/

namespace ZonDpi.Manager

open Effects ZonDpi.Engine ZonDpi.Ipc FirstByKey

def summary (profile : ProfileDefinition) : ProfileSummaryDto where
  id := profile.id
  name := profile.name
  description := profile.description
  targetEngine := profile.targetEngine

namespace RuntimePaths

variable (paths : RuntimePaths)

/-! ### The code -/

/-- The vector `profiles` and the set `seen_ids`. -/
abbrev Listing : Type := List ProfileSummaryDto × List String

/-- The entries of one directory. -/
def listEntries (root : String) : List String → Listing → FileProg Listing
  | [], (profiles, seenIds) => return (profiles, seenIds)
  | name :: rest, (profiles, seenIds) => do
      match ← paths.readProfile ⟨root, name⟩ with
      | some profile =>
          if profile.id ∈ seenIds then listEntries root rest (profiles, seenIds)
          else listEntries root rest (profiles ++ [summary profile], profile.id :: seenIds)
      | none => listEntries root rest (profiles, seenIds)

def listRoots : List String → Listing → FileProg Listing
  | [], listing => return listing
  | root :: rest, listing => do
      match ← readDir root with
      | some names =>
          let listing ← paths.listEntries root names listing
          listRoots rest listing
      | none => listRoots rest listing

def listProfiles : FileProg (List ProfileSummaryDto) := do
  let (profiles, _) ← paths.listRoots paths.profileRoots ([], [])
  return profiles.insertionSort fun a b => a.id ≤ b.id

def loadProfile (profileId : String) :
    FileProg (Except EngineManagerError ProfileDefinition) := do
  match ← paths.resolveProfilePath profileId with
  | .error error => return .error (.path error)
  | .ok path =>
      match ← readToString path with
      | none => return .error (.path (.profileNotFound profileId [path.text]))
      | some content =>
          match paths.parse content with
          | .ok profile => return .ok profile
          | .error message => return .error (.profileJson message)

end RuntimePaths

/-! ### What is listed -/

namespace Volume

variable (v : Volume) (paths : RuntimePaths)

/-- The summaries of all profiles, in the order of the search. -/
def summaries (roots : List String) : List ProfileSummaryDto :=
  (v.offered paths roots).map fun found => summary found.2

theorem eval_listEntries (root : String) (names : List String) (listing : RuntimePaths.Listing) :
    v.eval (paths.listEntries root names listing) =
      ((names.filterMap fun name => (v.profileAt paths ⟨root, name⟩).map summary).foldl
        (collect ProfileSummaryDto.id) listing) := by
  induction names generalizing listing with
  | nil => rfl
  | cons name rest ih =>
      obtain ⟨profiles, seenIds⟩ := listing
      rw [RuntimePaths.listEntries, eval_bind, eval_readProfile, List.filterMap_cons]
      cases v.profileAt paths ⟨root, name⟩ with
      | none => exact ih (profiles, seenIds)
      | some profile =>
          dsimp only [Option.map_some]
          rw [List.foldl_cons, collect]
          by_cases seen : (summary profile).id ∈ seenIds
          · rw [if_pos seen, if_pos (show profile.id ∈ seenIds from seen)]
            exact ih (profiles, seenIds)
          · rw [if_neg seen, if_neg (show profile.id ∉ seenIds from seen)]
            exact ih (profiles ++ [summary profile], profile.id :: seenIds)

theorem eval_listRoots (roots : List String) (listing : RuntimePaths.Listing) :
    v.eval (paths.listRoots roots listing) =
      (v.summaries paths roots).foldl (collect ProfileSummaryDto.id) listing := by
  induction roots generalizing listing with
  | nil => rfl
  | cons root rest ih =>
      rw [RuntimePaths.listRoots, eval_bind, eval_readDir, summaries, offered_cons,
        List.map_append, List.foldl_append, offeredIn, List.map_filterMap]
      simp only [Option.map_map, Function.comp_def]
      cases v.readDir root with
      | none => exact ih listing
      | some names =>
          dsimp only [Option.getD_some]
          rw [eval_bind, eval_listEntries]
          exact ih _

theorem eval_listProfiles :
    v.eval paths.listProfiles =
      ((v.summaries paths paths.profileRoots).foldl (collect ProfileSummaryDto.id)
        ([], [])).1.insertionSort fun a b => a.id ≤ b.id := by
  rw [RuntimePaths.listProfiles, eval_bind, eval_listRoots]
  rfl

variable {v paths}

/-- Listed is the first profile with its identifier. -/
theorem mem_listProfiles_iff {dto : ProfileSummaryDto} :
    dto ∈ v.eval paths.listProfiles ↔ ∃ found,
      (v.offered paths paths.profileRoots).find? (fun other => other.2.id = dto.id) = some found ∧
        summary found.2 = dto := by
  rw [eval_listProfiles, List.mem_insertionSort, mem_collect_iff, summaries, List.find?_map,
    Option.map_eq_some_iff]
  rfl

theorem listProfiles_sorted :
    ((v.eval paths.listProfiles).map ProfileSummaryDto.id).Pairwise (· < ·) := by
  rw [eval_listProfiles]
  generalize collected : (v.summaries paths paths.profileRoots).foldl
    (collect ProfileSummaryDto.id) ([], []) = acc
  have nodup : (acc.1.map ProfileSummaryDto.id).Nodup := collected ▸ nodup_collect
  have total : Std.Total fun a b : ProfileSummaryDto => a.id ≤ b.id := ⟨fun _ _ => le_total _ _⟩
  have trans : IsTrans ProfileSummaryDto fun a b => a.id ≤ b.id := ⟨fun _ _ _ => le_trans⟩
  have sorted := List.pairwise_insertionSort (fun a b : ProfileSummaryDto => a.id ≤ b.id) acc.1
  have distinct := ((List.perm_insertionSort (fun a b : ProfileSummaryDto => a.id ≤ b.id)
    acc.1).map ProfileSummaryDto.id).nodup_iff.mpr nodup
  rw [List.pairwise_map]
  rw [List.Nodup, List.pairwise_map] at distinct
  exact sorted.imp₂ (fun _ _ => lt_of_le_of_ne) distinct

/-- The list is sorted without repetition, an identifier is in it exactly if some file
offers it, and the entry is that of the first such file. -/
theorem listProfiles_view (paths : RuntimePaths) (v : Volume) :
    ((v.eval paths.listProfiles).map ProfileSummaryDto.id).Pairwise (· < ·) ∧
    (∀ id, id ∈ (v.eval paths.listProfiles).map ProfileSummaryDto.id ↔
      ∃ path, path.root ∈ paths.profileRoots ∧ v.Offers paths path id) ∧
    ∀ dto ∈ v.eval paths.listProfiles, ∃ before path profile after,
      v.offered paths paths.profileRoots = before ++ (path, profile) :: after ∧
        (∀ earlier ∈ before, earlier.2.id ≠ dto.id) ∧ profile.id = dto.id ∧
        dto.name = profile.name ∧ dto.description = profile.description ∧
        dto.targetEngine = profile.targetEngine := by
  refine ⟨listProfiles_sorted, ?_, ?_⟩
  · intro id
    constructor
    · intro listed
      obtain ⟨dto, member, rfl⟩ := List.mem_map.mp listed
      obtain ⟨⟨path, profile⟩, first, same⟩ := mem_listProfiles_iff.mp member
      obtain ⟨root, inside, here⟩ := List.mem_flatMap.mp (List.mem_of_find?_eq_some first)
      obtain ⟨rfl, -, -⟩ := mem_offeredIn.mp here
      exact ⟨path, inside, offers_iff.mpr ⟨profile, here, congrArg ProfileSummaryDto.id same⟩⟩
    · rintro ⟨path, inside, offers⟩
      obtain ⟨profile, here, same⟩ := offers_iff.mp offers
      have member : (path, profile) ∈ v.offered paths paths.profileRoots :=
        List.mem_flatMap.mpr ⟨path.root, inside, here⟩
      cases first : (v.offered paths paths.profileRoots).find? (fun other => other.2.id = id) with
      | none => exact absurd (List.find?_eq_none.mp first _ member) (by simpa using same)
      | some found =>
          have sameId : found.2.id = id := by simpa using List.find?_some first
          have listed : summary found.2 ∈ v.eval paths.listProfiles := by
            refine mem_listProfiles_iff.mpr ⟨found, ?_, rfl⟩
            simpa [summary, sameId] using first
          exact List.mem_map.mpr ⟨summary found.2, listed, sameId⟩
  · intro dto member
    obtain ⟨⟨path, profile⟩, first, rfl⟩ := mem_listProfiles_iff.mp member
    obtain ⟨same, before, after, split, earlier⟩ := List.find?_eq_some_iff_append.mp first
    refine ⟨before, path, profile, after, split, ?_, rfl, rfl, rfl, rfl⟩
    intro other inside
    simpa using earlier other inside

/-! ### What is loaded -/

/-- Both passes find files with the extension `json`. -/
theorem found_json {profileId : String} {path : ProfilePath}
    (accepted : paths.refuses profileId = false)
    (found : (paths.named v profileId).or (paths.identified v profileId) = some path) :
    extension path.fileName = some "json".toList := by
  rcases Option.or_eq_some_iff.mp found with named | ⟨_, identified⟩
  · rw [(first_named named).1]
    exact RuntimePaths.extension_json (RuntimePaths.isIdChar_of_accepted accepted).1
  · exact (first_identified identified).1.2.1

/-- What is loaded is the profile in the file that was found. -/
theorem loadProfile_eq_ok {profileId : String} {profile : ProfileDefinition} :
    v.eval (paths.loadProfile profileId) = .ok profile ↔
      paths.refuses profileId = false ∧ ∃ path,
        (paths.named v profileId).or (paths.identified v profileId) = some path ∧
          v.profileAt paths path = some profile := by
  rw [RuntimePaths.loadProfile, eval_bind]
  cases accepted : paths.refuses profileId with
  | true =>
      rw [RuntimePaths.resolveProfilePath, accepted, if_pos rfl]
      exact iff_of_false (by rintro ⟨⟩) (by rintro ⟨⟨⟩, _⟩)
  | false =>
      rw [RuntimePaths.eval_resolveProfilePath v accepted]
      cases found : (paths.named v profileId).or (paths.identified v profileId) with
      | none => exact iff_of_false (by rintro ⟨⟩) (by rintro ⟨_, _, ⟨⟩, _⟩)
      | some path =>
          have json := found_json accepted found
          dsimp only
          rw [eval_bind, eval_readToString]
          simp only [profileAt_eq_some, json, true_and, Option.some.injEq, exists_eq_left']
          cases v.readToString path with
          | none => exact iff_of_false (by rintro ⟨⟩) (by rintro ⟨_, ⟨⟩, _⟩)
          | some content =>
              dsimp only
              cases parsed : paths.parse content <;> simp [parsed]

/-- The identifier would be accepted, and if a file has it as its name, the first of these
is a profile with the same summary. -/
def Agrees (v : Volume) (paths : RuntimePaths) (profile : ProfileDefinition) : Prop :=
  paths.refuses profile.id = false ∧
    ∀ path, paths.named v profile.id = some path →
      ∃ other, v.profileAt paths path = some other ∧ summary other = summary profile

/-- Every profile that is the first with its identifier agrees with the file of that
name. -/
def LoadsListed (v : Volume) (paths : RuntimePaths) : Prop :=
  ∀ found, (v.offered paths paths.profileRoots).find? (fun other => other.2.id = found.2.id) =
    some found → v.Agrees paths found.2

/-- The file that is found for a listed identifier: the one of that name, and otherwise
the one that was listed. -/
theorem found_of_first {found : ProfilePath × ProfileDefinition} (named : Option ProfilePath)
    (first : (v.offered paths paths.profileRoots).find? (fun other => other.2.id = found.2.id) =
      some found) :
    named.or (paths.identified v found.2.id) = some (named.getD found.1) := by
  rw [RuntimePaths.identified, first]
  cases named <;> rfl

theorem profileAt_of_first {found : ProfilePath × ProfileDefinition} {id : String}
    (first : (v.offered paths paths.profileRoots).find? (fun other => other.2.id = id) =
      some found) : v.profileAt paths found.1 = some found.2 := by
  obtain ⟨root, -, here⟩ := List.mem_flatMap.mp (List.mem_of_find?_eq_some first)
  exact (mem_offeredIn.mp here).2.2

/-- Everything that is listed can be loaded, and is then what was listed, exactly if all
first profiles agree with the files that have their identifiers as names. -/
theorem listed_loads_iff (paths : RuntimePaths) (v : Volume) :
    (∀ dto ∈ v.eval paths.listProfiles, ∃ profile,
      v.eval (paths.loadProfile dto.id) = .ok profile ∧ profile.id = dto.id ∧
        profile.name = dto.name ∧ profile.description = dto.description ∧
        profile.targetEngine = dto.targetEngine) ↔
      v.LoadsListed paths := by
  constructor
  · intro loads found first
    have listed : summary found.2 ∈ v.eval paths.listProfiles :=
      mem_listProfiles_iff.mpr ⟨found, first, rfl⟩
    obtain ⟨profile, loaded, id, name, description, engine⟩ := loads _ listed
    obtain ⟨accepted, path, here, read⟩ := loadProfile_eq_ok.mp loaded
    refine ⟨accepted, fun path' named => ⟨profile, ?_, ?_⟩⟩
    · rw [show (summary found.2).id = found.2.id from rfl, named, Option.some_or] at here
      cases here
      exact read
    · simp [summary, id, name, description, engine]
  · intro agrees dto member
    obtain ⟨found, first, rfl⟩ := mem_listProfiles_iff.mp member
    obtain ⟨accepted, alike⟩ := agrees found first
    have whichever : ∃ profile,
        v.profileAt paths ((paths.named v found.2.id).getD found.1) = some profile ∧
          summary profile = summary found.2 := by
      cases named : paths.named v found.2.id with
      | none => exact ⟨found.2, profileAt_of_first first, rfl⟩
      | some path => exact alike path named
    obtain ⟨profile, read, same⟩ := whichever
    refine ⟨profile, loadProfile_eq_ok.mpr ⟨accepted, _, found_of_first _ first, read⟩, ?_⟩
    rw [← same]
    exact ⟨rfl, rfl, rfl, rfl⟩

/-! ### Two files that change places -/

/-- One directory with these files. -/
def folder (root : String) (files : List (String × String))
    (plain : ∀ file ∈ files, IsFileName file.1) : Volume where
  isFile path := path.root = root && (files.lookup path.fileName).isSome
  readDir path := if path = root then some (files.map Prod.fst) else none
  readToString path := if path.root = root then files.lookup path.fileName else none
  plain := by
    intro path names listing name member
    split_ifs at listing
    cases listing
    obtain ⟨file, inside, rfl⟩ := List.mem_map.mp member
    exact plain file inside

/-- One directory, read as `serde_json` does. -/
def onlyRoot : RuntimePaths where
  alphanumeric := ⟨Char.isAlphanum, fun _ _ => rfl⟩
  parse content := (profileFromStr content).elim (.error "") .ok
  profileRoots := ["profiles"]

def profileText (id name targetEngine : String) : String :=
  "\x7b\"id\": \"" ++ id ++ "\", \"name\": \"" ++ name ++ "\", \"description\": \"\", " ++
    "\"target_engine\": \"" ++ targetEngine ++ "\", \"arguments\": []\x7d"

/-- The file `a.json` holds the profile `b`, and another file holds `a`. -/
def crossed : Volume :=
  folder "profiles"
    [("a.json", profileText "b" "B" "GoodbyeDPI"), ("c.json", profileText "a" "A" "ByeDPI")]
    (by decide)

theorem crossed_first :
    (crossed.offered onlyRoot onlyRoot.profileRoots).find? (fun other => other.2.id = "a") =
      some (⟨"profiles", "c.json"⟩, ⟨"a", "A", "", "ByeDPI", []⟩) := by
  decide +kernel

theorem crossed_loads :
    crossed.eval (onlyRoot.loadProfile "a") = .ok ⟨"b", "B", "", "GoodbyeDPI", []⟩ := by
  decide +kernel

/-- The profile `a` is listed, and loading it gives the profile `b`. -/
theorem listed_loads_other :
    ¬ ∀ dto ∈ crossed.eval onlyRoot.listProfiles, ∃ profile,
      crossed.eval (onlyRoot.loadProfile dto.id) = .ok profile ∧ profile.id = dto.id ∧
        profile.name = dto.name ∧ profile.description = dto.description ∧
        profile.targetEngine = dto.targetEngine := by
  intro loads
  have listed : ⟨"a", "A", "", "ByeDPI"⟩ ∈ crossed.eval onlyRoot.listProfiles :=
    mem_listProfiles_iff.mpr ⟨_, crossed_first, rfl⟩
  obtain ⟨profile, loaded, id, -⟩ := loads _ listed
  rw [crossed_loads] at loaded
  cases loaded
  exact absurd id (by decide)

end Volume

end ZonDpi.Manager
