/-
Where a configuration comes from. A path that is given decides alone; without one the first of the
usual places at which something is decides, and the files behind it are never looked at. What the
deciding file holds, or the defaults, can be overridden by environment variables, but these never
turn a failure into a success (`load_decided`).
-/
import TemplateEngines.Config.Load
import Mathlib.Tactic

namespace TemplateEngines

namespace Files

variable {files files' : Files} {path : String}

theorem present_congr (h : files' path = files path) : files'.present path = files.present path := by
  rw [present, present, h]

theorem readText_congr (h : files' path = files path) :
    files'.readText path = files.readText path := by
  rw [readText, readText, h]

end Files

namespace Config

/-! ## The home directory -/

/-- Of the environment only the home directory that it names matters. -/
theorem homeDirectory?_congr {environment environment' : Dict String}
    (h : environment'.get? "HOME" = environment.get? "HOME") (accountHome : Option String) :
    homeDirectory? environment' accountHome = homeDirectory? environment accountHome := by
  rw [homeDirectory?, homeDirectory?, h]

/-! ## The deciding file -/

/-- The file can be read, and its text is the configuration. -/
def Holds (files : Files) (path : String) (config : Config) : Prop :=
  ∃ text, files.readText path = .ok text ∧ ofYaml text = .ok config

/-- The path is the first of the places at which something is. -/
def FirstPresent (files : Files) (places : List String) (path : String) : Prop :=
  ∃ front rest, places = front ++ path :: rest ∧ (∀ place ∈ front, ¬ files.present place) ∧
    files.present path

/-- The configuration in the deciding file, if there is one, or else the defaults. -/
inductive Located (files : Files) (home : Option String) : Option String → Config → Prop
  | given {path : String} {config : Config} : files.present path → Holds files path config →
      Located files home (some path) config
  | found {path : String} {config : Config} :
      FirstPresent files (candidates home) path → Holds files path config →
      Located files home none config
  | nowhere : (∀ place ∈ candidates home, ¬ files.present place) →
      Located files home none {}

theorem findPath_eq_some_iff {files : Files} {home : Option String} {path : String} :
    findPath files home = some path ↔ FirstPresent files (candidates home) path := by
  rw [findPath, List.find?_eq_some_iff_append, FirstPresent]
  constructor
  · rintro ⟨hpath, front, rest, hsplit, hfront⟩
    exact ⟨front, rest, hsplit, by simpa using hfront, hpath⟩
  · rintro ⟨front, rest, hsplit, hfront, hpath⟩
    exact ⟨hpath, front, rest, hsplit, by simpa using hfront⟩

theorem findPath_eq_none_iff {files : Files} {home : Option String} :
    findPath files home = none ↔ ∀ place ∈ candidates home, ¬ files.present place :=
  List.find?_eq_none

theorem ofFile_eq_ok_iff {files : Files} {path : String} {config : Config} :
    ofFile files path = .ok config ↔ Holds files path config := by
  unfold ofFile Holds
  cases files.readText path with
  | error e => simp
  | ok text =>
    cases hyaml : ofYaml text <;> simp [hyaml]

theorem ofFile_congr {files files' : Files} {path : String} (h : files' path = files path) :
    ofFile files' path = ofFile files path := by
  rw [ofFile, ofFile, Files.readText_congr h]

/-! ## Locating -/

section Locate

variable {files : Files} {home : Option String} {path : String}

theorem locate_of_present (h : files.present path) :
    locate files home (some path) = ofFile files path :=
  if_pos h

theorem locate_of_not_present (h : ¬ files.present path) :
    locate files home (some path) = .error (.notFound path) :=
  if_neg h

/-- The first place at which something is counts as if its path had been given. -/
theorem locate_of_firstPresent (h : FirstPresent files (candidates home) path) :
    locate files home none = locate files home (some path) := by
  obtain ⟨-, -, -, -, hpath⟩ := id h
  rw [locate_of_present hpath, locate, findPath_eq_some_iff.2 h]

theorem locate_of_none_present (h : ∀ place ∈ candidates home, ¬ files.present place) :
    locate files home none = .ok {} := by
  rw [locate, findPath_eq_none_iff.2 h]

theorem locate_eq_ok_iff {path : Option String} {config : Config} :
    locate files home path = .ok config ↔ Located files home path config := by
  constructor
  · intro h
    cases path with
    | some path =>
      by_cases hpath : files.present path
      · rw [locate_of_present hpath, ofFile_eq_ok_iff] at h
        exact .given hpath h
      · rw [locate_of_not_present hpath] at h
        cases h
    | none =>
      cases hfind : findPath files home with
      | some path =>
        have hfirst := findPath_eq_some_iff.1 hfind
        obtain ⟨-, -, -, -, hpath⟩ := id hfirst
        rw [locate_of_firstPresent hfirst, locate_of_present hpath, ofFile_eq_ok_iff] at h
        exact .found hfirst h
      | none =>
        have hnone := findPath_eq_none_iff.1 hfind
        rw [locate_of_none_present hnone] at h
        cases h
        exact .nowhere hnone
  · intro h
    cases h with
    | given hpath hholds => rw [locate_of_present hpath, ofFile_eq_ok_iff.2 hholds]
    | found hfirst hholds =>
      obtain ⟨-, -, -, -, hpath⟩ := id hfirst
      rw [locate_of_firstPresent hfirst, locate_of_present hpath, ofFile_eq_ok_iff.2 hholds]
    | nowhere hnone => exact locate_of_none_present hnone

end Locate

/-! ## Overriding -/

/-- The configuration is `base`, but for what environment variables override. -/
structure Overridden (environment : Dict String) (base config : Config) : Prop where
  /-- The empty name stands for no engine. -/
  defaultEngine : config.defaultEngine =
    (environment.get? "SCRIPTGATE_DEFAULT_ENGINE").elim base.defaultEngine
      fun name => if name = "" then none else some name
  logLevel : config.logLevel = (environment.get? "SCRIPTGATE_LOG_LEVEL").getD base.logLevel
  logFormat : config.logFormat = (environment.get? "SCRIPTGATE_LOG_FORMAT").getD base.logFormat
  strictHandlebars : config.strictHandlebars = base.strictHandlebars
  strictSubstitution : config.strictSubstitution = base.strictSubstitution
  presets : config.presets = base.presets

theorem defaultEngine_override (config : Config) (environment : Dict String) :
    (config.override environment).defaultEngine =
      (environment.get? "SCRIPTGATE_DEFAULT_ENGINE").elim config.defaultEngine
        fun name => if name = "" then none else some name := by
  unfold override
  cases environment.get? "SCRIPTGATE_DEFAULT_ENGINE" with
  | none => rfl
  | some name => simp only [String.isEmpty_iff, Option.elim_some]

theorem overridden_iff {environment : Dict String} {base config : Config} :
    Overridden environment base config ↔ base.override environment = config := by
  constructor
  · rintro ⟨hengine, hlevel, hformat, hhandlebars, hsubstitution, hpresets⟩
    -- Put as the override, the first equation has the form of the other five.
    rw [← defaultEngine_override] at hengine
    obtain ⟨engine, handlebars, substitution, presets, level, format⟩ := config
    dsimp only at hengine hlevel hformat hhandlebars hsubstitution hpresets
    subst hengine hlevel hformat hhandlebars hsubstitution hpresets
    rfl
  · rintro rfl
    exact ⟨defaultEngine_override base environment, rfl, rfl, rfl, rfl, rfl⟩

/-! ## Loading -/

section Load

variable {files : Files} {environment : Dict String} {accountHome : Option String}

theorem load_eq_ok_iff {path : Option String} {config : Config} :
    load files environment path accountHome = .ok config ↔
      ∃ base, Located files (homeDirectory? environment accountHome) path base ∧
        Overridden environment base config := by
  simp only [← locate_eq_ok_iff, overridden_iff, load]
  cases locate files (homeDirectory? environment accountHome) path <;> simp [Except.map]

theorem load_eq_error_iff {path : Option String} {e : ConfigError} :
    load files environment path accountHome = .error e ↔
      locate files (homeDirectory? environment accountHome) path = .error e := by
  rw [load]
  cases locate files (homeDirectory? environment accountHome) path <;> simp [Except.map]

/-- A path that is given is the only one that is looked at. -/
theorem load_congr_path {files' : Files} {path : String} (h : files' path = files path) :
    load files' environment (some path) accountHome =
      load files environment (some path) accountHome := by
  rw [load, load, locate, locate, Files.present_congr h, ofFile_congr h]

theorem load_of_firstPresent {path : String}
    (h : FirstPresent files (candidates (homeDirectory? environment accountHome)) path) :
    load files environment none accountHome = load files environment (some path) accountHome := by
  rw [load, load, locate_of_firstPresent h]

end Load

/-- Loading succeeds if and only if the deciding file holds a configuration, or there is none and the
defaults count; what is loaded is this configuration but for the overridden fields. A path that is
given has to exist and is the only one that is looked at. Without one, the first of the usual places
at which something is decides as if its path had been given, and whatever stands at the later places
makes no difference. A deciding file that cannot be read or holds no configuration makes loading fail.
The variables that override fields do not decide whether and why loading fails. -/
theorem load_decided (files : Files) (environment : Dict String) (accountHome : Option String) :
    let home := homeDirectory? environment accountHome
    (∀ path config, load files environment path accountHome = .ok config ↔
      ∃ base, Located files home path base ∧ Overridden environment base config) ∧
    (∀ path, ¬ files.present path →
      load files environment (some path) accountHome = .error (.notFound path)) ∧
    (∀ path files', files' path = files path →
      load files' environment (some path) accountHome =
        load files environment (some path) accountHome) ∧
    (∀ front path rest, candidates home = front ++ path :: rest →
      (∀ place ∈ front, ¬ files.present place) → files.present path →
      load files environment none accountHome = load files environment (some path) accountHome ∧
      ∀ files', (∀ place ∈ front ++ [path], files' place = files place) →
        load files' environment none accountHome = load files environment none accountHome) ∧
    (∀ path e, files.present path → files.readText path = .error e →
      load files environment (some path) accountHome = .error (.unreadable path e)) ∧
    (∀ path text e, files.present path → files.readText path = .ok text → ofYaml text = .error e →
      load files environment (some path) accountHome = .error (.invalid path e)) ∧
    (∀ path environment',
      (∀ name, (¬ ∃ rest, name = "SCRIPTGATE_" ++ rest) →
        environment'.get? name = environment.get? name) →
      ∀ e, load files environment' path accountHome = .error e ↔
        load files environment path accountHome = .error e) := by
  intro home
  refine ⟨fun _ _ => load_eq_ok_iff, ?absent, fun _ _ => load_congr_path, ?first, ?unreadable,
    ?invalid, ?overriding⟩
  case absent =>
    intro path h
    rw [load_eq_error_iff, locate_of_not_present h]
  case first =>
    intro front path rest hsplit hfront hpath
    have hfirst : FirstPresent files (candidates home) path :=
      ⟨front, rest, hsplit, hfront, hpath⟩
    refine ⟨load_of_firstPresent hfirst, fun files' hagree => ?_⟩
    -- What stands at the later places was not needed to find the first one.
    have hdeciding : files' path = files path := hagree path (by simp)
    have hfirst' : FirstPresent files' (candidates home) path := by
      refine ⟨front, rest, hsplit, fun place hplace => ?_, ?_⟩
      · rw [Files.present_congr (hagree place (List.mem_append_left _ hplace))]
        exact hfront place hplace
      · rwa [Files.present_congr hdeciding]
    rw [load_of_firstPresent hfirst, load_of_firstPresent hfirst', load_congr_path hdeciding]
  case unreadable =>
    intro path e hpath hread
    rw [load_eq_error_iff, locate_of_present hpath, ofFile, hread]
  case invalid =>
    intro path text e hpath hread hyaml
    rw [load_eq_error_iff, locate_of_present hpath, ofFile, hread]
    simp only [hyaml]
  case overriding =>
    intro path environment' hagree e
    -- The home directory is all that locating takes from the environment.
    have hhome : homeDirectory? environment' accountHome = home := by
      refine homeDirectory?_congr (hagree "HOME" ?_) accountHome
      rintro ⟨rest, hrest⟩
      have := congrArg String.toList hrest
      simp at this
    rw [load_eq_error_iff, load_eq_error_iff, hhome]

/-- The environment names no home directory, so that of the account is taken. A directory at the
second place makes loading fail, whether or not there is a file at the last, the one at home. -/
theorem load_decided_masked :
    let environment : Dict String := [("HOME", "")]
    let files (last : FileState) : Files := fun path =>
      if path = "scriptgate.yml" then .directory
      else if path = "home/.scriptgate/config.yaml" then last
      else .absent
    load (files .absent) environment none (some "home") =
        .error (.unreadable "scriptgate.yml" .isDirectory) ∧
      load (files (.file [])) environment none (some "home") =
        load (files .absent) environment none (some "home") := by
  intro environment files
  have hplaces : candidates (homeDirectory? environment (some "home")) =
      ["scriptgate.yaml"] ++ "scriptgate.yml" :: [".scriptgate.yaml", "home/.scriptgate/config.yaml"] := by
    decide +kernel
  obtain ⟨-, -, -, hfirst, hunreadable, -⟩ :=
    load_decided (files .absent) environment (some "home")
  obtain ⟨hgiven, hlater⟩ := hfirst _ _ _ hplaces (List.forall_mem_singleton.2 (by decide)) rfl
  refine ⟨hgiven.trans (hunreadable _ _ rfl rfl), hlater _ ?_⟩
  exact List.forall_mem_cons.2 ⟨by decide, List.forall_mem_singleton.2 (by decide)⟩

end Config

end TemplateEngines
