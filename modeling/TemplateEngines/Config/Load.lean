/-
Finding and loading the configuration. A path that is given has to exist; otherwise the first file
among the usual places counts, and none of them means the defaults. The last of these places is in
the home directory, which the environment names or else the system knows. Environment variables
override what was loaded.
-/
import TemplateEngines.Config.Basic
import TemplateEngines.Files

namespace TemplateEngines

/-- Why no configuration could be loaded. -/
inductive ConfigError where
  /-- The path that was given does not exist. -/
  | notFound (path : String)
  | unreadable (path : String) (cause : ReadError)
  | invalid (path : String) (cause : ConfigFault)
deriving DecidableEq, Repr

namespace ConfigError

def message : ConfigError → String
  | .notFound path => "Config file not found: " ++ path
  | .unreadable path _ => "Failed to read config " ++ path
  | .invalid path _ => "Invalid config " ++ path

/-- The texts of the errors behind the error. -/
def causes : ConfigError → List String
  | .notFound _ => []
  | .unreadable _ cause => [cause.message]
  | .invalid _ cause => [cause.message]

end ConfigError

namespace Config

/-- The places in the working directory, in the order in which they are tried. -/
def localPaths : List String := ["scriptgate.yaml", "scriptgate.yml", ".scriptgate.yaml"]

/-- The home directory: the one that the environment names, or else the one of the account. An empty
name is none. -/
def homeDirectory? (environment : Dict String) (accountHome : Option String) : Option String :=
  let named (home : Option String) := home.filter fun name => !name.isEmpty
  (named (environment.get? "HOME")).or (named accountHome)

/-- The place in a home directory. -/
def homePath (home : String) : String :=
  home ++ (if home.endsWith "/" then "" else "/") ++ ".scriptgate/config.yaml"

/-- All places, in the order in which they are tried. -/
def candidates (home : Option String) : List String := localPaths ++ (home.map homePath).toList

/-- The first place where something is. -/
def findPath (files : Files) (home : Option String) : Option String :=
  (candidates home).find? files.present

/-- The configuration in a file. -/
def ofFile (files : Files) (path : String) : Except ConfigError Config :=
  match files.readText path with
  | .error e => .error (.unreadable path e)
  | .ok source =>
    match ofYaml source with
    | .error e => .error (.invalid path e)
    | .ok config => .ok config

/-- The configuration with what environment variables override. An empty name of the default engine
means that there is none. -/
def override (config : Config) (environment : Dict String) : Config where
  defaultEngine := match environment.get? "SCRIPTGATE_DEFAULT_ENGINE" with
    | some name => if name.isEmpty then none else some name
    | none => config.defaultEngine
  strictHandlebars := config.strictHandlebars
  strictSubstitution := config.strictSubstitution
  presets := config.presets
  logLevel := (environment.get? "SCRIPTGATE_LOG_LEVEL").getD config.logLevel
  logFormat := (environment.get? "SCRIPTGATE_LOG_FORMAT").getD config.logFormat

/-- The configuration before anything is overridden. -/
def locate (files : Files) (home path : Option String) : Except ConfigError Config :=
  match path with
  | some path => if files.present path then ofFile files path else .error (.notFound path)
  | none =>
    match findPath files home with
    | some path => ofFile files path
    | none => .ok {}

/-- Loads the configuration. -/
def load (files : Files) (environment : Dict String) (path : Option String)
    (accountHome : Option String := none) : Except ConfigError Config :=
  (locate files (homeDirectory? environment accountHome) path).map (·.override environment)

end Config

end TemplateEngines
