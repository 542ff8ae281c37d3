/-
The configuration of the program, and reading it from YAML. Keys that are not known are passed over;
a known key may be given only once in a mapping.
-/
import TemplateEngines.Engine.Passthrough
import TemplateEngines.Yaml.Decode

namespace TemplateEngines

/-- The configuration. -/
structure Config where
  /-- The engine of a request that names none. -/
  defaultEngine : Option String := some Passthrough.name
  strictHandlebars : Bool := false
  strictSubstitution : Bool := false
  /-- Parameters of every template. -/
  presets : Dict String := []
  logLevel : String := "info"
  logFormat : String := "pretty"
deriving DecidableEq, Inhabited, Repr

/-- Why a source is no configuration. -/
inductive ConfigFault where
  | load (e : Yaml.LoadError)
  | data (e : Yaml.DataError)
deriving DecidableEq, Repr

def ConfigFault.message : ConfigFault → String
  | .load e => e.message
  | .data e => e.message

namespace Config

open Yaml (Node Path Decode)

/-- The keys of a mapping with fixed keys. -/
def keyExpected : String := "field identifier"

/-! ## Parts -/

/-- Which engines are strict, as far as it has been read. -/
structure EngineFields where
  handlebars : Option Bool := none
  substitution : Option Bool := none

def readEngines (root : Node) (path : Path) (node : Node) : Decode EngineFields :=
  Decode.entries root "struct EnginesConfig" keyExpected path {} (fun fields key path node =>
    match key with
    | "handlebars_strict" => do
      let handlebars ← Decode.once key fields.handlebars (Decode.bool root path node)
      return { fields with handlebars }
    | "substitution_strict" => do
      let substitution ← Decode.once key fields.substitution (Decode.bool root path node)
      return { fields with substitution }
    | _ => do
      Decode.ignore node
      return fields) node

/-- The fields of the log, as far as they have been read. -/
structure LogFields where
  level : Option String := none
  format : Option String := none

def readLog (root : Node) (path : Path) (node : Node) : Decode LogFields :=
  Decode.entries root "struct LoggingConfig" keyExpected path {} (fun fields key path node =>
    match key with
    | "level" => do
      let level ← Decode.once key fields.level (Decode.text root "a string" path node)
      return { fields with level }
    | "format" => do
      let format ← Decode.once key fields.format (Decode.text root "a string" path node)
      return { fields with format }
    | _ => do
      Decode.ignore node
      return fields) node

/-- Texts by name; the last text of a name counts. -/
def readPresets (root : Node) (path : Path) (node : Node) : Decode (Dict String) :=
  Decode.entries root "a map" "a string" path [] (fun presets key path node => do
    let text ← Decode.text root "a string" path node
    return presets.insert key text) node

/-! ## The whole -/

/-- The fields of the configuration, as far as they have been read. -/
structure Fields where
  defaultEngine : Option (Option String) := none
  engines : Option EngineFields := none
  presets : Option (Dict String) := none
  log : Option LogFields := none

def readFields (root : Node) : Decode Fields :=
  Decode.entries root "struct Config" keyExpected .root {} (fun fields key path node =>
    match key with
    | "default_engine" => do
      let defaultEngine ← Decode.once key fields.defaultEngine (Decode.optionalText root path node)
      return { fields with defaultEngine }
    | "engines" => do
      let engines ← Decode.once key fields.engines (readEngines root path node)
      return { fields with engines }
    | "template_vars" => do
      let presets ← Decode.once key fields.presets (readPresets root path node)
      return { fields with presets }
    | "logging" => do
      let log ← Decode.once key fields.log (readLog root path node)
      return { fields with log }
    | _ => do
      Decode.ignore node
      return fields) root

/-- The configuration with the fields that were read, the others as they are by default. -/
def ofFields (fields : Fields) : Config :=
  let base : Config := {}
  let engines := fields.engines.getD {}
  let log := fields.log.getD {}
  { defaultEngine := fields.defaultEngine.getD base.defaultEngine
    strictHandlebars := engines.handlebars.getD base.strictHandlebars
    strictSubstitution := engines.substitution.getD base.strictSubstitution
    presets := fields.presets.getD base.presets
    logLevel := log.level.getD base.logLevel
    logFormat := log.format.getD base.logFormat }

/-- The configuration that a source holds. A source without a document gives the defaults. A
document that breaks off is refused where it breaks off, unless data before that are refused. -/
def ofYaml (source : String) : Except ConfigFault Config :=
  let document := Yaml.Document.ofSource source
  let fields := match document.root with
    | some root => readFields root
    | none => .ok {}
  match fields, document.error with
  | .error (.data e), _ => .error (.data e)
  | .error .unread, some e | .ok _, some e => .error (.load e)
  | .error .unread, none => .error (.load (.problem { flaw := .endOfStream }))
  | .ok fields, none => .ok (ofFields fields)

end Config

end TemplateEngines
