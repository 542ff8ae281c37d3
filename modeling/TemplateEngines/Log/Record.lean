/-
Records of what the program does, and values that come with the records written on the way to
them. The records never influence a value: `Logged` only appends them.
-/

namespace TemplateEngines

namespace Log

/-- How serious a record is. -/
inductive Level where
  | error
  | warn
  | info
  | debug
  | trace
deriving DecidableEq, Inhabited, Repr

/-- The parts of the program that write records. -/
inductive Source where
  | application
  | commands
  | registry
  | dispatcher
  | handlebarsEngine
  | handlebarsRenderer
  | handlebarsLogHelper
deriving DecidableEq, Inhabited, Repr

/-- The path that filters know a source by. -/
def Source.path : Source → String
  | .application => "scriptgate::cli::app"
  | .commands => "scriptgate::cli::commands"
  | .registry => "scriptgate::script::registry"
  | .dispatcher => "scriptgate::script::dispatcher"
  | .handlebarsEngine => "scriptgate::script::engines::handlebars"
  | .handlebarsRenderer => "handlebars::render"
  | .handlebarsLogHelper => "handlebars::helpers::helper_log"

/-- The names of the fields of the records that a source writes. -/
def Source.fields : Source → List String
  | .handlebarsRenderer | .handlebarsLogHelper =>
    ["message", "log.target", "log.module_path", "log.file", "log.line"]
  | _ => ["message"]

/-- One line of the log, before it is filtered and written. -/
structure Record where
  level : Level
  source : Source
  message : String
deriving DecidableEq, Inhabited, Repr

end Log

/-- A value and the records written on the way to it, the oldest first. -/
structure Logged (α : Type) where
  value : α
  records : List Log.Record

namespace Logged

instance : Monad Logged where
  pure a := ⟨a, []⟩
  bind m f := let n := f m.value; ⟨n.value, m.records ++ n.records⟩

/-- Writes one record. -/
def emit (level : Log.Level) (source : Log.Source) (message : String) : Logged Unit :=
  ⟨(), [⟨level, source, message⟩]⟩

@[simp] theorem value_pure {α : Type} (a : α) : (pure a : Logged α).value = a := rfl

@[simp] theorem value_bind {α β : Type} (m : Logged α) (f : α → Logged β) :
    (m >>= f).value = (f m.value).value := rfl

end Logged

end TemplateEngines
