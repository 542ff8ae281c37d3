/-
The engine that the log names, against the engine that is asked. Rendering starts with a line that
names an engine, and the dispatcher finds the engine by a rule of its own, to which an empty name is
no name. The line takes the first name that is given as it stands. So it names the engine that is
asked, or says that none is, if and only if the first name that is given is not empty
(`perform_names_engine`).
-/
import TemplateEngines.Program
import TemplateEngines.Proofs.Rendering.Modes

namespace TemplateEngines

/-- The name of an engine as the log shows it. The empty name is that of no engine. -/
def shownEngine (name : String) : String := if name = "" then "<none>" else name

theorem shownEngine_of_ne {name : String} (h : name ≠ "") : shownEngine name = name := if_neg h

theorem shownEngine_ne_empty (name : String) : shownEngine name ≠ "" := by
  unfold shownEngine
  split
  · decide
  · assumption

/-- The line that names an engine. -/
def engineRecord (name : String) : Log.Record :=
  ⟨.info, .commands, "Rendering template with engine: " ++ name⟩

theorem engineRecord_inj {name name' : String} :
    some (engineRecord name) = some (engineRecord name') ↔ name = name' := by
  simp [engineRecord]

namespace RenderRequest

variable (request : RenderRequest) (config : Config)

/-- The first name that is given: that of the request, otherwise the default of the configuration. -/
def givenEngine? : Option String := request.engine.or config.defaultEngine

theorem reportedEngine_of_empty (h : request.givenEngine? config = some "") :
    request.reportedEngine config = "" := by
  show (request.givenEngine? config).getD _ = _
  rw [h, Option.getD_some]

/-- An empty name apart, the first name that is given is the one that the request stands for. -/
theorem engineName_of_given {name : String} (h : request.givenEngine? config = some name)
    (hname : name ≠ "") : request.engineName config = name := by
  have hkept : (some name).filter (· ≠ "") = some name := Option.filter_some_pos (by simpa using hname)
  rcases Option.or_eq_some_iff.1 h with hengine | ⟨hengine, hdefault⟩
  · rw [engineName, hengine, hkept]
    rfl
  · rw [engineName, hengine, hdefault, hkept]
    rfl

theorem engineName_of_none (h : request.givenEngine? config = none) :
    request.engineName config = "" := by
  obtain ⟨hengine, hdefault⟩ := Option.or_eq_none_iff.1 h
  rw [engineName, hengine, hdefault]
  rfl

theorem reportedEngine_of_not_empty (h : request.givenEngine? config ≠ some "") :
    request.reportedEngine config = shownEngine (request.engineName config) := by
  show (request.givenEngine? config).getD _ = _
  cases hgiven : request.givenEngine? config with
  | none =>
    rw [request.engineName_of_none config hgiven]
    rfl
  | some name =>
    have hname : name ≠ "" := by
      rintro rfl
      exact h hgiven
    rw [request.engineName_of_given config hgiven hname, shownEngine_of_ne hname, Option.getD_some]

end RenderRequest

namespace Config

theorem head?_records_perform (config : Config) (request : RenderRequest) (files : Files)
    (around : Surroundings) :
    (config.perform files around (.render request)).records.head? =
      some (engineRecord (request.reportedEngine config)) := rfl

/-- Rendering first writes a line that names an engine: the one that the dispatcher of the
configuration resolves the request to, or `<none>` where this is the empty name. That holds if and
only if the first name that is given is not empty. If it is empty the line ends without a name,
whatever engine is asked. -/
theorem perform_names_engine (config : Config) (request : RenderRequest) (files : Files)
    (around : Surroundings) :
    let resolved := config.dispatcher.value.resolve request.engine
    let first := (config.perform files around (.render request)).records.head?
    (first = some (engineRecord (shownEngine resolved)) ↔
        request.givenEngine? config ≠ some "") ∧
      (first = some (engineRecord "") ↔ request.givenEngine? config = some "") := by
  intro resolved first
  have hresolved : resolved = request.engineName config := request.resolve_dispatcher config
  have hfirst : first = some (engineRecord (request.reportedEngine config)) :=
    config.head?_records_perform request files around
  rw [hfirst, hresolved, engineRecord_inj, engineRecord_inj]
  by_cases hempty : request.givenEngine? config = some ""
  · have hreported := request.reportedEngine_of_empty config hempty
    refine ⟨iff_of_false ?_ (not_not_intro hempty), iff_of_true hreported hempty⟩
    rw [hreported]
    exact (shownEngine_ne_empty _).symm
  · have hreported := request.reportedEngine_of_not_empty config hempty
    refine ⟨iff_of_true hreported hempty, iff_of_false ?_ hempty⟩
    rw [hreported]
    exact shownEngine_ne_empty _

/-- The line does not always name the engine that is asked. A request with the empty name is for the
default engine, and an empty default stands for none, but the line shows neither. -/
theorem perform_names_engine_empty :
    let first (config : Config) (engine : Option String) : Option Log.Record :=
      (config.perform (fun _ => .absent) .bare
        (.render { engine, template := some "x" })).records.head?
    let blank : Config := { defaultEngine := some "" }
    (Config.dispatcher {}).value.resolve (some "") = "passthrough" ∧
      first {} (some "") = some (engineRecord "") ∧
      first {} (some "") ≠ some (engineRecord (shownEngine "passthrough")) ∧
      blank.dispatcher.value.resolve none = "" ∧
      first blank none = some (engineRecord "") ∧
      first blank none ≠ some (engineRecord (shownEngine "")) := by
  intro first blank
  have hne (name : String) : some (engineRecord "") ≠ some (engineRecord (shownEngine name)) :=
    fun h => shownEngine_ne_empty name (engineRecord_inj.1 h).symm
  exact ⟨rfl, rfl, hne "passthrough", rfl, rfl, hne ""⟩

end Config

end TemplateEngines
