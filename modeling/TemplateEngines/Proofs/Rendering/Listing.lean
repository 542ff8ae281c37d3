/-
The list of the engines, against what a request that names no engine gets. The list has one line for
each engine in the order of the names, and marked is the engine that stands in where no name is given
(`value_listEngines`). Requests with and without its name give the same results, and no other engine
gives the same as no name (`listEngines_default`).
-/
import TemplateEngines.Proofs.Handlebars.Writing
import TemplateEngines.Proofs.Rendering.Modes

namespace TemplateEngines

/-! ## A template that tells the engines apart -/

namespace Builtin

/-- What an engine makes of a template with a comment of Handlebars in it. -/
def commentText : Builtin → String
  | .passthrough => "\x7b\x7b!\x7d\x7d"
  | .substitution _ => "\x7b!\x7d"
  | .handlebars _ => ""

theorem value_evaluate_comment (engine : Builtin) (around : Surroundings) (params : Params) :
    (Engine.evaluate engine around (some "\x7b\x7b!\x7d\x7d") (some params)).value =
      .value (.string engine.commentText) := by
  cases engine with
  | passthrough => rfl
  | substitution strict =>
    show Substitution.evaluate strict (some "\x7b\x7b!\x7d\x7d") (some params) = _
    with_unfolding_all rfl
  | handlebars strict =>
    have hcompile : Handlebars.compile "\x7b\x7b!\x7d\x7d" around.refusedAt =
        .ok [(⟨1, 1⟩, .comment)] := by
      with_unfolding_all rfl
    have hwrites : (Handlebars.renderElements
        (Handlebars.render ("\x7b\x7b!\x7d\x7d".length + 65535)) (.start strict around params)
        [(⟨1, 1⟩, .comment)]).Writes (.ok "") := Handlebars.renderElements_singleton _ .done
    have hvalue := Handlebars.value_evaluate_of_writes strict around hcompile hwrites
    show Outcome.ofExcept (Handlebars.evaluate strict around (some _) (some params)).value = _
    rw [hvalue]
    rfl

theorem name_eq_of_commentText {engine engine' : Builtin}
    (h : engine.commentText = engine'.commentText) : Engine.name engine = Engine.name engine' := by
  cases engine <;> cases engine' <;> first | rfl | simp [commentText] at h

end Builtin

/-! ## Requests without a name -/

namespace RenderRequest

/-- The request names no engine, or gives the empty name. -/
def IsUnnamed (request : RenderRequest) : Prop :=
  request.engine = none ∨ request.engine = some ""

variable (request : RenderRequest) {config : Config}

theorem engineName_of_unnamed {request : RenderRequest} (h : request.IsUnnamed) :
    request.engineName config = config.dispatcher.value.resolve none := by
  rw [← resolve_dispatcher]
  rcases h with h | h
  · rw [h]
  · rw [h]
    rfl

theorem engineName_of_named {name : String} (h : name ≠ "") :
    { request with engine := some name }.engineName config = name := by
  rw [engineName, Option.filter_some_pos (by simpa using h), Option.some_or, Option.getD_some]

section Value

variable {files : Files} {around : Surroundings}

/-- Of the engine that is asked for only the name that it stands for matters. -/
theorem value_render_congr_engine {engine : Option String}
    (h : { request with engine }.engineName config = request.engineName config) :
    ({ request with engine }.render config files around).value =
      (request.render config files around).value := by
  rw [value_render_eq, value_render_eq, h]
  rfl

theorem value_render_of_unknown {template : String} {params : Params}
    (htemplate : request.readTemplate files = .ok template)
    (hparams : config.parameters request.assignments = .ok params)
    (hengine : config.engineOf? (request.engineName config) = none) :
    (request.render config files around).value =
      if request.strict then .error (.script (.unknownEngine (request.engineName config)))
      else .ok template := by
  rw [value_render_eq, htemplate, hparams, hengine]
  rfl

end Value

/-- A strict request whose result tells which engine it was for. -/
def telling (engine : Option String) : RenderRequest where
  engine := engine
  template := some "\x7b\x7b!\x7d\x7d"
  strict := true

theorem value_render_telling (config : Config) (files : Files) (around : Surroundings)
    (engine : Option String) :
    ((telling engine).render config files around).value =
      match config.engineOf? ((telling engine).engineName config) with
      | none => .error (.script (.unknownEngine ((telling engine).engineName config)))
      | some engine => .ok engine.commentText := by
  rw [value_render_eq]
  show resultText true _ _ = _
  cases config.engineOf? ((telling engine).engineName config) with
  | none => rfl
  | some engine =>
    simp only [Builtin.value_evaluate_comment]
    rfl

/-- No other engine gives the same result. -/
theorem engineName_eq_of_telling {files : Files} {around : Surroundings}
    {engine engine' : Option String} {found : Builtin}
    (hfound : config.engineOf? ((telling engine).engineName config) = some found)
    (h : ((telling engine').render config files around).value =
      ((telling engine).render config files around).value) :
    (telling engine').engineName config = (telling engine).engineName config := by
  rw [value_render_telling, value_render_telling, hfound] at h
  cases hfound' : config.engineOf? ((telling engine').engineName config) with
  | none =>
    rw [hfound'] at h
    cases h
  | some found' =>
    rw [hfound'] at h
    have hname := Builtin.name_eq_of_commentText (Except.ok.inj h)
    rwa [Builtin.name_of_ofName? hfound, Builtin.name_of_ofName? hfound'] at hname

end RenderRequest

/-! ## The list -/

namespace Config

/-- The line says that the engine is the default. -/
def IsMarked (line : String) : Prop := ∃ name, line = name ++ " (default)"

section List

variable (config : Config)

theorem names_dispatcher :
    config.dispatcher.value.registry.names = ["handlebars", "passthrough", "substitution"] := by
  rw [registry_dispatcher, Builtin.names_registry]

theorem not_isMarked_of_mem_names {name : String}
    (h : name ∈ config.dispatcher.value.registry.names) : ¬ IsMarked name := by
  -- A marked line ends in a bracket, which the name of no engine does.
  rintro ⟨front, rfl⟩
  have hlast : ∀ name ∈ ["handlebars", "passthrough", "substitution"],
      name.toList.getLast? ≠ some ')' := by decide
  rw [names_dispatcher] at h
  refine hlast _ h ?_
  simp

theorem ne_empty_of_mem_names {name : String}
    (h : name ∈ config.dispatcher.value.registry.names) : name ≠ "" := by
  rw [names_dispatcher] at h
  rintro rfl
  exact absurd h (by decide)

/-- The default engine is the one that the dispatcher takes if no name is given. -/
theorem defaultEngine_eq_some_iff {name : String} (h : name ≠ "") :
    config.dispatcher.value.defaultEngine = some name ↔
      config.dispatcher.value.resolve none = name := by
  show _ ↔ config.dispatcher.value.defaultEngine.getD "" = name
  cases config.dispatcher.value.defaultEngine with
  | none => simp [Ne.symm h]
  | some name' => simp

/-- One line for each engine, in order; marked is the engine that stands in where no name is given. -/
theorem value_listEngines : config.listEngines.value =
    config.dispatcher.value.registry.names.map fun name =>
      if config.dispatcher.value.resolve none = name then name ++ " (default)" else name := by
  simp only [listEngines, Logged.value_bind, Logged.value_pure]
  refine List.map_congr_left fun name hname => ?_
  simp only [config.defaultEngine_eq_some_iff (config.ne_empty_of_mem_names hname)]

theorem marked_mem_listEngines_iff {name : String}
    (h : name ∈ config.dispatcher.value.registry.names) :
    name ++ " (default)" ∈ config.listEngines.value ↔
      config.dispatcher.value.resolve none = name := by
  rw [value_listEngines, List.mem_map]
  constructor
  · rintro ⟨name', hname', hline⟩
    split at hline
    next hdefault =>
      rw [String.append_left_inj] at hline
      exact hdefault.trans hline
    next => exact absurd ⟨name, hline⟩ (config.not_isMarked_of_mem_names hname')
  · intro hdefault
    exact ⟨name, h, if_pos hdefault⟩

theorem isMarked_line_iff {name : String}
    (h : name ∈ config.dispatcher.value.registry.names) :
    IsMarked (if config.dispatcher.value.resolve none = name then name ++ " (default)" else name) ↔
      config.dispatcher.value.resolve none = name := by
  split
  next hdefault => exact iff_of_true ⟨name, rfl⟩ hdefault
  next hdefault => exact iff_of_false (config.not_isMarked_of_mem_names h) hdefault

/-- At most one line is marked. -/
theorem pairwise_listEngines :
    config.listEngines.value.Pairwise fun a b => ¬ (IsMarked a ∧ IsMarked b) := by
  rw [value_listEngines, List.pairwise_map]
  refine (Registry.names_nodup _).imp_of_mem fun ha hb hne => ?_
  rw [config.isMarked_line_iff ha, config.isMarked_line_iff hb]
  rintro ⟨hdefault, hdefault'⟩
  exact hne (hdefault.symm.trans hdefault')

/-- If no line is marked, no engine has the name that stands in where no name is given. -/
theorem engineOf?_of_unmarked (h : ∀ line ∈ config.listEngines.value, ¬ IsMarked line) :
    config.engineOf? (config.dispatcher.value.resolve none) = none := by
  rw [← lookup_dispatcher, ← Option.not_isSome_iff_eq_none, ← Registry.mem_names]
  intro hname
  exact h _ ((config.marked_mem_listEngines_iff hname).2 rfl) ⟨_, rfl⟩

theorem resolve_none : config.dispatcher.value.resolve none = config.defaultEngine.getD "" := by
  show config.dispatcher.value.defaultEngine.getD "" = _
  rw [defaultEngine_dispatcher]
  cases config.defaultEngine with
  | none => rfl
  | some name =>
    by_cases h : name = "" <;> simp [Option.filter, h]

end List

/-- An engine stands in where no name is given if and only if its name gives the same results. -/
theorem resolve_none_eq_iff (config : Config) {name : String}
    (h : name ∈ config.dispatcher.value.registry.names) :
    config.dispatcher.value.resolve none = name ↔
      ∀ (request : RenderRequest) files around, request.IsUnnamed →
        (request.render config files around).value =
          ({ request with engine := some name }.render config files around).value := by
  have hname : name ≠ "" := config.ne_empty_of_mem_names h
  constructor
  · intro hdefault request files around hunnamed
    refine (request.value_render_congr_engine ?_).symm
    rw [request.engineName_of_named hname, RenderRequest.engineName_of_unnamed hunnamed, hdefault]
  -- One template is enough: the engines make different things of it, and where no engine is found
  -- the strict request fails.
  · intro hsame
    have hnamed : (RenderRequest.telling (some name)).engineName config = name :=
      (RenderRequest.telling none).engineName_of_named hname
    obtain ⟨engine, hengine⟩ := Option.isSome_iff_exists.1 (Registry.mem_names.1 h)
    rw [lookup_dispatcher] at hengine
    have hunnamed : (RenderRequest.telling none).IsUnnamed := .inl rfl
    have heq := RenderRequest.engineName_eq_of_telling (hnamed.symm ▸ hengine)
      (hsame (.telling none) (fun _ => .absent) .bare hunnamed)
    rw [← RenderRequest.engineName_of_unnamed hunnamed, heq, hnamed]

/-- The list of the engines tells what a request without a name gets. It has one line for each engine
that is registered, in the order of the bytes of the names, and marked is the engine that the
dispatcher takes if no name is given. That is the engine whose name gives the same results as no name
or the empty one, for every request. At most one line is marked. If none is, every strict request
without a name fails because its engine is unknown, once its template and its parameters have been
read, and every other one gives its template. -/
theorem listEngines_default (config : Config) :
    let dispatcher := config.dispatcher.value
    let lines := config.listEngines.value
    (dispatcher.registry.names.Pairwise fun a b => a.toUTF8.data.toList < b.toUTF8.data.toList) ∧
    (∀ name, name ∈ dispatcher.registry.names ↔ (dispatcher.registry.lookup name).isSome) ∧
    (lines = dispatcher.registry.names.map fun name =>
      if dispatcher.resolve none = name then name ++ " (default)" else name) ∧
    (∀ name ∈ dispatcher.registry.names,
      (name ++ " (default)" ∈ lines ↔ dispatcher.resolve none = name) ∧
      (dispatcher.resolve none = name ↔
        ∀ (request : RenderRequest) files around, request.IsUnnamed →
          (request.render config files around).value =
            ({ request with engine := some name }.render config files around).value)) ∧
    (lines.Pairwise fun a b => ¬ (IsMarked a ∧ IsMarked b)) ∧
    ((∀ line ∈ lines, ¬ IsMarked line) →
      ∀ (request : RenderRequest) files around template params, request.IsUnnamed →
        request.readTemplate files = .ok template →
        config.parameters request.assignments = .ok params →
        (request.render config files around).value =
          if request.strict then
            .error (.script (.unknownEngine (config.defaultEngine.getD "")))
          else .ok template) := by
  intro dispatcher lines
  refine ⟨Registry.names_increasing _, fun _ => Registry.mem_names, config.value_listEngines,
    fun name hname => ⟨config.marked_mem_listEngines_iff hname, config.resolve_none_eq_iff hname⟩,
    config.pairwise_listEngines, ?_⟩
  intro hunmarked request files around template params hunnamed htemplate hparams
  have hname : request.engineName config = config.defaultEngine.getD "" := by
    rw [RenderRequest.engineName_of_unnamed hunnamed, config.resolve_none]
  have hengine : config.engineOf? (request.engineName config) = none := by
    rw [RenderRequest.engineName_of_unnamed hunnamed, config.engineOf?_of_unmarked hunmarked]
  rw [request.value_render_of_unknown htemplate hparams hengine, hname]

/-- A name in capitals is the name of no engine. -/
theorem listEngines_default_capitals :
    let config : Config := { defaultEngine := some "Handlebars" }
    let request (strict : Bool) : RenderRequest := { template := some "\x7b", strict }
    config.listEngines.value = ["handlebars", "passthrough", "substitution"] ∧
    ((request true).render config (fun _ => .absent) .bare).value =
      .error (.script (.unknownEngine "Handlebars")) ∧
    ((request false).render config (fun _ => .absent) .bare).value = .ok "\x7b" := by
  intro config request
  obtain ⟨-, -, hlines, -, -, hunmarked⟩ := listEngines_default config
  have hplain : config.listEngines.value = ["handlebars", "passthrough", "substitution"] := by
    rw [hlines, names_dispatcher, resolve_none]
    decide
  have hnone : ∀ line ∈ config.listEngines.value, ¬ IsMarked line := by
    rw [hplain, ← names_dispatcher config]
    exact fun line => config.not_isMarked_of_mem_names
  have hrender (strict : Bool) := hunmarked hnone (request strict) (fun _ => .absent) .bare _ _
    (.inl rfl) rfl rfl
  exact ⟨hplain, hrender true, hrender false⟩

end Config

end TemplateEngines
