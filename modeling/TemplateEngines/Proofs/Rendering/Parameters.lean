/-
The parameters of a rendering. They are those of the configuration, overridden by the assignments of
the request (`get?_parameters`), and a request is refused for the first text that is no assignment.
Assignments to different names may come in any order: the parameters, and so the whole rendering, are
the same (`parameters_perm`, `render_congr_assignments`).
-/
import TemplateEngines.Proofs.Variables
import TemplateEngines.Rendering

namespace TemplateEngines

open Variables (Assigns IsAssignment LastAssigns FirstRefused DistinctNames)

namespace Config

variable (config : Config) {texts : List String}

theorem parameters_eq_error_iff {e : VariableError} :
    config.parameters texts = .error e ↔ FirstRefused texts e := by
  have h : Variables.addTo [] texts = .error e ↔ FirstRefused texts e :=
    Variables.addTo_eq_error_iff
  rw [← h, parameters, Variables.parse]
  cases Variables.addTo [] texts <;> simp [Except.map]

/-- Texts that are all assignments give parameters. -/
theorem exists_parameters (h : ∀ t ∈ texts, IsAssignment t) :
    ∃ params, config.parameters texts = .ok params := by
  obtain ⟨given, hgiven⟩ := Variables.exists_addTo h []
  exact ⟨_, by rw [parameters, Variables.parse, hgiven, Except.map]⟩

/-- Parameters are refused only if some text is no assignment. -/
theorem exists_error_iff :
    (∃ e, config.parameters texts = .error e) ↔ ∃ t ∈ texts, ¬ IsAssignment t := by
  constructor
  · rintro ⟨e, he⟩
    by_contra hall
    push Not at hall
    obtain ⟨params, hparams⟩ := config.exists_parameters hall
    rw [he] at hparams
    cases hparams
  · rintro ⟨t, ht, hnot⟩
    exact (Variables.exists_firstRefused ht hnot).imp fun e => config.parameters_eq_error_iff.2

/-- The last assignment to a name counts, and without one the configuration, whose texts are
strings. -/
theorem get?_parameters {params : Params} (h : config.parameters texts = .ok params) (name : String) :
    (∃ value, LastAssigns texts name value ∧
      params.get? name = some (Variables.readValue value)) ∨
    (∀ t ∈ texts, ∀ value, ¬ Assigns t name value) ∧
      params.get? name = (config.presets.get? name).map .string := by
  rw [parameters, Variables.parse] at h
  cases hgiven : Variables.addTo [] texts with
  | error e =>
    rw [hgiven] at h
    cases h
  | ok given =>
    rw [hgiven] at h
    cases h
    -- The assignments start from nothing and are laid over the texts of the configuration.
    rw [Dict.get?_overlay (Variables.sorted_addTo Dict.sorted_nil hgiven), Dict.get?_map]
    rcases Variables.get?_addTo hgiven name with ⟨value, hlast, hget⟩ | ⟨hnone, hget⟩
    · exact .inl ⟨value, hlast, by rw [hget, Option.some_or]⟩
    · exact .inr ⟨hnone, by rw [hget, Dict.get?, Option.none_or]⟩

theorem parameters_perm {texts' : List String} (hperm : texts.Perm texts')
    (h : ∀ t ∈ texts, IsAssignment t) (hdistinct : DistinctNames texts) :
    config.parameters texts' = config.parameters texts := by
  rw [parameters, parameters, Variables.parse, Variables.parse,
    Variables.addTo_perm hperm h hdistinct Dict.sorted_nil]

end Config

/-- The texts of a request reach its rendering through the parameters only. -/
theorem RenderRequest.render_congr_assignments (request : RenderRequest) {config : Config}
    {texts texts' : List String} (h : config.parameters texts' = config.parameters texts)
    (files : Files) (around : Surroundings) :
    { request with assignments := texts' }.render config files around =
      { request with assignments := texts }.render config files around := by
  simp only [render, h]
  rfl

namespace Config

/-- The parameters of a rendering. They are refused if and only if some text lacks an equals sign or a
name before it, and then for the first such text. Otherwise a name is bound to the value of the last
assignment to it, read as JSON if it is JSON and as a string if not, or else to the text of the
configuration as a string, or else to nothing. If no two of the assignments are to the same name,
their order makes no difference, neither to the parameters nor to any rendering with them. -/
theorem parameters_last_assignment (config : Config) (texts : List String) :
    ((∃ e, config.parameters texts = .error e) ↔
      ∃ t ∈ texts, '=' ∉ t.toList ∨ t.toList.head? = some '=') ∧
    (∀ e, config.parameters texts = .error e ↔ FirstRefused texts e) ∧
    (∀ params, config.parameters texts = .ok params → ∀ name,
      (∃ value, LastAssigns texts name value ∧
        params.get? name = some ((Json.parse value).getD (.string value))) ∨
      (∀ t ∈ texts, ∀ value, ¬ Assigns t name value) ∧
        params.get? name = (config.presets.get? name).map .string) ∧
    ((∀ t ∈ texts, IsAssignment t) → DistinctNames texts → ∀ texts', texts.Perm texts' →
      config.parameters texts' = config.parameters texts ∧
      ∀ (request : RenderRequest) files around,
        { request with assignments := texts' }.render config files around =
          { request with assignments := texts }.render config files around) := by
  refine ⟨?_, fun e => config.parameters_eq_error_iff, fun params hparams => ?_,
    fun h hdistinct texts' hperm => ?_⟩
  · simp only [exists_error_iff, Variables.not_isAssignment_iff]
  · exact config.get?_parameters hparams
  · have hsame := config.parameters_perm hperm h hdistinct
    exact ⟨hsame, fun request => request.render_congr_assignments hsame⟩

/-- A value with an equals sign, one that is JSON, and a name that only the configuration binds. -/
theorem parameters_last_assignment_swapped :
    let config : Config := { presets := [("a", "1"), ("b", "2")] }
    config.parameters ["a=1", "=x", "y"] = .error (.noName "=x") ∧
    (∃ params, config.parameters ["a=x=y", "c= [1]"] = .ok params ∧
      params.get? "b" = some (.string "2")) ∧
    config.parameters ["c= [1]", "a=x=y"] = config.parameters ["a=x=y", "c= [1]"] := by
  intro config
  have ha : Assigns "a=x=y" "a" "x=y" := ⟨by decide, by decide, by decide⟩
  have hc : Assigns "c= [1]" "c" " [1]" := ⟨by decide, by decide, by decide⟩
  have hall : ∀ t ∈ ["a=x=y", "c= [1]"], IsAssignment t :=
    List.forall_mem_cons.2 ⟨⟨_, _, ha⟩, List.forall_mem_singleton.2 ⟨_, _, hc⟩⟩
  have hdistinct : DistinctNames ["a=x=y", "c= [1]"] := by
    refine List.pairwise_pair.2 fun name v w hv hw => ?_
    exact absurd ((ha.name_unique hv).trans (hw.name_unique hc)) (by decide)
  have hfirst : FirstRefused ["a=1", "=x", "y"] (.noName "=x") := by
    refine ⟨["a=1"], "=x", ["y"], rfl, List.forall_mem_singleton.2 ?_, .noName "x"⟩
    exact ⟨"a", "1", by decide, by decide, by decide⟩
  obtain ⟨-, herror, -, -⟩ := parameters_last_assignment config ["a=1", "=x", "y"]
  obtain ⟨-, -, hget, hperm⟩ := parameters_last_assignment config ["a=x=y", "c= [1]"]
  obtain ⟨params, hparams⟩ := config.exists_parameters hall
  refine ⟨(herror _).2 hfirst, ⟨params, hparams, ?_⟩,
    (hperm hall hdistinct _ (List.Perm.swap _ _ _)).1⟩
  rcases hget params hparams "b" with ⟨value, hlast, -⟩ | ⟨-, hb⟩
  · obtain ⟨t, ht, hassigns⟩ := hlast.exists_mem
    rcases List.mem_pair.1 ht with rfl | rfl
    · exact absurd (ha.name_unique hassigns) (by decide)
    · exact absurd (hc.name_unique hassigns) (by decide)
  · exact hb

end Config

end TemplateEngines
