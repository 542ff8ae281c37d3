/-
Writing requests to render as arguments, and reading them back. Every option is one argument with
its value attached, so no value is taken for anything else, and a level reads such arguments one by
one as they were given (`readLevel_written`). What they ask for depends on the values of each option
only, not on the order of different options nor on the side of the command on which an option for
both levels stands; so every order of the arguments is read as the same request (`parse_written`).
-/
import TemplateEngines.CommandLine.Arguments
import Mathlib.Tactic

namespace TemplateEngines.CommandLine

/-! ## Options as arguments -/

/-- The value that is written, if the option takes one. -/
def Given.attached? (g : Given) : Option String :=
  if g.option.takesValue then some g.value else none

/-- The option as one argument. -/
def Given.written (g : Given) : String :=
  match g.attached? with
  | some value => "--" ++ g.option.long ++ "=" ++ value
  | none => "--" ++ g.option.long

/-- What stands behind the name of the option. -/
def Given.tail (g : Given) : List Char := g.attached?.elim [] fun value => '=' :: value.toList

/-- What follows the two hyphens. -/
def Given.body (g : Given) : List Char := g.option.long.toList ++ g.tail

namespace OptionName

theorem long_ne_nil (o : OptionName) : o.long.toList ≠ [] := by
  cases o <;> decide

theorem long_no_equals (o : OptionName) : ∀ c ∈ o.long.toList, c != '=' := by
  have hall : o.long.toList.all (· != '=') := by cases o <;> decide
  exact List.all_eq_true.1 hall

end OptionName

theorem Level.findLong?_long {level : Level} {o : OptionName} (h : o ∈ level.options) :
    level.findLong? o.long = some o := by
  revert h
  rcases level with _ | _ | _ <;> cases o <;> decide

namespace Given

variable (g : Given)

theorem toList_written : g.written.toList = '-' :: '-' :: g.body := by
  unfold written body tail
  cases g.attached? <;> simp

theorem body_ne_nil : g.body ≠ [] := by
  simp [body, g.option.long_ne_nil]

theorem shape_written : Shape.of g.written = .long g.body := by
  obtain ⟨c, cs, h⟩ := List.exists_cons_of_ne_nil g.body_ne_nil
  rw [Shape.of, toList_written, h]
  rfl

/-- An option is not mistaken for a command. -/
theorem written_ne (name : String) (h : name.toList.head? ≠ some '-') : g.written ≠ name := by
  rintro rfl
  rw [toList_written] at h
  exact h rfl

theorem ofText?_written : CommandName.ofText? g.written = none := by
  rw [CommandName.ofText?, List.find?_eq_none]
  intro name _ heq
  refine g.written_ne name.text ?_ (eq_of_beq heq).symm
  cases name <;> decide

/-- The name ends at the first equals sign, whatever the value contains. -/
theorem takeWhile_body : g.body.takeWhile (· != '=') = g.option.long.toList := by
  rw [body, List.takeWhile_append_of_pos g.option.long_no_equals, tail]
  cases g.attached? <;> simp

theorem dropWhile_body : g.body.dropWhile (· != '=') = g.tail := by
  rw [body, List.dropWhile_append_of_pos g.option.long_no_equals, tail]
  cases g.attached? <;> simp

end Given

/-! ## Values of options -/

namespace Givens

section Append

variable (gs hs : Givens) (o : OptionName)

theorem values_append : values (gs ++ hs) o = values gs o ++ values hs o := by
  simp [values]

theorem has_append : has (gs ++ hs) o = (has gs o || has hs o) := by
  simp [has]

theorem has_eq : has gs o = !(values gs o).isEmpty := by
  rw [Bool.eq_iff_iff]
  simp [has, values, List.filter_eq_nil_iff]

end Append

/-- No option is given twice that must not be. -/
def Once (gs : Givens) : Prop := ∀ o : OptionName, ¬ o.repeats → (gs.values o).length ≤ 1

/-- An option that stands behind others is new. -/
theorem Once.has_eq_false {done gs : Givens} {g : Given} (h : Once (done ++ g :: gs))
    (hrepeats : ¬ g.option.repeats) : done.has g.option = false := by
  have hlen := h g.option hrepeats
  have hg : values (g :: gs) g.option = g.value :: values gs g.option := by simp [values]
  rw [values_append, hg, List.length_append, List.length_cons] at hlen
  have hnil : values done g.option = [] := List.length_eq_zero_iff.1 (by omega)
  rw [has_eq, hnil]
  rfl

end Givens

/-! ## Reading options -/

/-- An option that may stand on a level, with a value that suits it. -/
structure Given.Fits (level : Level) (g : Given) : Prop where
  stands : g.option ∈ level.options
  not_help : g.option ≠ .help
  not_version : g.option ≠ .version
  bare : ¬ g.option.takesValue → g.value = ""
  path : g.option.isPath → g.value ≠ ""

namespace Given.Fits

variable {level : Level} {o : OptionName} {value : String}

theorem valued (hstands : o ∈ level.options) (htakes : o.takesValue)
    (hpath : o.isPath → value ≠ "") : Given.Fits level ⟨o, value⟩ where
  stands := hstands
  not_help := by rintro rfl; cases htakes
  not_version := by rintro rfl; cases htakes
  bare h := absurd htakes h
  path := hpath

/-- An option of the program fits before the command as behind it. -/
theorem top {g : Given} (h : g.Fits level) (hglobal : g.option ∈ [.verbose, .config, .noColor]) :
    g.Fits .top where
  stands := by
    revert hglobal
    cases g.option <;> decide
  not_help := h.not_help
  not_version := h.not_version
  bare := h.bare
  path := h.path

end Given.Fits

section Reading

variable {level : Level} {g : Given} {done : Givens}

theorem add_fits (hfits : g.Fits level) (hnew : ¬ g.option.repeats → done.has g.option = false) :
    Reading.add ⟨done, none⟩ g.option g.attached? = .ok ⟨done ++ [g], none⟩ := by
  have hmissing : (g.option.takesValue && g.attached?.isNone) = false := by
    unfold Given.attached?
    cases g.option.takesValue <;> rfl
  have hrepeated : (!g.option.repeats && done.has g.option) = false := by
    cases hrepeats : g.option.repeats with
    | true => rfl
    | false => simpa using hnew (by simp [hrepeats])
  have hempty : (g.option.isPath && g.attached? == some "") = false := by
    rw [Bool.and_eq_false_imp]
    intro hpath
    apply beq_false_of_ne
    unfold Given.attached?
    split
    · exact fun h => hfits.path hpath (Option.some.inj h)
    · exact nofun
  have hvalue : g.attached?.getD "" = g.value := by
    unfold Given.attached?
    split
    · rfl
    · next hbare => exact (hfits.bare hbare).symm
  rw [Reading.add, hmissing, hrepeated, hempty, hvalue]
  rfl

theorem readSwitch_fits (hfits : g.Fits level)
    (hnew : ¬ g.option.repeats → done.has g.option = false) (hswitch : g.attached? = none) :
    level.readSwitch ⟨done, none⟩ g.option = .ok ⟨done ++ [g], none⟩ := by
  have hadd := add_fits hfits hnew
  rw [hswitch] at hadd
  have hhelp := hfits.not_help
  have hversion := hfits.not_version
  unfold Level.readSwitch
  generalize g.option = o at hadd hhelp hversion
  cases o with
  | help => exact absurd rfl hhelp
  | version => exact absurd rfl hversion
  | _ => exact hadd

theorem readLong_body (hfits : g.Fits level)
    (hnew : ¬ g.option.repeats → done.has g.option = false) :
    level.readLong ⟨done, none⟩ g.body = .ok ⟨done ++ [g], none⟩ := by
  rw [Level.readLong, g.takeWhile_body, g.dropWhile_body, String.ofList_toList,
    Level.findLong?_long hfits.stands]
  by_cases htakes : g.option.takesValue
  · have hattached : g.attached? = some g.value := if_pos htakes
    have hadd := add_fits hfits hnew
    rw [Given.tail, hattached]
    rw [hattached] at hadd
    simp only [htakes, Option.elim_some, String.ofList_toList]
    exact hadd
  · have hattached : g.attached? = none := if_neg htakes
    have hswitch := readSwitch_fits hfits hnew hattached
    rw [Given.tail, hattached]
    simp only [htakes, Option.elim_none]
    exact hswitch

theorem readLevel_long {r : Reading} {arg : String} {body : List Char}
    (hcommand : CommandName.ofText? arg = none) (hhelp : arg ≠ "help")
    (hshape : Shape.of arg = .long body) (rest : List String) :
    readLevel level r (arg :: rest) = (level.readLong r body).bind (readLevel level · rest) := by
  have hcommand' (b : Bool) : (if b then some arg else none).bind CommandName.ofText? = none := by
    cases b
    · rfl
    · exact hcommand
  have hhelp' (b : Bool) : ((if b then some arg else none) == some "help") = false := by
    cases b
    · rfl
    · simpa using hhelp
  rw [readLevel.eq_def]
  simp only [hcommand', hhelp', hshape]
  rfl

/-- A level reads options one by one, up to whatever follows them. -/
theorem readLevel_written {gs : Givens} (hfits : ∀ g ∈ gs, g.Fits level)
    (honce : Givens.Once (done ++ gs)) (rest : List String) :
    readLevel level ⟨done, none⟩ (gs.map Given.written ++ rest) =
      readLevel level ⟨done ++ gs, none⟩ rest := by
  induction gs generalizing done with
  | nil => simp
  | cons g gs ih =>
    obtain ⟨hg, hgs⟩ := List.forall_mem_cons.1 hfits
    have hread := readLong_body hg fun hrepeats => honce.has_eq_false hrepeats
    rw [List.map_cons, List.cons_append,
      readLevel_long g.ofText?_written (g.written_ne "help" (by decide)) g.shape_written, hread]
    have hdone : done ++ g :: gs = done ++ [g] ++ gs := by simp
    rw [hdone] at honce ⊢
    exact ih hgs honce

theorem readLevel_start {gs : Givens} (hfits : ∀ g ∈ gs, g.Fits level) (honce : gs.Once)
    (rest : List String) :
    readLevel level {} (gs.map Given.written ++ rest) = readLevel level ⟨gs, none⟩ rest :=
  readLevel_written hfits (show Givens.Once ([] ++ gs) from honce) rest

end Reading

/-! ## Requests as options -/

/-- An option with its value, if there is one. -/
def optional (o : OptionName) (value : Option String) : Givens := (value.map (Given.mk o)).toList

/-- The value of an option without one, if it is switched on. -/
def onValue (on : Bool) : Option String := if on then some "" else none

/-- The options that describe a request to render, and those of the program. -/
def optionsOf (request : RenderRequest) (verbose : Bool) (config : Option String) (noColor : Bool) :
    Givens :=
  optional .engine request.engine ++ optional .template request.template ++
    optional .file request.file ++ request.assignments.map (Given.mk .parameter) ++
    optional .strict (onValue request.strict) ++ optional .verbose (onValue verbose) ++
    optional .config config ++ optional .noColor (onValue noColor)

/-- What a request says about an option that may be given once. -/
def setting (request : RenderRequest) (verbose : Bool) (config : Option String) (noColor : Bool) :
    OptionName → Option String
  | .engine => request.engine
  | .template => request.template
  | .file => request.file
  | .strict => onValue request.strict
  | .verbose => onValue verbose
  | .config => config
  | .noColor => onValue noColor
  | .parameter | .help | .version => none

namespace Givens

theorem values_optional (o o' : OptionName) (value : Option String) :
    values (optional o' value) o = if o' = o then value.toList else [] := by
  cases value <;> by_cases h : o' = o <;> simp [optional, values, h]

theorem values_map (o o' : OptionName) (texts : List String) :
    values (texts.map (Given.mk o')) o = if o' = o then texts else [] := by
  by_cases h : o' = o <;> simp [values, List.filter_map, Function.comp_def, h]

theorem value_mem_values {gs : Givens} {g : Given} (h : g ∈ gs) : g.value ∈ gs.values g.option :=
  List.mem_map.2 ⟨g, List.mem_filter.2 ⟨h, beq_self_eq_true _⟩, rfl⟩

theorem values_eq_nil {gs : Givens} {o : OptionName} (h : ∀ g ∈ gs, g.option ≠ o) :
    gs.values o = [] := by
  simpa [values, List.filter_eq_nil_iff] using h

theorem values_perm {gs hs : Givens} (h : gs.Perm hs) (o : OptionName) :
    (gs.values o).Perm (hs.values o) :=
  (h.filter _).map _

end Givens

theorem eq_toList_of_perm {α : Type} {l : List α} {o : Option α} (h : l.Perm o.toList) :
    l = o.toList := by
  cases o with
  | none => exact List.perm_nil.1 h
  | some a => exact List.perm_singleton.1 h

section OptionsOf

variable {request : RenderRequest} {verbose noColor : Bool} {config : Option String}

theorem values_optionsOf {o : OptionName} (h : ¬ o.repeats) :
    (optionsOf request verbose config noColor).values o =
      (setting request verbose config noColor o).toList := by
  unfold optionsOf
  simp only [Givens.values_append, Givens.values_optional, Givens.values_map]
  cases o with
  | parameter => exact absurd rfl h
  | _ => simp [setting]

theorem values_optionsOf_parameter :
    (optionsOf request verbose config noColor).values .parameter = request.assignments := by
  unfold optionsOf
  simp [Givens.values_append, Givens.values_optional, Givens.values_map]

theorem once_optionsOf : Givens.Once (optionsOf request verbose config noColor) := by
  intro o hrepeats
  rw [values_optionsOf hrepeats]
  cases setting request verbose config noColor o <;> simp

theorem fits_optionsOf (hfile : request.file ≠ some "") (hconfig : config ≠ some "") :
    ∀ g ∈ optionsOf request verbose config noColor, g.Fits (.command .render) := by
  intro g hg
  have hvalue := Givens.value_mem_values hg
  obtain ⟨o, value⟩ := g
  by_cases hrepeats : o.repeats
  · cases o with
    | parameter => exact .valued (by decide) rfl nofun
    | _ => cases hrepeats
  · rw [values_optionsOf hrepeats, Option.mem_toList] at hvalue
    cases o with
    | parameter => exact absurd rfl hrepeats
    | help | version => cases hvalue
    | engine | template => exact .valued (by decide) rfl nofun
    | file =>
      refine .valued (by decide) rfl fun _ hempty => hfile ?_
      rw [← hempty]
      exact hvalue
    | config =>
      refine .valued (by decide) rfl fun _ hempty => hconfig ?_
      rw [← hempty]
      exact hvalue
    | strict | verbose | noColor =>
      have hempty : value = "" := by
        unfold setting onValue at hvalue
        split at hvalue <;> simp_all
      subst hempty
      exact ⟨by decide, nofun, nofun, fun _ => rfl, nofun⟩

end OptionsOf

/-! ## What a command reads -/

/-- One of the two sources of a template is enough, and no more than one is allowed. -/
theorem checkSources_ok {gs : Givens} (h : gs.has .template ≠ gs.has .file) :
    checkSources gs = .ok () := by
  have hhas (o : OptionName) : gs.has o ↔ ∃ g ∈ gs, g.option = o := by simp [Givens.has]
  unfold checkSources
  split
  · next hnone =>
    have hneither := List.find?_eq_none.1 hnone
    have hfalse : ∀ o ∈ [OptionName.template, .file], gs.has o = false := by
      intro o ho
      rw [← Bool.not_eq_true, hhas]
      rintro ⟨g, hg, rfl⟩
      have := hneither g hg
      simp_all
    rw [hfalse .template (by decide), hfalse .file (by decide)] at h
    exact absurd rfl h
  · next first hfirst =>
    have hmem := (hhas first.option).2 ⟨first, List.mem_of_find?_eq_some hfirst, rfl⟩
    have hsource := List.find?_some hfirst
    simp only [Bool.or_eq_true, beq_iff_eq] at hsource
    rcases hsource with hsource | hsource
    · rw [hsource] at hmem ⊢
      rw [hmem] at h
      have hother : gs.has .file = false := by simpa using h.symm
      simp [hother]
    · rw [hsource] at hmem ⊢
      rw [hmem] at h
      have hother : gs.has .template = false := by simpa using h
      simp [hother]

theorem readCommand_written {gs : Givens} (hfits : ∀ g ∈ gs, g.Fits (.command .render))
    (honce : gs.Once) (hsources : gs.has .template ≠ gs.has .file) :
    readCommand .render (gs.map Given.written) = .ok (gs, .render (requestOf gs)) := by
  have hread := readLevel_start hfits honce []
  rw [List.append_nil, readLevel.eq_1] at hread
  rw [readCommand, hread]
  show (checkSources gs).bind (fun _ => .ok (gs, Command.render (requestOf gs))) = _
  rw [checkSources_ok hsources]
  rfl

/-- Reading options before the command, the command, and options behind it. -/
theorem parse_render {before behind : Givens} (hbefore : ∀ g ∈ before, g.Fits .top)
    (hbehind : ∀ g ∈ behind, g.Fits (.command .render)) (honce : before.Once)
    (honce' : behind.Once) (hsources : behind.has .template ≠ behind.has .file) :
    Arguments.parse (before.map Given.written ++ "render" :: behind.map Given.written) =
      .ok ⟨.render (requestOf behind), behind.has .verbose || before.has .verbose,
        (behind.value? .config).or (before.value? .config),
        behind.has .noColor || before.has .noColor⟩ := by
  have htop : readLevel .top {} (before.map Given.written ++ "render" :: behind.map Given.written) =
      .ok (⟨before, none⟩, some (.render, behind.map Given.written)) := by
    rw [readLevel_start hbefore honce, readLevel.eq_def]
    rfl
  rw [Arguments.parse, htop]
  show (readCommand .render (behind.map Given.written)).bind _ = _
  rw [readCommand_written hbehind honce' hsources]
  rfl

/-! ## Any order -/

namespace Givens

theorem Once.perm {gs hs : Givens} (h : hs.Once) (hperm : gs.Perm hs) : gs.Once := by
  intro o hrepeats
  rw [(values_perm hperm o).length_eq]
  exact h o hrepeats

theorem Once.of_append {before behind : Givens} (h : Once (before ++ behind)) :
    before.Once ∧ behind.Once := by
  constructor
  all_goals
    intro o hrepeats
    have := h o hrepeats
    rw [values_append, List.length_append] at this
    omega

end Givens

/-- Of two lists that hold a value together, the first one with a value has it. -/
theorem or_head?_of_append {α : Type} {before behind : List α} {o : Option α}
    (h : before ++ behind = o.toList) : behind.head?.or before.head? = o := by
  cases before with
  | nil =>
    rw [List.nil_append] at h
    rw [h]
    cases o <;> rfl
  | cons a before =>
    cases o with
    | none => cases h
    | some b =>
      obtain ⟨rfl, hnil⟩ := List.cons.inj h
      obtain ⟨-, rfl⟩ := List.append_eq_nil_iff.1 hnil
      rfl

theorem has_of_values {gs : Givens} {o : OptionName} {value : Option String}
    (h : gs.values o = value.toList) : gs.has o = value.isSome := by
  rw [Givens.has_eq, h]
  cases value <;> rfl

theorem isSome_onValue (on : Bool) : (onValue on).isSome = on := by
  cases on <;> rfl

section Order

variable {request : RenderRequest} {verbose noColor : Bool} {config : Option String}
  {before behind : Givens}

theorem values_of_perm (hperm : (before ++ behind).Perm (optionsOf request verbose config noColor))
    {o : OptionName} (hrepeats : ¬ o.repeats) :
    (before ++ behind).values o = (setting request verbose config noColor o).toList := by
  apply eq_toList_of_perm
  rw [← values_optionsOf hrepeats]
  exact Givens.values_perm hperm o

/-- An option that stands only behind the command has all its values there. -/
theorem values_behind (hbefore : ∀ g ∈ before, g.option ∈ [.verbose, .config, .noColor])
    {o : OptionName} (ho : o ∉ [.verbose, .config, .noColor]) :
    behind.values o = (before ++ behind).values o := by
  have hnil : before.values o = [] := by
    refine Givens.values_eq_nil fun g hg heq => ho ?_
    rw [← heq]
    exact hbefore g hg
  rw [Givens.values_append, hnil, List.nil_append]

/-- The request is what the values of its options say. -/
theorem requestOf_eq {gs : Givens}
    (hvalues : ∀ o ∈ [OptionName.engine, .template, .file, .strict],
      gs.values o = (setting request verbose config noColor o).toList)
    (hparameters : gs.values .parameter = request.assignments) : requestOf gs = request := by
  have hvalue (o : OptionName) (ho : o ∈ [OptionName.engine, .template, .file, .strict]) :
      gs.value? o = setting request verbose config noColor o := by
    rw [Givens.value?, hvalues o ho]
    cases setting request verbose config noColor o <;> rfl
  rw [requestOf, hvalue .engine (by decide), hvalue .template (by decide),
    hvalue .file (by decide), hparameters, has_of_values (hvalues .strict (by decide))]
  simp only [setting, isSome_onValue]

end Order

/-- Arguments that describe a request to render are read as this request, in whatever order they
stand, if the parameters keep theirs. The options of the program may stand on either side of the
command, all others behind it. -/
theorem parse_written (request : RenderRequest) (verbose noColor : Bool) (config : Option String)
    (hsource : request.template.isSome ≠ request.file.isSome) (hfile : request.file ≠ some "")
    (hconfig : config ≠ some "") (before behind : Givens)
    (hperm : (before ++ behind).Perm (optionsOf request verbose config noColor))
    (hparameters : (before ++ behind).values .parameter = request.assignments)
    (hbefore : ∀ g ∈ before, g.option ∈ [.verbose, .config, .noColor]) :
    Arguments.parse (before.map Given.written ++ "render" :: behind.map Given.written) =
      .ok { command := .render request, verbose, config, noColor } := by
  obtain ⟨honce, honce'⟩ := (once_optionsOf.perm hperm).of_append
  have hfits : ∀ g ∈ before ++ behind, g.Fits (.command .render) := fun g hg =>
    fits_optionsOf hfile hconfig g (hperm.mem_iff.1 hg)
  have hfitsBefore : ∀ g ∈ before, g.Fits .top := fun g hg =>
    (hfits g (List.mem_append_left _ hg)).top (hbefore g hg)
  have hfitsBehind : ∀ g ∈ behind, g.Fits (.command .render) := fun g hg =>
    hfits g (List.mem_append_right _ hg)
  have hvalues : ∀ o ∈ [OptionName.engine, .template, .file, .strict],
      behind.values o = (setting request verbose config noColor o).toList := by
    intro o ho
    have hlocal : o ∉ [.verbose, .config, .noColor] ∧ ¬ o.repeats := by
      revert ho
      cases o <;> decide
    rw [values_behind hbefore hlocal.1, values_of_perm hperm hlocal.2]
  have hrequest : requestOf behind = request := by
    refine requestOf_eq hvalues ?_
    rw [values_behind hbefore (by decide), hparameters]
  have hsources : behind.has .template ≠ behind.has .file := by
    rw [has_of_values (hvalues .template (by decide)), has_of_values (hvalues .file (by decide))]
    exact hsource
  -- Options of the program count from both sides of the command.
  have hswitch {o : OptionName} {on : Bool} (ho : ¬ o.repeats)
      (hsetting : setting request verbose config noColor o = onValue on) :
      (behind.has o || before.has o) = on := by
    rw [Bool.or_comm, ← Givens.has_append, has_of_values (values_of_perm hperm ho), hsetting,
      isSome_onValue]
  have hconfig' : (behind.value? .config).or (before.value? .config) = config := by
    refine or_head?_of_append ?_
    rw [← Givens.values_append, values_of_perm hperm (by decide)]
    rfl
  rw [parse_render hfitsBefore hfitsBehind honce honce' hsources, hrequest, hconfig',
    hswitch (o := .verbose) (by decide) rfl, hswitch (o := .noColor) (by decide) rfl]

/-- Values that look like options, empty values, and options of the program on both sides. -/
theorem parse_written_dashes :
    Arguments.parse ["--config=--verbose", "--verbose", "render", "--var=b==é",
        "--template=--file=x", "--no-color", "--var=", "--engine="] =
      .ok ⟨.render { engine := some "", template := some "--file=x", assignments := ["b==é", ""] },
        true, some "--verbose", true⟩ :=
  parse_written { engine := some "", template := some "--file=x", assignments := ["b==é", ""] }
    true true (some "--verbose") (by decide) (by decide) (by decide)
    [⟨.config, "--verbose"⟩, ⟨.verbose, ""⟩]
    [⟨.parameter, "b==é"⟩, ⟨.template, "--file=x"⟩, ⟨.noColor, ""⟩, ⟨.parameter, ""⟩, ⟨.engine, ""⟩]
    (by decide) rfl (by decide)

end TemplateEngines.CommandLine
