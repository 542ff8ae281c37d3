/-
What arguments come to, however they are spelled. Each argument that is read leaves the options of
its level in order: they may stand there, each has a value that suits it, and none is given twice
that must not be (`Reading.Ordered`). So the requests that arguments can ask for are known: they are
those with exactly one source of the template (`exists_parse_iff`).
-/
import TemplateEngines.Proofs.CommandLine.RoundTrip

namespace TemplateEngines

/-- The template of the request stands in the request itself or in a file, and not in both. -/
inductive RenderRequest.HasOneSource (request : RenderRequest) : Prop where
  | inline (text : String) (template : request.template = some text) (file : request.file = none)
  | file (path : String) (template : request.template = none) (file : request.file = some path)
    (path_ne : path ≠ "")

theorem RenderRequest.HasOneSource.isSome_ne {request : RenderRequest} (h : request.HasOneSource) :
    request.template.isSome ≠ request.file.isSome ∧ request.file ≠ some "" := by
  cases h with
  | inline text htemplate hfile =>
    rw [htemplate, hfile]
    exact ⟨nofun, nofun⟩
  | file path htemplate hfile hpath =>
    rw [htemplate, hfile]
    exact ⟨nofun, fun h => hpath (Option.some.inj h)⟩

namespace CommandLine

theorem exists_of_bind_eq_ok {ε α β : Type} {e : Except ε α} {f : α → Except ε β} {b : β}
    (h : e >>= f = .ok b) : ∃ a, e = .ok a ∧ f a = .ok b := by
  cases e with
  | error e => cases h
  | ok a => exact ⟨a, rfl, h⟩

/-! ## Reading an option -/

/-- Everything that adding an option checks, and what it does. -/
theorem Reading.add_eq_ok {r r' : Reading} {o : OptionName} {value : Option String}
    (h : r.add o value = .ok r') :
    (o.takesValue → value ≠ none) ∧ (¬ o.repeats → r.givens.has o = false) ∧
      (o.isPath → value ≠ some "") ∧ r' = { r with givens := r.givens ++ [⟨o, value.getD ""⟩] } := by
  unfold Reading.add at h
  split at h
  · cases h
  next hmissing =>
    split at h
    · cases h
    next hrepeated =>
      split at h
      · cases h
      next hempty =>
        refine ⟨fun htakes hnone => hmissing ?_, fun hrepeats => ?_, fun hpath hvalue => hempty ?_,
          (Except.ok.inj h).symm⟩
        · rw [htakes, hnone]
          rfl
        · simpa [hrepeats] using hrepeated
        · rw [hpath, hvalue]
          rfl

/-- What one argument does to what has been read: it gives options, or the value that the last option
waits for. -/
inductive Reading.Advances (level : Level) (r : Reading) : Reading → Prop where
  | long {body : List Char} {r' : Reading} : level.readLong r body = .ok r' → Advances level r r'
  | short {letters : List Char} {r' : Reading} :
    level.readShort r letters = .ok r' → Advances level r r'
  | value {o : OptionName} {text : String} :
    r.pending = some (o, none) → Advances level r { r with pending := some (o, some text) }

theorem Reading.pending_of_awaiting? {r : Reading} {o : OptionName} (h : r.awaiting? = some o) :
    r.pending = some (o, none) := by
  unfold Reading.awaiting? at h
  split at h
  next hpending => rw [hpending, Option.some.inj h]
  · cases h

/-- An argument ends its level, or is read and the others after it. -/
theorem readLevel_cons_eq_ok {level : Level} {r r' : Reading} {arg : String} {rest : List String}
    {next : Option (CommandName × List String)}
    (h : readLevel level r (arg :: rest) = .ok (r', next)) :
    r' = r ∨ ∃ r₁, r.Advances level r₁ ∧ readLevel level r₁ rest = .ok (r', next) := by
  rw [readLevel.eq_def] at h
  simp only at h
  generalize (if (decide (level = .top) && r.awaiting?.isNone) = true then some arg else none) =
    command at h
  split at h
  · cases h
    exact .inl rfl
  · split at h
    · cases h
    · split at h
      · -- Nothing may stand behind the separator.
        split at h
        · cases h
          exact .inl rfl
        · cases h
      · obtain ⟨r₁, hlong, hrest⟩ := exists_of_bind_eq_ok h
        exact .inr ⟨r₁, .long hlong, hrest⟩
      · obtain ⟨r₁, hshort, hrest⟩ := exists_of_bind_eq_ok h
        exact .inr ⟨r₁, .short hshort, hrest⟩
      · split at h
        next hawaiting =>
          exact .inr ⟨_, .value (Reading.pending_of_awaiting? hawaiting), h⟩
        · cases h

/-- What has been read of a level is in order: the options fit it, none is given twice that must not
be, and the one that is not settled may stand there and takes a value. -/
structure Reading.Ordered (level : Level) (r : Reading) : Prop where
  fits : ∀ g ∈ r.givens, g.Fits level
  once : r.givens.Once
  pending : ∀ o value, r.pending = some (o, value) → o ∈ level.options ∧ o.takesValue

namespace Reading.Ordered

variable {level : Level} {r r' : Reading} {o : OptionName} {value : Option String}

theorem start : Reading.Ordered level {} where
  fits := List.forall_mem_nil _
  once _ _ := Nat.zero_le 1
  pending := nofun

theorem ne_help_of_takesValue (h : o.takesValue) : o ≠ .help ∧ o ≠ .version := by
  constructor <;> rintro rfl <;> cases h

theorem takesValue_of_isPath (h : o.isPath) : o.takesValue := by
  cases o <;> first | rfl | cases h

theorem once_concat {gs : Givens} {g : Given} (h : gs.Once)
    (hnew : ¬ g.option.repeats → gs.has g.option = false) : Givens.Once (gs ++ [g]) := by
  intro o hrepeats
  rw [Givens.values_append, List.length_append]
  by_cases ho : g.option = o
  · subst ho
    have hnil : gs.values g.option = [] := by
      simpa [Givens.has_eq] using hnew hrepeats
    rw [hnil]
    simp [Givens.values]
  · have hnone : Givens.values [g] o = [] := by simp [Givens.values, ho]
    rw [hnone]
    exact h o hrepeats

/-- Adding an option that may stand there, with a value exactly if it takes one. -/
theorem add (h : r.Ordered level) (hstands : o ∈ level.options) (hhelp : o ≠ .help ∧ o ≠ .version)
    (hbare : ¬ o.takesValue → value = none) (hadd : r.add o value = .ok r') : r'.Ordered level := by
  obtain ⟨hvalued, hnew, hpath, rfl⟩ := Reading.add_eq_ok hadd
  have hfits : Given.Fits level ⟨o, value.getD ""⟩ := by
    refine ⟨hstands, hhelp.1, hhelp.2, fun hbare' => ?_, fun hpath' => ?_⟩
    · rw [hbare hbare']
      rfl
    · obtain ⟨text, rfl⟩ := Option.ne_none_iff_exists'.1 (hvalued (takesValue_of_isPath hpath'))
      exact fun hempty => hpath hpath' (congrArg some hempty)
  exact ⟨List.forall_mem_append.2 ⟨h.fits, List.forall_mem_singleton.2 hfits⟩,
    once_concat h.once hnew, h.pending⟩

theorem settle (h : r.Ordered level) (hsettle : r.settle = .ok r') : r'.Ordered level := by
  unfold Reading.settle at hsettle
  split at hsettle
  · cases hsettle
    exact h
  next o value hpending =>
    obtain ⟨hstands, htakes⟩ := h.pending o value hpending
    have hsettled : Reading.Ordered level { r with pending := none } := ⟨h.fits, h.once, nofun⟩
    exact hsettled.add hstands (ne_help_of_takesValue htakes) (absurd htakes) hsettle

theorem readSwitch (h : r.Ordered level) (hstands : o ∈ level.options)
    (hread : level.readSwitch r o = .ok r') : r'.Ordered level := by
  obtain ⟨r₁, hsettle, hread⟩ := exists_of_bind_eq_ok hread
  have h₁ := h.settle hsettle
  split at hread
  · cases hread
  · cases hread
  next hhelp hversion => exact h₁.add hstands ⟨hhelp, hversion⟩ (fun _ => rfl) hread

theorem readValued (h : r.Ordered level) (hstands : o ∈ level.options) (htakes : o.takesValue)
    (hread : Level.readValued r o value = .ok r') : r'.Ordered level := by
  obtain ⟨r₁, hsettle, hread⟩ := exists_of_bind_eq_ok hread
  have h₁ := h.settle hsettle
  split at hread
  · exact h₁.add hstands (ne_help_of_takesValue htakes) (absurd htakes) hread
  · cases hread
    refine ⟨h₁.fits, h₁.once, ?_⟩
    rintro _ _ ⟨⟩
    exact ⟨hstands, htakes⟩

/-! ## Reading arguments -/

theorem readLong {body : List Char} (h : r.Ordered level) (hread : level.readLong r body = .ok r') :
    r'.Ordered level := by
  unfold Level.readLong at hread
  simp only at hread
  split at hread
  · cases hread
  next o hfind =>
    have hstands : o ∈ level.options := List.mem_of_find?_eq_some hfind
    split at hread
    next htakes => exact h.readValued hstands htakes hread
    · split at hread
      · cases hread
      · exact h.readSwitch hstands hread

/-- Letters are read one after the other, up to one whose option takes the rest as its value. -/
theorem readShort {letters : List Char} (h : r.Ordered level)
    (hread : level.readShort r letters = .ok r') : r'.Ordered level := by
  induction letters generalizing r with
  | nil =>
    cases hread
    exact h
  | cons letter rest ih =>
    unfold Level.readShort at hread
    split at hread
    · cases hread
    next o hfind =>
      have hstands : o ∈ level.options := List.mem_of_find?_eq_some hfind
      split at hread
      next htakes => exact h.readValued hstands htakes hread
      · obtain ⟨r₁, hswitch, hread⟩ := exists_of_bind_eq_ok hread
        exact ih (h.readSwitch hstands hswitch) hread

theorem advance (h : r.Ordered level) (hadvance : r.Advances level r') : r'.Ordered level := by
  cases hadvance with
  | long hread => exact h.readLong hread
  | short hread => exact h.readShort hread
  | value hpending =>
    refine ⟨h.fits, h.once, ?_⟩
    rintro _ _ ⟨⟩
    exact h.pending _ _ hpending

/-- A whole level keeps its options in order, whatever the arguments are. -/
theorem readLevel {args : List String} {next : Option (CommandName × List String)}
    (h : r.Ordered level) (hread : readLevel level r args = .ok (r', next)) : r'.Ordered level := by
  induction args generalizing r with
  | nil =>
    cases hread
    exact h
  | cons arg rest ih =>
    rcases readLevel_cons_eq_ok hread with rfl | ⟨r₁, hadvance, hrest⟩
    · exact h
    · exact ih (h.advance hadvance) hrest

end Reading.Ordered

/-! ## Requests that arguments ask for -/

namespace Givens

theorem isSome_value? (gs : Givens) (o : OptionName) : (gs.value? o).isSome = gs.has o := by
  rw [has_eq, value?]
  cases gs.values o <;> rfl

/-- The first value of an option belongs to one of the options that are given. -/
theorem exists_mem_of_value? {gs : Givens} {o : OptionName} {value : String}
    (h : gs.value? o = some value) : ∃ g ∈ gs, g.option = o ∧ g.value = value := by
  have hmem : value ∈ gs.values o := List.mem_of_head? h
  obtain ⟨g, hg, rfl⟩ := List.mem_map.1 hmem
  obtain ⟨hg, ho⟩ := List.mem_filter.1 hg
  exact ⟨g, hg, eq_of_beq ho, rfl⟩

theorem has_of_mem {gs : Givens} {g : Given} (h : g ∈ gs) : gs.has g.option :=
  List.any_eq_true.2 ⟨g, h, beq_self_eq_true _⟩

end Givens

/-- The check of the sources passes if and only if one is given and the other is not. -/
theorem checkSources_eq_ok_iff {gs : Givens} :
    checkSources gs = .ok () ↔ gs.has .template ≠ gs.has .file := by
  refine ⟨fun h => ?_, checkSources_ok⟩
  unfold checkSources at h
  split at h
  · cases h
  next first hfirst =>
    have hgiven := Givens.has_of_mem (List.mem_of_find?_eq_some hfirst)
    have hsource := List.find?_some hfirst
    simp only [Bool.or_eq_true, beq_iff_eq] at hsource
    rcases hsource with hsource | hsource
    all_goals
      rw [hsource] at hgiven h
      simp_all

section Command

variable {args : List String} {gs : Givens} {command : Command}

/-- The arguments behind a command to render are in order, and describe one source. -/
theorem readCommand_render_eq_ok (h : readCommand .render args = .ok (gs, command)) :
    (∀ g ∈ gs, g.Fits (.command .render)) ∧ gs.has .template ≠ gs.has .file ∧
      command = .render (requestOf gs) := by
  obtain ⟨⟨r, next⟩, hlevel, h⟩ := exists_of_bind_eq_ok h
  obtain ⟨r', hsettle, h⟩ := exists_of_bind_eq_ok h
  obtain ⟨⟨⟩, hsources, h⟩ := exists_of_bind_eq_ok h
  have hordered := (Reading.Ordered.start.readLevel hlevel).settle hsettle
  cases h
  exact ⟨hordered.fits, checkSources_eq_ok_iff.1 hsources, rfl⟩

theorem readCommand_engines_eq_ok (h : readCommand .engines args = .ok (gs, command)) :
    command = .engines := by
  obtain ⟨⟨r, next⟩, -, h⟩ := exists_of_bind_eq_ok h
  obtain ⟨r', -, h⟩ := exists_of_bind_eq_ok h
  cases h
  rfl

/-- The options of a request with one source say which it is. -/
theorem hasOneSource_requestOf (hfits : ∀ g ∈ gs, g.Fits (.command .render))
    (hsources : gs.has .template ≠ gs.has .file) : (requestOf gs).HasOneSource := by
  rw [← gs.isSome_value?, ← gs.isSome_value?] at hsources
  cases htemplate : gs.value? .template with
  | some text =>
    rw [htemplate] at hsources
    have hfile : gs.value? .file = none := by simpa using hsources
    exact .inline text htemplate hfile
  | none =>
    rw [htemplate] at hsources
    obtain ⟨path, hfile⟩ : ∃ path, gs.value? .file = some path :=
      Option.ne_none_iff_exists'.1 (by simpa using hsources)
    refine .file path htemplate hfile ?_
    obtain ⟨g, hg, ho, rfl⟩ := Givens.exists_mem_of_value? hfile
    exact (hfits g hg).path (by rw [ho]; rfl)

end Command

section Parse

variable {args : List String} {arguments : Arguments} {request : RenderRequest}

/-- Arguments that ask for rendering give exactly one source of the template. -/
theorem hasOneSource_of_parse (h : Arguments.parse args = .ok arguments)
    (hcommand : arguments.command = .render request) : request.HasOneSource := by
  obtain ⟨⟨top, next⟩, -, h⟩ := exists_of_bind_eq_ok h
  cases next with
  | none =>
    obtain ⟨r, -, h⟩ := exists_of_bind_eq_ok h
    cases h
  | some called =>
    obtain ⟨name, rest⟩ := called
    obtain ⟨⟨behind, command⟩, hread, h⟩ := exists_of_bind_eq_ok h
    obtain ⟨r, -, h⟩ := exists_of_bind_eq_ok h
    cases h
    cases name with
    | engines =>
      rw [readCommand_engines_eq_ok hread] at hcommand
      cases hcommand
    | render =>
      obtain ⟨hfits, hsources, hrender⟩ := readCommand_render_eq_ok hread
      rw [hrender] at hcommand
      cases hcommand
      exact hasOneSource_requestOf hfits hsources

/-- The requests that arguments can ask for are those with exactly one source of the template. -/
theorem exists_parse_iff :
    (∃ args arguments, Arguments.parse args = .ok arguments ∧
      arguments.command = .render request) ↔ request.HasOneSource := by
  constructor
  · rintro ⟨args, arguments, hparse, hcommand⟩
    exact hasOneSource_of_parse hparse hcommand
  · intro h
    obtain ⟨hsource, hfile⟩ := h.isSome_ne
    have hvalues (o : OptionName) (ho : o ∈ [OptionName.engine, .template, .file, .strict]) :
        (optionsOf request false none false).values o =
          (setting request false none false o).toList := by
      refine values_optionsOf ?_
      revert ho
      cases o <;> decide
    have hhas (o : OptionName) (ho : o ∈ [OptionName.engine, .template, .file, .strict]) :=
      has_of_values (hvalues o ho)
    have hsources : (optionsOf request false none false).has .template ≠
        (optionsOf request false none false).has .file := by
      rw [hhas .template (by decide), hhas .file (by decide)]
      exact hsource
    have hfits : ∀ g ∈ optionsOf request false none false, g.Fits (.command .render) :=
      fits_optionsOf hfile nofun
    have hparse := parse_render (List.forall_mem_nil _) hfits (fun _ _ => Nat.zero_le 1)
      once_optionsOf hsources
    refine ⟨_, _, hparse, ?_⟩
    rw [requestOf_eq hvalues values_optionsOf_parameter]

end Parse

end CommandLine

end TemplateEngines
