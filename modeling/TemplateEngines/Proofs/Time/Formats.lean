/-
Which texts are formats of times. The grammar of formats has a rule for a character that stands for
itself and one for each form of a directive (`IsDirective`, `IsFormat`). The reader of formats
accepts exactly the texts of the grammar (`parse_isSome_iff`), so whether a text is refused never
depends on a time.
-/
import TemplateEngines.Time.Format
import Mathlib.Tactic

namespace TemplateEngines.Time

/-! ## The grammar -/

/-- The letters and signs that are a directive behind a percent sign. -/
def directiveLetters : List Char :=
  ['A', 'B', 'C', 'D', 'F', 'G', 'H', 'I', 'M', 'P', 'R', 'S', 'T', 'U', 'V', 'W', 'X', 'Y', 'Z',
    'a', 'b', 'c', 'd', 'e', 'f', 'g', 'h', 'j', 'k', 'l', 'm', 'n', 'p', 'q', 'r', 's', 't', 'u',
    'v', 'w', 'x', 'y', 'z', '+', '%']

/-- The letters of the directives that write one number. -/
def numberLetters : List Char :=
  ['C', 'G', 'H', 'I', 'M', 'S', 'U', 'V', 'W', 'Y', 'd', 'e', 'f', 'g', 'j', 'k', 'l', 'm', 'q',
    's', 'u', 'w', 'y']

/-- What is a directive behind a percent sign. -/
inductive IsDirective : List Char → Prop where
  | letter {c : Char} (hc : c ∈ directiveLetters) : IsDirective [c]
  /-- A number with a mark that says how it is filled up. -/
  | padded {mark c : Char} (hmark : mark ∈ ['-', '0', '_']) (hc : c ∈ numberLetters) :
      IsDirective [mark, c]
  /-- An offset with colons. -/
  | offset {colons : Nat} (hcolons : 1 ≤ colons ∧ colons ≤ 3) :
      IsDirective (List.replicate colons ':' ++ ['z'])
  /-- As many digits of the fraction of a second as are needed. -/
  | fraction : IsDirective ['.', 'f']
  /-- Three, six or nine digits of the fraction of a second. -/
  | digits {point : List Char} {digit : Char} (hpoint : point = [] ∨ point = ['.'])
      (hdigit : digit ∈ ['3', '6', '9']) : IsDirective (point ++ [digit, 'f'])

/-- The texts that are formats. -/
inductive IsFormat : List Char → Prop where
  | nil : IsFormat []
  | char {c : Char} {rest : List Char} (hc : c ≠ '%') (hrest : IsFormat rest) : IsFormat (c :: rest)
  | directive {d rest : List Char} (hd : IsDirective d) (hrest : IsFormat rest) :
      IsFormat ('%' :: (d ++ rest))

namespace Format

/-! ## Directives -/

theorem simple?_isSome_iff (c : Char) : (simple? c).isSome ↔ c ∈ directiveLetters := by
  constructor
  · fun_cases simple? c
    case case46 => simp
    all_goals exact fun _ => by decide
  · have hall : directiveLetters.all fun c => (simple? c).isSome := by decide
    exact List.all_eq_true.1 hall c

theorem padded_isSome_iff (c : Char) (pad : Pad) :
    (directive?.padded c pad).isSome ↔ c ∈ numberLetters := by
  have hall : directiveLetters.all fun c =>
      (directive?.padded c pad).isSome == numberLetters.contains c := by
    cases pad <;> decide
  have hsub : numberLetters ⊆ directiveLetters := by decide
  by_cases hc : c ∈ directiveLetters
  · rw [eq_of_beq (List.all_eq_true.1 hall c hc), List.contains_iff_mem]
  · have hnone : simple? c = none := by
      rwa [← simple?_isSome_iff, Option.not_isSome_iff_eq_none] at hc
    rw [directive?.padded, hnone]
    exact iff_of_false (by simp) fun h => hc (hsub h)

/-- A directive is read off the front, whatever follows. -/
theorem exists_directive? {d : List Char} (h : IsDirective d) (rest : List Char) :
    ∃ pieces, directive? (d ++ rest) = some (pieces, rest) := by
  cases h with
  | @letter c hc =>
    obtain ⟨pieces, hpieces⟩ := Option.isSome_iff_exists.1 ((simple?_isSome_iff c).2 hc)
    refine ⟨pieces, ?_⟩
    -- No letter is the first character of a longer directive.
    rw [List.singleton_append, directive?.eq_14, hpieces, Option.map_some]
    all_goals
      intros
      subst_vars
      exact absurd hc (by decide)
  | @padded mark c hmark hc =>
    have hpadded (pad : Pad) : ∃ pieces,
        (directive?.padded c pad).map (·, rest) = some (pieces, rest) := by
      obtain ⟨pieces, hpieces⟩ := Option.isSome_iff_exists.1 ((padded_isSome_iff c pad).2 hc)
      exact ⟨pieces, by rw [hpieces, Option.map_some]⟩
    simp only [List.mem_cons, List.not_mem_nil, or_false] at hmark
    rcases hmark with rfl | rfl | rfl
    · exact hpadded .none
    · exact hpadded .zero
    · exact hpadded .space
  | @offset colons hcolons =>
    obtain ⟨hlow, hhigh⟩ := hcolons
    interval_cases colons <;> exact ⟨_, rfl⟩
  | fraction => exact ⟨_, rfl⟩
  | digits hpoint hdigit =>
    simp only [List.mem_cons, List.not_mem_nil, or_false] at hdigit
    rcases hpoint with rfl | rfl <;> rcases hdigit with rfl | rfl | rfl <;> exact ⟨_, rfl⟩

/-- Only directives are read. -/
theorem isDirective_of_directive? {cs rest : List Char} {pieces : Format}
    (h : directive? cs = some (pieces, rest)) : ∃ d, IsDirective d ∧ cs = d ++ rest := by
  have hpadded {mark c : Char} {pad : Pad} {tail : List Char} (hmark : mark ∈ ['-', '0', '_'])
      (h : (directive?.padded c pad).map (·, tail) = some (pieces, rest)) :
      ∃ d, IsDirective d ∧ mark :: c :: tail = d ++ rest := by
    obtain ⟨pieces', hsome, heq⟩ := Option.map_eq_some_iff.1 h
    cases heq
    exact ⟨[mark, c], .padded hmark ((padded_isSome_iff c pad).1 (by rw [hsome]; rfl)), rfl⟩
  revert h
  fun_cases directive? cs
  case case1 => exact hpadded (by decide)
  case case2 => exact hpadded (by decide)
  case case3 => exact hpadded (by decide)
  case case14 c tail _ _ _ _ _ _ _ _ _ _ _ _ _ =>
    intro h
    obtain ⟨pieces', hsome, heq⟩ := Option.map_eq_some_iff.1 h
    cases heq
    exact ⟨[c], .letter ((simple?_isSome_iff c).1 (by rw [hsome]; rfl)), rfl⟩
  case case15 =>
    intro h
    cases h
  -- The other directives have one spelling each.
  all_goals rintro ⟨⟩
  · exact ⟨_, @IsDirective.offset 3 (by decide), rfl⟩
  · exact ⟨_, @IsDirective.offset 2 (by decide), rfl⟩
  · exact ⟨_, @IsDirective.offset 1 (by decide), rfl⟩
  · exact ⟨_, .fraction, rfl⟩
  · exact ⟨_, @IsDirective.digits ['.'] '3' (.inr rfl) (by decide), rfl⟩
  · exact ⟨_, @IsDirective.digits ['.'] '6' (.inr rfl) (by decide), rfl⟩
  · exact ⟨_, @IsDirective.digits ['.'] '9' (.inr rfl) (by decide), rfl⟩
  · exact ⟨_, @IsDirective.digits [] '3' (.inl rfl) (by decide), rfl⟩
  · exact ⟨_, @IsDirective.digits [] '6' (.inl rfl) (by decide), rfl⟩
  · exact ⟨_, @IsDirective.digits [] '9' (.inl rfl) (by decide), rfl⟩

/-! ## Formats -/

theorem isFormat_of_parseWithin {fuel : Nat} {cs : List Char} {pieces : Format}
    (h : parseWithin fuel cs = some pieces) : IsFormat cs := by
  induction fuel generalizing cs pieces with
  | zero =>
    cases cs with
    | nil => exact .nil
    | cons c rest => cases h
  | succ fuel ih =>
    cases cs with
    | nil => exact .nil
    | cons c rest =>
      by_cases hc : c = '%'
      · subst hc
        rw [parseWithin] at h
        obtain ⟨⟨first, tail⟩, hfirst, h⟩ := Option.bind_eq_some_iff.1 h
        obtain ⟨more, hmore, -⟩ := Option.bind_eq_some_iff.1 h
        obtain ⟨d, hd, rfl⟩ := isDirective_of_directive? hfirst
        exact .directive hd (ih hmore)
      · rw [parseWithin.eq_4 _ _ _ hc] at h
        obtain ⟨more, hmore, -⟩ := Option.map_eq_some_iff.1 h
        exact .char hc (ih hmore)

/-- A format is read to its end if as many steps are left as characters. -/
theorem exists_parseWithin {cs : List Char} (h : IsFormat cs) {fuel : Nat}
    (hfuel : cs.length ≤ fuel) : ∃ pieces, parseWithin fuel cs = some pieces := by
  induction h generalizing fuel with
  | nil => exact ⟨[], by rw [parseWithin]⟩
  | @char c rest hc _ ih =>
    obtain _ | fuel := fuel
    · cases hfuel
    · obtain ⟨pieces, hpieces⟩ := ih (Nat.le_of_succ_le_succ hfuel)
      exact ⟨.literal c :: pieces, by rw [parseWithin.eq_4 _ _ _ hc, hpieces, Option.map_some]⟩
  | @directive d rest hd _ ih =>
    rw [List.length_cons, List.length_append] at hfuel
    obtain _ | fuel := fuel
    · cases hfuel
    · obtain ⟨first, hfirst⟩ := exists_directive? hd rest
      obtain ⟨more, hmore⟩ := ih (show rest.length ≤ fuel by omega)
      refine ⟨first ++ more, ?_⟩
      simp only [parseWithin, hfirst, hmore, Option.bind_eq_bind, Option.bind_some]

theorem parse_isSome_iff (text : String) : (parse text).isSome ↔ IsFormat text.toList := by
  constructor
  · intro h
    obtain ⟨pieces, hpieces⟩ := Option.isSome_iff_exists.1 h
    exact isFormat_of_parseWithin hpieces
  · intro h
    obtain ⟨pieces, hpieces⟩ := exists_parseWithin h (le_of_eq String.length_toList)
    exact Option.isSome_iff_exists.2 ⟨pieces, hpieces⟩

end Format

end TemplateEngines.Time
