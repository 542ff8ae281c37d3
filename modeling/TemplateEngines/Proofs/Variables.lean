/-
Parameters given as texts. The name ends at the first equals sign and the value is all that follows
(`readOne_assignment`), so the compact JSON text of a value gives the value back
(`parse_assignment`). Several texts are refused for the first of them that is no assignment
(`addTo_eq_error_iff`); otherwise the last assignment to a name counts (`get?_addTo`).
-/
import TemplateEngines.Proofs.Json.RoundTrip
import TemplateEngines.Variables
import Mathlib.Data.List.TakeWhile

namespace TemplateEngines.Variables

theorem ne_equals_of_not_mem {cs : List Char} (h : '=' ∉ cs) : ∀ c ∈ cs, (c != '=') = true := by
  intro c hc
  rw [bne_iff_ne]
  rintro rfl
  exact h hc

/-- What stands behind the first equals sign is the value. -/
theorem readOne_assignment {name : String} (hname : name ≠ "") (hequals : '=' ∉ name.toList)
    (text : String) : readOne (name ++ "=" ++ text) = .ok (name, readValue text) := by
  have hall := ne_equals_of_not_mem hequals
  have htext : (name ++ "=" ++ text).toList = name.toList ++ '=' :: text.toList := by
    simp
  have htake : (name.toList ++ '=' :: text.toList).takeWhile (· != '=') = name.toList := by
    rw [List.takeWhile_append_of_pos hall]
    simp
  have hdrop : (name.toList ++ '=' :: text.toList).dropWhile (· != '=') = '=' :: text.toList := by
    rw [List.dropWhile_append_of_pos hall]
    rfl
  have hne : name.toList.isEmpty = false := by
    simpa using hname
  simp only [readOne, htext, htake, hdrop, hne, String.ofList_toList]
  rfl

theorem parse_singleton {text name : String} {v : Json} (h : readOne text = .ok (name, v)) :
    parse [text] = .ok [(name, v)] := by
  simp only [parse, addTo, h]
  rfl

/-- JSON given for a parameter keeps its value: a value whose numbers are integers of 64 bits and
that is nested at most 127 levels deep is what its compact text binds the name to, and nothing else
is bound. Unless the value is a string or null, that text is also what a template shows for it. -/
theorem parse_assignment {name : String} {v : Json} (hname : name ≠ "")
    (hequals : '=' ∉ name.toList) (hv : Json.Integral 127 v) :
    parse [name ++ "=" ++ v.compactText] = .ok [(name, v)] ∧
      ((∀ s, v ≠ .string s) → v ≠ .null →
        v.valueText = v.compactText ∧ parse [name ++ "=" ++ v.valueText] = .ok [(name, v)]) := by
  have hread : readValue v.compactText = v := by
    rw [readValue, Json.parse_compactText hv, Option.getD_some]
  have hparse : parse [name ++ "=" ++ v.compactText] = .ok [(name, v)] := by
    refine parse_singleton ?_
    rw [readOne_assignment hname hequals, hread]
  refine ⟨hparse, fun hstring hnull => ?_⟩
  have htext : v.valueText = v.compactText := by
    cases v with
    | string s => exact absurd rfl (hstring s)
    | null => exact absurd rfl hnull
    | _ => rfl
  exact ⟨htext, htext ▸ hparse⟩

/-- The least and the greatest integer, an empty name, a control character, a quote and a letter
beyond ASCII. -/
theorem parse_assignment_limits :
    parse ["a.b=\x7b\"\":[-9223372036854775808,18446744073709551615],\"\\\"é\\u0001\":null\x7d"] =
      .ok [("a.b", .object [("", .array [.number (.int (-9223372036854775808)),
        .number (.int 18446744073709551615)]), ("\"é\x01", .null)])] := by
  have hv : Json.Integral 127 (.object [("", .array [.number (.int (-9223372036854775808)),
      .number (.int 18446744073709551615)]), ("\"é\x01", .null)]) := by
    refine .object (by decide) ?_
    simp only [List.forall_mem_cons, List.not_mem_nil, false_imp_iff, implies_true, and_true]
    refine ⟨.array ?_, .null⟩
    simp only [List.forall_mem_cons, List.not_mem_nil, false_imp_iff, implies_true, and_true]
    exact ⟨.int (by decide) (by decide), .int (by decide) (by decide)⟩
  exact (parse_assignment (by decide : "a.b" ≠ "") (by decide) hv).1

/-! ## Assignments -/

/-- The text is the name, an equals sign and the value; the equals sign is the first one. -/
def Assigns (text name value : String) : Prop :=
  text = name ++ "=" ++ value ∧ name ≠ "" ∧ '=' ∉ name.toList

/-- The text assigns a value to a name. -/
def IsAssignment (text : String) : Prop := ∃ name value, Assigns text name value

/-- Why a text is no assignment. -/
inductive Refused : String → VariableError → Prop
  | noValue {text : String} : '=' ∉ text.toList → Refused text (.noValue text)
  | noName (value : String) : Refused ("=" ++ value) (.noName ("=" ++ value))

theorem Assigns.readOne {text name value : String} (h : Assigns text name value) :
    readOne text = .ok (name, readValue value) := by
  obtain ⟨rfl, hname, hequals⟩ := h
  exact readOne_assignment hname hequals value

theorem Refused.readOne {text : String} {e : VariableError} (h : Refused text e) :
    readOne text = .error e := by
  cases h with
  | noValue h =>
    have hdrop : text.toList.dropWhile (· != '=') = [] :=
      List.dropWhile_eq_nil_iff.2 (ne_equals_of_not_mem h)
    simp only [Variables.readOne, hdrop]
  | noName value =>
    have htext : ("=" ++ value).toList = '=' :: value.toList := by simp
    simp [Variables.readOne, htext]

/-- A text assigns a value to a name, or it is refused. -/
theorem isAssignment_or_refused (text : String) : IsAssignment text ∨ ∃ e, Refused text e := by
  by_cases h : '=' ∈ text.toList
  · obtain ⟨name, value, hsplit, hname⟩ := List.eq_append_cons_of_mem h
    have htext : text = String.ofList name ++ "=" ++ String.ofList value := by
      rw [← String.toList_inj, hsplit]
      simp
    -- An equals sign at the very start has no name before it.
    by_cases hempty : name = []
    · subst hempty
      right
      rw [htext]
      exact ⟨_, .noName (String.ofList value)⟩
    · left
      refine ⟨String.ofList name, String.ofList value, htext, ?_, ?_⟩
      · rw [Ne, ← String.toList_inj, String.toList_ofList]
        exact hempty
      · rwa [String.toList_ofList]
  · exact .inr ⟨_, .noValue h⟩

/-- What is no assignment lacks the equals sign, or the name before it. -/
theorem not_isAssignment_iff {text : String} :
    ¬ IsAssignment text ↔ '=' ∉ text.toList ∨ text.toList.head? = some '=' := by
  constructor
  · intro h
    rcases isAssignment_or_refused text with hassignment | ⟨e, hrefused⟩
    · exact absurd hassignment h
    · cases hrefused with
      | noValue h => exact .inl h
      | noName value => exact .inr (by simp)
  · rintro h ⟨name, value, rfl, hname, hequals⟩
    rcases h with h | h
    · exact h (by simp)
    · cases hchars : name.toList with
      | nil => exact hname (String.toList_eq_nil_iff.1 hchars)
      | cons c cs =>
        simp [hchars] at h hequals
        exact hequals.1 h.symm

/-- A text is an assignment to one name only, and of one value. -/
theorem Assigns.unique {text name name' value value' : String} (h : Assigns text name value)
    (h' : Assigns text name' value') : name = name' ∧ readValue value = readValue value' := by
  have hread := h.readOne.symm.trans h'.readOne
  rwa [Except.ok.injEq, Prod.mk.injEq] at hread

theorem Assigns.name_unique {text name name' value value' : String} (h : Assigns text name value)
    (h' : Assigns text name' value') : name = name' :=
  (h.unique h').1

/-! ## Several assignments -/

/-- The last text that assigns a value to the name assigns this one. -/
def LastAssigns (texts : List String) (name value : String) : Prop :=
  ∃ front text rest, texts = front ++ text :: rest ∧ Assigns text name value ∧
    ∀ t ∈ rest, ∀ v, ¬ Assigns t name v

theorem LastAssigns.exists_mem {texts : List String} {name value : String}
    (h : LastAssigns texts name value) : ∃ t ∈ texts, Assigns t name value := by
  obtain ⟨front, text, rest, rfl, hassigns, -⟩ := h
  exact ⟨text, List.mem_append_right _ List.mem_cons_self, hassigns⟩

/-- The first text that is no assignment is refused for this reason. -/
def FirstRefused (texts : List String) (e : VariableError) : Prop :=
  ∃ front text rest, texts = front ++ text :: rest ∧ (∀ t ∈ front, IsAssignment t) ∧ Refused text e

theorem FirstRefused.cons {text : String} {rest : List String} {e : VariableError}
    (htext : IsAssignment text) (h : FirstRefused rest e) : FirstRefused (text :: rest) e := by
  obtain ⟨front, t, rest, rfl, hfront, ht⟩ := h
  exact ⟨text :: front, t, rest, rfl, List.forall_mem_cons.2 ⟨htext, hfront⟩, ht⟩

/-- If some text is no assignment, there is a first one. -/
theorem exists_firstRefused {texts : List String} {t : String} (ht : t ∈ texts)
    (h : ¬ IsAssignment t) : ∃ e, FirstRefused texts e := by
  induction texts with
  | nil => cases ht
  | cons text rest ih =>
    rcases isAssignment_or_refused text with htext | ⟨e, hrefused⟩
    · rcases List.mem_cons.1 ht with rfl | hrest
      · exact absurd htext h
      · exact (ih hrest).imp fun e he => he.cons htext
    · exact ⟨e, [], text, rest, rfl, List.forall_mem_nil _, hrefused⟩

theorem addTo_cons_of_assigns {text name value : String} (h : Assigns text name value)
    (params : Params) (rest : List String) :
    addTo params (text :: rest) = addTo (params.insert name (readValue value)) rest := by
  rw [addTo, h.readOne]
  rfl

theorem addTo_cons_of_refused {text : String} {e : VariableError} (h : Refused text e)
    (params : Params) (rest : List String) : addTo params (text :: rest) = .error e := by
  rw [addTo, h.readOne]
  rfl

/-- Texts that are all assignments are accepted. -/
theorem exists_addTo {texts : List String} (h : ∀ t ∈ texts, IsAssignment t) (params : Params) :
    ∃ given, addTo params texts = .ok given := by
  induction texts generalizing params with
  | nil => exact ⟨params, rfl⟩
  | cons text rest ih =>
    obtain ⟨⟨name, value, hassigns⟩, hrest⟩ := List.forall_mem_cons.1 h
    rw [addTo_cons_of_assigns hassigns]
    exact ih hrest _

/-- The first text that is no assignment decides why several texts are refused. -/
theorem addTo_eq_error_iff {texts : List String} {params : Params} {e : VariableError} :
    addTo params texts = .error e ↔ FirstRefused texts e := by
  constructor
  · intro h
    induction texts generalizing params with
    | nil => cases h
    | cons text rest ih =>
      rcases isAssignment_or_refused text with ⟨name, value, hassigns⟩ | ⟨e', hrefused⟩
      · rw [addTo_cons_of_assigns hassigns] at h
        exact (ih h).cons ⟨name, value, hassigns⟩
      · rw [addTo_cons_of_refused hrefused] at h
        cases h
        exact ⟨[], text, rest, rfl, List.forall_mem_nil _, hrefused⟩
  · rintro ⟨front, text, rest, rfl, hfront, hrefused⟩
    induction front generalizing params with
    | nil => exact addTo_cons_of_refused hrefused params rest
    | cons t front ih =>
      obtain ⟨⟨name, value, hassigns⟩, hfront⟩ := List.forall_mem_cons.1 hfront
      rw [List.cons_append, addTo_cons_of_assigns hassigns]
      exact ih hfront

theorem sorted_addTo {texts : List String} {params given : Params} (hsorted : params.Sorted)
    (h : addTo params texts = .ok given) : given.Sorted := by
  induction texts generalizing params with
  | nil =>
    cases h
    exact hsorted
  | cons text rest ih =>
    rcases isAssignment_or_refused text with ⟨name, value, hassigns⟩ | ⟨e, hrefused⟩
    · rw [addTo_cons_of_assigns hassigns] at h
      exact ih (hsorted.insert _ _) h
    · rw [addTo_cons_of_refused hrefused] at h
      cases h

/-- The last assignment to a name counts; a name without one keeps what it is bound to. -/
theorem get?_addTo {texts : List String} {params given : Params}
    (h : addTo params texts = .ok given) (name : String) :
    (∃ value, LastAssigns texts name value ∧ given.get? name = some (readValue value)) ∨
      (∀ t ∈ texts, ∀ value, ¬ Assigns t name value) ∧ given.get? name = params.get? name := by
  induction texts generalizing params with
  | nil =>
    cases h
    exact .inr ⟨List.forall_mem_nil _, rfl⟩
  | cons text rest ih =>
    rcases isAssignment_or_refused text with ⟨name', value', hassigns⟩ | ⟨e, hrefused⟩
    · rw [addTo_cons_of_assigns hassigns] at h
      rcases ih h with ⟨value, hlast, hget⟩ | ⟨hnone, hget⟩
      · obtain ⟨front, t, rest', rfl, hlast⟩ := hlast
        exact .inl ⟨value, ⟨text :: front, t, rest', rfl, hlast⟩, hget⟩
      -- None of the rest is for the name, so it is this text or none.
      · rw [Dict.get?_insert] at hget
        by_cases hname : name' = name
        · subst hname
          rw [if_pos rfl] at hget
          exact .inl ⟨value', ⟨[], text, rest, rfl, hassigns, hnone⟩, hget⟩
        · rw [if_neg hname] at hget
          refine .inr ⟨List.forall_mem_cons.2 ⟨fun value h' => ?_, hnone⟩, hget⟩
          exact hname (hassigns.name_unique h')
    · rw [addTo_cons_of_refused hrefused] at h
      cases h

/-! ## The order of assignments -/

/-- No two of the texts assign values to the same name. -/
def DistinctNames (texts : List String) : Prop :=
  texts.Pairwise fun a b => ∀ name v w, Assigns a name v → ¬ Assigns b name w

theorem DistinctNames.eq {texts : List String} (h : DistinctNames texts) {a b name v w : String}
    (ha : a ∈ texts) (hb : b ∈ texts) (hv : Assigns a name v) (hw : Assigns b name w) : a = b := by
  have hsymm : Std.Symm fun a b : String => ∀ name v w, Assigns a name v → ¬ Assigns b name w :=
    ⟨fun a b hab name v w hb ha => hab name w v ha hb⟩
  by_contra hne
  exact h.forall ha hb hne name v w hv hw

/-- What a map binds a name to that is assigned once. -/
theorem get?_addTo_of_mem {texts : List String} {params given : Params}
    (h : addTo params texts = .ok given) (hdistinct : DistinctNames texts) {text name value : String}
    (htext : text ∈ texts) (hassigns : Assigns text name value) :
    given.get? name = some (readValue value) := by
  rcases get?_addTo h name with ⟨value', hlast, hget⟩ | ⟨hnone, -⟩
  · obtain ⟨t, hmem, ht⟩ := hlast.exists_mem
    obtain rfl := hdistinct.eq hmem htext ht hassigns
    rw [hget, (ht.unique hassigns).2]
  · exact absurd hassigns (hnone text htext value)

/-- Assignments to different names may come in any order. -/
theorem addTo_perm {texts texts' : List String} (hperm : texts.Perm texts')
    (h : ∀ t ∈ texts, IsAssignment t) (hdistinct : DistinctNames texts) {params : Params}
    (hsorted : params.Sorted) : addTo params texts' = addTo params texts := by
  have h' : ∀ t ∈ texts', IsAssignment t := fun t ht => h t (hperm.mem_iff.2 ht)
  have hdistinct' : DistinctNames texts' :=
    hperm.pairwise hdistinct fun hab name v w hb ha => hab name w v ha hb
  obtain ⟨given, hgiven⟩ := exists_addTo h params
  obtain ⟨given', hgiven'⟩ := exists_addTo h' params
  rw [hgiven, hgiven']
  -- Sorted maps are equal if they bind the same, so the names can be looked at one by one.
  refine congrArg Except.ok ((sorted_addTo hsorted hgiven').ext (sorted_addTo hsorted hgiven) ?_)
  intro name
  rcases get?_addTo hgiven name with ⟨value, hlast, hget⟩ | ⟨hnone, hget⟩
  · obtain ⟨t, hmem, ht⟩ := hlast.exists_mem
    rw [hget, get?_addTo_of_mem hgiven' hdistinct' (hperm.mem_iff.1 hmem) ht]
  · rcases get?_addTo hgiven' name with ⟨value, hlast, -⟩ | ⟨-, hget'⟩
    · obtain ⟨t, hmem, ht⟩ := hlast.exists_mem
      exact absurd ht (hnone t (hperm.mem_iff.2 hmem) value)
    · rw [hget, hget']

end TemplateEngines.Variables
