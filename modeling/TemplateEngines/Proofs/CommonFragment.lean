/-
What substitution and Handlebars have in common. Chunks whose texts mean nothing to either engine
and whose keys are names for both are written with single braces for the one and with double braces
for the other. The engines then give the same text, and refuse the same parameters in strict mode
(`evaluate_common`).
-/
import TemplateEngines.Proofs.Handlebars.Chunks
import TemplateEngines.Proofs.Substitution.Chunks

namespace TemplateEngines

open Chunk

/-- Names that mean something in a Handlebars tag although no helper has them. -/
def reservedNames : List String := ["this", "as", "else", "true", "false", "null"]

/-- A text without braces and backslashes, or an identifier that Handlebars has no other use for. -/
def Chunk.IsCommon : Chunk → Prop
  | .text s => ∀ c ∈ s.toList, c ≠ '{' ∧ c ≠ '}' ∧ c ≠ '\\'
  | .key k =>
    k.toList.head?.any Char.isAlpha ∧ (∀ c ∈ k.toList, c.isAlphanum ∨ c = '_') ∧
      Handlebars.Helper.ofName? k = none ∧ k ∉ reservedNames

instance : DecidablePred Chunk.IsCommon
  | .text _ => List.decidableBAll _ _
  | .key k =>
    have : Decidable (∀ c ∈ k.toList, c.isAlphanum ∨ c = '_') := List.decidableBAll _ _
    instDecidableAnd

namespace Chunk.IsCommon

variable {c : Chunk}

theorem substitution (h : c.IsCommon) : Substitution.IsPlain c := by
  cases c with
  | text s => exact fun c hc => ⟨(h c hc).1, (h c hc).2.1⟩
  | key k =>
    obtain ⟨hletter, hchars, -, -⟩ := h
    refine ⟨?_, fun c hc => ?_⟩
    · intro hnil
      rw [hnil] at hletter
      cases hletter
    · rcases hchars c hc with hc | rfl
      · simp only [Substitution.isKeyChar, hc, Bool.true_or]
      · rfl

theorem handlebars (h : c.IsCommon) : Handlebars.IsPlain c := by
  cases c with
  | text s => exact fun c hc => ⟨(h c hc).1, (h c hc).2.2⟩
  | key k =>
    obtain ⟨hletter, hchars, hhelper, hreserved⟩ := h
    have hne : ∀ name ∈ reservedNames, k.toList ≠ name.toList := fun name hname heq =>
      hreserved (String.toList_inj.1 heq ▸ hname)
    refine ⟨⟨?_, fun c hc => ?_, hne "this" (by decide), hne "else" (by decide)⟩, hhelper⟩
    · cases hk : k.toList with
      | nil =>
        rw [hk] at hletter
        cases hletter
      | cons c cs =>
        rw [hk] at hletter
        exact ⟨c, cs, rfl, hletter⟩
    · rcases hchars c hc with hc | rfl
      · simp only [Handlebars.isSymbolChar, Handlebars.isWordChar, hc, Bool.true_or]
      · rfl

end Chunk.IsCommon

/-- On their common fragment the engines give the same text if every referenced key has a parameter.
In strict mode both fail if and only if one has none, and they name the first such key. -/
theorem evaluate_common (chunks : List Chunk) (params : Params) (around : Surroundings)
    (hchunks : ∀ c ∈ chunks, c.IsCommon)
    (hscalar : ∀ k ∈ keys chunks, (params.get? k).all Json.isScalar) :
    ((∀ k ∈ keys chunks, params.contains k) → ∀ strict,
      Substitution.evaluate strict (some (template 1 chunks)) (some params) =
          .value (.string (filled params chunks)) ∧
        (Handlebars.evaluate strict around (some (template 2 chunks)) (some params)).value =
          .ok (.string (filled params chunks))) ∧
    ((∃ e, Substitution.evaluate true (some (template 1 chunks)) (some params) = .failure e) ↔
      ∃ k ∈ keys chunks, ¬ params.contains k) ∧
    ((∃ e, (Handlebars.evaluate true around (some (template 2 chunks)) (some params)).value =
        .error e) ↔ ∃ k ∈ keys chunks, ¬ params.contains k) ∧
    ∀ k, absent? params chunks = some k →
      Substitution.evaluate true (some (template 1 chunks)) (some params) =
          .failure (.missingParameter k) ∧
        ∃ position, (Handlebars.evaluate true around (some (template 2 chunks)) (some params)).value =
          .error (.render (Handlebars.PlacedFault.message
            { fault := .missingValue (some k), position })) := by
  have hsub : ∀ c ∈ chunks, Substitution.IsPlain c := fun c hc => (hchunks c hc).substitution
  have hhb : ∀ c ∈ chunks, Handlebars.IsPlain c := fun c hc => (hchunks c hc).handlebars
  -- Both engines go by the first key without a parameter.
  cases habsent : absent? params chunks with
  | none =>
    have hpresent := absent?_eq_none_iff.1 habsent
    have h1 := Substitution.evaluate_template_of_present hsub habsent
    have h2 := fun strict => Handlebars.evaluate_template_of_present strict around hhb hscalar habsent
    have hnone : ¬ ∃ k ∈ keys chunks, ¬ params.contains k := fun ⟨k, hk, hmissing⟩ =>
      hmissing (hpresent k hk)
    refine ⟨fun _ strict => ⟨h1 strict, h2 strict⟩, ?_, ?_, fun k hk => by cases hk⟩
    · refine iff_of_false ?_ hnone
      rintro ⟨e, he⟩
      rw [h1 true] at he
      cases he
    · refine iff_of_false ?_ hnone
      rintro ⟨e, he⟩
      rw [h2 true] at he
      cases he
  | some k =>
    obtain ⟨hk, hmissing⟩ := absent?_eq_some habsent
    have h1 := Substitution.evaluate_template_of_absent hsub habsent
    obtain ⟨position, h2⟩ := Handlebars.evaluate_template_of_absent around hhb hscalar habsent
    refine ⟨fun hpresent => absurd (hpresent k hk) hmissing, ?_, ?_, ?_⟩
    · exact iff_of_true ⟨_, h1⟩ ⟨k, hk, hmissing⟩
    · exact iff_of_true ⟨_, h2⟩ ⟨k, hk, hmissing⟩
    · rintro _ ⟨rfl⟩
      exact ⟨h1, position, h2⟩

/-- A value that looks like a tag and a placeholder is written as it stands, and a blank text between
two keys is kept. -/
theorem evaluate_common_marks :
    Substitution.evaluate true (some "\x7bname\x7d \n\x7bn_1\x7d")
        (some [("n_1", .number (.int 3)), ("name", .string "\x7b\x7bn_1\x7d\x7d\x7bx\x7d")]) =
      .value (.string "\x7b\x7bn_1\x7d\x7d\x7bx\x7d \n3") ∧
    (Handlebars.evaluate true .bare (some "\x7b\x7bname\x7d\x7d \n\x7b\x7bn_1\x7d\x7d")
        (some [("n_1", .number (.int 3)), ("name", .string "\x7b\x7bn_1\x7d\x7d\x7bx\x7d")])).value =
      .ok (.string "\x7b\x7bn_1\x7d\x7d\x7bx\x7d \n3") := by
  exact (evaluate_common [.key "name", .text " \n", .key "n_1"] _ .bare
    (by decide) (by decide)).1 (by decide) true

end TemplateEngines
