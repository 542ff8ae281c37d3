/-
Substitution of texts and keys. A template that is put together from texts without braces and from
keys is an escaped template, because nothing in it is doubled, and stands for the chunks one after
the other (`template_plain`).
-/
import TemplateEngines.Proofs.Substitution.Escaping

namespace TemplateEngines.Substitution

/-- A text without braces, or a key of key characters. -/
def IsPlain : Chunk → Prop
  | .text s => ∀ c ∈ s.toList, c ≠ '{' ∧ c ≠ '}'
  | .key k => k.toList ≠ [] ∧ ∀ c ∈ k.toList, isKeyChar c

/-! ## Plain chunks are escaped -/

section Plain

variable {chunks : List Chunk}

theorem written_plain {c : Chunk} (h : IsPlain c) : Chunk.written 1 c = escaped c := by
  cases c with
  | text s =>
    have hchar : ∀ c ∈ s.toList, escapeChar c = [c] := by
      intro c hc
      obtain ⟨hopen, hclose⟩ := h c hc
      rw [escapeChar, if_neg (not_or.2 ⟨hopen, hclose⟩)]
    rw [Chunk.written, escaped, List.flatMap_congr hchar, List.flatMap_singleton']
  | key k => simp [Chunk.written, escaped]

theorem template_plain (h : ∀ c ∈ chunks, IsPlain c) :
    Chunk.template 1 chunks = escapedTemplate chunks := by
  rw [Chunk.template, escapedTemplate, List.flatMap_congr fun c hc => written_plain (h c hc)]

theorem isKey_of_plain (h : ∀ c ∈ chunks, IsPlain c) : ∀ k ∈ Chunk.keys chunks, IsKey k := by
  intro k hk
  obtain ⟨c, hc, hck⟩ := List.mem_filterMap.1 hk
  cases c with
  | text s => cases hck
  | key k' =>
    cases hck
    exact h _ hc

end Plain

/-! ## Evaluation -/

section Evaluation

variable {params : Params} {chunks : List Chunk}

theorem evaluate_template_of_present (h : ∀ c ∈ chunks, IsPlain c)
    (hpresent : Chunk.absent? params chunks = none) (strict : Bool) :
    evaluate strict (some (Chunk.template 1 chunks)) (some params) =
      .value (.string (Chunk.filled params chunks)) := by
  rw [template_plain h]
  exact evaluate_escapedTemplate_of_present (isKey_of_plain h) hpresent strict

theorem evaluate_template_of_absent (h : ∀ c ∈ chunks, IsPlain c) {k : String}
    (habsent : Chunk.absent? params chunks = some k) :
    evaluate true (some (Chunk.template 1 chunks)) (some params) =
      .failure (.missingParameter k) := by
  rw [template_plain h]
  exact evaluate_escapedTemplate_of_absent (isKey_of_plain h) habsent

end Evaluation

end TemplateEngines.Substitution
