/-
Templates of texts and values. Their pieces are compiled as they stand: no tag drops white space,
no block is opened, and every piece becomes an element of its own (`compile_of_plain`).
-/
import TemplateEngines.Handlebars.Template
import Mathlib.Data.List.Forall2

namespace TemplateEngines.Handlebars

/-- A piece that becomes an element as it stands: a text, or a tag that writes a value, leaves the
white space around it alone and has no literal that cannot be read. -/
inductive Piece.Plain : Piece → Position × Element → Prop where
  | text (content : List Char) (blank : Bool) :
    Plain (.text content blank) (⟨1, 1⟩, .text (String.ofList content))
  | value {token : Token} {e : Expression} (tag : token.tag = .value e)
      (before : token.trimBefore = false) (after : token.trimAfter = false)
      (readable : e.unreadable = none) : Plain (.tag token) (token.position, .value e)

section Plain

variable {ps : List Piece} {t : Template}

/-- No white space is dropped. -/
theorem layout_plain (h : List.Forall₂ Piece.Plain ps t) : layout {} ps = ps := by
  induction h with
  | nil => rfl
  | @cons p element ps t hp hrest ih =>
    cases hp with
    | text content blank =>
      -- A text can only lose what the tag after it drops.
      have hlayout : layout {} (.text content blank :: ps) = .text content blank :: layout {} ps := by
        cases hrest with
        | nil => rfl
        | cons hq _ =>
          cases hq with
          | text => rfl
          | value htag hbefore => simp [layout, Trim.apply, Token.trimText, htag, hbefore, Tag.isValue]
      rw [hlayout, ih]
    | value htag _ hafter =>
      rw [layout, Token.trimAfterwards, htag, hafter]
      exact congrArg _ ih

theorem isNested_plain (h : List.Forall₂ Piece.Plain ps t) : isNested [] ps := by
  induction h with
  | nil => rfl
  | cons hp _ ih =>
    cases hp with
    | text => exact ih
    | value htag =>
      rw [isNested.eq_def]
      simp only [htag]
      exact ih

theorem build_plain (refusal : Place) (done : Template) (h : List.Forall₂ Piece.Plain ps t) :
    build refusal [] done ps = .ok (done.reverse ++ t) := by
  induction h generalizing done with
  | nil => rw [build, List.append_nil]
  | cons hp _ ih =>
    cases hp with
    | text => rw [build, ih, List.reverse_cons, List.append_assoc, List.singleton_append]
    | value htag _ _ hreadable =>
      rw [build]
      simp only [htag, checkLiterals, hreadable]
      show build refusal [] _ _ = _
      rw [ih, List.reverse_cons, List.append_assoc, List.singleton_append]

theorem compile_of_plain {source : String} (hps : pieces source.toList = some ps)
    (h : List.Forall₂ Piece.Plain ps t) (refusedAt : String → Position) :
    compile source refusedAt = .ok t := by
  rw [compile, hps]
  simp only [isNested_plain h, layout_plain h, if_true, build_plain _ [] h]
  rfl

end Plain

end TemplateEngines.Handlebars
