/-
Templates from files. The bytes of a file are a template if they encode a text in UTF-8, and then a
request for the file comes to what a request with the text itself comes to, the log included. Bytes
that encode no text are an error in both modes, and never shown in their raw form (`render_file`).
-/
import TemplateEngines.Proofs.Text.Utf8
import TemplateEngines.Rendering

namespace TemplateEngines

namespace Files

section ReadText

variable {files : Files} {path : String} {bytes : List UInt8} (h : files path = .file bytes)

include h

/-- Reading a file takes the marks of byte orders, the ends of lines and all other characters as they
are. -/
theorem readText_of_encoded {text : String} (hbytes : text.toUTF8.toList = bytes) :
    files.readText path = .ok text := by
  rw [Text.Utf8.toUTF8_toList] at hbytes
  unfold readText
  simp only [h, Text.Utf8.decode_eq_ok_iff.2 hbytes.symm]

theorem readText_of_not_encoded (hbytes : ∀ text : String, text.toUTF8.toList ≠ bytes) :
    files.readText path = .error .notText := by
  cases hdecode : Text.Utf8.decode bytes with
  | ok text =>
    have hencoded := Text.Utf8.decode_eq_ok_iff.1 hdecode
    rw [← Text.Utf8.toUTF8_toList] at hencoded
    exact absurd hencoded.symm (hbytes text)
  | error refusal =>
    unfold readText
    simp only [h, hdecode]

end ReadText

end Files

namespace RenderRequest

/-- The request with its template in a file. -/
def ofFile (request : RenderRequest) (path : String) : RenderRequest :=
  { request with template := none, file := some path }

/-- The request with its template as a text. -/
def ofText (request : RenderRequest) (text : String) : RenderRequest :=
  { request with template := some text, file := none }

/-- A request that has only a file for its template reads this file. -/
theorem readTemplate_of_file {request : RenderRequest} {path : String}
    (htemplate : request.template = none) (hfile : request.file = some path) (files : Files) :
    request.readTemplate files = (files.readText path).mapError (.unreadable path) := by
  unfold readTemplate
  simp only [htemplate, hfile]
  cases files.readText path <;> rfl

/-- A template file is read faithfully. Let the bytes of a file be whatever they are. If they encode
a text in UTF-8, the request for the file comes to the same as the request with the text, for every
configuration, engine, parameters and mode, and in whatever tree of files the latter is made. If they
encode no text, the request fails in both modes, nothing is logged, and the failure names the file. -/
theorem render_file (request : RenderRequest) (config : Config) {files : Files}
    (around : Surroundings) {path : String} {bytes : List UInt8} (h : files path = .file bytes) :
    (∀ text : String, text.toUTF8.toList = bytes → ∀ files' : Files,
      (request.ofFile path).render config files around =
        (request.ofText text).render config files' around) ∧
    ((∀ text : String, text.toUTF8.toList ≠ bytes) → ∃ e : RenderFailure,
      (request.ofFile path).render config files around = pure (.error e) ∧
        e.message = "Failed to read template file " ++ path ∧
        e.causes = ["stream did not contain valid UTF-8"]) := by
  have hread : (request.ofFile path).readTemplate files =
      (files.readText path).mapError (.unreadable path) := readTemplate_of_file rfl rfl files
  constructor
  · intro text hbytes files'
    rw [files.readText_of_encoded h hbytes] at hread
    unfold render
    rw [hread]
    rfl
  · intro hbytes
    rw [files.readText_of_not_encoded h hbytes] at hread
    refine ⟨.unreadable path .notText, ?_, rfl, rfl⟩
    unfold render
    rw [hread]
    rfl

/-- A byte order mark, a NUL and the ends of lines stay; an overlong form, half of a surrogate pair, a
number that is too great, a character that is cut short and a byte from the middle of one are
refused. -/
theorem render_file_bytes :
    let files (bytes : List UInt8) : Files := fun _ => .file bytes
    let result (strict : Bool) (bytes : List UInt8) :=
      (({ engine := some "passthrough", strict } : RenderRequest).ofFile "t").render {}
        (files bytes) .bare
    let refused : List (List UInt8) :=
      [[0xC0, 0x80], [0xED, 0xA0, 0x80], [0xF4, 0x90, 0x80, 0x80], [0x78, 0xE2, 0x82], [0x78, 0x80]]
    ∀ strict,
      (result strict [0xEF, 0xBB, 0xBF, 0x00, 0x0D, 0x0A, 0x78]).value = .ok "\uFEFF\x00\r\nx" ∧
      ∀ bytes ∈ refused, ∃ e : RenderFailure, result strict bytes = pure (.error e) ∧
        e.message = "Failed to read template file t" ∧
        e.causes = ["stream did not contain valid UTF-8"] := by
  intro files result refused strict
  have hrender (bytes : List UInt8) := render_file { engine := some "passthrough", strict } {} .bare
    (show files bytes "t" = .file bytes from rfl)
  constructor
  · have hencoded : "\uFEFF\x00\r\nx".toUTF8.toList = [0xEF, 0xBB, 0xBF, 0x00, 0x0D, 0x0A, 0x78] := by
      rw [Text.Utf8.toUTF8_toList]
      decide
    have hinline := (hrender _).1 _ hencoded fun _ => .absent
    refine (congrArg Logged.value hinline).trans ?_
    cases strict <;> rfl
  · intro bytes hbytes
    have hdecode : ∀ bytes ∈ refused, (Text.Utf8.decode bytes).isOk = false := by decide
    refine (hrender bytes).2 fun text htext => ?_
    rw [Text.Utf8.toUTF8_toList] at htext
    have hrefused := hdecode bytes hbytes
    rw [Text.Utf8.decode_eq_ok_iff.2 htext.symm] at hrefused
    cases hrefused

end RenderRequest

end TemplateEngines
