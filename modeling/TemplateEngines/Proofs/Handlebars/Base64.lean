/-
Base64 in templates. The helpers `base64_encode` and `base64_decode` are inverse to each other
(`evaluate_base64`): what has been encoded decodes to the text again, and a text is decoded only if
it is what `base64_encode` makes of the answer.
-/
import TemplateEngines.Proofs.Handlebars.Calls
import TemplateEngines.Proofs.Text.Base64
import Mathlib.Tactic

namespace TemplateEngines.Handlebars

namespace Helper

/-- A text is what another one is encoded as if its bytes are those of the Base64. -/
theorem eq_encodeText_iff {e d : String} :
    e = encodeText d ↔ e.toUTF8.toList = Text.Base64.encode d.toUTF8.toList := by
  have hbytes : (encodeText d).toUTF8.toList = Text.Base64.encode d.toUTF8.toList := by
    rw [Text.Utf8.toUTF8_toList, encodeText, String.toList_ofList]
    exact Text.Utf8.encode_map_ascii (Text.Base64.encode_ascii _)
  rw [← hbytes]
  exact Text.Utf8.toUTF8_toList_inj.symm

/-- The text that a Base64 text stands for, if it is one. -/
def decoded (text : String) : Except Fault String :=
  match Text.Base64.decode text.toUTF8.toList with
  | .error e => .error (.badBase64 e)
  | .ok bytes =>
    match Text.Utf8.decode bytes with
    | .error e => .error (.badUtf8 e)
    | .ok decoded => .ok decoded

theorem decodeText_eq (text : String) : decodeText text = .ofExcept (decoded text) := by
  unfold decodeText decoded
  cases Text.Base64.decode text.toUTF8.toList with
  | error e => rfl
  | ok bytes =>
    dsimp only
    cases Text.Utf8.decode bytes <;> rfl

/-- A text is decoded if and only if it is the encoding of the answer. -/
theorem decoded_eq_ok_iff {e d : String} : decoded e = .ok d ↔ e = encodeText d := by
  rw [eq_encodeText_iff, ← Text.Base64.decode_eq_ok_iff]
  unfold decoded
  cases Text.Base64.decode e.toUTF8.toList with
  | error fault => simp
  | ok bytes =>
    rw [Except.ok.injEq, Text.Utf8.toUTF8_toList, ← Text.Utf8.decode_eq_ok_iff]
    dsimp only
    cases Text.Utf8.decode bytes <;> simp

/-! ## Answers -/

variable (scope : Scope) {call : Invocation} {s : String} (h : call.text? 0 = some s)

include h

theorem answer?_base64Encode :
    base64Encode.answer? scope call = some (pure (.string (encodeText s))) := by
  simp only [answer?, Invocation.requireText, h, pure_bind]

theorem answer?_base64Decode :
    base64Decode.answer? scope call = some (.ofExcept ((decoded s).map .string)) := by
  simp only [answer?, Invocation.requireText, h, pure_bind, decodeText_eq, Render.ofExcept_bind]

end Helper

/-! ## Templates -/

theorem compile_base64_encode (refusedAt : String → Position) :
    compile "\x7b\x7bbase64_encode v\x7d\x7d" refusedAt =
    .ok [(⟨1, 1⟩, .value (.ofCall "base64_encode" [.path ⟨"v", [.name "v"]⟩]))] := by
  with_unfolding_all rfl

theorem compile_base64_decode (refusedAt : String → Position) :
    compile "\x7b\x7bbase64_decode v\x7d\x7d" refusedAt =
    .ok [(⟨1, 1⟩, .value (.ofCall "base64_decode" [.path ⟨"v", [.name "v"]⟩]))] := by
  with_unfolding_all rfl

theorem compile_base64_decode_encode (refusedAt : String → Position) :
    compile "\x7b\x7bbase64_decode (base64_encode v)\x7d\x7d" refusedAt =
      .ok [(⟨1, 1⟩, .value (.ofCall "base64_decode"
        [.call (.name "base64_encode") [.path ⟨"v", [.name "v"]⟩] []]))] := by
  with_unfolding_all rfl

section Evaluate

variable (strict : Bool) (around : Surroundings) {params : Params} {s : String}
  (hs : params.get? "v" = some (.string s))

include hs

theorem evaluateAll_text : Param.evaluateAll (.start strict around params)
    [.path ⟨"v", [.name "v"]⟩] = pure [⟨some "v", .inData (.string s) ["v"]⟩] :=
  evaluateAll_cons (evaluate_name_param strict around hs) rfl

theorem evaluate_base64_encode :
    (evaluate strict around (some "\x7b\x7bbase64_encode v\x7d\x7d") (some params)).value =
      .ok (.string (Helper.encodeText s)) :=
  evaluate_call strict around (List.cons_ne_nil _ _) (evaluateAll_text strict around hs) rfl
    (compile_base64_encode _) (Helper.answer?_base64Encode _ rfl)

/-- Decoding gives the text of which the parameter is the encoding, if there is one. -/
theorem evaluate_base64_decode_iff {d : String} :
    (evaluate strict around (some "\x7b\x7bbase64_decode v\x7d\x7d") (some params)).value =
      .ok (.string d) ↔ s = Helper.encodeText d := by
  have hparams := evaluateAll_text strict around hs
  have hanswer : Helper.base64Decode.answer? (.start strict around params)
      ⟨"base64_decode", [⟨some "v", .inData (.string s) ["v"]⟩], []⟩ =
        some (.ofExcept ((Helper.decoded s).map .string)) :=
    Helper.answer?_base64Decode _ rfl
  rw [← Helper.decoded_eq_ok_iff]
  cases hd : Helper.decoded s with
  | ok t =>
    rw [hd] at hanswer
    rw [evaluate_call strict around (List.cons_ne_nil _ _) hparams rfl (compile_base64_decode _)
      hanswer]
    simp [Json.templateText]
  | error fault =>
    rw [hd] at hanswer
    obtain ⟨position, hfail⟩ := evaluate_call_of_fails strict around (List.cons_ne_nil _ _)
      hparams rfl (compile_base64_decode _) hanswer
    rw [hfail]
    simp

/-- What has been encoded is decoded to the same text. -/
theorem evaluate_base64_decode_encode :
    (evaluate strict around (some "\x7b\x7bbase64_decode (base64_encode v)\x7d\x7d")
      (some params)).value = .ok (.string s) := by
  have hencoded : Param.evaluate (.start strict around params)
      (.call (.name "base64_encode") [.path ⟨"v", [.name "v"]⟩] []) =
        pure ⟨none, .computed (.string (Helper.encodeText s))⟩ :=
    evaluate_call_param (evaluateAll_text strict around hs) rfl
      (Helper.answer?_base64Encode _ rfl)
  have hanswer : Helper.base64Decode.answer? (.start strict around params)
      ⟨"base64_decode", [⟨none, .computed (.string (Helper.encodeText s))⟩], []⟩ =
        some (.ofExcept ((Helper.decoded (Helper.encodeText s)).map .string)) :=
    Helper.answer?_base64Decode _ rfl
  rw [Helper.decoded_eq_ok_iff.2 rfl] at hanswer
  exact evaluate_call strict around (List.cons_ne_nil _ _) (evaluateAll_cons hencoded rfl) rfl
    (compile_base64_decode_encode _) hanswer

/-- In templates `base64_encode` and `base64_decode` are inverse to each other: what is encoded and
decoded is the same text, and a text `s` is decoded to `t` if and only if `t` is encoded to `s`,
which is the case if and only if `s` is the canonical text of the bytes of `t`. No two texts are
decoded to the same one. -/
theorem evaluate_base64 {params' : Params} {t : String}
    (ht : params'.get? "v" = some (.string t)) :
    (evaluate strict around (some "\x7b\x7bbase64_decode (base64_encode v)\x7d\x7d")
        (some params)).value = .ok (.string s) ∧
      ((evaluate strict around (some "\x7b\x7bbase64_decode v\x7d\x7d") (some params)).value =
          .ok (.string t) ↔
        (evaluate strict around (some "\x7b\x7bbase64_encode v\x7d\x7d") (some params')).value =
          .ok (.string s)) ∧
      ((evaluate strict around (some "\x7b\x7bbase64_decode v\x7d\x7d") (some params)).value =
          .ok (.string t) ↔
        Text.Base64.Canonical t.toUTF8.toList s) ∧
      ∀ d : String,
        (evaluate strict around (some "\x7b\x7bbase64_decode v\x7d\x7d") (some params)).value =
          .ok (.string d) →
        (evaluate strict around (some "\x7b\x7bbase64_decode v\x7d\x7d") (some params')).value =
          .ok (.string d) →
        s = t := by
  refine ⟨evaluate_base64_decode_encode strict around hs, ?_, ?_, ?_⟩
  · rw [evaluate_base64_decode_iff strict around hs, evaluate_base64_encode strict around ht,
      Except.ok.injEq, Json.string.injEq, eq_comm]
  · rw [evaluate_base64_decode_iff strict around hs, Text.Base64.canonical_iff]
    rfl
  · intro d h h'
    rw [evaluate_base64_decode_iff strict around hs] at h
    rw [evaluate_base64_decode_iff strict around ht] at h'
    rw [h, h']

end Evaluate

/-- A letter beyond ASCII, of two bytes, so that its encoding is padded. -/
theorem evaluate_base64_padded :
    (evaluate true .bare (some "\x7b\x7bbase64_decode (base64_encode v)\x7d\x7d")
        (some [("v", .string "w6k=")])).value = .ok (.string "w6k=") ∧
      (evaluate true .bare (some "\x7b\x7bbase64_decode v\x7d\x7d")
        (some [("v", .string "w6k=")])).value = .ok (.string "é") ∧
      (evaluate true .bare (some "\x7b\x7bbase64_encode v\x7d\x7d")
        (some [("v", .string "é")])).value = .ok (.string "w6k=") := by
  have hs : Dict.get? [("v", Json.string "w6k=")] "v" = some (.string "w6k=") := rfl
  have ht : Dict.get? [("v", Json.string "é")] "v" = some (.string "é") := rfl
  have hcanonical : Text.Base64.Canonical "é".toUTF8.toList "w6k=" := by
    rw [Text.Utf8.toUTF8_toList]
    exact ⟨[48, 58, 36], 2, 1, by decide, by decide, by decide, by decide, by decide, by decide⟩
  obtain ⟨hboth, hiff, hdecoded, -⟩ := evaluate_base64 true .bare hs ht
  exact ⟨hboth, hdecoded.2 hcanonical, hiff.1 (hdecoded.2 hcanonical)⟩

end TemplateEngines.Handlebars
