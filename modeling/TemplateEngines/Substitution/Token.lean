/-
What a template with `\x7bkey\x7d` placeholders means, as a list of tokens: a doubled brace stands
for one brace, a brace with a key and a closing brace for a parameter, an opening brace with a key
that is not closed for an error, and any other character for itself.
-/
import TemplateEngines.Engine.Basic

namespace TemplateEngines.Substitution

/-- The characters of keys: ASCII letters and digits, low line, point and hyphen. -/
def isKeyChar (c : Char) : Bool := c.isAlphanum || c == '_' || c == '.' || c == '-'

/-- A piece of a template. -/
inductive Token where
  /-- A character that stands for itself. -/
  | plain (c : Char)
  /-- A doubled brace, which stands for one. -/
  | doubled (brace : Char)
  | placeholder (key : String)
  /-- An opening brace with a key that is not closed; the offset counts bytes. -/
  | unterminated (offset : Nat)
deriving DecidableEq, Repr

/-- The tokens of a template in front of which `offset` bytes stand. Nothing is read after an
unterminated placeholder. -/
def tokens (offset : Nat) : List Char → List Token
  | [] => []
  | '{' :: '{' :: rest => .doubled '{' :: tokens (offset + 2) rest
  | '}' :: '}' :: rest => .doubled '}' :: tokens (offset + 2) rest
  | '{' :: rest =>
    let key := rest.takeWhile isKeyChar
    if key.isEmpty then .plain '{' :: tokens (offset + 1) rest
    else
      match h : rest.dropWhile isKeyChar with
      | '}' :: rest' =>
        have : rest'.length < rest.length + 1 := by
          have := (List.dropWhile_sublist isKeyChar (l := rest)).length_le
          rw [h, List.length_cons] at this
          omega
        .placeholder (String.ofList key) :: tokens (offset + key.length + 2) rest'
      | _ => [.unterminated offset]
  | c :: rest => .plain c :: tokens (offset + c.utf8Size) rest
termination_by cs => cs.length

/-- The text that a token stands for. In strict mode a key without a parameter is an error,
otherwise it is left as it is written. -/
def Token.text (strict : Bool) (params : Params) : Token → Except EngineError String
  | .plain c | .doubled c => .ok (String.singleton c)
  | .placeholder key =>
    match params.get? key with
    | some v => .ok v.valueText
    | none => if strict then .error (.missingParameter key) else .ok ("\x7b" ++ key ++ "\x7d")
  | .unterminated offset =>
    .error (.malformed ("unterminated placeholder at byte " ++ toString offset))

/-- The texts of the tokens one after the other, or the error of the first token without text. -/
def meaning (strict : Bool) (params : Params) : List Token → Except EngineError String
  | [] => .ok ""
  | token :: rest => do
    let text ← token.text strict params
    let texts ← meaning strict params rest
    return text ++ texts

end TemplateEngines.Substitution
