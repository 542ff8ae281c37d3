/-
The scan over the bytes of a template finds the tokens of the template. The proof keeps the
characters apart that the scan has copied, passed and not yet seen (`Scan.Stands`); its positions
are then character boundaries, and every slice is there.
-/
import TemplateEngines.Proofs.Text.Utf8
import TemplateEngines.Substitution.Scan
import TemplateEngines.Substitution.Token
import Mathlib.Data.List.TakeWhile
import Mathlib.Tactic

namespace TemplateEngines.Substitution

open Text.Utf8

/-! ## Keys -/

theorem isKeyByte_ascii : ∀ n < 0x80, isKeyByte (UInt8.ofNat n) = isKeyChar (Char.ofNat n) := by
  decide

theorem toNat_lt_of_isKeyByte {b : UInt8} (h : isKeyByte b) : b.toNat < 0x80 := by
  simp only [isKeyByte, Bool.or_eq_true, Bool.and_eq_true, decide_eq_true_eq, beq_iff_eq,
    UInt8.le_iff_toNat_le, ← UInt8.toNat_inj, UInt8.reduceToNat] at h
  omega

theorem toNat_lt_of_isKeyChar {c : Char} (h : isKeyChar c) : c.toNat < 0x80 := by
  delta isKeyChar Char.isAlphanum Char.isAlpha Char.isUpper Char.isLower Char.isDigit at h
  simp only [Bool.or_eq_true, Bool.and_eq_true, decide_eq_true_eq, beq_iff_eq,
    UInt32.le_iff_toNat_le, ge_iff_le, Char.toNat_val, ← Char.toNat_inj] at h
  simp at h
  omega

/-- The first byte of a character belongs to a key if the character does. -/
theorem isKeyByte_head (c : Char) :
    ∃ b, (String.utf8EncodeChar c).head? = some b ∧ isKeyByte b = isKeyChar c := by
  obtain ⟨b, bs, hb⟩ := List.exists_cons_of_ne_nil (String.utf8EncodeChar_ne_nil (c := c))
  refine ⟨b, by rw [hb, List.head?_cons], ?_⟩
  by_cases hc : c.toNat < 0x80
  · rw [encodeChar_ascii hc, List.cons.injEq] at hb
    rw [← hb.1, isKeyByte_ascii _ hc, Char.ofNat_toNat]
  · -- Beyond ASCII neither the byte nor the character belongs to a key.
    have h1 : isKeyByte b = false := by
      rw [← Bool.not_eq_true]
      intro h
      have hlt := toNat_lt_of_isKeyByte h
      exact hc (mem_encodeChar_ascii (hb ▸ List.mem_cons_self) hlt ▸ hlt)
    have h2 : isKeyChar c = false := by
      rw [← Bool.not_eq_true]
      exact fun h => hc (toNat_lt_of_isKeyChar h)
    rw [h1, h2]

/-- A byte below 0x80 is a whole character, so it does not occur inside another one. -/
theorem ne_of_mem_encodeChar {c d : Char} {b : UInt8} (hb : b ∈ String.utf8EncodeChar c)
    (hd : d.toNat < 0x80) (hne : c ≠ d) : b ≠ UInt8.ofNat d.toNat := by
  rintro rfl
  have hnat : (UInt8.ofNat d.toNat).toNat = d.toNat := toNat_ofNat_ascii hd
  have := mem_encodeChar_ascii hb (by rw [hnat]; exact hd)
  rw [hnat, Char.toNat_inj] at this
  exact hne this

/-! ## The text after a position -/

section Rest

variable {bytes : Array UInt8} {position : Nat}

theorem length_encode_cons (c : Char) (cs : List Char) :
    (encode (c :: cs)).length = c.utf8Size + (encode cs).length := by
  rw [encode_cons, List.length_append, String.length_utf8EncodeChar]

theorem length_encode_brace {brace : Char} (h : brace = '{' ∨ brace = '}') (cs : List Char) :
    (encode (brace :: cs)).length = (encode cs).length + 1 := by
  rw [length_encode_cons, Nat.add_comm]
  rcases h with rfl | rfl <;> rfl

theorem length_encode_key {key : List Char} (h : ∀ c ∈ key, isKeyChar c) :
    (encode key).length = key.length :=
  length_encode_ascii fun c hc => toNat_lt_of_isKeyChar (h c hc)

theorem length_encode_placeholder {key : List Char} (h : ∀ c ∈ key, isKeyChar c) :
    (encode ('{' :: (key ++ ['}']))).length = key.length + 2 := by
  rw [length_encode_brace (.inl rfl), encode_append, List.length_append, length_encode_key h]
  rfl

theorem getElem?_rest {cs : List Char} (h : bytes.toList.drop position = encode cs) :
    bytes[position]? = (encode cs).head? := by
  rw [← h, List.head?_drop, Array.getElem?_toList]

theorem drop_rest (cs : List Char) {ds : List Char}
    (h : bytes.toList.drop position = encode (cs ++ ds)) :
    bytes.toList.drop (position + (encode cs).length) = encode ds := by
  rw [← List.drop_drop, h, encode_append, List.drop_left]

theorem drop_rest_ascii {c : Char} {cs : List Char} (hc : c.toNat < 0x80)
    (h : bytes.toList.drop position = encode (c :: cs)) :
    bytes.toList.drop (position + 1) = encode cs := by
  have := drop_rest [c] h
  rwa [encode_cons, encodeChar_ascii hc] at this

/-- The byte at a position is that of an ASCII character if the character stands there. -/
theorem getElem?_rest_ascii {c : Char} (hc : c.toNat < 0x80) {cs : List Char}
    (h : bytes.toList.drop position = encode cs) :
    bytes[position]? = some (UInt8.ofNat c.toNat) ↔ cs.head? = some c := by
  rw [getElem?_rest h, head?_encode_ascii hc]

theorem keyEnd_rest (cs : List Char) (start : Nat) (h : bytes.toList.drop start = encode cs) :
    keyEnd bytes start = start + (cs.takeWhile isKeyChar).length := by
  induction cs generalizing start with
  | nil =>
    have hle : bytes.size ≤ start := by
      rwa [encode_nil, List.drop_eq_nil_iff, Array.length_toList] at h
    rw [keyEnd, dif_neg (Nat.not_lt.2 hle)]
    rfl
  | cons c cs ih =>
    obtain ⟨b, hb, hkey⟩ := isKeyByte_head c
    have hat : bytes[start]? = some b := by rw [getElem?_rest h, head?_encode_cons, hb]
    obtain ⟨hlt, hget⟩ := Array.getElem?_eq_some_iff.1 hat
    rw [keyEnd, dif_pos hlt, hget, hkey]
    by_cases hc : isKeyChar c
    · rw [if_pos hc, ih (start + 1) (drop_rest_ascii (toNat_lt_of_isKeyChar hc) h),
        List.takeWhile_cons_of_pos hc, List.length_cons]
      omega
    · rw [if_neg hc, List.takeWhile_cons_of_neg hc]
      rfl

/-- The byte behind a key is that of a closing brace if the key is closed. -/
theorem getElem?_keyEnd {cs : List Char} (h : bytes.toList.drop position = encode cs) :
    bytes[position + (cs.takeWhile isKeyChar).length]? = some closeBrace ↔
      (cs.dropWhile isKeyChar).head? = some '}' := by
  have hkey : ∀ c ∈ cs.takeWhile isKeyChar, isKeyChar c := fun c hc => List.mem_takeWhile_imp hc
  have hbehind : bytes.toList.drop (position + (cs.takeWhile isKeyChar).length) =
      encode (cs.dropWhile isKeyChar) := by
    rw [← length_encode_key hkey]
    apply drop_rest
    rw [List.takeWhile_append_dropWhile, h]
  exact getElem?_rest_ascii (c := '}') (by decide) hbehind

end Rest

/-! ## Slices -/

theorem isBoundary_encode {bytes : Array UInt8} (before after : List Char)
    (h : bytes.toList = encode before ++ encode after) :
    isBoundary bytes (encode before).length := by
  have hrest : bytes.toList.drop (encode before).length = encode after := by
    rw [h, List.drop_left]
  have hsize : bytes.size = (encode before).length + (encode after).length := by
    rw [← Array.length_toList, h, List.length_append]
  rw [isBoundary, getElem?_rest hrest]
  cases after with
  | nil => simp [hsize]
  | cons c cs =>
    obtain ⟨b, hb, -⟩ := isKeyByte_head c
    rw [head?_encode_cons, hb]
    simp [head_encodeChar hb]

/-- The slice between two characters is the text between them. -/
theorem slice?_encode {bytes : Array UInt8} (before text after : List Char)
    (h : bytes.toList = encode before ++ encode text ++ encode after) :
    slice? bytes (encode before).length ((encode before).length + (encode text).length) =
      some (String.ofList text) := by
  have h1 : isBoundary bytes (encode before).length :=
    isBoundary_encode before (text ++ after) (by rw [h, encode_append, List.append_assoc])
  have h2 : isBoundary bytes ((encode before).length + (encode text).length) := by
    have := isBoundary_encode (before ++ text) after (by rw [h, encode_append])
    rwa [encode_append, List.length_append] at this
  have hbytes : (bytes.extract (encode before).length
      ((encode before).length + (encode text).length)).toList = encode text := by
    rw [Array.toList_extract, h, List.extract_eq_take_drop, List.append_assoc, List.drop_left,
      Nat.add_sub_cancel_left, List.take_left]
  rw [slice?, if_pos (by simp [h1, h2]), hbytes, decode_encode]
  rfl

/-! ## Steps of the scan -/

/-- The scan has copied `done` and passed `pending`, and `rest` is still to be seen. -/
structure Scan.Stands (bytes : Array UInt8) (s : Scan) (done pending rest : List Char) : Prop where
  text : bytes.toList = encode done ++ encode pending ++ encode rest
  copied : s.copied = (encode done).length
  position : s.position = (encode done).length + (encode pending).length

namespace Scan.Stands

variable {bytes : Array UInt8} {s : Scan} {done pending rest : List Char}

/-- What is still to be seen stands after the position. -/
theorem ahead (h : s.Stands bytes done pending rest) :
    bytes.toList.drop s.position = encode rest := by
  rw [h.text, h.position, ← List.length_append, List.drop_left]

/-- The scan after it has passed a text without copying it. -/
theorem pass (text : List Char) (h : s.Stands bytes done pending (text ++ rest)) :
    Scan.Stands bytes { s with position := s.position + (encode text).length } done
      (pending ++ text) rest :=
  ⟨by rw [h.text, encode_append, encode_append]; simp only [List.append_assoc], h.copied,
    by rw [encode_append, List.length_append, h.position]; simp only [Nat.add_assoc]⟩

/-- The scan after it has copied everything up to a position behind a text. -/
theorem copy (text : List Char) (h : s.Stands bytes done pending (text ++ rest)) {position : Nat}
    (hp : position = s.position + (encode text).length) (output : String) :
    Scan.Stands bytes ⟨position, position, output⟩ (done ++ pending ++ text) [] rest := by
  have hlen : position = (encode (done ++ pending ++ text)).length := by
    rw [hp, h.position, encode_append, encode_append, List.length_append, List.length_append]
  refine ⟨?_, hlen, by rw [encode_nil, List.length_nil, Nat.add_zero]; exact hlen⟩
  rw [h.text, encode_append, encode_append, encode_append, encode_nil]
  simp only [List.append_assoc, List.append_nil]

/-- The bytes of the next character. -/
theorem getElem?_char {c : Char} (h : s.Stands bytes done pending (c :: rest)) {i : Nat}
    (hi : i < (String.utf8EncodeChar c).length) :
    bytes[s.position + i]? = some (String.utf8EncodeChar c)[i] := by
  rw [← Array.getElem?_toList, ← List.getElem?_drop, h.ahead, encode_cons,
    List.getElem?_append_left hi, List.getElem?_eq_getElem hi]

/-- The bytes of the next character are no braces if it is none. -/
theorem exists_byte {c : Char} (h : s.Stands bytes done pending (c :: rest)) (hopen : c ≠ '{')
    (hclose : c ≠ '}') {i : Nat} (hi : i < c.utf8Size) :
    ∃ b, bytes[s.position + i]? = some b ∧ b ≠ openBrace ∧ b ≠ closeBrace := by
  rw [← String.length_utf8EncodeChar] at hi
  have hmem : (String.utf8EncodeChar c)[i] ∈ String.utf8EncodeChar c := List.getElem_mem hi
  exact ⟨_, h.getElem?_char hi, ne_of_mem_encodeChar (d := '{') hmem (by decide) hopen,
    ne_of_mem_encodeChar (d := '}') hmem (by decide) hclose⟩

theorem slice?_pending (h : s.Stands bytes done pending rest) :
    slice? bytes s.copied s.position = some (String.ofList pending) := by
  rw [h.copied, h.position]
  exact slice?_encode done pending rest h.text

/-- A slice of what is still to be seen. -/
theorem slice?_ahead (skipped text : List Char)
    (h : s.Stands bytes done pending (skipped ++ text ++ rest)) :
    slice? bytes (s.position + (encode skipped).length)
        (s.position + (encode skipped).length + (encode text).length) =
      some (String.ofList text) := by
  have hbytes : bytes.toList =
      encode (done ++ pending ++ skipped) ++ encode text ++ encode rest := by
    rw [h.text]
    simp only [encode_append, List.append_assoc]
  have := slice?_encode (done ++ pending ++ skipped) text rest hbytes
  rwa [encode_append, encode_append, List.length_append, List.length_append, ← h.position] at this

theorem write (h : s.Stands bytes done pending rest) (text : String) (position : Nat) :
    s.write bytes text position =
      .next ⟨position, position, s.output ++ String.ofList pending ++ text⟩ := by
  rw [Scan.write, h.slice?_pending]

variable {params : Params} {strict : Bool}

theorem step_end (h : s.Stands bytes done pending []) :
    s.step bytes params strict = .done (s.output ++ String.ofList pending) := by
  have hsize : bytes.size = s.position := by
    rw [← Array.length_toList, h.text, h.position, encode_nil, List.append_nil,
      List.length_append]
  rw [Scan.step, getElem?_rest h.ahead, hsize, h.slice?_pending]
  rfl

/-- A doubled brace is written once. -/
theorem step_doubled {brace : Char} (hbrace : brace = '{' ∨ brace = '}')
    (h : s.Stands bytes done pending (brace :: brace :: rest)) :
    s.step bytes params strict = .next ⟨s.position + 2, s.position + 2,
      s.output ++ String.ofList pending ++ String.singleton brace⟩ := by
  have hascii : brace.toNat < 0x80 := by rcases hbrace with rfl | rfl <;> decide
  have h0 : bytes[s.position]? = some (UInt8.ofNat brace.toNat) :=
    (getElem?_rest_ascii hascii h.ahead).2 rfl
  have h1 : bytes[s.position + 1]? = some (UInt8.ofNat brace.toNat) :=
    (getElem?_rest_ascii hascii (drop_rest_ascii hascii h.ahead)).2 rfl
  rw [Scan.step, h0, h1]
  rcases hbrace with rfl | rfl
  · exact h.write "\x7b" (s.position + 2)
  · exact h.write "\x7d" (s.position + 2)

/-- What a step does at an opening brace that is not doubled: it reads the key behind the brace. -/
theorem step_open (params : Params) (strict : Bool)
    (h : s.Stands bytes done pending ('{' :: rest)) (hrest : rest.head? ≠ some '{') :
    s.step bytes params strict =
      if rest.takeWhile isKeyChar = [] then .next { s with position := s.position + 1 }
      else if (rest.dropWhile isKeyChar).head? = some '}' then
        s.fill bytes params strict (s.position + 1 + (rest.takeWhile isKeyChar).length)
      else .refused (.malformed ("unterminated placeholder at byte " ++ toString s.position)) := by
  have hnext : bytes.toList.drop (s.position + 1) = encode rest := drop_rest_ascii (by decide) h.ahead
  have h0 : bytes[s.position]? = some openBrace :=
    (getElem?_rest_ascii (c := '{') (by decide) h.ahead).2 rfl
  have h1 : (bytes[s.position + 1]? == some openBrace) = false := by
    apply beq_false_of_ne
    exact fun h1 => hrest ((getElem?_rest_ascii (c := '{') (by decide) hnext).1 h1)
  have h2 : (openBrace == closeBrace) = false := rfl
  rw [Scan.step, h0]
  simp only [h1, h2, keyEnd_rest rest _ hnext, getElem?_keyEnd hnext, Bool.and_false,
    Bool.false_and, beq_self_eq_true, Bool.false_eq_true, if_false, if_true, beq_iff_eq,
    Nat.add_eq_left, List.length_eq_zero_iff]

theorem slice?_key {key : List Char} (hkey : ∀ c ∈ key, isKeyChar c)
    (h : s.Stands bytes done pending ('{' :: (key ++ '}' :: rest))) :
    slice? bytes (s.position + 1) (s.position + 1 + key.length) = some (String.ofList key) := by
  rw [← length_encode_key hkey]
  have h' : s.Stands bytes done pending (['{'] ++ key ++ '}' :: rest) := by simpa using h
  exact h'.slice?_ahead ['{'] key

theorem slice?_placeholder {key : List Char} (hkey : ∀ c ∈ key, isKeyChar c)
    (h : s.Stands bytes done pending ('{' :: (key ++ '}' :: rest))) :
    slice? bytes s.position (s.position + 1 + key.length + 1) =
      some ("\x7b" ++ String.ofList key ++ "\x7d") := by
  have h' : s.Stands bytes done pending ([] ++ '{' :: (key ++ ['}']) ++ rest) := by simpa using h
  have := h'.slice?_ahead [] ('{' :: (key ++ ['}']))
  have hstop : s.position + 1 + key.length + 1 =
      s.position + (encode ('{' :: (key ++ ['}']))).length := by
    rw [length_encode_placeholder hkey]
    omega
  rw [hstop]
  simpa [String.append_assoc] using this

/-- A placeholder is written as the text that its token stands for. -/
theorem fill {key : List Char} (hkey : ∀ c ∈ key, isKeyChar c)
    (h : s.Stands bytes done pending ('{' :: (key ++ '}' :: rest))) :
    s.fill bytes params strict (s.position + 1 + key.length) =
      match (Token.placeholder (String.ofList key)).text strict params with
      | .ok text => .next ⟨s.position + 1 + key.length + 1, s.position + 1 + key.length + 1,
          s.output ++ String.ofList pending ++ text⟩
      | .error e => .refused e := by
  rw [Scan.fill, h.slice?_key hkey]
  simp only [Token.text]
  cases params.get? (String.ofList key) with
  | some v => exact h.write v.valueText _
  | none =>
    cases strict with
    | true => rfl
    | false =>
      simp only [Bool.false_eq_true, if_false, h.slice?_placeholder hkey]
      exact h.write _ _

end Scan.Stands

/-- A byte that is no brace is passed, and so is a closing brace that stands alone. -/
theorem Scan.step_byte {bytes : Array UInt8} {s : Scan} {params : Params} {strict : Bool}
    {b : UInt8} (hb : bytes[s.position]? = some b) (hopen : b ≠ openBrace)
    (hclose : b = closeBrace → bytes[s.position + 1]? ≠ some closeBrace) :
    s.step bytes params strict = .next { s with position := s.position + 1 } := by
  have h1 : (b == openBrace) = false := beq_false_of_ne hopen
  have h2 : (b == closeBrace && bytes[s.position + 1]? == some closeBrace) = false := by
    rw [Bool.and_eq_false_imp]
    intro h
    exact beq_false_of_ne (hclose (eq_of_beq h))
  rw [Scan.step, hb]
  simp only [h1, h2, Bool.false_and, Bool.false_eq_true, if_false]

/-! ## Runs of the scan -/

section Run

variable {bytes : Array UInt8} {s : Scan} {params : Params} {strict : Bool}

theorem Scan.run_next {s' : Scan} {fuel : Nat} (h : s.step bytes params strict = .next s') :
    Scan.run bytes params strict (fuel + 1) s = Scan.run bytes params strict fuel s' := by
  rw [Scan.run, h]

/-- Bytes that are no braces are passed one by one. -/
theorem Scan.run_bytes (n fuel : Nat) (s : Scan)
    (h : ∀ i < n, ∃ b, bytes[s.position + i]? = some b ∧ b ≠ openBrace ∧ b ≠ closeBrace) :
    Scan.run bytes params strict (fuel + n) s =
      Scan.run bytes params strict fuel { s with position := s.position + n } := by
  induction n generalizing s with
  | zero => rfl
  | succ n ih =>
    obtain ⟨b, hb, hopen, hclose⟩ := h 0 (Nat.succ_pos n)
    rw [← Nat.add_assoc, Scan.run_next (Scan.step_byte hb hopen (absurd · hclose)), ih]
    · simp only [Nat.add_assoc, Nat.add_comm 1 n]
    · intro i hi
      have := h (i + 1) (by omega)
      rwa [Nat.add_comm i 1, ← Nat.add_assoc] at this

/-- A character that is no brace is passed, whatever its number of bytes. -/
theorem Scan.Stands.run_char {done pending rest : List Char} {c : Char}
    (h : s.Stands bytes done pending (c :: rest)) (hopen : c ≠ '{') (hclose : c ≠ '}')
    (fuel : Nat) :
    Scan.run bytes params strict (fuel + c.utf8Size) s =
      Scan.run bytes params strict fuel { s with position := s.position + c.utf8Size } :=
  Scan.run_bytes _ _ _ fun _ hi => h.exists_byte hopen hclose hi

end Run

/-! ## Tokens -/

/-- The outcome of a scan that has written a text already. -/
def finish (output : String) : Except EngineError String → Outcome
  | .ok text => .value (.string (output ++ text))
  | .error e => .failure e

section Finish

variable {strict : Bool} {params : Params} {token : Token}

theorem finish_cons_ok {text : String} (h : token.text strict params = .ok text) (output : String)
    (rest : List Token) :
    finish output (meaning strict params (token :: rest)) =
      finish (output ++ text) (meaning strict params rest) := by
  rw [meaning, h]
  cases hrest : meaning strict params rest with
  | ok texts => simp [finish, bind, Except.bind, pure, Except.pure, String.append_assoc]
  | error e => simp [finish, bind, Except.bind]

theorem finish_cons_error {e : EngineError} (h : token.text strict params = .error e)
    (output : String) (rest : List Token) :
    finish output (meaning strict params (token :: rest)) = .failure e := by
  rw [meaning, h]
  rfl

end Finish

/-- The scan has come to `offset`, where `rest` starts, and what it has copied or passed until then
is rendered as `written`. -/
def Scan.Reached (bytes : Array UInt8) (s : Scan) (offset : Nat) (written : String)
    (rest : List Char) : Prop :=
  s.position = offset ∧ ∃ done pending, s.Stands bytes done pending rest ∧
    s.output ++ String.ofList pending = written

theorem head?_ne_some {c : Char} {cs : List Char} (h : ∀ rest, cs = c :: rest → False) :
    cs.head? ≠ some c := by
  intro hhead
  obtain ⟨rest, heq⟩ := List.head?_eq_some_iff.1 hhead
  exact h rest heq

namespace Scan.Reached

variable {bytes : Array UInt8} {params : Params} {strict : Bool} {s : Scan} {offset : Nat}
  {written : String} {rest : List Char}

/-- The scan passes a text that stands for itself. -/
theorem pass (text : List Char) (h : s.Reached bytes offset written (text ++ rest)) :
    Scan.Reached bytes { s with position := s.position + (encode text).length }
      (offset + (encode text).length) (written ++ String.ofList text) rest := by
  obtain ⟨rfl, done, pending, hs, rfl⟩ := h
  refine ⟨rfl, done, pending ++ text, hs.pass text, ?_⟩
  rw [String.ofList_append, String.append_assoc]

theorem doubled {brace : Char} (hbrace : brace = '{' ∨ brace = '}')
    (h : s.Reached bytes offset written (brace :: brace :: rest)) :
    ∃ s', s.step bytes params strict = .next s' ∧
      s'.Reached bytes (offset + 2) (written ++ String.singleton brace) rest := by
  obtain ⟨rfl, done, pending, hs, rfl⟩ := h
  have hlen : (encode [brace, brace]).length = 2 := by rcases hbrace with rfl | rfl <;> rfl
  refine ⟨_, hs.step_doubled hbrace, rfl, _, [], hs.copy [brace, brace] ?_ _, ?_⟩
  · rw [hlen]
  · simp

/-- An opening brace without a key stands for itself. -/
theorem open_plain (h : s.Reached bytes offset written ('{' :: rest)) (hrest : rest.head? ≠ some '{')
    (hkey : rest.takeWhile isKeyChar = []) :
    ∃ s', s.step bytes params strict = .next s' ∧
      s'.Reached bytes (offset + 1) (written ++ String.singleton '{') rest := by
  have hpass := Scan.Reached.pass ['{'] h
  obtain ⟨rfl, done, pending, hs, rfl⟩ := h
  exact ⟨_, (hs.step_open params strict hrest).trans (if_pos hkey), hpass⟩

/-- A closing brace that is not doubled stands for itself. -/
theorem close_plain (h : s.Reached bytes offset written ('}' :: rest))
    (hrest : rest.head? ≠ some '}') :
    ∃ s', s.step bytes params strict = .next s' ∧
      s'.Reached bytes (offset + 1) (written ++ String.singleton '}') rest := by
  have hpass := Scan.Reached.pass ['}'] h
  obtain ⟨rfl, done, pending, hs, rfl⟩ := h
  have hb : bytes[s.position]? = some closeBrace :=
    (getElem?_rest_ascii (c := '}') (by decide) hs.ahead).2 rfl
  refine ⟨_, Scan.step_byte hb (by decide) fun _ hnext => hrest ?_, hpass⟩
  exact (getElem?_rest_ascii (c := '}') (by decide) (drop_rest_ascii (by decide) hs.ahead)).1 hnext

/-- Any other character stands for itself. -/
theorem char {c : Char} (h : s.Reached bytes offset written (c :: rest)) (hopen : c ≠ '{')
    (hclose : c ≠ '}') (fuel : Nat) :
    ∃ s', Scan.run bytes params strict (fuel + c.utf8Size) s = Scan.run bytes params strict fuel s' ∧
      s'.Reached bytes (offset + c.utf8Size) (written ++ String.singleton c) rest := by
  have hpass := Scan.Reached.pass [c] h
  obtain ⟨rfl, done, pending, hs, rfl⟩ := h
  refine ⟨_, hs.run_char hopen hclose fuel, ?_⟩
  simpa using hpass

/-- What a step does at a key that is closed. -/
theorem placeholder (params : Params) (strict : Bool)
    (h : s.Reached bytes offset written ('{' :: rest)) {rest' : List Char}
    (hrest : rest.head? ≠ some '{') (hkey : rest.takeWhile isKeyChar ≠ [])
    (hend : rest.dropWhile isKeyChar = '}' :: rest') :
    match (Token.placeholder (String.ofList (rest.takeWhile isKeyChar))).text strict params with
    | .ok text => ∃ s', s.step bytes params strict = .next s' ∧
        s'.Reached bytes (offset + (rest.takeWhile isKeyChar).length + 2) (written ++ text) rest'
    | .error e => s.step bytes params strict = .refused e := by
  obtain ⟨rfl, done, pending, hs, rfl⟩ := h
  have hsplit : rest = rest.takeWhile isKeyChar ++ '}' :: rest' := by
    rw [← hend, List.takeWhile_append_dropWhile]
  have hchars : ∀ c ∈ rest.takeWhile isKeyChar, isKeyChar c := fun c hc =>
    List.mem_takeWhile_imp hc
  have hstep := hs.step_open params strict hrest
  rw [if_neg hkey, hend, if_pos List.head?_cons] at hstep
  generalize rest.takeWhile isKeyChar = key at hstep hchars hsplit
  subst hsplit
  rw [hs.fill hchars] at hstep
  cases htext : (Token.placeholder (String.ofList key)).text strict params with
  | error e => rw [hstep, htext]
  | ok text =>
    have hs' : s.Stands bytes done pending ('{' :: (key ++ ['}']) ++ rest') := by simpa using hs
    have hstop : s.position + 1 + key.length + 1 =
        s.position + (encode ('{' :: (key ++ ['}']))).length := by
      rw [length_encode_placeholder hchars]
      omega
    have hcopy := hs'.copy ('{' :: (key ++ ['}'])) hstop (s.output ++ String.ofList pending ++ text)
    refine ⟨_, by rw [hstep, htext], by simp only []; omega, _, [], hcopy, ?_⟩
    simp

/-- What a step does at a key that is not closed. -/
theorem unterminated (h : s.Reached bytes offset written ('{' :: rest))
    (hrest : rest.head? ≠ some '{') (hkey : rest.takeWhile isKeyChar ≠ [])
    (hend : (rest.dropWhile isKeyChar).head? ≠ some '}') :
    s.step bytes params strict =
      .refused (.malformed ("unterminated placeholder at byte " ++ toString offset)) := by
  obtain ⟨rfl, done, pending, hs, rfl⟩ := h
  rw [hs.step_open params strict hrest, if_neg hkey, if_neg hend]

/-- From anywhere the scan writes what the tokens of the rest of the template stand for. -/
theorem run_eq {fuel : Nat} (h : s.Reached bytes offset written rest)
    (hfuel : (encode rest).length < fuel) :
    Scan.run bytes params strict fuel s =
      finish written (meaning strict params (tokens offset rest)) := by
  -- in every case but the fifth and sixth the next token has a text, and `ih` goes on behind it
  fun_induction tokens offset rest generalizing s written fuel with
  | case1 offset =>
    obtain ⟨rfl, done, pending, hs, rfl⟩ := h
    obtain _ | fuel := fuel
    · omega
    · rw [Scan.run, hs.step_end]
      simp [finish, meaning]
  | case2 offset rest ih =>
    rw [length_encode_brace (.inl rfl), length_encode_brace (.inl rfl)] at hfuel
    obtain _ | fuel := fuel
    · omega
    · obtain ⟨s', hstep, h'⟩ := h.doubled (.inl rfl)
      rw [Scan.run_next hstep, ih h' (by omega), finish_cons_ok rfl]
  | case3 offset rest ih =>
    rw [length_encode_brace (.inr rfl), length_encode_brace (.inr rfl)] at hfuel
    obtain _ | fuel := fuel
    · omega
    · obtain ⟨s', hstep, h'⟩ := h.doubled (.inr rfl)
      rw [Scan.run_next hstep, ih h' (by omega), finish_cons_ok rfl]
  | case4 offset rest hrest key hkey =>
    rename_i ih
    rw [length_encode_brace (.inl rfl)] at hfuel
    obtain _ | fuel := fuel
    · omega
    · obtain ⟨s', hstep, h'⟩ := h.open_plain (head?_ne_some hrest) (List.isEmpty_iff.1 hkey)
      rw [Scan.run_next hstep, ih h' (by omega), finish_cons_ok rfl]
  | case5 offset rest hrest key hkey rest' hend hlt =>
    rename_i ih
    rw [length_encode_brace (.inl rfl)] at hfuel
    obtain _ | fuel := fuel
    · omega
    · have hstep := h.placeholder params strict (head?_ne_some hrest)
        (mt List.isEmpty_iff.2 hkey) hend
      cases htext :
        (Token.placeholder (String.ofList (rest.takeWhile isKeyChar))).text strict params with
      | error e =>
        rw [htext] at hstep
        rw [Scan.run, hstep, finish_cons_error htext]
      | ok text =>
        rw [htext] at hstep
        obtain ⟨s', hstep, h'⟩ := hstep
        have hlen : (encode rest').length < (encode rest).length := by
          rw [← List.takeWhile_append_dropWhile (p := isKeyChar) (l := rest), hend, encode_append,
            List.length_append, length_encode_brace (.inr rfl)]
          omega
        rw [Scan.run_next hstep, ih h' (by omega), finish_cons_ok htext]
  | case6 offset rest hrest key hkey =>
    rename_i hend
    obtain _ | fuel := fuel
    · omega
    · rw [Scan.run, h.unterminated (head?_ne_some hrest) (mt List.isEmpty_iff.2 hkey)
        (head?_ne_some hend), finish_cons_error rfl]
  | case7 offset c rest _ hclose hopen ih =>
    by_cases hc : c = '}'
    · subst hc
      rw [length_encode_brace (.inr rfl)] at hfuel
      obtain _ | fuel := fuel
      · omega
      · obtain ⟨s', hstep, h'⟩ := h.close_plain (head?_ne_some fun rest => hclose rest rfl)
        rw [Scan.run_next hstep, ih h' (by omega), finish_cons_ok rfl]
    · rw [length_encode_cons] at hfuel
      obtain ⟨fuel, rfl⟩ : ∃ n, fuel = n + c.utf8Size := ⟨fuel - c.utf8Size, by omega⟩
      obtain ⟨s', hrun, h'⟩ := h.char hopen hc fuel
      rw [hrun, ih h' (by omega), finish_cons_ok rfl]

end Scan.Reached

/-! ## Evaluation -/

theorem evaluate_some (strict : Bool) (template : String) (params : Option Params) :
    evaluate strict (some template) params =
      finish "" (meaning strict (params.getD []) (tokens 0 template.toList)) := by
  have hbytes : template.toUTF8.data.toList = encode template.toList := toUTF8_data_toList template
  have hstands : Scan.Stands template.toUTF8.data ⟨0, 0, ""⟩ [] [] template.toList :=
    ⟨by rw [hbytes]; rfl, rfl, rfl⟩
  apply Scan.Reached.run_eq ⟨rfl, [], [], hstands, rfl⟩
  rw [← hbytes, Array.length_toList]
  exact Nat.lt_succ_self _

theorem meaning_eq_mapM (strict : Bool) (params : Params) (ts : List Token) :
    meaning strict params ts = (ts.mapM (Token.text strict params)).map String.join := by
  induction ts with
  | nil => rfl
  | cons token rest ih =>
    rw [meaning, List.mapM_cons, ih]
    cases token.text strict params with
    | error e => rfl
    | ok text =>
      cases rest.mapM (Token.text strict params) with
      | error e => rfl
      | ok texts => simp [bind, Except.bind, pure, Except.pure, Except.map]

/-- A template is evaluated token by token: the texts of the tokens are put together, and the first
token without a text is the error. -/
theorem evaluate_eq_tokens (strict : Bool) (template : String) (params : Option Params) :
    evaluate strict (some template) params =
      match (tokens 0 template.toList).mapM (Token.text strict (params.getD [])) with
      | .ok texts => .value (.string (String.join texts))
      | .error e => .failure e := by
  rw [evaluate_some, meaning_eq_mapM]
  cases (tokens 0 template.toList).mapM (Token.text strict (params.getD [])) with
  | ok texts => simp [finish, Except.map]
  | error e => rfl

end TemplateEngines.Substitution
