/-
What holds at every step of the scan. A scan that comes about (`Scan.Reachable`) stands between two
characters, where what it has copied and passed is the rendering of the template up to there
(`Scan.Consumed`), or inside a character that is no brace: this is the invariant `Scan.Tracks`. A
step leads to such a scan further on, or to the end (`Scan.Tracks.leads`), and no slice that it
takes is missing, so every scan comes to an end (`scan_sound`).
-/
import TemplateEngines.Proofs.Substitution.Joining
import TemplateEngines.Proofs.Substitution.Slices

namespace TemplateEngines.Substitution

open Text.Utf8

namespace Scan

/-! ## The consumed part of a template -/

/-- The scan stands behind `consumed`, in front of `rest`, and what it has copied and passed is what
the tokens of `consumed` stand for. -/
structure Consumed (bytes : Array UInt8) (params : Params) (strict : Bool) (s : Scan)
    (consumed rest : List Char) (written : String) : Prop where
  text : bytes.toList = encode consumed ++ encode rest
  reached : s.Reached bytes (encode consumed).length written rest
  meaning_eq : meaning strict params (tokens 0 consumed) = .ok written
  /-- What follows does not change how the last character is read. -/
  alone : ∀ c, (tokens 0 consumed).getLast? = some (.plain c) → StandsAlone c rest

section Consumed

variable {bytes : Array UInt8} {params : Params} {strict : Bool} {s s' : Scan}
  {consumed rest : List Char} {written : String}

theorem Consumed.start {cs : List Char} (h : bytes.toList = encode cs) :
    Consumed bytes params strict ⟨0, 0, ""⟩ [] cs "" where
  text := h
  reached := ⟨rfl, [], [], ⟨by rw [h]; rfl, rfl, rfl⟩, rfl⟩
  meaning_eq := by rw [tokens.eq_1, meaning]
  alone := by
    intro c hlast
    rw [tokens.eq_1] at hlast
    cases hlast

theorem length_encode_singleton (c : Char) : (encode [c]).length = c.utf8Size := by
  rw [length_encode_cons, encode_nil, List.length_nil, Nat.add_zero]

/-- At the end of a text every character stands for itself. -/
theorem reads_singleton (offset : Nat) (c : Char) : Reads offset [c] [.plain c] :=
  .plain (by simp [StandsAlone]) .nil

theorem ne_nil_of_reads {offset : Nat} {front : List Char} {token : Token}
    (h : Reads offset front [token]) : front ≠ [] := by
  rintro rfl
  cases h

/-- The scan goes on behind the text of one more token. -/
theorem Consumed.extend (front : List Char) {token : Token} {text : String}
    (h : s.Consumed bytes params strict consumed (front ++ rest) written)
    (hread : Reads (encode consumed).length front [token])
    (htext : token.text strict params = .ok text)
    (halone : ∀ c, token = .plain c → StandsAlone c rest)
    (hreached : s'.Reached bytes ((encode consumed).length + (encode front).length)
      (written ++ text) rest) :
    s'.Consumed bytes params strict (consumed ++ front) rest (written ++ text) := by
  have hclosed : ∀ o, .unterminated o ∉ tokens 0 consumed := fun o ho =>
    meaning_ok_iff.1 ⟨written, h.meaning_eq⟩ _ ho
  -- The character at the joint looks at one character behind it, which is part of the front.
  have hlast : ∀ c, (tokens 0 consumed).getLast? = some (.plain c) → StandsAlone c front := by
    intro c hc
    have hstands := h.alone c hc
    rwa [StandsAlone, List.head?_append_of_ne_nil _ (ne_nil_of_reads hread)] at hstands
  have htokens : tokens 0 (consumed ++ front) = tokens 0 consumed ++ [token] :=
    ((reads_tokens 0 consumed).append hclosed hlast (by rwa [Nat.zero_add])).tokens_eq
  refine ⟨?_, ?_, ?_, ?_⟩
  · rw [h.text, encode_append, encode_append, List.append_assoc]
  · rwa [encode_append, List.length_append]
  · rw [htokens, meaning_append, h.meaning_eq, meaning_singleton, htext]
    rfl
  · intro c hc
    rw [htokens, List.getLast?_concat, Option.some.injEq] at hc
    exact halone c hc

end Consumed

/-! ## Scans that come about -/

/-- The scans that a template leads to. -/
inductive Reachable (bytes : Array UInt8) (params : Params) (strict : Bool) : Scan → Prop where
  | start : Reachable bytes params strict ⟨0, 0, ""⟩
  | next {s s' : Scan} (h : Reachable bytes params strict s)
      (hstep : s.step bytes params strict = .next s') : Reachable bytes params strict s'

/-- The invariant of the scan. -/
inductive Tracks (bytes : Array UInt8) (params : Params) (strict : Bool) : Scan → Prop where
  | between {s : Scan} {consumed rest : List Char} {written : String}
      (h : s.Consumed bytes params strict consumed rest written) : Tracks bytes params strict s
  /-- The scan has passed some bytes of a character. -/
  | inside {s : Scan} {consumed rest : List Char} {written : String} {c : Char} {k : Nat}
      (h : s.Consumed bytes params strict consumed (c :: rest) written) (hlow : 0 < k)
      (hhigh : k < c.utf8Size) : Tracks bytes params strict { s with position := s.position + k }

/-- What a step from a scan leads to while the invariant holds. -/
inductive Leads (bytes : Array UInt8) (params : Params) (strict : Bool) (s : Scan) :
    Step → Prop where
  | next {s' : Scan} (htracks : s'.Tracks bytes params strict) (hlt : s.position < s'.position) :
      Leads bytes params strict s (.next s')
  | done (text : String) : Leads bytes params strict s (.done text)
  | refused (e : EngineError) : Leads bytes params strict s (.refused e)

section Steps

variable {bytes : Array UInt8} {params : Params} {strict : Bool} {s : Scan}
  {consumed rest : List Char} {written : String}

/-- A byte of a character that is no brace is passed. -/
theorem Consumed.leads_byte {c : Char} {k : Nat}
    (h : s.Consumed bytes params strict consumed (c :: rest) written) (hopen : c ≠ '{')
    (hclose : c ≠ '}') (hk : k < c.utf8Size) :
    Leads bytes params strict { s with position := s.position + k }
      (Scan.step bytes params strict { s with position := s.position + k }) := by
  have hpass := Reached.pass [c] h.reached
  obtain ⟨-, done, pending, hs, -⟩ := h.reached
  obtain ⟨b, hb, hne, hne'⟩ := hs.exists_byte hopen hclose hk
  have hstep : Scan.step bytes params strict { s with position := s.position + k } =
      .next { s with position := s.position + k + 1 } :=
    Scan.step_byte hb hne fun heq => absurd heq hne'
  rw [hstep]
  refine .next ?_ (Nat.lt_succ_self _)
  rw [Nat.add_assoc]
  by_cases hend : k + 1 = c.utf8Size
  · rw [hend, ← length_encode_singleton]
    refine .between (Consumed.extend [c] h (reads_singleton _ c) rfl ?_ hpass)
    rintro _ ⟨⟩
    exact .of_ne hopen hclose rest
  · exact .inside h (Nat.succ_pos k) (by omega)

/-- A step that comes behind the text of a token leads further on. -/
theorem Consumed.leads_token (front : List Char) {token : Token} {text : String}
    (h : s.Consumed bytes params strict consumed (front ++ rest) written)
    (hread : Reads (encode consumed).length front [token])
    (htext : token.text strict params = .ok text)
    (halone : ∀ c, token = .plain c → StandsAlone c rest)
    (hnext : ∃ s', s.step bytes params strict = .next s' ∧
      s'.Reached bytes ((encode consumed).length + (encode front).length) (written ++ text) rest) :
    s.Leads bytes params strict (s.step bytes params strict) := by
  obtain ⟨s', hstep, hreached⟩ := hnext
  obtain ⟨c, cs, rfl⟩ := List.exists_cons_of_ne_nil (ne_nil_of_reads hread)
  have hpos := c.utf8Size_pos
  rw [hstep]
  refine .next (.between (h.extend (c :: cs) hread htext halone hreached)) ?_
  rw [h.reached.1, hreached.1, length_encode_cons]
  omega

/-- A step over a character that stands for itself. -/
theorem Consumed.leads_plain {c : Char}
    (h : s.Consumed bytes params strict consumed (c :: rest) written) (halone : StandsAlone c rest)
    (hnext : ∃ s', s.step bytes params strict = .next s' ∧
      s'.Reached bytes ((encode consumed).length + c.utf8Size) (written ++ String.singleton c)
        rest) :
    s.Leads bytes params strict (s.step bytes params strict) := by
  refine Consumed.leads_token [c] h (reads_singleton _ c) rfl ?_ ?_
  · rintro _ ⟨⟩
    exact halone
  · rwa [length_encode_singleton]

theorem Consumed.leads (h : s.Consumed bytes params strict consumed rest written) :
    s.Leads bytes params strict (s.step bytes params strict) := by
  have hread := reads_tokens (encode consumed).length rest
  generalize tokens (encode consumed).length rest = ts at hread
  -- One case for each rule that reads what stands in front of the scan.
  cases hread with
  | nil =>
    obtain ⟨-, done, pending, hs, -⟩ := h.reached
    rw [hs.step_end]
    exact .done _
  | @doubled _ brace rest _ hbrace =>
    have hlen : (encode [brace, brace]).length = 2 := by rcases hbrace with rfl | rfl <;> rfl
    refine h.leads_token [brace, brace] (.doubled hbrace .nil) rfl nofun ?_
    rw [hlen]
    exact h.reached.doubled hbrace
  | @unterminated _ key rest hkey hend =>
    obtain ⟨htake, hdrop⟩ := span_key hkey.2 rest fun d hd => (hend d hd).2
    have hne := head?_ne_some (key_append_ne hkey.1 hkey.2 rest)
    have hclosed : ((key.toList ++ rest).dropWhile isKeyChar).head? ≠ some '}' := by
      rw [hdrop]
      exact fun hd => (hend '}' hd).1 rfl
    rw [h.reached.unterminated hne (by rw [htake]; exact hkey.1) hclosed]
    exact .refused _
  | @placeholder _ key rest _ hkey =>
    obtain ⟨htake, hdrop⟩ := span_key hkey.2 ('}' :: rest) (by rintro d ⟨⟩; decide)
    have hne := head?_ne_some (key_append_ne hkey.1 hkey.2 ('}' :: rest))
    have hstep := h.reached.placeholder params strict hne (by rw [htake]; exact hkey.1) hdrop
    rw [htake, String.ofList_toList] at hstep
    cases htext : (Token.placeholder key).text strict params with
    | error e =>
      rw [htext] at hstep
      rw [hstep]
      exact .refused e
    | ok text =>
      rw [htext] at hstep
      have hsplit : '{' :: (key.toList ++ '}' :: rest) = '{' :: (key.toList ++ ['}']) ++ rest := by
        simp
      rw [hsplit] at h
      refine h.leads_token _ (.placeholder hkey .nil) htext nofun ?_
      rwa [length_encode_placeholder hkey.2]
  | @plain _ c rest _ halone =>
    by_cases hopen : c = '{'
    · subst hopen
      have hkey : rest.takeWhile isKeyChar = [] :=
        (span_key (List.forall_mem_nil _) rest fun d hd => (halone.1 rfl d hd).2).1
      have hopen : rest.head? ≠ some '{' := fun hd => (halone.1 rfl '{' hd).1 rfl
      exact h.leads_plain halone (h.reached.open_plain hopen hkey)
    by_cases hclose : c = '}'
    · subst hclose
      have hclose : rest.head? ≠ some '}' := fun hd => halone.2 rfl '}' hd rfl
      exact h.leads_plain halone (h.reached.close_plain hclose)
    · exact h.leads_byte hopen hclose (k := 0) c.utf8Size_pos

/-- A character of several bytes is no brace. -/
theorem ne_of_lt_utf8Size {c : Char} {k : Nat} (hlow : 0 < k) (hhigh : k < c.utf8Size) :
    c ≠ '{' ∧ c ≠ '}' := by
  constructor
  all_goals
    rintro rfl
    exact absurd hhigh (Nat.not_lt.2 hlow)

/-- From a scan with the invariant a step leads further on, to such a scan, or to the end. -/
theorem Tracks.leads (h : s.Tracks bytes params strict) :
    s.Leads bytes params strict (s.step bytes params strict) := by
  cases h with
  | between h => exact h.leads
  | inside h hlow hhigh =>
    obtain ⟨hopen, hclose⟩ := ne_of_lt_utf8Size hlow hhigh
    exact h.leads_byte hopen hclose hhigh

theorem Reachable.tracks {cs : List Char} (hbytes : bytes.toList = encode cs)
    (h : s.Reachable bytes params strict) : s.Tracks bytes params strict := by
  induction h with
  | start => exact .between (.start hbytes)
  | next _ hstep ih =>
    have hleads := ih.leads
    rw [hstep] at hleads
    cases hleads
    assumption

end Steps

/-! ## What the invariant says -/

section Consequences

variable {bytes : Array UInt8} {params : Params} {strict : Bool} {s : Scan}

theorem Consumed.bounds {consumed rest : List Char} {written : String}
    (h : s.Consumed bytes params strict consumed rest written) :
    s.copied ≤ s.position ∧ s.position ≤ bytes.size ∧ isBoundary bytes s.copied := by
  obtain ⟨-, done, pending, hs, -⟩ := h.reached
  obtain ⟨hle, hsize, hcopied, -⟩ := bounds_of_slice? hs.slice?_pending
  exact ⟨hle, hsize, hcopied⟩

theorem Tracks.bounds (h : s.Tracks bytes params strict) :
    s.copied ≤ s.position ∧ s.position ≤ bytes.size ∧ isBoundary bytes s.copied := by
  cases h with
  | between h => exact h.bounds
  | @inside s _ rest _ c k h hlow hhigh =>
    obtain ⟨hle, -, hcopied⟩ := h.bounds
    obtain ⟨-, done, pending, hs, -⟩ := h.reached
    obtain ⟨hopen, hclose⟩ := ne_of_lt_utf8Size hlow hhigh
    obtain ⟨b, hb, -⟩ := hs.exists_byte hopen hclose hhigh
    exact ⟨Nat.le_add_right_of_le hle, (Array.getElem?_eq_some_iff.1 hb).1.le, hcopied⟩

/-- No slice that a step takes is missing. -/
theorem Tracks.slice?_of_mem_slices (h : s.Tracks bytes params strict) :
    ∀ p ∈ s.slices bytes, ∃ text, slice? bytes p.1 p.2 = some text := by
  cases h with
  | between h =>
    obtain ⟨-, done, pending, hs, -⟩ := h.reached
    exact hs.slice?_of_mem_slices
  | @inside s _ rest _ c k h hlow hhigh =>
    obtain ⟨-, done, pending, hs, -⟩ := h.reached
    obtain ⟨hopen, hclose⟩ := ne_of_lt_utf8Size hlow hhigh
    obtain ⟨b, hb, hne, hne'⟩ := hs.exists_byte hopen hclose hhigh
    simp [slices, hb, hne, hne']

end Consequences

/-- What holds of a scan over the bytes of a template whenever it looks at the next byte. -/
structure Sound (bytes : Array UInt8) (params : Option Params) (strict : Bool) (s : Scan) :
    Prop where
  copied_le : s.copied ≤ s.position
  position_le : s.position ≤ bytes.size
  copied_boundary : isBoundary bytes s.copied
  brace_boundary : ∀ b, bytes[s.position]? = some b → b = openBrace ∨ b = closeBrace →
    isBoundary bytes s.position
  /-- The output and the text that is still to be copied are what the tokens of the front part stand
  for, which is its rendering. -/
  rendered : isBoundary bytes s.position → ∃ front pending,
    slice? bytes 0 s.position = some front ∧ slice? bytes s.copied s.position = some pending ∧
      meaning strict (params.getD []) (tokens 0 front.toList) = .ok (s.output ++ pending) ∧
      evaluate strict (some front) params = .value (.string (s.output ++ pending))
  slices : ∀ p ∈ s.slices bytes,
    p.1 ≤ p.2 ∧ p.2 ≤ bytes.size ∧ isBoundary bytes p.1 ∧ isBoundary bytes p.2
  progress : ∀ s', s.step bytes (params.getD []) strict = .next s' → s.position < s'.position
  unbroken : s.step bytes (params.getD []) strict ≠ .broken

section Soundness

variable {bytes : Array UInt8} {params : Option Params} {strict : Bool} {s : Scan}

theorem Consumed.rendered {consumed rest : List Char} {written : String}
    (h : s.Consumed bytes (params.getD []) strict consumed rest written) :
    ∃ front pending,
      slice? bytes 0 s.position = some front ∧ slice? bytes s.copied s.position = some pending ∧
        meaning strict (params.getD []) (tokens 0 front.toList) = .ok (s.output ++ pending) ∧
        evaluate strict (some front) params = .value (.string (s.output ++ pending)) := by
  obtain ⟨hposition, done, pending, hs, hwritten⟩ := h.reached
  have hfront : slice? bytes 0 s.position = some (String.ofList consumed) := by
    have := slice?_encode [] consumed rest h.text
    rwa [encode_nil, List.length_nil, Nat.zero_add, ← hposition] at this
  have hmeaning : meaning strict (params.getD []) (tokens 0 (String.ofList consumed).toList) =
      .ok (s.output ++ String.ofList pending) := by
    rw [String.toList_ofList, h.meaning_eq, hwritten]
  refine ⟨_, _, hfront, hs.slice?_pending, hmeaning, ?_⟩
  rw [evaluate_some, hmeaning, finish, String.empty_append]

theorem Tracks.sound (h : s.Tracks bytes (params.getD []) strict) :
    s.Sound bytes params strict := by
  obtain ⟨hle, hsize, hcopied⟩ := h.bounds
  have hslices := h.slice?_of_mem_slices
  have hleads := h.leads
  refine ⟨hle, hsize, hcopied, fun b => isBoundary_of_brace, ?_, ?_, ?_, ?_⟩
  · intro hboundary
    cases h with
    | between h => exact h.rendered
    | inside h hlow hhigh =>
      obtain ⟨-, done, pending, hs, -⟩ := h.reached
      rw [hs.not_isBoundary hlow hhigh] at hboundary
      cases hboundary
  · intro p hp
    obtain ⟨text, hslice⟩ := hslices p hp
    exact bounds_of_slice? hslice
  · intro s' hstep
    rw [hstep] at hleads
    cases hleads
    assumption
  · intro hbroken
    obtain ⟨p, hp, hnone⟩ := exists_slice_of_broken hbroken
    obtain ⟨text, hslice⟩ := hslices p hp
    rw [hnone] at hslice
    cases hslice

end Soundness

/-! ## The end of a scan -/

/-- The outcome of the engine is the one of a last step. -/
def Ends (bytes : Array UInt8) (params : Params) (strict : Bool) (s : Scan) (outcome : Outcome) :
    Prop :=
  (∃ text, s.step bytes params strict = .done text ∧ outcome = .value (.string text)) ∨
    ∃ e, s.step bytes params strict = .refused e ∧ outcome = .failure e

/-- With more fuel than bytes are left, a scan runs to a last step. -/
theorem Tracks.run_ends {bytes : Array UInt8} {params : Params} {strict : Bool} {s : Scan}
    {fuel : Nat} (h : s.Tracks bytes params strict) (hreach : s.Reachable bytes params strict)
    (hfuel : bytes.size < s.position + fuel) :
    ∃ last, Reachable bytes params strict last ∧
      last.Ends bytes params strict (run bytes params strict fuel s) := by
  -- The position moves on by at least as much as the fuel goes down.
  induction fuel generalizing s with
  | zero =>
    have hle := h.bounds.2.1
    omega
  | succ fuel ih =>
    have hleads := h.leads
    rw [run]
    generalize hstep : s.step bytes params strict = step at hleads
    cases hleads with
    | next htracks hlt => exact ih htracks (hreach.next hstep) (by omega)
    | done text => exact ⟨s, hreach, .inl ⟨text, hstep, rfl⟩⟩
    | refused e => exact ⟨s, hreach, .inr ⟨e, hstep, rfl⟩⟩

end Scan

/-- The scan is safe. Of every scan that a template leads to, the invariant holds: its positions are
in order and in range, the copied part ends at a character, what is written and pending is the
rendering of the part of the template that is behind it whenever it stands at a character, every
slice that the step takes lies in range between characters, and the step moves on. A step can break
down only for want of one of those slices. So the scan comes to a last step, whose text or error is
the outcome, and the engine never panics. -/
theorem scan_sound (strict : Bool) (template : String) (params : Option Params) :
    let bytes := template.toUTF8.data
    (∀ s, Scan.Reachable bytes (params.getD []) strict s → s.Sound bytes params strict) ∧
    (∀ s, Scan.step bytes (params.getD []) strict s = .broken →
      ∃ p ∈ s.slices bytes, slice? bytes p.1 p.2 = none) ∧
    (∃ last, Scan.Reachable bytes (params.getD []) strict last ∧
      last.Ends bytes (params.getD []) strict (evaluate strict (some template) params)) ∧
    ∀ message, evaluate strict (some template) params ≠ .panic message := by
  intro bytes
  have hbytes : bytes.toList = encode template.toList := toUTF8_data_toList template
  have hfuel : bytes.size < 0 + (bytes.size + 1) := by omega
  have hends : ∃ last, Scan.Reachable bytes (params.getD []) strict last ∧
      last.Ends bytes (params.getD []) strict (evaluate strict (some template) params) :=
    Scan.Tracks.run_ends (.between (.start hbytes)) .start hfuel
  refine ⟨fun s hs => (hs.tracks hbytes).sound, fun s => Scan.exists_slice_of_broken, hends, ?_⟩
  intro message hpanic
  obtain ⟨last, -, ⟨text, -, h⟩ | ⟨e, -, h⟩⟩ := hends
  · rw [hpanic] at h
    cases h
  · rw [hpanic] at h
    cases h

/-- One byte into a letter of two bytes the scan is at no boundary, with nothing copied yet. -/
theorem scan_sound_letter :
    Scan.Reachable "é\x7bx\x7d".toUTF8.data [("x", .null)] true ⟨1, 0, ""⟩ ∧
      isBoundary "é\x7bx\x7d".toUTF8.data 1 = false ∧
      Scan.Sound "é\x7bx\x7d".toUTF8.data (some [("x", .null)]) true ⟨1, 0, ""⟩ := by
  have hreach : Scan.Reachable "é\x7bx\x7d".toUTF8.data [("x", .null)] true ⟨1, 0, ""⟩ :=
    .next .start (by with_unfolding_all rfl)
  exact ⟨hreach, by with_unfolding_all rfl, (scan_sound true "é\x7bx\x7d" (some [("x", .null)])).1 _ hreach⟩

end TemplateEngines.Substitution
