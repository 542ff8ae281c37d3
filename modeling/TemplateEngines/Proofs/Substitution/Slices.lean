/-
The slices that a step of the scan takes (`Scan.slices`). A step breaks down only for want of one of
them (`Scan.exists_slice_of_broken`); where the scan stands between two characters they are all
there (`Scan.Stands.slice?_of_mem_slices`), and then they lie in range between two boundaries
(`bounds_of_slice?`).
-/
import TemplateEngines.Proofs.Substitution.Scan

namespace TemplateEngines.Substitution

open Text.Utf8

/-! ## Boundaries -/

section Boundary

variable {bytes : Array UInt8} {position start stop : Nat}

theorem le_size_of_isBoundary (h : isBoundary bytes position) : position ≤ bytes.size := by
  unfold isBoundary at h
  cases hb : bytes[position]? with
  | none =>
    rw [hb] at h
    exact (eq_of_beq h).le
  | some b => exact (Array.getElem?_eq_some_iff.1 hb).1.le

/-- A slice that is there lies in range, between two boundaries. -/
theorem bounds_of_slice? {text : String} (h : slice? bytes start stop = some text) :
    start ≤ stop ∧ stop ≤ bytes.size ∧ isBoundary bytes start ∧ isBoundary bytes stop := by
  unfold slice? at h
  split at h
  · next hcond =>
    simp only [Bool.and_eq_true, decide_eq_true_eq] at hcond
    obtain ⟨⟨hle, hstart⟩, hstop⟩ := hcond
    exact ⟨hle, le_size_of_isBoundary hstop, hstart, hstop⟩
  · cases h

theorem isBoundary_of_brace {b : UInt8} (h : bytes[position]? = some b)
    (hb : b = openBrace ∨ b = closeBrace) : isBoundary bytes position := by
  rw [isBoundary, h]
  rcases hb with rfl | rfl <;> rfl

/-- A position inside a character is no boundary. -/
theorem Scan.Stands.not_isBoundary {s : Scan} {done pending rest : List Char} {c : Char} {k : Nat}
    (h : s.Stands bytes done pending (c :: rest)) (hlow : 0 < k) (hhigh : k < c.utf8Size) :
    isBoundary bytes (s.position + k) = false := by
  rw [← String.length_utf8EncodeChar] at hhigh
  have htail : (String.utf8EncodeChar c)[k] ∈ (String.utf8EncodeChar c).tail := by
    rw [List.mem_iff_getElem]
    exact ⟨k - 1, by rw [List.length_tail]; omega, by simp [Nat.sub_add_cancel hlow]⟩
  rw [isBoundary, h.getElem?_char hhigh]
  simp [tail_encodeChar htail]

end Boundary

namespace Scan

/-! ## Slices of a step -/

/-- The two ends of every slice that a step takes: of the literal text, of the bytes behind an
opening brace, of a key and of its placeholder. -/
def slices (bytes : Array UInt8) (s : Scan) : List (Nat × Nat) :=
  match bytes[s.position]? with
  | none => [(s.copied, bytes.size)]
  | some b =>
    if b == openBrace && bytes[s.position + 1]? == some openBrace then [(s.copied, s.position)]
    else if b == closeBrace && bytes[s.position + 1]? == some closeBrace then
      [(s.copied, s.position)]
    else if b == openBrace then
      let stop := keyEnd bytes (s.position + 1)
      (s.position + 1, bytes.size) ::
        if stop == s.position + 1 then []
        else if bytes[stop]? == some closeBrace then
          [(s.copied, s.position), (s.position + 1, stop), (s.position, stop + 1)]
        else []
    else []

section Broken

variable {bytes : Array UInt8} {params : Params} {strict : Bool} {s : Scan} {stop position : Nat}
  {text : String}

theorem slice?_of_write_broken (h : s.write bytes text position = .broken) :
    slice? bytes s.copied s.position = none := by
  unfold write at h
  split at h
  · cases h
  · assumption

theorem slice?_of_fill_broken (h : s.fill bytes params strict stop = .broken) :
    slice? bytes s.copied s.position = none ∨ slice? bytes (s.position + 1) stop = none ∨
      slice? bytes s.position (stop + 1) = none := by
  unfold fill at h
  split at h
  · exact .inr (.inl ‹_›)
  split at h
  · exact .inl (slice?_of_write_broken h)
  split at h
  · cases h
  split at h
  · exact .inl (slice?_of_write_broken h)
  · exact .inr (.inr ‹_›)

/-- A step that breaks down, from whatever scan, lacks one of its slices. -/
theorem exists_slice_of_broken (h : s.step bytes params strict = .broken) :
    ∃ p ∈ s.slices bytes, slice? bytes p.1 p.2 = none := by
  unfold step at h
  unfold slices
  cases hb : bytes[s.position]? with
  | none =>
    simp only [hb] at h ⊢
    split at h
    · cases h
    · exact ⟨_, List.mem_singleton_self _, ‹_›⟩
  | some b =>
    simp only [hb] at h ⊢
    split_ifs at h ⊢
    · exact ⟨_, List.mem_singleton_self _, slice?_of_write_broken h⟩
    · exact ⟨_, List.mem_singleton_self _, slice?_of_write_broken h⟩
    · rcases slice?_of_fill_broken h with h | h | h
      · exact ⟨(s.copied, s.position), by simp, h⟩
      · exact ⟨(s.position + 1, keyEnd bytes (s.position + 1)), by simp, h⟩
      · exact ⟨(s.position, keyEnd bytes (s.position + 1) + 1), by simp, h⟩

end Broken

section Present

variable {bytes : Array UInt8} {s : Scan} {done pending rest : List Char}

theorem Stands.slice?_behind (h : s.Stands bytes done pending ('{' :: rest)) :
    slice? bytes (s.position + 1) bytes.size = some (String.ofList rest) := by
  have hsize : bytes.size = s.position + 1 + (encode rest).length := by
    rw [← Array.length_toList, h.text, List.length_append, List.length_append,
      length_encode_brace (.inl rfl), h.position]
    omega
  have h' : s.Stands bytes done pending (['{'] ++ rest ++ []) := by simpa using h
  rw [hsize]
  exact h'.slice?_ahead ['{'] rest

/-- The key and the placeholder behind an opening brace, if the key is closed. -/
theorem Stands.slice?_of_closed (h : s.Stands bytes done pending ('{' :: rest))
    (hclosed : bytes[keyEnd bytes (s.position + 1)]? = some closeBrace) :
    (∃ text, slice? bytes (s.position + 1) (keyEnd bytes (s.position + 1)) = some text) ∧
      ∃ text, slice? bytes s.position (keyEnd bytes (s.position + 1) + 1) = some text := by
  have hnext : bytes.toList.drop (s.position + 1) = encode rest :=
    drop_rest_ascii (by decide) h.ahead
  rw [keyEnd_rest rest _ hnext] at hclosed ⊢
  obtain ⟨rest', hend⟩ := List.head?_eq_some_iff.1 ((getElem?_keyEnd hnext).1 hclosed)
  have hkey : ∀ c ∈ rest.takeWhile isKeyChar, isKeyChar c := fun c hc => List.mem_takeWhile_imp hc
  rw [← List.takeWhile_append_dropWhile (p := isKeyChar) (l := rest), hend] at h
  exact ⟨⟨_, h.slice?_key hkey⟩, ⟨_, h.slice?_placeholder hkey⟩⟩

/-- Between two characters every slice is there. -/
theorem Stands.slice?_of_mem_slices (h : s.Stands bytes done pending rest) :
    ∀ p ∈ s.slices bytes, ∃ text, slice? bytes p.1 p.2 = some text := by
  have hpending : ∃ text, slice? bytes s.copied s.position = some text := ⟨_, h.slice?_pending⟩
  unfold slices
  cases hb : bytes[s.position]? with
  | none =>
    have hsize : bytes.size = s.position := by
      obtain ⟨text, hslice⟩ := hpending
      have hle : s.position ≤ bytes.size := (bounds_of_slice? hslice).2.1
      exact Nat.le_antisymm (Array.getElem?_eq_none_iff.1 hb) hle
    simpa [hsize] using hpending
  | some b =>
    have hopen (hbrace : (b == openBrace) = true) : ∃ rest', rest = '{' :: rest' := by
      rw [eq_of_beq hbrace] at hb
      exact List.head?_eq_some_iff.1 ((getElem?_rest_ascii (c := '{') (by decide) h.ahead).1 hb)
    simp only []
    split_ifs with hdouble hdouble' hbrace hempty hclosed
    · simpa using hpending
    · simpa using hpending
    · obtain ⟨rest, rfl⟩ := hopen hbrace
      simpa using ⟨_, h.slice?_behind⟩
    · obtain ⟨rest, rfl⟩ := hopen hbrace
      obtain ⟨hkey, hplaceholder⟩ := h.slice?_of_closed (eq_of_beq hclosed)
      simpa using ⟨⟨_, h.slice?_behind⟩, hpending, hkey, hplaceholder⟩
    · obtain ⟨rest, rfl⟩ := hopen hbrace
      simpa using ⟨_, h.slice?_behind⟩
    · simp

end Present

end Scan

end TemplateEngines.Substitution
