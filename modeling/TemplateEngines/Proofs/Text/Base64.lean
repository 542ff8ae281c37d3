/-
Reading what Base64 writes, and nothing else: `decode_eq_ok_iff` says that bytes decode to `d` if
and only if they are the encoding of `d`. Both directions go through the numbers of six bits into
which bytes are split (`groups`): `encode` writes them as symbols and fills up with padding,
`decode` reads symbols and padding (`readSymbols_append`, `eq_append_of_readSymbols`) and puts the
numbers together again. Seen bit by bit the encoding is the one canonical text of the bytes
(`canonical_iff`).
-/
import TemplateEngines.Proofs.Text.Utf8
import TemplateEngines.Text.Base64

namespace TemplateEngines.Text.Base64

/-! ## Symbols -/

theorem value?_symbol {n : Nat} (h : n < 64) : value? (symbol n) = some n := by
  have hall : ∀ n < 64, value? (symbol n) = some n := by decide
  exact hall n h

/-- A byte has a number if and only if it is the symbol of that number. -/
theorem value?_eq_some_iff {b : UInt8} {n : Nat} : value? b = some n ↔ n < 64 ∧ b = symbol n := by
  have hall : ∀ m < 256, ∀ n ∈ value? (UInt8.ofNat m), n < 64 ∧ UInt8.ofNat m = symbol n := by
    decide +kernel
  constructor
  · intro h
    have := hall b.toNat b.toNat_lt n
    rw [UInt8.ofNat_toNat] at this
    exact this h
  · rintro ⟨hn, rfl⟩
    exact value?_symbol hn

theorem symbol_ne_padding {n : Nat} (h : n < 64) : symbol n ≠ padding := by
  intro heq
  have hnone : value? padding = none := by decide
  rw [← heq, value?_symbol h] at hnone
  cases hnone

theorem symbol_ascii {n : Nat} (h : n < 64) : (symbol n).toNat < 0x80 := by
  have hall : ∀ n < 64, (symbol n).toNat < 0x80 := by decide
  exact hall n h

/-! ## Numbers of six bits -/

/-- The numbers of six bits into which bytes are split; missing bits at the end are zero. -/
def groups : List UInt8 → List Nat
  | a :: b :: c :: rest =>
    a.toNat / 4 :: (a.toNat % 4 * 16 + b.toNat / 16) :: (b.toNat % 16 * 4 + c.toNat / 64) ::
      c.toNat % 64 :: groups rest
  | [a, b] => [a.toNat / 4, a.toNat % 4 * 16 + b.toNat / 16, b.toNat % 16 * 4]
  | [a] => [a.toNat / 4, a.toNat % 4 * 16]
  | [] => []

/-- The padding behind `n` symbols. -/
def fill (n : Nat) : List UInt8 := List.replicate ((4 - n % 4) % 4) padding

theorem groups_lt (bytes : List UInt8) : ∀ n ∈ groups bytes, n < 64 := by
  fun_induction groups bytes with
  | case1 a b c rest ih =>
    have ha := a.toNat_lt
    have hb := b.toNat_lt
    have hc := c.toNat_lt
    simp only [List.forall_mem_cons]
    exact ⟨by omega, by omega, by omega, by omega, ih⟩
  | case2 a b =>
    have ha := a.toNat_lt
    have hb := b.toNat_lt
    simp only [List.forall_mem_cons]
    exact ⟨by omega, by omega, by omega, by simp⟩
  | case3 a =>
    have ha := a.toNat_lt
    simp only [List.forall_mem_cons]
    exact ⟨by omega, by omega, by simp⟩
  | case4 => simp

/-- No text ends in a symbol that no byte is made of. -/
theorem length_groups (bytes : List UInt8) : (groups bytes).length % 4 ≠ 1 := by
  fun_induction groups bytes with
  | case1 a b c rest ih =>
    simp only [List.length_cons]
    omega
  | case2 a b => simp
  | case3 a => simp
  | case4 => simp

theorem encode_eq (bytes : List UInt8) :
    encode bytes = (groups bytes).map symbol ++ fill (groups bytes).length := by
  fun_induction groups bytes with
  | case1 a b c rest ih =>
    have hfill : fill ((groups rest).length + 1 + 1 + 1 + 1) = fill (groups rest).length := by
      rw [fill, fill, show ((groups rest).length + 1 + 1 + 1 + 1) % 4 = (groups rest).length % 4 by
        omega]
    simp only [encode, ih, List.map_cons, List.cons_append, List.length_cons, hfill]
  | case2 a b => rfl
  | case3 a => rfl
  | case4 => rfl

theorem toNat_toUInt8 {n : Nat} (h : n < 256) : n.toUInt8.toNat = n := UInt8.toNat_ofNat_of_lt' h

/-- The numbers of bytes make up the bytes, and no bit is left over. -/
theorem assemble_groups (bytes : List UInt8) : assemble (groups bytes) = (bytes, 0) := by
  have hbyte {b : UInt8} {n : Nat} (h : n = b.toNat) : n.toUInt8 = b := by
    rw [h]
    exact UInt8.ofNat_toNat
  fun_induction groups bytes with
  | case1 a b c rest ih =>
    have ha := a.toNat_lt
    have hb := b.toNat_lt
    have hc := c.toNat_lt
    rw [assemble, ih, hbyte (b := a) (by omega), hbyte (b := b) (by omega),
      hbyte (b := c) (by omega)]
  | case2 a b =>
    have ha := a.toNat_lt
    have hb := b.toNat_lt
    rw [assemble, hbyte (b := a) (by omega), hbyte (b := b) (by omega), Nat.mul_mod_left]
  | case3 a =>
    have ha := a.toNat_lt
    rw [assemble, hbyte (b := a) (by omega), Nat.mul_mod_left]
  | case4 => rfl

/-- Numbers that leave no bit over are those of the bytes that they make up. -/
theorem groups_assemble {symbols : List Nat} (hlt : ∀ n ∈ symbols, n < 64)
    (hlength : symbols.length % 4 ≠ 1) (hleft : (assemble symbols).2 = 0) :
    groups (assemble symbols).1 = symbols := by
  fun_induction assemble symbols with
  | case1 a b c d rest bytes left hrest ih =>
    simp only [List.forall_mem_cons, hrest] at hlt ih
    obtain ⟨ha, hb, hc, hd, hlt⟩ := hlt
    have hlength : rest.length % 4 ≠ 1 := by
      simp only [List.length_cons] at hlength
      omega
    rw [groups, ih hlt hlength hleft, toNat_toUInt8 (by omega), toNat_toUInt8 (by omega),
      toNat_toUInt8 (by omega)]
    simp only [List.cons.injEq, and_true]
    omega
  | case2 a b c =>
    simp only [List.forall_mem_cons] at hlt hleft
    rw [groups, toNat_toUInt8 (by omega), toNat_toUInt8 (by omega)]
    simp only [List.cons.injEq, and_true]
    omega
  | case3 a b =>
    simp only [List.forall_mem_cons] at hlt hleft
    rw [groups, toNat_toUInt8 (by omega)]
    simp only [List.cons.injEq, and_true]
    omega
  | case4 symbols h4 h3 h2 =>
    match symbols, hlength with
    | [], _ => rfl
    | [a], hlength => exact absurd rfl hlength
    | [a, b], _ => exact absurd rfl (h2 a b)
    | [a, b, c], _ => exact absurd rfl (h3 a b c)
    | a :: b :: c :: d :: rest, _ => exact absurd rfl (h4 a b c d rest)

/-! ## Symbols and padding -/

/-- Whether `k` signs of padding may stand from an offset on: none is the first or the second of
its group. -/
def Fills (offset k : Nat) : Prop := ∀ i < k, 2 ≤ (offset + i) % 4

theorem fills_zero (offset : Nat) : Fills offset 0 := fun _ h => absurd h (Nat.not_lt_zero _)

theorem fills_succ_iff {offset k : Nat} :
    Fills offset (k + 1) ↔ 2 ≤ offset % 4 ∧ Fills (offset + 1) k := by
  constructor
  · intro h
    refine ⟨h 0 (by omega), fun i hi => ?_⟩
    have := h (i + 1) (by omega)
    rwa [show offset + 1 + i = offset + (i + 1) by omega]
  · rintro ⟨h0, h⟩ (_ | i) hi
    · exact h0
    · have := h i (by omega)
      rwa [show offset + (i + 1) = offset + 1 + i by omega]

/-- Padding fills a group of four in one way. -/
theorem fills_iff {n k : Nat} (h : (n + k) % 4 = 0) :
    Fills n k ↔ n % 4 ≠ 1 ∧ k = (4 - n % 4) % 4 := by
  constructor
  · intro hfills
    rcases Nat.eq_zero_or_pos k with rfl | hk
    · omega
    · have h0 := hfills 0 hk
      -- A fifth sign would be the first of the next group.
      have hend : k ≤ 4 - n % 4 := by
        by_contra hlong
        have := hfills (4 - n % 4) (by omega)
        omega
      omega
  · rintro ⟨hn, rfl⟩ i hi
    omega

theorem readSymbols_padding (offset : Nat) (firstPadding : Option Nat) (rest : List UInt8) :
    readSymbols offset firstPadding (padding :: rest) =
      if offset % 4 < 2 then .error (.invalidByte padding (firstPadding.getD offset))
      else readSymbols (offset + 1) (firstPadding.or (some offset)) rest := by
  rw [readSymbols.eq_def]
  exact if_pos (beq_self_eq_true _)

theorem readSymbols_of_ne {b : UInt8} (h : b ≠ padding) (offset : Nat) (rest : List UInt8) :
    readSymbols offset none (b :: rest) =
      match value? b with
      | none => .error (.invalidByte b offset)
      | some n => (readSymbols (offset + 1) none rest).map (n :: ·) := by
  rw [readSymbols.eq_def]
  simp only [beq_eq_false_iff_ne.2 h]
  cases value? b <;> rfl

theorem readSymbols_fill {offset k : Nat} (h : Fills offset k) (firstPadding : Option Nat) :
    readSymbols offset firstPadding (List.replicate k padding) = .ok [] := by
  induction k generalizing offset firstPadding with
  | zero => rfl
  | succ k ih =>
    obtain ⟨hoffset, hrest⟩ := fills_succ_iff.1 h
    rw [List.replicate_succ, readSymbols_padding, if_neg (by omega), ih hrest]

/-- Symbols with padding after them are read. -/
theorem readSymbols_append {symbols : List Nat} (hlt : ∀ n ∈ symbols, n < 64) {offset k : Nat}
    (hfills : Fills (offset + symbols.length) k) :
    readSymbols offset none (symbols.map symbol ++ List.replicate k padding) = .ok symbols := by
  induction symbols generalizing offset with
  | nil => exact readSymbols_fill hfills none
  | cons n symbols ih =>
    obtain ⟨hn, hlt⟩ := List.forall_mem_cons.1 hlt
    rw [List.length_cons, ← Nat.add_assoc, Nat.add_right_comm] at hfills
    rw [List.map_cons, List.cons_append, readSymbols_of_ne (symbol_ne_padding hn),
      value?_symbol hn, ih hlt hfills]
    rfl

/-- After a sign of padding only padding is read. -/
theorem eq_replicate_of_readSymbols {offset first : Nat} {bytes : List UInt8} {symbols : List Nat}
    (h : readSymbols offset (some first) bytes = .ok symbols) :
    symbols = [] ∧ ∃ k, bytes = List.replicate k padding ∧ Fills offset k := by
  induction bytes generalizing offset with
  | nil =>
    cases h
    exact ⟨rfl, 0, rfl, fills_zero offset⟩
  | cons b rest ih =>
    by_cases hb : b = padding
    · rw [hb, readSymbols_padding] at h
      split at h
      · cases h
      next hoffset =>
        obtain ⟨hs, k, rfl, hfills⟩ := ih h
        exact ⟨hs, k + 1, by rw [hb, List.replicate_succ], fills_succ_iff.2 ⟨by omega, hfills⟩⟩
    · rw [readSymbols.eq_def] at h
      simp only [beq_eq_false_iff_ne.2 hb] at h
      cases h

/-- Only symbols with padding after them are read. -/
theorem eq_append_of_readSymbols {offset : Nat} {bytes : List UInt8} {symbols : List Nat}
    (h : readSymbols offset none bytes = .ok symbols) :
    (∀ n ∈ symbols, n < 64) ∧ ∃ k, bytes = symbols.map symbol ++ List.replicate k padding ∧
      Fills (offset + symbols.length) k := by
  induction bytes generalizing offset symbols with
  | nil =>
    cases h
    exact ⟨by simp, 0, rfl, fills_zero _⟩
  | cons b rest ih =>
    by_cases hb : b = padding
    · rw [hb, readSymbols_padding] at h
      split at h
      · cases h
      next hoffset =>
        obtain ⟨rfl, k, rfl, hfills⟩ := eq_replicate_of_readSymbols h
        refine ⟨by simp, k + 1, ?_, ?_⟩
        · rw [hb, List.replicate_succ, List.map_nil, List.nil_append]
        · exact fills_succ_iff.2 ⟨by simp only [List.length_nil]; omega, hfills⟩
    · rw [readSymbols_of_ne hb] at h
      cases hvalue : value? b with
      | none =>
        rw [hvalue] at h
        cases h
      | some n =>
        obtain ⟨hn, rfl⟩ := value?_eq_some_iff.1 hvalue
        rw [hvalue] at h
        obtain ⟨more, hrest, rfl⟩ := Utf8.exists_of_map_eq_ok h
        obtain ⟨hlt, k, rfl, hfills⟩ := ih hrest
        refine ⟨List.forall_mem_cons.2 ⟨hn, hlt⟩, k, rfl, ?_⟩
        rwa [List.length_cons, ← Nat.add_assoc, Nat.add_right_comm]

/-! ## Decoding -/

theorem length_encode (bytes : List UInt8) : (encode bytes).length % 4 = 0 := by
  have h := length_groups bytes
  rw [encode_eq, List.length_append, List.length_map, fill, List.length_replicate]
  omega

theorem encode_ascii (bytes : List UInt8) : ∀ b ∈ encode bytes, b.toNat < 0x80 := by
  intro b hb
  rw [encode_eq, List.mem_append, List.mem_map] at hb
  rcases hb with ⟨n, hn, rfl⟩ | hb
  · exact symbol_ascii (groups_lt bytes n hn)
  · rw [List.eq_of_mem_replicate hb]
    decide

theorem decode_encode (bytes : List UInt8) : decode (encode bytes) = .ok bytes := by
  have hlength := length_encode bytes
  have hread : readSymbols 0 none (encode bytes) = .ok (groups bytes) := by
    rw [encode_eq]
    refine readSymbols_append (groups_lt bytes) ?_
    rw [Nat.zero_add, fills_iff (by have := length_groups bytes; omega)]
    exact ⟨length_groups bytes, rfl⟩
  simp only [decode, hlength, hread, assemble_groups, bind, Except.bind]
  rfl

theorem eq_encode_of_decode {bytes decoded : List UInt8} (h : decode bytes = .ok decoded) :
    bytes = encode decoded := by
  simp only [decode] at h
  split at h
  · split at h <;> cases h
  cases hread : readSymbols 0 none bytes with
  | error e =>
    rw [hread] at h
    cases h
  | ok symbols =>
    simp only [hread, bind, Except.bind] at h
    split at h
    · cases h
    next hlength =>
    split at h
    · cases h
    next hleft =>
    cases h
    obtain ⟨hlt, k, hbytes, hfills⟩ := eq_append_of_readSymbols hread
    rw [hbytes, List.length_append, List.length_map, List.length_replicate, not_not] at hlength
    rw [Nat.zero_add, fills_iff hlength] at hfills
    rw [encode_eq, groups_assemble hlt hfills.1 (not_not.1 hleft), fill, ← hfills.2]
    exact hbytes

/-- Bytes decode to other bytes if and only if they are the encoding of those. -/
theorem decode_eq_ok_iff {bytes decoded : List UInt8} :
    decode bytes = .ok decoded ↔ bytes = encode decoded := by
  constructor
  · exact eq_encode_of_decode
  · rintro rfl
    exact decode_encode decoded

/-! ## Bits -/

/-- The bits of a number, the highest first. -/
def bits (width n : Nat) : List Bool := (List.range width).map fun i => n.testBit (width - 1 - i)

theorem bits_six (n : Nat) : bits 6 n = [decide (n / 32 % 2 = 1), decide (n / 16 % 2 = 1),
    decide (n / 8 % 2 = 1), decide (n / 4 % 2 = 1), decide (n / 2 % 2 = 1), decide (n % 2 = 1)] := by
  simp [bits, List.range_succ, Nat.testBit_eq_decide_div_mod_eq]

theorem bits_eight (n : Nat) : bits 8 n = [decide (n / 128 % 2 = 1), decide (n / 64 % 2 = 1),
    decide (n / 32 % 2 = 1), decide (n / 16 % 2 = 1), decide (n / 8 % 2 = 1),
    decide (n / 4 % 2 = 1), decide (n / 2 % 2 = 1), decide (n % 2 = 1)] := by
  simp [bits, List.range_succ, Nat.testBit_eq_decide_div_mod_eq]

theorem bits_six_inj {n m : Nat} (hn : n < 64) (hm : m < 64) (h : bits 6 n = bits 6 m) : n = m := by
  have hall : ∀ k < 64, (bits 6 k).foldl (fun v b => 2 * v + b.toNat) 0 = k := by decide +kernel
  rw [← hall n hn, h, hall m hm]

theorem flatMap_bits_inj {ns ms : List Nat} (hns : ∀ n ∈ ns, n < 64) (hms : ∀ m ∈ ms, m < 64)
    (h : ns.flatMap (bits 6) = ms.flatMap (bits 6)) : ns = ms := by
  induction ns generalizing ms with
  | nil =>
    cases ms with
    | nil => rfl
    | cons m ms => simp [bits_six] at h
  | cons n ns ih =>
    cases ms with
    | nil => simp [bits_six] at h
    | cons m ms =>
      obtain ⟨hn, hns⟩ := List.forall_mem_cons.1 hns
      obtain ⟨hm, hms⟩ := List.forall_mem_cons.1 hms
      obtain ⟨hfirst, hrest⟩ := List.append_inj h (by rw [bits_six, bits_six]; rfl)
      rw [bits_six_inj hn hm hfirst, ih hns hms hrest]

theorem length_flatMap_bits (ns : List Nat) : (ns.flatMap (bits 6)).length = 6 * ns.length := by
  induction ns with
  | nil => rfl
  | cons n ns ih =>
    rw [List.flatMap_cons, List.length_append, ih, bits_six, List.length_cons]
    simp only [List.length_cons, List.length_nil]
    omega

/-- Three bytes have the bits of four numbers. -/
theorem bits_group (a b c : UInt8) (rest : List Bool) :
    bits 6 (a.toNat / 4) ++ (bits 6 (a.toNat % 4 * 16 + b.toNat / 16) ++
      (bits 6 (b.toNat % 16 * 4 + c.toNat / 64) ++ (bits 6 (c.toNat % 64) ++ rest))) =
    bits 8 a.toNat ++ (bits 8 b.toNat ++ (bits 8 c.toNat ++ rest)) := by
  have ha := a.toNat_lt
  have hb := b.toNat_lt
  have hc := c.toNat_lt
  simp only [bits_six, bits_eight, List.cons_append, List.nil_append, List.cons.injEq,
    decide_eq_decide, and_true, true_and]
  omega

/-- The numbers of six bits have the bits of the bytes, and fewer than six zeros behind them. -/
theorem bits_groups (bytes : List UInt8) : ∃ zeros < 6, (groups bytes).flatMap (bits 6) =
    bytes.flatMap (fun b => bits 8 b.toNat) ++ List.replicate zeros false := by
  fun_induction groups bytes with
  | case1 a b c rest ih =>
    obtain ⟨zeros, hzeros, hrest⟩ := ih
    refine ⟨zeros, hzeros, ?_⟩
    simp only [List.flatMap_cons, hrest, List.append_assoc]
    exact bits_group a b c _
  | case2 a b =>
    have ha := a.toNat_lt
    have hb := b.toNat_lt
    refine ⟨2, by decide, ?_⟩
    simp only [List.flatMap_cons, List.flatMap_nil, bits_six, bits_eight, List.cons_append,
      List.nil_append, List.replicate, List.cons.injEq, decide_eq_decide, decide_eq_false_iff_not,
      and_true, true_and]
    omega
  | case3 a =>
    have ha := a.toNat_lt
    refine ⟨4, by decide, ?_⟩
    simp only [List.flatMap_cons, List.flatMap_nil, bits_six, bits_eight, List.cons_append,
      List.nil_append, List.replicate, List.cons.injEq, decide_eq_decide, decide_eq_false_iff_not,
      and_true, true_and]
    omega
  | case4 => exact ⟨0, by decide, rfl⟩

/-! ## Canonical texts -/

/-- The standard alphabet, the letter of zero first. -/
def alphabet : List Char := "ABCDEFGHIJKLMNOPQRSTUVWXYZabcdefghijklmnopqrstuvwxyz0123456789+/".toList

/-- The canonical text of bytes: their bits, with fewer than six zeros behind them, six for each
letter, and then as few equals signs as make the length a multiple of four. -/
def Canonical (bytes : List UInt8) (text : String) : Prop :=
  ∃ (numbers : List Nat) (zeros signs : Nat), (∀ n ∈ numbers, n < 64) ∧ zeros < 6 ∧ signs < 4 ∧
    numbers.flatMap (bits 6) =
      bytes.flatMap (fun b => bits 8 b.toNat) ++ List.replicate zeros false ∧
    text.toList = numbers.map (alphabet.getD · '=') ++ List.replicate signs '=' ∧
    text.length % 4 = 0

theorem letter_symbol {n : Nat} (h : n < 64) :
    Char.ofNat (symbol n).toNat = alphabet.getD n '=' := by
  have hall : ∀ n < 64, Char.ofNat (symbol n).toNat = alphabet.getD n '=' := by decide +kernel
  exact hall n h

theorem map_encode (bytes : List UInt8) : (encode bytes).map (fun b => Char.ofNat b.toNat) =
    (groups bytes).map (alphabet.getD · '=') ++
      List.replicate ((4 - (groups bytes).length % 4) % 4) '=' := by
  rw [encode_eq, fill, List.map_append, List.map_map, List.map_replicate]
  congr 1
  exact List.map_congr_left fun n hn => letter_symbol (groups_lt bytes n hn)

/-- Bytes have one canonical text, and it is the one that they are encoded as. -/
theorem canonical_iff {bytes : List UInt8} {text : String} : Canonical bytes text ↔
    text = String.ofList ((encode bytes).map fun b => Char.ofNat b.toNat) := by
  obtain ⟨zeros', hzeros', hbits'⟩ := bits_groups bytes
  constructor
  · rintro ⟨numbers, zeros, signs, hlt, hzeros, hsigns, hbits, htext, hlength⟩
    have hcount := congrArg List.length hbits
    have hcount' := congrArg List.length hbits'
    rw [List.length_append, List.length_replicate, length_flatMap_bits] at hcount hcount'
    have hzeros_eq : zeros = zeros' := by omega
    have hnumbers : numbers = groups bytes :=
      flatMap_bits_inj hlt (groups_lt bytes) (by rw [hbits, hbits', hzeros_eq])
    have htotal := congrArg List.length htext
    rw [List.length_append, List.length_map, List.length_replicate, String.length_toList] at htotal
    have hsigns_eq : signs = (4 - (groups bytes).length % 4) % 4 := by
      rw [← hnumbers]
      omega
    rw [map_encode, ← hnumbers, ← String.toList_inj, String.toList_ofList, htext, hsigns_eq,
      hnumbers]
  · rintro rfl
    refine ⟨groups bytes, zeros', (4 - (groups bytes).length % 4) % 4, groups_lt bytes, hzeros', ?_, hbits', ?_, ?_⟩
    · exact Nat.mod_lt _ (by decide)
    · rw [String.toList_ofList, map_encode]
    · rw [String.length_ofList, List.length_map]
      exact length_encode bytes

end TemplateEngines.Text.Base64
