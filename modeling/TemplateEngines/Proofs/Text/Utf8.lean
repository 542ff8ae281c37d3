/-
Reading what UTF-8 writes. `decode_encode`: the bytes of a text decode to the text, and no other
bytes do (`decode_eq_ok_iff`). Inside such bytes the characters can be told apart: a byte that
starts a character is never a continuation byte (`head_encodeChar`), and a byte below 0x80 always
is a character of its own (`mem_encodeChar_ascii`). Texts are in the same order as their bytes
(`encode_lt`).
-/
import TemplateEngines.Text.Utf8
import Mathlib.Tactic

namespace TemplateEngines.Text.Utf8

/-- The bytes of a text. -/
def encode (cs : List Char) : List UInt8 := cs.flatMap String.utf8EncodeChar

@[simp] theorem encode_nil : encode [] = [] := rfl

@[simp] theorem encode_cons (c : Char) (cs : List Char) :
    encode (c :: cs) = String.utf8EncodeChar c ++ encode cs := rfl

@[simp] theorem encode_append (cs ds : List Char) : encode (cs ++ ds) = encode cs ++ encode ds :=
  List.flatMap_append

theorem toUTF8_data_toList (s : String) : s.toUTF8.data.toList = encode s.toList := by
  rw [String.toUTF8_eq_toByteArray, ← String.utf8Encode_toList, List.utf8Encode,
    List.toList_data_toByteArray, encode]

theorem toList_loop (bytes : ByteArray) (i : Nat) (acc : List UInt8) :
    ByteArray.toList.loop bytes i acc = acc.reverse ++ bytes.data.toList.drop i := by
  have hsize : bytes.data.toList.length = bytes.size := Array.length_toList
  fun_induction ByteArray.toList.loop bytes i acc with
  | case1 i acc h ih =>
    have hget : bytes.get! i = bytes.data.toList[i] := by
      rw [ByteArray.get!, Array.getElem_toList]
      exact getElem!_pos bytes.data i h
    rw [ih, List.reverse_cons, List.append_assoc, List.singleton_append, hget,
      List.getElem_cons_drop]
  | case2 i acc h =>
    rw [List.drop_eq_nil_of_le (by omega), List.append_nil]

theorem toUTF8_toList (s : String) : s.toUTF8.toList = encode s.toList := by
  rw [ByteArray.toList, toList_loop, List.reverse_nil, List.nil_append, List.drop_zero,
    toUTF8_data_toList]

/-! ## The bytes of a character -/

/-- A code point is below the surrogates or above them. -/
theorem toNat_range (c : Char) : c.toNat < 0xD800 ∨ 0xDFFF < c.toNat ∧ c.toNat < 0x110000 := by
  rcases c.valid with h | h
  · exact .inl h
  · exact .inr h

theorem toNat_ofNat_valid {n : Nat} (h : n.isValidChar) : (Char.ofNat n).toNat = n := by
  rw [Char.ofNat, dif_pos h]
  rfl

theorem toNat_ofNat_ascii {n : Nat} (h : n < 0x80) : (UInt8.ofNat n).toNat = n :=
  UInt8.toNat_ofNat_of_lt' (Nat.lt_trans h (by decide))

theorem encodeChar_ascii {c : Char} (h : c.toNat < 0x80) :
    String.utf8EncodeChar c = [UInt8.ofNat c.toNat] := by
  simp [String.utf8EncodeChar, Nat.le_of_lt_succ h]

/-- Bytes below 0x80 are the bytes of a text in which each is a character. -/
theorem encode_map_ascii {bytes : List UInt8} (h : ∀ b ∈ bytes, b.toNat < 0x80) :
    encode (bytes.map fun b => Char.ofNat b.toNat) = bytes := by
  induction bytes with
  | nil => rfl
  | cons b rest ih =>
    obtain ⟨hb, hrest⟩ := List.forall_mem_cons.1 h
    have hn : (Char.ofNat b.toNat).toNat = b.toNat := toNat_ofNat_valid (.inl (by omega))
    rw [List.map_cons, encode_cons, ih hrest, encodeChar_ascii (by rw [hn]; exact hb), hn,
      UInt8.ofNat_toNat, List.singleton_append]

/-- How a character that is not ASCII is spread over two, three or four bytes. -/
inductive Spread (n : Nat) : List UInt8 → Prop where
  | two {a b : UInt8} : 0x80 ≤ n → n < 0x800 →
      a.toNat = n / 64 + 0xC0 → b.toNat = n % 64 + 0x80 → Spread n [a, b]
  | three {a b c : UInt8} : 0x800 ≤ n → n < 0x10000 →
      a.toNat = n / 4096 + 0xE0 → b.toNat = n / 64 % 64 + 0x80 → c.toNat = n % 64 + 0x80 →
      Spread n [a, b, c]
  | four {a b c d : UInt8} : 0x10000 ≤ n → n < 0x110000 →
      a.toNat = n / 262144 + 0xF0 → b.toNat = n / 4096 % 64 + 0x80 →
      c.toNat = n / 64 % 64 + 0x80 → d.toNat = n % 64 + 0x80 → Spread n [a, b, c, d]

theorem encodeChar_spread {c : Char} (h : 0x80 ≤ c.toNat) :
    Spread c.toNat (String.utf8EncodeChar c) := by
  have hmax : c.toNat < 0x110000 := by have := toNat_range c; omega
  have h1 : ¬ c.toNat ≤ 0x7F := by omega
  have hbyte {n : Nat} (hn : n < 256) : (UInt8.ofNat n).toNat = n := UInt8.toNat_ofNat_of_lt' hn
  unfold String.utf8EncodeChar
  simp only [Char.toNat_val, h1, if_false]
  split
  · refine .two h (by omega) ?_ (hbyte (by omega))
    rw [hbyte (by omega)]; omega
  split
  · refine .three (by omega) (by omega) ?_ (hbyte (by omega)) (hbyte (by omega))
    rw [hbyte (by omega)]; omega
  · refine .four (by omega) hmax ?_ (hbyte (by omega)) (hbyte (by omega)) (hbyte (by omega))
    rw [hbyte (by omega)]; omega

/-- A byte below 0x80 inside a character is the whole character. -/
theorem mem_encodeChar_ascii {c : Char} {b : UInt8} (hb : b ∈ String.utf8EncodeChar c)
    (h : b.toNat < 0x80) : c.toNat = b.toNat := by
  by_cases hc : c.toNat < 0x80
  · rw [encodeChar_ascii hc, List.mem_singleton] at hb
    rw [hb, toNat_ofNat_ascii hc]
  · exfalso
    have hs := encodeChar_spread (Nat.le_of_not_lt hc)
    generalize String.utf8EncodeChar c = bytes at hb hs
    cases hs <;> simp only [List.mem_cons, List.not_mem_nil, or_false] at hb
    · rcases hb with rfl | rfl <;> omega
    · rcases hb with rfl | rfl | rfl <;> omega
    · rcases hb with rfl | rfl | rfl | rfl <;> omega

theorem isContinuation_iff (b : UInt8) : isContinuation b ↔ 0x80 ≤ b.toNat ∧ b.toNat ≤ 0xBF := by
  simp [isContinuation, UInt8.le_iff_toNat_le]

/-- The byte with which a character starts is no continuation. -/
theorem head_encodeChar {c : Char} {b : UInt8} (h : (String.utf8EncodeChar c).head? = some b) :
    isContinuation b = false := by
  rw [← Bool.not_eq_true, isContinuation_iff]
  by_cases hc : c.toNat < 0x80
  · rw [encodeChar_ascii hc, List.head?_singleton, Option.some.injEq] at h
    rw [← h, toNat_ofNat_ascii hc]
    omega
  · have hs := encodeChar_spread (Nat.le_of_not_lt hc)
    generalize String.utf8EncodeChar c = bytes at h hs
    cases hs <;> (rw [List.head?_cons, Option.some.injEq] at h; subst h; omega)

/-- The bytes with which a character goes on are continuations. -/
theorem tail_encodeChar {c : Char} {b : UInt8} (h : b ∈ (String.utf8EncodeChar c).tail) :
    isContinuation b := by
  rw [isContinuation_iff]
  by_cases hc : c.toNat < 0x80
  · rw [encodeChar_ascii hc, List.tail_cons] at h
    cases h
  · have hs := encodeChar_spread (Nat.le_of_not_lt hc)
    generalize String.utf8EncodeChar c = bytes at h hs
    cases hs <;> simp only [List.tail_cons, List.mem_cons, List.not_mem_nil, or_false] at h
    · subst h
      omega
    · rcases h with rfl | rfl <;> omega
    · rcases h with rfl | rfl | rfl <;> omega

/-! ## The first byte of a text -/

theorem head?_encode_cons (c : Char) (cs : List Char) :
    (encode (c :: cs)).head? = (String.utf8EncodeChar c).head? := by
  rw [encode_cons]
  exact List.head?_append_of_ne_nil _ String.utf8EncodeChar_ne_nil

/-- A text starts with an ASCII character when its bytes start with that character's byte. -/
theorem head?_encode_ascii {c : Char} (hc : c.toNat < 0x80) (cs : List Char) :
    (encode cs).head? = some (UInt8.ofNat c.toNat) ↔ cs.head? = some c := by
  have hb : (UInt8.ofNat c.toNat).toNat = c.toNat := toNat_ofNat_ascii hc
  cases cs with
  | nil => simp
  | cons d ds =>
    rw [head?_encode_cons, List.head?_cons, Option.some.injEq]
    constructor
    · intro h
      have hd := mem_encodeChar_ascii (List.mem_of_mem_head? h) (by rw [hb]; exact hc)
      rw [← Char.toNat_inj, hd, hb]
    · rintro rfl
      rw [encodeChar_ascii hc, List.head?_singleton]

/-- An ASCII text has as many bytes as characters. -/
theorem length_encode_ascii {cs : List Char} (h : ∀ c ∈ cs, c.toNat < 0x80) :
    (encode cs).length = cs.length := by
  induction cs with
  | nil => rfl
  | cons c cs ih =>
    rw [encode_cons, encodeChar_ascii (h c List.mem_cons_self), List.length_append,
      ih fun d hd => h d (List.mem_cons_of_mem _ hd), List.length_singleton, List.length_cons]
    omega

/-! ## Reading a character -/

theorem readChar_ascii {c : Char} (h : c.toNat < 0x80) (rest : List UInt8) :
    readChar (UInt8.ofNat c.toNat :: rest) = .ok (c, 1) := by
  have hb : (UInt8.ofNat c.toNat).toNat = c.toNat := toNat_ofNat_ascii h
  have h0 : UInt8.ofNat c.toNat < 0x80 := by rw [UInt8.lt_iff_toNat_lt, hb]; exact h
  simp only [readChar, h0, if_true, hb, Char.ofNat_toNat]

/-- The second byte of a character of three bytes rules out overlong forms and surrogates. -/
theorem mayFollowOfThree_iff (a b : UInt8) : mayFollowOfThree a b ↔
    0x80 ≤ b.toNat ∧ b.toNat ≤ 0xBF ∧ (a.toNat = 0xE0 → 0xA0 ≤ b.toNat) ∧
      (a.toNat = 0xED → b.toNat ≤ 0x9F) := by
  unfold mayFollowOfThree
  simp only [beq_iff_eq, ← UInt8.toNat_inj, UInt8.reduceToNat]
  split
  · simp only [Bool.and_eq_true, decide_eq_true_eq, UInt8.le_iff_toNat_le, UInt8.reduceToNat]
    omega
  split
  · simp only [Bool.and_eq_true, decide_eq_true_eq, UInt8.le_iff_toNat_le, UInt8.reduceToNat]
    omega
  · rw [isContinuation_iff]
    omega

/-- The second byte of a character of four bytes rules out overlong forms and code points that are
too large. -/
theorem mayFollowOfFour_iff (a b : UInt8) : mayFollowOfFour a b ↔
    0x80 ≤ b.toNat ∧ b.toNat ≤ 0xBF ∧ (a.toNat = 0xF0 → 0x90 ≤ b.toNat) ∧
      (a.toNat = 0xF4 → b.toNat ≤ 0x8F) := by
  unfold mayFollowOfFour
  simp only [beq_iff_eq, ← UInt8.toNat_inj, UInt8.reduceToNat]
  split
  · simp only [Bool.and_eq_true, decide_eq_true_eq, UInt8.le_iff_toNat_le, UInt8.reduceToNat]
    omega
  split
  · simp only [Bool.and_eq_true, decide_eq_true_eq, UInt8.le_iff_toNat_le, UInt8.reduceToNat]
    omega
  · rw [isContinuation_iff]
    omega

theorem readChar_spread {c : Char} {bytes : List UInt8} (h : Spread c.toNat bytes)
    (rest : List UInt8) : readChar (bytes ++ rest) = .ok (c, bytes.length) := by
  have hr := toNat_range c
  cases h with
  | @two a b h h' ha hb =>
    have h0 : ¬ a < 0x80 := by simp [UInt8.lt_iff_toNat_lt]; omega
    have h1 : (0xC2 ≤ a && a ≤ 0xDF) = true := by simp [UInt8.le_iff_toNat_le]; omega
    have hc : isContinuation b := by rw [isContinuation_iff]; omega
    have hn : a.toNat % 32 * 64 + b.toNat % 64 = c.toNat := by omega
    simp [readChar, payload, h0, h1, hc, hn]
  | @three a b d h h' ha hb hd =>
    have h0 : ¬ a < 0x80 := by simp [UInt8.lt_iff_toNat_lt]; omega
    have h1 : ¬ (0xC2 ≤ a && a ≤ 0xDF) = true := by simp [UInt8.le_iff_toNat_le]; omega
    have h2 : (0xE0 ≤ a && a ≤ 0xEF) = true := by simp [UInt8.le_iff_toNat_le]; omega
    have hf : mayFollowOfThree a b := by rw [mayFollowOfThree_iff]; omega
    have hc : isContinuation d := by rw [isContinuation_iff]; omega
    have hn : (a.toNat % 16 * 64 + b.toNat % 64) * 64 + d.toNat % 64 = c.toNat := by omega
    simp [readChar, payload, h0, h1, h2, hf, hc, hn]
  | @four a b d e h h' ha hb hd he =>
    have h0 : ¬ a < 0x80 := by simp [UInt8.lt_iff_toNat_lt]; omega
    have h1 : ¬ (0xC2 ≤ a && a ≤ 0xDF) = true := by simp [UInt8.le_iff_toNat_le]; omega
    have h2 : ¬ (0xE0 ≤ a && a ≤ 0xEF) = true := by simp [UInt8.le_iff_toNat_le]; omega
    have h3 : (0xF0 ≤ a && a ≤ 0xF4) = true := by simp [UInt8.le_iff_toNat_le]; omega
    have hf : mayFollowOfFour a b := by rw [mayFollowOfFour_iff]; omega
    have hc : isContinuation d := by rw [isContinuation_iff]; omega
    have hc' : isContinuation e := by rw [isContinuation_iff]; omega
    have hn : ((a.toNat % 8 * 64 + b.toNat % 64) * 64 + d.toNat % 64) * 64 + e.toNat % 64 =
        c.toNat := by omega
    simp [readChar, payload, h0, h1, h2, h3, hf, hc, hc', hn]

theorem readChar_encodeChar (c : Char) (rest : List UInt8) :
    readChar (String.utf8EncodeChar c ++ rest) = .ok (c, (String.utf8EncodeChar c).length) := by
  by_cases h : c.toNat < 0x80
  · rw [encodeChar_ascii h]
    exact readChar_ascii h rest
  · exact readChar_spread (encodeChar_spread (Nat.le_of_not_lt h)) rest

/-! ## Reading a text -/

theorem decodeFrom_encode (cs : List Char) :
    ∀ fuel index, (encode cs).length ≤ fuel → decodeFrom fuel index (encode cs) = .ok cs := by
  induction cs with
  | nil =>
    intro fuel index _
    rw [encode_nil, decodeFrom]
  | cons c cs ih =>
    intro fuel index hfuel
    have hpos := c.utf8Size_pos
    rw [encode_cons, List.length_append, String.length_utf8EncodeChar] at hfuel
    obtain ⟨fuel, rfl⟩ : ∃ n, fuel = n + 1 := ⟨fuel - 1, by omega⟩
    have hne : encode (c :: cs) ≠ [] := by simp [String.utf8EncodeChar_ne_nil]
    rw [decodeFrom, encode_cons, readChar_encodeChar]
    · simp only [List.drop_left, ih fuel _ (by omega)]
      rfl
    · exact hne

/-- The bytes of a text decode to the text. -/
theorem decode_encode (cs : List Char) : decode (encode cs) = .ok (String.ofList cs) := by
  rw [decode, decodeFrom_encode cs _ _ le_rfl]
  rfl

/-! ## Only encodings are read -/

/-- A number is spread over bytes in one way. -/
theorem Spread.unique {n : Nat} {as bs : List UInt8} (ha : Spread n as) (hb : Spread n bs) :
    as = bs := by
  cases ha <;> cases hb <;>
    simp only [List.cons.injEq, and_true, ← UInt8.toNat_inj, reduceCtorEq, and_false] <;> omega

/-- The bytes over which the number of a character is spread are those of the character. -/
theorem Spread.encodeChar_eq {n : Nat} {bytes : List UInt8} (h : Spread n bytes)
    (hvalid : n.isValidChar) : String.utf8EncodeChar (Char.ofNat n) = bytes := by
  have hn : (Char.ofNat n).toNat = n := toNat_ofNat_valid hvalid
  have hlow : 0x80 ≤ n := by cases h <;> omega
  have hchar := encodeChar_spread (c := Char.ofNat n) (by rw [hn]; exact hlow)
  rw [hn] at hchar
  exact hchar.unique h

/-- Bytes over which the number of a character is spread are that character, whatever follows. -/
theorem Spread.prefix_eq {n : Nat} (front : List UInt8) (h : Spread n front)
    (hvalid : n.isValidChar) (rest : List UInt8) :
    front.length = (String.utf8EncodeChar (Char.ofNat n)).length ∧
      front ++ rest =
        String.utf8EncodeChar (Char.ofNat n) ++ (front ++ rest).drop front.length := by
  rw [h.encodeChar_eq hvalid, List.drop_left]
  exact ⟨rfl, rfl⟩

/-- A character is read from its own bytes only. -/
theorem readChar_eq_ok {bytes : List UInt8} {c : Char} {width : Nat}
    (h : readChar bytes = .ok (c, width)) :
    width = (String.utf8EncodeChar c).length ∧
      bytes = String.utf8EncodeChar c ++ bytes.drop width := by
  revert h
  have hle (x y : UInt8) : x ≤ y ↔ x.toNat ≤ y.toNat := UInt8.le_iff_toNat_le
  -- Four branches read a character, of one byte to four; the others refuse.
  fun_cases readChar bytes
  case case2 a rest ha =>
    rintro ⟨⟩
    have hb : a.toNat < 0x80 := by rwa [UInt8.lt_iff_toNat_lt] at ha
    have hn : (Char.ofNat a.toNat).toNat = a.toNat := toNat_ofNat_valid (.inl (by omega))
    rw [encodeChar_ascii (by rw [hn]; exact hb), hn, UInt8.ofNat_toNat]
    exact ⟨rfl, rfl⟩
  case case4 a _ ha b rest hb =>
    rintro ⟨⟩
    simp only [Bool.and_eq_true, decide_eq_true_eq, hle, UInt8.reduceToNat] at ha
    rw [isContinuation_iff] at hb
    refine Spread.prefix_eq [a, b] (.two ?_ ?_ ?_ ?_) ?_ rest
    all_goals simp only [payload, Nat.isValidChar]; omega
  case case9 a _ _ ha b hb c rest hc =>
    rintro ⟨⟩
    simp only [Bool.and_eq_true, decide_eq_true_eq, hle, UInt8.reduceToNat] at ha
    simp only [Bool.not_eq_true', Bool.not_eq_false, mayFollowOfThree_iff] at hb
    rw [isContinuation_iff] at hc
    refine Spread.prefix_eq [a, b, c] (.three ?_ ?_ ?_ ?_ ?_) ?_ rest
    all_goals simp only [payload, Nat.isValidChar]; omega
  case case16 a _ _ _ ha b hb c hc d rest hd =>
    rintro ⟨⟩
    simp only [Bool.and_eq_true, decide_eq_true_eq, hle, UInt8.reduceToNat] at ha
    simp only [Bool.not_eq_true', Bool.not_eq_false, mayFollowOfFour_iff] at hb
    simp only [Bool.not_eq_true', Bool.not_eq_false, isContinuation_iff] at hc
    rw [isContinuation_iff] at hd
    refine Spread.prefix_eq [a, b, c, d] (.four ?_ ?_ ?_ ?_ ?_ ?_) ?_ rest
    all_goals simp only [payload, Nat.isValidChar]; omega
  all_goals
    intro h
    cases h

theorem exists_of_map_eq_ok {ε α β : Type} {e : Except ε α} {f : α → β} {b : β}
    (h : e.map f = .ok b) : ∃ a, e = .ok a ∧ f a = b := by
  cases e with
  | error fault => cases h
  | ok a => exact ⟨a, rfl, Except.ok.inj h⟩

theorem decodeFrom_eq_ok {fuel index : Nat} {bytes : List UInt8} {cs : List Char}
    (h : decodeFrom fuel index bytes = .ok cs) : bytes = encode cs := by
  induction fuel generalizing index bytes cs with
  | zero =>
    cases bytes with
    | nil =>
      cases h
      rfl
    | cons b rest => cases h
  | succ fuel ih =>
    cases bytes with
    | nil =>
      cases h
      rfl
    | cons b rest =>
      rw [decodeFrom] at h
      · cases hread : readChar (b :: rest) with
        | error fault =>
          rw [hread] at h
          cases h
        | ok p =>
          obtain ⟨c, width⟩ := p
          simp only [hread] at h
          obtain ⟨ds, hrest, rfl⟩ := exists_of_map_eq_ok h
          rw [encode_cons, ← ih hrest]
          exact (readChar_eq_ok hread).2
      · exact List.cons_ne_nil b rest

/-- Bytes decode to a text if and only if they are its encoding. -/
theorem decode_eq_ok_iff {bytes : List UInt8} {s : String} :
    decode bytes = .ok s ↔ bytes = encode s.toList := by
  constructor
  · intro h
    obtain ⟨cs, hcs, rfl⟩ := exists_of_map_eq_ok h
    rw [String.toList_ofList]
    exact decodeFrom_eq_ok hcs
  · rintro rfl
    rw [decode_encode, String.ofList_toList]

/-- Texts with the same bytes are the same. -/
theorem toUTF8_toList_inj {s t : String} : s.toUTF8.toList = t.toUTF8.toList ↔ s = t := by
  rw [toUTF8_toList, toUTF8_toList]
  constructor
  · intro h
    have hs := decode_eq_ok_iff.2 h
    rw [decode_encode, String.ofList_toList] at hs
    cases hs
    rfl
  · rintro rfl
    rfl

/-! ## Order -/

/-- Of two characters that are not ASCII, the one with the smaller code point has the smaller bytes,
whatever follows: the first byte tells the lengths apart, and bytes of equal number are digits. -/
theorem Spread.lt {n m : Nat} {as bs : List UInt8} (ha : Spread n as) (hb : Spread m bs)
    (h : n < m) (xs ys : List UInt8) : as ++ xs < bs ++ ys := by
  cases ha <;> cases hb <;>
    simp only [List.cons_append, List.nil_append, List.cons_lt_cons_iff, UInt8.lt_iff_toNat_lt,
      ← UInt8.toNat_inj] <;> omega

theorem encodeChar_lt {c d : Char} (h : c < d) (xs ys : List UInt8) :
    String.utf8EncodeChar c ++ xs < String.utf8EncodeChar d ++ ys := by
  have hlt : c.toNat < d.toNat := h
  by_cases hc : c.toNat < 0x80
  · -- An ASCII character is a byte that is smaller than the first one of any larger character.
    obtain ⟨b, bs, hb⟩ := List.exists_cons_of_ne_nil (String.utf8EncodeChar_ne_nil (c := d))
    have hfirst : c.toNat < b.toNat := by
      by_cases hlow : b.toNat < 0x80
      · rwa [← mem_encodeChar_ascii (hb ▸ List.mem_cons_self) hlow]
      · omega
    rw [encodeChar_ascii hc, hb, List.singleton_append, List.cons_append, List.cons_lt_cons_iff,
      UInt8.lt_iff_toNat_lt, toNat_ofNat_ascii hc]
    exact .inl hfirst
  · have hd : 0x80 ≤ d.toNat := by omega
    exact (encodeChar_spread (Nat.le_of_not_lt hc)).lt (encodeChar_spread hd) hlt xs ys

/-- Texts are in the same order as their bytes. -/
theorem encode_lt {cs ds : List Char} (h : cs < ds) : encode cs < encode ds := by
  rw [← List.lex_lt] at h
  induction h with
  | @nil d ds =>
    obtain ⟨b, bs, hb⟩ := List.exists_cons_of_ne_nil (String.utf8EncodeChar_ne_nil (c := d))
    rw [encode_nil, encode_cons, hb, List.cons_append]
    exact List.nil_lt_cons _ _
  | rel hcd => exact encodeChar_lt hcd _ _
  | cons _ ih => exact List.append_left_lt ih

theorem toUTF8_lt {s t : String} (h : s < t) : s.toUTF8.data.toList < t.toUTF8.data.toList := by
  rw [toUTF8_data_toList, toUTF8_data_toList]
  exact encode_lt (String.lt_iff.1 h)

end TemplateEngines.Text.Utf8
