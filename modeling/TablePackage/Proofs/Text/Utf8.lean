import Mathlib.Tactic.Common
import TablePackage.Text.Utf8

/-!
# Reading back UTF-8

What is written as bytes is read back as it was, character by character: the first byte of a
character announces how many bytes follow, and the ranges of the second byte leave out exactly
the numbers that are no characters or have a shorter form.
-/

namespace TablePackage.Utf8

variable {c : Char} {p : Nat} {b : Bytes}

/-- The numbers of characters. -/
theorem toNat_char (c : Char) : c.toNat < 0xD800 ∨ 0xDFFF < c.toNat ∧ c.toNat < 0x110000 := c.valid

theorem toNat_byte {n : Nat} (h : n < 256) : (UInt8.ofNat n).toNat = n := by
  rw [UInt8.toNat_ofNat', Nat.mod_eq_of_lt h]

/-- A byte with six bits of a character may stand behind the first two. -/
theorem isTail_byte (n : Nat) : isTail (UInt8.ofNat (0x80 + n % 64)) = true := by
  rw [isTail, toNat_byte (by omega), Bool.and_eq_true, decide_eq_true_iff, decide_eq_true_iff]
  omega

/-! ## One character -/

theorem decodeFrom_encodeChar_one (h : c.toNat < 0x80) :
    decodeFrom p (encodeChar c ++ b) =
      (c :: (decodeFrom (p + 1) b).1, (decodeFrom (p + 1) b).2) := by
  rw [encodeChar, if_pos h, List.cons_append, List.nil_append, decodeFrom,
    toNat_byte (by omega), if_pos h]
  dsimp only
  rw [Char.ofNat_toNat]

theorem decodeFrom_encodeChar_two (h : ¬c.toNat < 0x80) (h' : c.toNat < 0x800) :
    decodeFrom p (encodeChar c ++ b) =
      (c :: (decodeFrom (p + 2) b).1, (decodeFrom (p + 2) b).2) := by
  have hlead : lead? (0xC0 + c.toNat / 64) = some (1, 0x80, 0xBF) := by
    rw [lead?, if_neg (by omega), if_pos (by omega)]
  have hval : (0xC0 + c.toNat / 64) % 32 * 64 + (0x80 + c.toNat % 64) % 64 = c.toNat := by omega
  rw [encodeChar, if_neg h, if_pos h', List.cons_append, List.cons_append, List.nil_append,
    decodeFrom, toNat_byte (by omega), if_neg (by omega), hlead]
  dsimp only
  rw [toNat_byte (by omega), if_neg (by omega), if_pos rfl, hval, Char.ofNat_toNat]

theorem decodeFrom_encodeChar_three (h : ¬c.toNat < 0x800) (h' : c.toNat < 0x10000) :
    decodeFrom p (encodeChar c ++ b) =
      (c :: (decodeFrom (p + 3) b).1, (decodeFrom (p + 3) b).2) := by
  have hc := toNat_char c
  have hlead : lead? (0xE0 + c.toNat / 4096) =
      some (2, if 0xE0 + c.toNat / 4096 = 0xE0 then 0xA0 else 0x80,
        if 0xE0 + c.toNat / 4096 = 0xED then 0x9F else 0xBF) := by
    rw [lead?, if_neg (by omega), if_neg (by omega), if_pos (by omega)]
  have hval : (0xE0 + c.toNat / 4096) % 16 * 4096 + (0x80 + c.toNat / 64 % 64) % 64 * 64 +
      (0x80 + c.toNat % 64) % 64 = c.toNat := by omega
  rw [encodeChar, if_neg (by omega), if_neg h, if_pos h', List.cons_append, List.cons_append,
    List.cons_append, List.nil_append, decodeFrom, toNat_byte (by omega), if_neg (by omega), hlead]
  dsimp only
  -- The second byte is in range: no shorter form, and no surrogate.
  rw [toNat_byte (by omega), if_neg (by split <;> split <;> omega), if_neg (by omega),
    isTail_byte, toNat_byte (by omega), Bool.not_true, if_neg Bool.false_ne_true, if_pos rfl, hval,
    Char.ofNat_toNat]

theorem decodeFrom_encodeChar_four (h : ¬c.toNat < 0x10000) :
    decodeFrom p (encodeChar c ++ b) =
      (c :: (decodeFrom (p + 4) b).1, (decodeFrom (p + 4) b).2) := by
  have hc := toNat_char c
  have hlead : lead? (0xF0 + c.toNat / 262144) =
      some (3, if 0xF0 + c.toNat / 262144 = 0xF0 then 0x90 else 0x80,
        if 0xF0 + c.toNat / 262144 = 0xF4 then 0x8F else 0xBF) := by
    rw [lead?, if_neg (by omega), if_neg (by omega), if_neg (by omega), if_pos (by omega)]
  have hval : (0xF0 + c.toNat / 262144) % 8 * 262144 + (0x80 + c.toNat / 4096 % 64) % 64 * 4096 +
      (0x80 + c.toNat / 64 % 64) % 64 * 64 + (0x80 + c.toNat % 64) % 64 = c.toNat := by omega
  rw [encodeChar, if_neg (by omega), if_neg (by omega), if_neg h, List.cons_append,
    List.cons_append, List.cons_append, List.cons_append, List.nil_append, decodeFrom,
    toNat_byte (by omega), if_neg (by omega), hlead]
  dsimp only
  -- The second byte is in range: no shorter form, and not beyond the last character.
  rw [toNat_byte (by omega), if_neg (by split <;> split <;> omega), if_neg (by omega),
    isTail_byte, toNat_byte (by omega), Bool.not_true, if_neg Bool.false_ne_true,
    if_neg (by omega), isTail_byte, toNat_byte (by omega), Bool.not_true,
    if_neg Bool.false_ne_true, hval, Char.ofNat_toNat]

/-- The bytes of a character are read as this character, and reading goes on behind them. -/
theorem decodeFrom_encodeChar (c : Char) (p : Nat) (b : Bytes) :
    ∃ q, decodeFrom p (encodeChar c ++ b) = (c :: (decodeFrom q b).1, (decodeFrom q b).2) := by
  by_cases h₁ : c.toNat < 0x80
  · exact ⟨_, decodeFrom_encodeChar_one h₁⟩
  by_cases h₂ : c.toNat < 0x800
  · exact ⟨_, decodeFrom_encodeChar_two h₁ h₂⟩
  by_cases h₃ : c.toNat < 0x10000
  · exact ⟨_, decodeFrom_encodeChar_three h₂ h₃⟩
  · exact ⟨_, decodeFrom_encodeChar_four h₃⟩

/-! ## Texts -/

theorem encode_append (t u : Text) : encode (t ++ u) = encode t ++ encode u :=
  List.flatMap_append

theorem length_encode_replicate (n : Nat) (c : Char) :
    (encode (List.replicate n c)).length = n * (encodeChar c).length := by
  rw [encode, List.length_flatMap, List.map_replicate, List.sum_replicate_nat]

/-- Every character has bytes. -/
theorem encode_ne_nil {t : Text} (h : t ≠ []) : encode t ≠ [] := by
  obtain ⟨c, t, rfl⟩ := List.exists_cons_of_ne_nil h
  have hc : encodeChar c ≠ [] := by unfold encodeChar; dsimp only; split_ifs <;> simp
  exact List.append_ne_nil_of_left_ne_nil hc _

/-- The bytes of a text are read to their end, without a fault. -/
theorem decodeFrom_encode (t : Text) (p : Nat) : decodeFrom p (encode t) = (t, none) := by
  induction t generalizing p with
  | nil => rfl
  | cons c t ih =>
    obtain ⟨q, hq⟩ := decodeFrom_encodeChar c p (encode t)
    rw [encode, List.flatMap_cons, ← encode, hq, ih q]

/-- What is written as bytes is read back as it was. -/
theorem decode_encode (t : Text) : decode (encode t) = .ok t := by
  rw [decode, decodeFrom_encode]

/-! ## Writing what was read -/

section Writing

variable {a b c d : UInt8} {n more least greatest : Nat}

theorem toNat_ofNat (h : n < 0xD800 ∨ 0xDFFF < n ∧ n < 0x110000) : (Char.ofNat n).toNat = n := by
  rw [Char.ofNat, dif_pos h]
  rfl

theorem ofNat_byte (h : n = a.toNat) : UInt8.ofNat n = a := by
  rw [h, UInt8.ofNat_toNat]

/-- Which bytes announce how many others, and which ones may come next. -/
theorem lead?_eq_some (h : lead? n = some (more, least, greatest)) :
    (0xC2 ≤ n ∧ n < 0xE0 ∧ more = 1 ∧ least = 0x80 ∧ greatest = 0xBF) ∨
    (0xE0 ≤ n ∧ n < 0xF0 ∧ more = 2 ∧ least = (if n = 0xE0 then 0xA0 else 0x80) ∧
      greatest = if n = 0xED then 0x9F else 0xBF) ∨
    (0xF0 ≤ n ∧ n < 0xF5 ∧ more = 3 ∧ least = (if n = 0xF0 then 0x90 else 0x80) ∧
      greatest = if n = 0xF4 then 0x8F else 0xBF) := by
  unfold lead? at h
  split_ifs at h <;> cases h <;> simp_all

theorem isTail_iff : isTail b = true ↔ 0x80 ≤ b.toNat ∧ b.toNat ≤ 0xBF := by
  rw [isTail, Bool.and_eq_true, decide_eq_true_iff, decide_eq_true_iff]

theorem encodeChar_ofNat_one (ha : a.toNat < 0x80) : encodeChar (Char.ofNat a.toNat) = [a] := by
  rw [encodeChar, toNat_ofNat (.inl (by omega)), if_pos ha, UInt8.ofNat_toNat]

theorem encodeChar_ofNat_two (ha : 0xC2 ≤ a.toNat ∧ a.toNat < 0xE0)
    (hb : 0x80 ≤ b.toNat ∧ b.toNat ≤ 0xBF) :
    encodeChar (Char.ofNat (a.toNat % 32 * 64 + b.toNat % 64)) = [a, b] := by
  rw [encodeChar, toNat_ofNat (by omega), if_neg (by omega), if_pos (by omega),
    ofNat_byte (a := a) (by omega), ofNat_byte (a := b) (by omega)]

theorem encodeChar_ofNat_three (ha : 0xE0 ≤ a.toNat ∧ a.toNat < 0xF0)
    (hb : (if a.toNat = 0xE0 then 0xA0 else 0x80) ≤ b.toNat ∧
      b.toNat ≤ if a.toNat = 0xED then 0x9F else 0xBF)
    (hc : isTail c = true) :
    encodeChar (Char.ofNat (a.toNat % 16 * 4096 + b.toNat % 64 * 64 + c.toNat % 64)) =
      [a, b, c] := by
  rw [isTail_iff] at hc
  -- The range of the second byte leaves out the shorter forms and the surrogates.
  have hb' : 0x80 ≤ b.toNat ∧ b.toNat ≤ 0xBF ∧ (a.toNat = 0xE0 → 0xA0 ≤ b.toNat) ∧
      (a.toNat = 0xED → b.toNat ≤ 0x9F) := by split_ifs at hb <;> omega
  rw [encodeChar, toNat_ofNat (by omega), if_neg (by omega), if_neg (by omega), if_pos (by omega),
    ofNat_byte (a := a) (by omega), ofNat_byte (a := b) (by omega), ofNat_byte (a := c) (by omega)]

theorem encodeChar_ofNat_four (ha : 0xF0 ≤ a.toNat ∧ a.toNat < 0xF5)
    (hb : (if a.toNat = 0xF0 then 0x90 else 0x80) ≤ b.toNat ∧
      b.toNat ≤ if a.toNat = 0xF4 then 0x8F else 0xBF)
    (hc : isTail c = true) (hd : isTail d = true) :
    encodeChar (Char.ofNat (a.toNat % 8 * 262144 + b.toNat % 64 * 4096 + c.toNat % 64 * 64 +
      d.toNat % 64)) = [a, b, c, d] := by
  rw [isTail_iff] at hc hd
  -- The range of the second byte leaves out the shorter forms and what is beyond the characters.
  have hb' : 0x80 ≤ b.toNat ∧ b.toNat ≤ 0xBF ∧ (a.toNat = 0xF0 → 0x90 ≤ b.toNat) ∧
      (a.toNat = 0xF4 → b.toNat ≤ 0x8F) := by split_ifs at hb <;> omega
  rw [encodeChar, toNat_ofNat (by omega), if_neg (by omega), if_neg (by omega), if_neg (by omega),
    ofNat_byte (a := a) (by omega), ofNat_byte (a := b) (by omega), ofNat_byte (a := c) (by omega),
    ofNat_byte (a := d) (by omega)]

/-- If a character comes first in what is read, its bytes and those of the rest are written. -/
theorem encode_of_put {bytes rest : Bytes} {later : Text × Option Fault} {t : Text}
    (ih : ∀ u, later = (u, none) → encode u = rest) (hn : encodeChar (Char.ofNat n) = bytes)
    (h : (Char.ofNat n :: later.1, later.2) = (t, none)) : encode t = bytes ++ rest := by
  obtain ⟨rfl, hlater⟩ := Prod.mk.inj h
  rw [encode, List.flatMap_cons, ← encode, hn, ih later.1 (Prod.ext rfl hlater)]

/-- Bytes that are read without a fault are those of the text. -/
theorem encode_of_decodeFrom {bytes : Bytes} {t : Text} (h : decodeFrom p bytes = (t, none)) :
    encode t = bytes := by
  fun_induction decodeFrom p bytes generalizing t with
  | case1 => cases h; rfl
  | case2 p a rest _ ha =>
    rename_i ih
    exact encode_of_put @ih (encodeChar_ofNat_one ha) h
  | case6 p a _ _ least greatest b rest hb hlead =>
    rename_i ih
    obtain ⟨h₁, h₂, -, rfl, rfl⟩ | ⟨-, -, hmore, -⟩ | ⟨-, -, hmore, -⟩ := lead?_eq_some hlead
    · exact encode_of_put @ih (encodeChar_ofNat_two ⟨h₁, h₂⟩ (by omega)) h
    · cases hmore
    · cases hmore
  | case9 p a _ _ least greatest b hb c rest hc hlead =>
    rename_i ih
    obtain ⟨-, -, hmore, -⟩ | ⟨h₁, h₂, -, rfl, rfl⟩ | ⟨-, -, hmore, -⟩ := lead?_eq_some hlead
    · cases hmore
    · exact encode_of_put @ih (encodeChar_ofNat_three ⟨h₁, h₂⟩ (by omega) (by simpa using hc)) h
    · cases hmore
  | case12 p a _ _ more least greatest hlead b hb hmore c hc hmore' d rest hd =>
    rename_i ih
    obtain ⟨-, -, rfl, -⟩ | ⟨-, -, rfl, -⟩ | ⟨h₁, h₂, -, rfl, rfl⟩ := lead?_eq_some hlead
    · exact absurd rfl hmore
    · exact absurd rfl hmore'
    · exact encode_of_put @ih
        (encodeChar_ofNat_four ⟨h₁, h₂⟩ (by omega) (by simpa using hc) (by simpa using hd)) h
  | _ => cases h

/-- What is read is written back as it was. -/
theorem encode_of_decode {bytes : Bytes} {t : Text} (h : decode bytes = .ok t) :
    encode t = bytes := by
  unfold decode at h
  split at h
  · rename_i u hu
    cases h
    exact encode_of_decodeFrom hu
  · cases h

end Writing

end TablePackage.Utf8
