import Kitchen.Text.Utf8
import Mathlib.Tactic.SplitIfs

/-!
# Decoding what has been encoded

Encoding a text and decoding bytes are inverse to each other: the bytes of a text decode to the text,
and bytes that decode to a text are its bytes. Both are shown character by character.
-/

namespace Kitchen.Text

/-! ## Bytes as numbers -/

private theorem isContinuation_iff {b : UInt8} :
    isContinuation b = true ↔ 0x80 ≤ b.toNat ∧ b.toNat < 0xC0 := by
  simp [isContinuation, UInt8.le_iff_toNat_le, UInt8.lt_iff_toNat_lt]

private theorem isSecond_iff {a b : UInt8} :
    isSecond a b = true ↔ (0x80 ≤ b.toNat ∧ b.toNat < 0xC0) ∧ (a.toNat = 0xE0 → 0xA0 ≤ b.toNat) ∧
      (a.toNat = 0xED → b.toNat < 0xA0) ∧ (a.toNat = 0xF0 → 0x90 ≤ b.toNat) ∧
      (a.toNat = 0xF4 → b.toNat < 0x90) := by
  have hbyte (n : UInt8) : a = n ↔ a.toNat = n.toNat := UInt8.toNat_inj.symm
  simp only [isSecond, Bool.and_eq_true, isContinuation_iff, beq_iff_eq, hbyte]
  refine and_congr_right fun _ => ?_
  split
  · simp_all [UInt8.le_iff_toNat_le]
  · split
    · simp_all [UInt8.lt_iff_toNat_lt]
    · split
      · simp_all [UInt8.le_iff_toNat_le]
      · split <;> simp_all [UInt8.lt_iff_toNat_lt]

private theorem continuationCount_eq (a : UInt8) :
    continuationCount a =
      if a.toNat < 0x80 then some 0
      else if a.toNat < 0xC2 then none
      else if a.toNat < 0xE0 then some 1
      else if a.toNat < 0xF0 then some 2
      else if a.toNat < 0xF5 then some 3
      else none := by
  simp [continuationCount, UInt8.lt_iff_toNat_lt]

private theorem lead_of_continuationCount {a : UInt8} {n : Nat} (h : continuationCount a = some n) :
    n = 0 ∧ a.toNat < 0x80 ∨ n = 1 ∧ 0xC2 ≤ a.toNat ∧ a.toNat < 0xE0 ∨
      n = 2 ∧ 0xE0 ≤ a.toNat ∧ a.toNat < 0xF0 ∨ n = 3 ∧ 0xF0 ≤ a.toNat ∧ a.toNat < 0xF5 := by
  rw [continuationCount_eq] at h
  split_ifs at h <;> simp only [Option.some.injEq] at h <;> omega

/-! ## One character -/

private theorem map_cons_inj {c : Char} {result : Except Utf8Fault (List Char)} {cs : List Char}
    (h : result.map (c :: ·) = .ok cs) : ∃ rest, result = .ok rest ∧ cs = c :: rest := by
  cases result with
  | error fault => simp [Except.map] at h
  | ok rest => exact ⟨rest, rfl, by simpa [Except.map, eq_comm] using h⟩

section Steps

variable {a b c d : UInt8}

private theorem utf8DecodeFrom_one (h : a.toNat < 0x80) (i : Nat) (s : List UInt8) :
    utf8DecodeFrom i (a :: s) = (utf8DecodeFrom (i + 1) s).map (joinBytes 7 a [] :: ·) := by
  have hcount : continuationCount a = some 0 := by rw [continuationCount_eq, if_pos h]
  rw [utf8DecodeFrom.eq_def]
  simp only [hcount]

private theorem utf8DecodeFrom_two (h : 0xC2 ≤ a.toNat ∧ a.toNat < 0xE0) (hb : isSecond a b = true)
    (i : Nat) (s : List UInt8) :
    utf8DecodeFrom i (a :: b :: s) = (utf8DecodeFrom (i + 2) s).map (joinBytes 5 a [b] :: ·) := by
  have hcount : continuationCount a = some 1 := by
    rw [continuationCount_eq, if_neg (by omega), if_neg (by omega), if_pos h.2]
  rw [utf8DecodeFrom.eq_def]
  simp only [hcount, hb, if_true]

private theorem utf8DecodeFrom_three (h : 0xE0 ≤ a.toNat ∧ a.toNat < 0xF0)
    (hb : isSecond a b = true) (hc : isContinuation c = true) (i : Nat) (s : List UInt8) :
    utf8DecodeFrom i (a :: b :: c :: s) =
      (utf8DecodeFrom (i + 3) s).map (joinBytes 4 a [b, c] :: ·) := by
  have hcount : continuationCount a = some 2 := by
    rw [continuationCount_eq, if_neg (by omega), if_neg (by omega), if_neg (by omega), if_pos h.2]
  rw [utf8DecodeFrom.eq_def]
  simp only [hcount, hb, hc, if_true]

private theorem utf8DecodeFrom_four (h : 0xF0 ≤ a.toNat ∧ a.toNat < 0xF5)
    (hb : isSecond a b = true) (hc : isContinuation c = true) (hd : isContinuation d = true)
    (i : Nat) (s : List UInt8) :
    utf8DecodeFrom i (a :: b :: c :: d :: s) =
      (utf8DecodeFrom (i + 4) s).map (joinBytes 3 a [b, c, d] :: ·) := by
  have hcount : continuationCount a = some 3 := by
    rw [continuationCount_eq, if_neg (by omega), if_neg (by omega), if_neg (by omega),
      if_neg (by omega), if_pos h.2]
  rw [utf8DecodeFrom.eq_def]
  simp only [hcount, hb, hc, hd, if_true]

end Steps

/-- The bytes of a character decode to it. -/
private theorem utf8DecodeFrom_encodeChar (i : Nat) (c : Char) (s : List UInt8) :
    utf8DecodeFrom i (String.utf8EncodeChar c ++ s) =
      (utf8DecodeFrom (i + (String.utf8EncodeChar c).length) s).map (c :: ·) := by
  have hvalid : c.toNat < 0xD800 ∨ 0xDFFF < c.toNat ∧ c.toNat < 0x110000 := c.valid
  have hbyte {n : Nat} (h : n < 256) : (UInt8.ofNat n).toNat = n := by simp [h]
  have hjoin {bits : Nat} {lead : UInt8} {rest : List UInt8}
      (h : rest.foldl (fun n b => n * 64 + b.toNat % 64) (lead.toNat % twoTo bits) = c.toNat) :
      joinBytes bits lead rest = c := by
    rw [joinBytes, h, Char.ofNat_toNat]
  unfold String.utf8EncodeChar
  simp only [Char.toNat_val]
  generalize c.toNat = n at *
  -- The encoder has one case for each count of bytes.
  split
  · have ha := hbyte (n := n) (by omega)
    simp only [List.cons_append, List.nil_append, List.length_cons, List.length_nil]
    rw [utf8DecodeFrom_one (by omega), hjoin]
    rw [List.foldl_nil, ha]
    change n % 128 = n
    omega
  · split
    · have ha := hbyte (n := n / 64 % 32 + 192) (by omega)
      have hb := hbyte (n := n % 64 + 128) (by omega)
      simp only [List.cons_append, List.nil_append, List.length_cons, List.length_nil]
      rw [utf8DecodeFrom_two (by omega) (isSecond_iff.mpr (by omega)), hjoin]
      simp only [List.foldl_cons, List.foldl_nil, ha, hb]
      change (n / 64 % 32 + 192) % 32 * 64 + (n % 64 + 128) % 64 = n
      omega
    · split
      · have ha := hbyte (n := n / 4096 % 16 + 224) (by omega)
        have hb := hbyte (n := n / 64 % 64 + 128) (by omega)
        have hc := hbyte (n := n % 64 + 128) (by omega)
        simp only [List.cons_append, List.nil_append, List.length_cons, List.length_nil]
        rw [utf8DecodeFrom_three (by omega) (isSecond_iff.mpr (by omega))
          (isContinuation_iff.mpr (by omega)), hjoin]
        simp only [List.foldl_cons, List.foldl_nil, ha, hb, hc]
        change ((n / 4096 % 16 + 224) % 16 * 64 + (n / 64 % 64 + 128) % 64) * 64 +
          (n % 64 + 128) % 64 = n
        omega
      · have ha := hbyte (n := n / 262144 % 8 + 240) (by omega)
        have hb := hbyte (n := n / 4096 % 64 + 128) (by omega)
        have hc := hbyte (n := n / 64 % 64 + 128) (by omega)
        have hd := hbyte (n := n % 64 + 128) (by omega)
        simp only [List.cons_append, List.nil_append, List.length_cons, List.length_nil]
        rw [utf8DecodeFrom_four (by omega) (isSecond_iff.mpr (by omega))
          (isContinuation_iff.mpr (by omega)) (isContinuation_iff.mpr (by omega)), hjoin]
        simp only [List.foldl_cons, List.foldl_nil, ha, hb, hc, hd]
        change (((n / 262144 % 8 + 240) % 8 * 64 + (n / 4096 % 64 + 128) % 64) * 64 +
          (n / 64 % 64 + 128) % 64) * 64 + (n % 64 + 128) % 64 = n
        omega

section Joined

variable {a b c d : UInt8}

private theorem toNat_joinBytes {bits n : Nat} {lead : UInt8} {rest : List UInt8}
    (h : rest.foldl (fun n b => n * 64 + b.toNat % 64) (lead.toNat % twoTo bits) = n)
    (hvalid : n < 0xD800 ∨ 0xDFFF < n ∧ n < 0x110000) :
    (joinBytes bits lead rest).val.toNat = n := by
  rw [joinBytes, h, Char.ofNat, dif_pos hvalid]
  rfl

private theorem encodeChar_one (h : a.toNat < 0x80) :
    String.utf8EncodeChar (joinBytes 7 a []) = [a] := by
  have hn : (joinBytes 7 a []).val.toNat = a.toNat := toNat_joinBytes (Nat.mod_eq_of_lt h) (by omega)
  unfold String.utf8EncodeChar
  rw [hn, if_pos (by omega), UInt8.ofNat_toNat]

private theorem encodeChar_two (h : 0xC2 ≤ a.toNat ∧ a.toNat < 0xE0) (hb : isSecond a b = true) :
    String.utf8EncodeChar (joinBytes 5 a [b]) = [a, b] := by
  rw [isSecond_iff] at hb
  have hn : (joinBytes 5 a [b]).val.toNat = a.toNat % 32 * 64 + b.toNat % 64 :=
    toNat_joinBytes rfl (by omega)
  unfold String.utf8EncodeChar
  rw [hn]
  generalize hm : a.toNat % 32 * 64 + b.toNat % 64 = m
  rw [if_neg (by omega), if_pos (by omega)]
  have ha : m / 64 % 32 + 192 = a.toNat := by omega
  have hb : m % 64 + 128 = b.toNat := by omega
  rw [ha, hb, UInt8.ofNat_toNat, UInt8.ofNat_toNat]

private theorem encodeChar_three (h : 0xE0 ≤ a.toNat ∧ a.toNat < 0xF0) (hb : isSecond a b = true)
    (hc : isContinuation c = true) :
    String.utf8EncodeChar (joinBytes 4 a [b, c]) = [a, b, c] := by
  rw [isSecond_iff] at hb
  rw [isContinuation_iff] at hc
  have hn : (joinBytes 4 a [b, c]).val.toNat =
      (a.toNat % 16 * 64 + b.toNat % 64) * 64 + c.toNat % 64 := toNat_joinBytes rfl (by omega)
  unfold String.utf8EncodeChar
  rw [hn]
  generalize hm : (a.toNat % 16 * 64 + b.toNat % 64) * 64 + c.toNat % 64 = m
  rw [if_neg (by omega), if_neg (by omega), if_pos (by omega)]
  have ha : m / 4096 % 16 + 224 = a.toNat := by omega
  have hb : m / 64 % 64 + 128 = b.toNat := by omega
  have hc : m % 64 + 128 = c.toNat := by omega
  rw [ha, hb, hc, UInt8.ofNat_toNat, UInt8.ofNat_toNat, UInt8.ofNat_toNat]

private theorem encodeChar_four (h : 0xF0 ≤ a.toNat ∧ a.toNat < 0xF5) (hb : isSecond a b = true)
    (hc : isContinuation c = true) (hd : isContinuation d = true) :
    String.utf8EncodeChar (joinBytes 3 a [b, c, d]) = [a, b, c, d] := by
  rw [isSecond_iff] at hb
  rw [isContinuation_iff] at hc hd
  have hn : (joinBytes 3 a [b, c, d]).val.toNat =
      ((a.toNat % 8 * 64 + b.toNat % 64) * 64 + c.toNat % 64) * 64 + d.toNat % 64 :=
    toNat_joinBytes rfl (by omega)
  unfold String.utf8EncodeChar
  rw [hn]
  generalize hm :
    ((a.toNat % 8 * 64 + b.toNat % 64) * 64 + c.toNat % 64) * 64 + d.toNat % 64 = m
  rw [if_neg (by omega), if_neg (by omega), if_neg (by omega)]
  have ha : m / 262144 % 8 + 240 = a.toNat := by omega
  have hb : m / 4096 % 64 + 128 = b.toNat := by omega
  have hc : m / 64 % 64 + 128 = c.toNat := by omega
  have hd : m % 64 + 128 = d.toNat := by omega
  rw [ha, hb, hc, hd, UInt8.ofNat_toNat, UInt8.ofNat_toNat, UInt8.ofNat_toNat, UInt8.ofNat_toNat]

end Joined

/-! ## Whole texts -/

/-- Decoding the bytes of a text gives the text. -/
theorem utf8Decode_utf8Encode (s : String) : utf8Decode (utf8Encode s) = .ok s := by
  have hchars (i : Nat) (cs : List Char) :
      utf8DecodeFrom i (cs.flatMap String.utf8EncodeChar) = .ok cs := by
    induction cs generalizing i with
    | nil => rfl
    | cons c cs ih =>
      rw [List.flatMap_cons, utf8DecodeFrom_encodeChar, ih]
      rfl
  rw [utf8Decode, utf8Encode, hchars]
  exact congrArg Except.ok String.ofList_toList

private theorem flatMap_of_utf8DecodeFrom {i : Nat} {bytes : List UInt8} {cs : List Char}
    (h : utf8DecodeFrom i bytes = .ok cs) : cs.flatMap String.utf8EncodeChar = bytes := by
  fun_induction utf8DecodeFrom i bytes generalizing cs
  case case1 =>
    obtain rfl := Except.ok.inj h
    rfl
  case case3 hcount ih =>
    have hlead := lead_of_continuationCount hcount
    obtain ⟨rest, hrest, rfl⟩ := map_cons_inj h
    rw [List.flatMap_cons, ih hrest, encodeChar_one (by omega)]
    rfl
  case case5 hcount hb ih =>
    have hlead := lead_of_continuationCount hcount
    obtain ⟨rest, hrest, rfl⟩ := map_cons_inj h
    rw [List.flatMap_cons, ih hrest, encodeChar_two (by omega) hb]
    rfl
  case case8 hcount hb _ _ hc ih =>
    have hlead := lead_of_continuationCount hcount
    obtain ⟨rest, hrest, rfl⟩ := map_cons_inj h
    rw [List.flatMap_cons, ih hrest, encodeChar_three (by omega) hb hc]
    rfl
  case case13 h₀ h₁ h₂ hcount hb _ hc _ _ hd ih =>
    obtain ⟨hn, _⟩ | ⟨hn, _⟩ | ⟨hn, _⟩ | ⟨_, hlead⟩ := lead_of_continuationCount hcount
    · exact absurd hn h₀
    · exact absurd hn h₁
    · exact absurd hn h₂
    · obtain ⟨rest, hrest, rfl⟩ := map_cons_inj h
      rw [List.flatMap_cons, ih hrest, encodeChar_four hlead hb hc hd]
      rfl
  -- Everywhere else decoding stops with a fault.
  all_goals simp at h

/-- Bytes that decode to a text are its bytes. -/
theorem utf8Encode_of_utf8Decode {bytes : List UInt8} {s : String}
    (h : utf8Decode bytes = .ok s) : utf8Encode s = bytes := by
  unfold utf8Decode at h
  cases hchars : utf8DecodeFrom 0 bytes with
  | error fault => simp [hchars, Except.map] at h
  | ok cs =>
    obtain rfl : String.ofList cs = s := by simpa [hchars, Except.map] using h
    rw [utf8Encode, String.toList_ofList]
    exact flatMap_of_utf8DecodeFrom hchars

theorem utf8Encode_injective {s t : String} (h : utf8Encode s = utf8Encode t) : s = t := by
  have hdecode := utf8Decode_utf8Encode s
  rw [h, utf8Decode_utf8Encode] at hdecode
  exact (Except.ok.inj hdecode).symm

/-- A text of ASCII characters has one byte for each of them. -/
theorem utf8Encode_of_ascii {s : List Char} (h : ∀ c ∈ s, c.toNat < 128) :
    utf8Encode (String.ofList s) = s.map fun c => UInt8.ofNat c.toNat := by
  rw [utf8Encode, String.toList_ofList]
  induction s with
  | nil => rfl
  | cons c s ih =>
    have hc : c.val.toNat ≤ 127 := Nat.le_of_lt_succ (h c List.mem_cons_self)
    have hchar : String.utf8EncodeChar c = [UInt8.ofNat c.toNat] := by
      unfold String.utf8EncodeChar
      rw [if_pos hc]
      rfl
    rw [List.flatMap_cons, hchar, List.map_cons, ih fun d hd => h d (List.mem_cons_of_mem c hd)]
    rfl

end Kitchen.Text
