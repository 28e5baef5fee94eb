import Kitchen.Codec.Base64
import Kitchen.Proofs.Text.Utf8

/-!
# The written form of bytes

A list of bytes has one written form in an alphabet. It is read back as these bytes, and nothing
else is read at all: neither other fillings nor symbols with bits that no byte takes. Both are shown
for groups of four symbols, of which the last may be filled up.
-/

namespace Kitchen

open Text

namespace Base64

/-! ## Symbols -/

namespace Alphabet

variable (alphabet : Alphabet)

/-- The symbols in the order of their values. -/
def symbols : List Char := (List.range 64).map alphabet.symbol

private theorem toNat_symbol {n : Nat} (h : n < 64) : (alphabet.symbol n).toNat < 128 := by
  revert n
  cases alphabet <;> decide

theorem value?_symbol {n : Nat} (h : n < 64) : alphabet.value? (alphabet.symbol n) = some n := by
  revert n
  cases alphabet <;> decide

theorem symbol_of_value? {c : Char} {n : Nat} (h : alphabet.value? c = some n) :
    n < 64 ∧ alphabet.symbol n = c := by
  have hle {a b : Char} : a ≤ b ↔ a.toNat ≤ b.toNat := by
    simp [Char.le_def, UInt32.le_iff_toNat_le]
  have hshift (a : Char) (k : Nat) (hk : a.toNat + k = c.toNat) : Char.ofNat (a.toNat + k) = c := by
    rw [hk, Char.ofNat_toNat]
  have hA : 'A'.toNat = 65 := rfl
  have hZ : 'Z'.toNat = 90 := rfl
  have ha : 'a'.toNat = 97 := rfl
  have hz : 'z'.toNat = 122 := rfl
  have h0 : '0'.toNat = 48 := rfl
  have h9 : '9'.toNat = 57 := rfl
  unfold value? at h
  simp only [hle] at h
  split at h
  · obtain rfl := Option.some.inj h
    refine ⟨by omega, ?_⟩
    rw [symbol, if_pos (by omega)]
    exact hshift 'A' _ (by omega)
  split at h
  · obtain rfl := Option.some.inj h
    refine ⟨by omega, ?_⟩
    rw [symbol, if_neg (by omega), if_pos (by omega)]
    exact hshift 'a' _ (by omega)
  split at h
  · obtain rfl := Option.some.inj h
    refine ⟨by omega, ?_⟩
    rw [symbol, if_neg (by omega), if_neg (by omega), if_pos (by omega)]
    exact hshift '0' _ (by omega)
  split at h
  · rename_i hlast
    obtain rfl := Option.some.inj h
    exact ⟨by decide, hlast.symm⟩
  split at h
  · rename_i hlast
    obtain rfl := Option.some.inj h
    exact ⟨by decide, hlast.symm⟩
  · cases h

theorem mem_symbols_iff {c : Char} : c ∈ alphabet.symbols ↔ (alphabet.value? c).isSome = true := by
  rw [symbols, List.mem_map, Option.isSome_iff_exists]
  constructor
  · rintro ⟨n, hn, rfl⟩
    exact ⟨n, alphabet.value?_symbol (List.mem_range.mp hn)⟩
  · rintro ⟨n, hvalue⟩
    obtain ⟨hn, hsymbol⟩ := alphabet.symbol_of_value? hvalue
    exact ⟨n, List.mem_range.mpr hn, hsymbol⟩

theorem admits_iff {c : Char} : alphabet.admits c = true ↔ c ∈ alphabet.symbols ∨ c = '=' := by
  rw [admits, Bool.or_eq_true, beq_iff_eq, ← mem_symbols_iff, or_comm]

/-- The byte that writes a value. -/
def symbolByte (n : Nat) : UInt8 := UInt8.ofNat (alphabet.symbol n).toNat

theorem byteValue?_eq_some {b : UInt8} {n : Nat} :
    alphabet.byteValue? b = some n ↔ n < 64 ∧ b = alphabet.symbolByte n := by
  constructor
  · intro h
    obtain ⟨hn, hsymbol⟩ := alphabet.symbol_of_value? h
    have hb : b.toNat < 256 := b.toNat_lt
    have hcode : (Char.ofNat b.toNat).toNat = b.toNat := by
      rw [Char.ofNat, dif_pos (.inl (by omega))]
      rfl
    exact ⟨hn, by rw [symbolByte, hsymbol, hcode, UInt8.ofNat_toNat]⟩
  · rintro ⟨hn, rfl⟩
    have hlow := alphabet.toNat_symbol hn
    have hbyte : (alphabet.symbolByte n).toNat = (alphabet.symbol n).toNat := by
      rw [symbolByte, UInt8.toNat_ofNat']
      omega
    rw [byteValue?, hbyte, Char.ofNat_toNat, alphabet.value?_symbol hn]

theorem fill_notMem_symbols : '=' ∉ alphabet.symbols := by
  cases alphabet <;> decide

theorem byteValue?_fill : alphabet.byteValue? fill = none := by
  cases alphabet <;> decide

theorem symbolByte_ne_fill {n : Nat} (h : n < 64) : alphabet.symbolByte n ≠ fill := by
  intro hfill
  have hvalue := (alphabet.byteValue?_eq_some).mpr ⟨h, rfl⟩
  rw [hfill, byteValue?_fill] at hvalue
  cases hvalue

end Alphabet

/-! ## Groups of symbols -/

section Groups

variable (alphabet : Alphabet)

/-- The written form in bytes. -/
def encodeBytes (bytes : List UInt8) : List UInt8 :=
  (encode alphabet bytes).map fun c => UInt8.ofNat c.toNat

theorem mem_encode {c : Char} {bytes : List UInt8} (h : c ∈ encode alphabet bytes) :
    c ∈ alphabet.symbols ∨ c = '=' := by
  have hsymbol {n : Nat} (hn : n < 64) : alphabet.symbol n ∈ alphabet.symbols :=
    List.mem_map.mpr ⟨n, List.mem_range.mpr hn, rfl⟩
  induction bytes using encode.induct with
  | case1 a b c rest ih =>
    have ha := a.toNat_lt
    have hb := b.toNat_lt
    have hc := c.toNat_lt
    simp only [encode, List.mem_cons] at h
    rcases h with rfl | rfl | rfl | rfl | h
    · exact .inl (hsymbol (by omega))
    · exact .inl (hsymbol (by omega))
    · exact .inl (hsymbol (by omega))
    · exact .inl (hsymbol (by omega))
    · exact ih h
  | case2 a b =>
    have ha := a.toNat_lt
    have hb := b.toNat_lt
    simp only [encode, List.mem_cons, List.not_mem_nil, or_false] at h
    rcases h with rfl | rfl | rfl | rfl
    · exact .inl (hsymbol (by omega))
    · exact .inl (hsymbol (by omega))
    · exact .inl (hsymbol (by omega))
    · exact .inr rfl
  | case3 a =>
    have ha := a.toNat_lt
    simp only [encode, List.mem_cons, List.not_mem_nil, or_false] at h
    rcases h with rfl | rfl | rfl | rfl
    · exact .inl (hsymbol (by omega))
    · exact .inl (hsymbol (by omega))
    · exact .inr rfl
    · exact .inr rfl
  | case4 => cases h

/-- Only whole groups are written without fillings. -/
theorem dvd_length_of_notMem {bytes : List UInt8}
    (h : '=' ∉ encode alphabet bytes) : 3 ∣ bytes.length := by
  induction bytes using encode.induct with
  | case1 a b c rest ih =>
    obtain ⟨k, hk⟩ := ih fun hmem => h (by simp only [encode, List.mem_cons, hmem, or_true])
    refine ⟨k + 1, ?_⟩
    simp only [List.length_cons, hk]
    omega
  | case2 a b => exact absurd (by simp only [encode, List.mem_cons, true_or, or_true]) h
  | case3 a => exact absurd (by simp only [encode, List.mem_cons, true_or, or_true]) h
  | case4 => exact Nat.dvd_zero 3

/-- The written form consists of ASCII characters, so it has a byte for each of them. -/
theorem utf8Encode_encode (bytes : List UInt8) :
    utf8Encode (String.ofList (encode alphabet bytes)) = encodeBytes alphabet bytes := by
  refine utf8Encode_of_ascii fun c hc => ?_
  rcases mem_encode alphabet hc with hsymbol | rfl
  · obtain ⟨n, hn, rfl⟩ := List.mem_map.mp hsymbol
    exact alphabet.toNat_symbol (List.mem_range.mp hn)
  · decide

variable {x y z w : Nat}

private theorem eq_ofNat {u : UInt8} {n : Nat} (h : n = u.toNat) : u = UInt8.ofNat n := by
  rw [h, UInt8.ofNat_toNat]

private theorem toNat_firstByte (hx : x < 64) (hy : y < 64) :
    (UInt8.ofNat (x * 4 + y / 16)).toNat = x * 4 + y / 16 := by
  rw [UInt8.toNat_ofNat']
  omega

private theorem toNat_secondByte (hz : z < 64) :
    (UInt8.ofNat (y % 16 * 16 + z / 4)).toNat = y % 16 * 16 + z / 4 := by
  rw [UInt8.toNat_ofNat']
  omega

/-- The bytes that the values of four symbols hold. -/
def ofFour (x y z w : Nat) : List UInt8 :=
  [UInt8.ofNat (x * 4 + y / 16), UInt8.ofNat (y % 16 * 16 + z / 4), UInt8.ofNat (z % 4 * 64 + w)]

theorem exists_ofFour (a b c : UInt8) :
    ∃ x y z w, x < 64 ∧ y < 64 ∧ z < 64 ∧ w < 64 ∧ [a, b, c] = ofFour x y z w := by
  have ha := a.toNat_lt
  have hb := b.toNat_lt
  have hc := c.toNat_lt
  refine ⟨a.toNat / 4, a.toNat % 4 * 16 + b.toNat / 16, b.toNat % 16 * 4 + c.toNat / 64,
    c.toNat % 64, by omega, by omega, by omega, by omega, ?_⟩
  rw [ofFour, ← @eq_ofNat a _ (by omega), ← @eq_ofNat b _ (by omega), ← @eq_ofNat c _ (by omega)]

theorem encodeBytes_ofFour (hx : x < 64) (hy : y < 64) (hz : z < 64) (hw : w < 64)
    (rest : List UInt8) :
    encodeBytes alphabet (ofFour x y z w ++ rest) =
      alphabet.symbolByte x :: alphabet.symbolByte y :: alphabet.symbolByte z ::
        alphabet.symbolByte w :: encodeBytes alphabet rest := by
  have ha := toNat_firstByte hx hy
  have hb := @toNat_secondByte y z hz
  have hc : (UInt8.ofNat (z % 4 * 64 + w)).toNat = z % 4 * 64 + w := by
    rw [UInt8.toNat_ofNat']
    omega
  simp only [ofFour, List.cons_append, List.nil_append, encodeBytes, encode, ha, hb, hc]
  obtain ⟨n, hn⟩ : ∃ n, n = (x * 4 + y / 16) * 65536 + (y % 16 * 16 + z / 4) * 256 + (z % 4 * 64 + w) :=
    ⟨_, rfl⟩
  rw [← hn, show n / 262144 = x by omega, show n / 4096 % 64 = y by omega,
    show n / 64 % 64 = z by omega, show n % 64 = w by omega]
  rfl

theorem exists_ofThree (a b : UInt8) :
    ∃ x y z, x < 64 ∧ y < 64 ∧ z < 64 ∧ z % 4 = 0 ∧
      a = UInt8.ofNat (x * 4 + y / 16) ∧ b = UInt8.ofNat (y % 16 * 16 + z / 4) := by
  have ha := a.toNat_lt
  have hb := b.toNat_lt
  exact ⟨a.toNat / 4, a.toNat % 4 * 16 + b.toNat / 16, b.toNat % 16 * 4, by omega, by omega,
    by omega, by omega, eq_ofNat (by omega), eq_ofNat (by omega)⟩

theorem encodeBytes_ofThree (hx : x < 64) (hy : y < 64) (hz : z < 64) (hlast : z % 4 = 0) :
    encodeBytes alphabet [UInt8.ofNat (x * 4 + y / 16), UInt8.ofNat (y % 16 * 16 + z / 4)] =
      [alphabet.symbolByte x, alphabet.symbolByte y, alphabet.symbolByte z, fill] := by
  have ha := toNat_firstByte hx hy
  have hb := @toNat_secondByte y z hz
  simp only [encodeBytes, encode, ha, hb]
  obtain ⟨n, hn⟩ : ∃ n, n = (x * 4 + y / 16) * 1024 + (y % 16 * 16 + z / 4) * 4 := ⟨_, rfl⟩
  rw [← hn, show n / 4096 = x by omega, show n / 64 % 64 = y by omega, show n % 64 = z by omega]
  rfl

theorem exists_ofTwo (a : UInt8) :
    ∃ x y, x < 64 ∧ y < 64 ∧ y % 16 = 0 ∧ a = UInt8.ofNat (x * 4 + y / 16) := by
  have ha := a.toNat_lt
  refine ⟨a.toNat / 4, a.toNat % 4 * 16, by omega, by omega, by omega, ?_⟩
  rw [show a.toNat / 4 * 4 + a.toNat % 4 * 16 / 16 = a.toNat by omega, UInt8.ofNat_toNat]

theorem encodeBytes_ofTwo (hx : x < 64) (hy : y < 64) (hlast : y % 16 = 0) :
    encodeBytes alphabet [UInt8.ofNat (x * 4 + y / 16)] =
      [alphabet.symbolByte x, alphabet.symbolByte y, fill, fill] := by
  have ha := toNat_firstByte hx hy
  simp only [encodeBytes, encode, ha]
  rw [show (x * 4 + y / 16) / 4 = x by omega, show (x * 4 + y / 16) % 4 * 16 = y by omega]
  rfl

end Groups

/-! ## The last group -/

section Tail

variable {alphabet : Alphabet} {start fillings : Nat} {values : List Nat}

theorem value_eq_ok_iff {b : UInt8} {offset n : Nat} :
    value alphabet b offset = .ok n ↔ n < 64 ∧ b = alphabet.symbolByte n := by
  rw [value, ← alphabet.byteValue?_eq_some]
  cases alphabet.byteValue? b with
  | none => simp
  | some m => simp

theorem readTail_symbol {n : Nat} (h : n < 64) (s : List UInt8) :
    readTail alphabet start values 0 (alphabet.symbolByte n :: s) =
      readTail alphabet start (n :: values) 0 s := by
  rw [readTail, if_neg (alphabet.symbolByte_ne_fill h), if_neg (by omega),
    value_eq_ok_iff.mpr ⟨h, rfl⟩]
  rfl

theorem readTail_fill (h : 2 ≤ values.length + fillings) (s : List UInt8) :
    readTail alphabet start values fillings (fill :: s) =
      readTail alphabet start values (fillings + 1) s := by
  rw [readTail, if_pos rfl, if_neg (by omega)]

/-- What is read is a row of symbols with fillings behind it. -/
theorem eq_append_of_readTail {s : List UInt8} {read : List Nat} {filled : Nat}
    (h : readTail alphabet start values fillings s = .ok (read, filled)) :
    ∃ news k, s = news.map alphabet.symbolByte ++ List.replicate k fill ∧
      (∀ n ∈ news, n < 64) ∧ read = news.reverse ++ values ∧ filled = fillings + k ∧
      (0 < fillings → news = []) := by
  induction s generalizing values fillings with
  | nil =>
    rw [readTail] at h
    cases h
    exact ⟨[], 0, rfl, by simp, rfl, rfl, fun _ => rfl⟩
  | cons b s ih =>
    rw [readTail] at h
    split at h
    · rename_i hfill
      split at h
      · cases h
      obtain ⟨news, k, rfl, hnews, rfl, rfl, hnone⟩ := ih h
      obtain rfl := hnone (Nat.succ_pos _)
      refine ⟨[], k + 1, ?_, by simp, rfl, by omega, fun _ => rfl⟩
      rw [hfill]
      rfl
    · split at h
      · cases h
      rename_i hzero
      cases hvalue : value alphabet b (start + values.length) with
      | error fault =>
        rw [hvalue] at h
        cases h
      | ok n =>
        rw [hvalue] at h
        obtain ⟨hn, rfl⟩ := value_eq_ok_iff.mp hvalue
        obtain ⟨news, k, rfl, hnews, rfl, rfl, -⟩ := ih h
        refine ⟨n :: news, k, rfl, ?_, by simp, by omega, fun hpos => absurd hpos hzero⟩
        intro m hm
        rcases List.mem_cons.mp hm with rfl | hm
        · exact hn
        · exact hnews m hm

/-- The bytes of the values of two to four symbols, the newest first. -/
def ofValues (start : Nat) (last : UInt8) : List Nat → Except Fault (List UInt8)
  | [y, x] =>
    if y % 16 ≠ 0 then .error (.lastSymbol last (start + 1)) else .ok [UInt8.ofNat (x * 4 + y / 16)]
  | [z, y, x] =>
    if z % 4 ≠ 0 then .error (.lastSymbol last (start + 2))
    else .ok [UInt8.ofNat (x * 4 + y / 16), UInt8.ofNat (y % 16 * 16 + z / 4)]
  | w :: z :: y :: x :: _ => .ok (ofFour x y z w)
  | _ => .ok []

section Read

variable {s : List UInt8} {read : List Nat} {filled : Nat}

theorem decodeTail_eq (h : readTail alphabet start [] 0 s = .ok (read, filled)) (hs : s ≠ []) :
    decodeTail alphabet start s =
      if read.length < 2 then .error (.length (start + read.length))
      else if (read.length + filled) % 4 ≠ 0 then .error .padding
      else ofValues start ((s[read.length - 1]?).getD 0) read := by
  rw [decodeTail, h]
  change (if s.isEmpty = true then _ else _) = _
  rw [if_neg (by simpa using hs)]
  by_cases hshort : read.length < 2
  · rw [if_pos hshort, if_pos hshort]
    rfl
  rw [if_neg hshort, if_neg hshort]
  by_cases hfull : (read.length + filled) % 4 ≠ 0
  · rw [if_pos hfull, if_pos hfull]
    rfl
  · rw [if_neg hfull, if_neg hfull]
    match read, hshort with
    | [], hshort | [_], hshort => exact absurd (by simp) hshort
    | [y, x], _ => rfl
    | [z, y, x], _ => rfl
    | w :: z :: y :: x :: rest, _ => rfl

end Read

theorem decodeTail_encodeBytes {bytes : List UInt8} (h : bytes.length ≤ 3) :
    decodeTail alphabet start (encodeBytes alphabet bytes) = .ok bytes := by
  match bytes, h with
  | [], _ => rfl
  | [a], _ =>
    obtain ⟨x, y, hx, hy, hlast, rfl⟩ := exists_ofTwo a
    have hread : readTail alphabet start [] 0
        [alphabet.symbolByte x, alphabet.symbolByte y, fill, fill] = .ok ([y, x], 2) := by
      rw [readTail_symbol hx, readTail_symbol hy, readTail_fill (by simp), readTail_fill (by simp)]
      rfl
    rw [encodeBytes_ofTwo alphabet hx hy hlast, decodeTail_eq hread (by simp)]
    simp [ofValues, hlast]
  | [a, b], _ =>
    obtain ⟨x, y, z, hx, hy, hz, hlast, rfl, rfl⟩ := exists_ofThree a b
    have hread : readTail alphabet start [] 0
        [alphabet.symbolByte x, alphabet.symbolByte y, alphabet.symbolByte z, fill] =
          .ok ([z, y, x], 1) := by
      rw [readTail_symbol hx, readTail_symbol hy, readTail_symbol hz, readTail_fill (by simp)]
      rfl
    rw [encodeBytes_ofThree alphabet hx hy hz hlast, decodeTail_eq hread (by simp)]
    simp [ofValues, hlast]
  | [a, b, c], _ =>
    obtain ⟨x, y, z, w, hx, hy, hz, hw, hbytes⟩ := exists_ofFour a b c
    have hencode := encodeBytes_ofFour alphabet hx hy hz hw []
    have hread : readTail alphabet start [] 0 [alphabet.symbolByte x, alphabet.symbolByte y,
        alphabet.symbolByte z, alphabet.symbolByte w] = .ok ([w, z, y, x], 0) := by
      rw [readTail_symbol hx, readTail_symbol hy, readTail_symbol hz, readTail_symbol hw]
      rfl
    have hnil : encodeBytes alphabet [] = [] := rfl
    rw [List.append_nil, hnil] at hencode
    rw [hbytes, hencode, decodeTail_eq hread (by simp)]
    simp [ofValues]

theorem eq_encodeBytes_of_decodeTail {s bytes : List UInt8} (hlength : s.length ≤ 4)
    (h : decodeTail alphabet start s = .ok bytes) : s = encodeBytes alphabet bytes := by
  by_cases hs : s = []
  · subst hs
    cases h
    rfl
  cases hread : readTail alphabet start [] 0 s with
  | error fault =>
    rw [decodeTail, hread] at h
    cases h
  | ok result =>
    obtain ⟨read, filled⟩ := result
    rw [decodeTail_eq hread hs] at h
    split at h
    · cases h
    split at h
    · cases h
    rename_i htwo hfull
    obtain ⟨news, k, hshape, hnews, rfl, rfl, -⟩ := eq_append_of_readTail hread
    have hcount : s.length = news.length + k := by simp [hshape]
    simp only [List.append_nil, List.length_reverse, Nat.zero_add] at htwo hfull h
    -- Two to four symbols, filled up to four.
    match news, htwo with
    | [], htwo | [_], htwo => exact absurd (by simp) htwo
    | [x, y], _ =>
      obtain rfl : k = 2 := by
        simp only [List.length_cons, List.length_nil] at hfull hcount
        omega
      rw [List.reverse_cons, List.reverse_singleton, List.singleton_append, ofValues] at h
      split at h
      · cases h
      · rename_i hlast
        cases h
        rw [encodeBytes_ofTwo alphabet (hnews x (by simp)) (hnews y (by simp)) (by omega), hshape]
        rfl
    | [x, y, z], _ =>
      obtain rfl : k = 1 := by
        simp only [List.length_cons, List.length_nil] at hfull hcount
        omega
      change (if z % 4 ≠ 0 then _ else _) = _ at h
      split at h
      · cases h
      · rename_i hlast
        cases h
        rw [encodeBytes_ofThree alphabet (hnews x (by simp)) (hnews y (by simp)) (hnews z (by simp))
          (by omega), hshape]
        rfl
    | [x, y, z, w], _ =>
      obtain rfl : k = 0 := by
        simp only [List.length_cons, List.length_nil] at hcount
        omega
      cases h
      have hencode := encodeBytes_ofFour alphabet (hnews x (by simp)) (hnews y (by simp))
        (hnews z (by simp)) (hnews w (by simp)) []
      rw [List.append_nil] at hencode
      rw [hencode, hshape]
      rfl
    | _ :: _ :: _ :: _ :: _ :: more, _ =>
      simp only [List.length_cons] at hcount
      omega

end Tail

/-! ## Whole texts -/

section Whole

variable {alphabet : Alphabet}

theorem encodeBytes_ne_nil {bytes : List UInt8} (h : bytes ≠ []) : encodeBytes alphabet bytes ≠ [] := by
  rw [encodeBytes]
  match bytes, h with
  | [a], _ => simp [encode]
  | [a, b], _ => simp [encode]
  | a :: b :: c :: rest, _ => simp [encode]

/-- Four symbols with something behind them are read first. -/
theorem decodeFrom_four {x y z w : Nat} (hx : x < 64) (hy : y < 64) (hz : z < 64) (hw : w < 64)
    (start : Nat) {s : List UInt8} (hs : s ≠ []) :
    decodeFrom alphabet start (alphabet.symbolByte x :: alphabet.symbolByte y ::
        alphabet.symbolByte z :: alphabet.symbolByte w :: s) =
      (decodeFrom alphabet (start + 4) s).map (ofFour x y z w ++ ·) := by
  have hvalue {n : Nat} (hn : n < 64) (offset : Nat) :
      value alphabet (alphabet.symbolByte n) offset = .ok n := value_eq_ok_iff.mpr ⟨hn, rfl⟩
  cases s with
  | nil => exact absurd rfl hs
  | cons e rest =>
    rw [decodeFrom, hvalue hx, hvalue hy, hvalue hz, hvalue hw]
    rfl

theorem decodeFrom_of_length_le {s : List UInt8} (h : s.length ≤ 4) (start : Nat) :
    decodeFrom alphabet start s = decodeTail alphabet start s := by
  match s, h with
  | [], _ | [_], _ | [_, _], _ | [_, _, _], _ | [_, _, _, _], _ => rfl
  | _ :: _ :: _ :: _ :: _ :: _, h => exact absurd h (by simp)

theorem length_encodeBytes (bytes : List UInt8) : (encodeBytes alphabet bytes).length % 4 = 0 := by
  rw [encodeBytes, List.length_map]
  induction bytes using encode.induct with
  | case1 a b c rest ih =>
    simp only [encode, List.length_cons]
    omega
  | case2 a b => simp [encode]
  | case3 a => simp [encode]
  | case4 => rfl

theorem length_encodeBytes_le {bytes : List UInt8} (h : bytes.length ≤ 3) :
    (encodeBytes alphabet bytes).length ≤ 4 := by
  rw [encodeBytes, List.length_map]
  match bytes, h with
  | [], _ | [_], _ | [_, _], _ | [_, _, _], _ => simp [encode]

theorem decodeFrom_encodeBytes (start : Nat) (bytes : List UInt8) :
    decodeFrom alphabet start (encodeBytes alphabet bytes) = .ok bytes := by
  have hshort {bytes : List UInt8} (h : bytes.length ≤ 3) (start : Nat) :
      decodeFrom alphabet start (encodeBytes alphabet bytes) = .ok bytes := by
    rw [decodeFrom_of_length_le (length_encodeBytes_le h), decodeTail_encodeBytes h]
  induction bytes using encode.induct generalizing start with
  | case1 a b c rest ih =>
    by_cases hrest : rest = []
    · rw [hrest]
      exact hshort (by simp) start
    · obtain ⟨x, y, z, w, hx, hy, hz, hw, hbytes⟩ := exists_ofFour a b c
      have hgroup : a :: b :: c :: rest = ofFour x y z w ++ rest := by
        rw [← hbytes]
        rfl
      rw [hgroup, encodeBytes_ofFour alphabet hx hy hz hw,
        decodeFrom_four hx hy hz hw start (encodeBytes_ne_nil hrest), ih]
      rfl
  | case2 a b => exact hshort (by simp) start
  | case3 a => exact hshort (by simp) start
  | case4 => rfl

theorem eq_encodeBytes_of_decodeFrom {start : Nat} {s bytes : List UInt8}
    (h : decodeFrom alphabet start s = .ok bytes) : s = encodeBytes alphabet bytes := by
  fun_induction decodeFrom alphabet start s generalizing bytes with
  | case1 start a b c d e rest ih =>
    cases ha : value alphabet a start with
    | error fault => rw [ha] at h; cases h
    | ok x =>
    cases hb : value alphabet b (start + 1) with
    | error fault => rw [ha, hb] at h; cases h
    | ok y =>
    cases hc : value alphabet c (start + 2) with
    | error fault => rw [ha, hb, hc] at h; cases h
    | ok z =>
    cases hd : value alphabet d (start + 3) with
    | error fault => rw [ha, hb, hc, hd] at h; cases h
    | ok w =>
    obtain ⟨hx, rfl⟩ := value_eq_ok_iff.mp ha
    obtain ⟨hy, rfl⟩ := value_eq_ok_iff.mp hb
    obtain ⟨hz, rfl⟩ := value_eq_ok_iff.mp hc
    obtain ⟨hw, rfl⟩ := value_eq_ok_iff.mp hd
    cases hmore : decodeFrom alphabet (start + 4) (e :: rest) with
    | error fault => rw [ha, hb, hc, hd, hmore] at h; cases h
    | ok more =>
      rw [ha, hb, hc, hd, hmore] at h
      cases h
      rw [ih hmore]
      exact (encodeBytes_ofFour alphabet hx hy hz hw more).symm
  | case2 start s hshort =>
    refine eq_encodeBytes_of_decodeTail ?_ h
    match s, hshort with
    | [], _ | [_], _ | [_, _], _ | [_, _, _], _ | [_, _, _, _], _ => simp
    | a :: b :: c :: d :: e :: rest, hshort => exact absurd rfl (hshort a b c d e rest)

theorem decode_eq_ok_iff {s bytes : List UInt8} :
    decode alphabet s = .ok bytes ↔ s = encodeBytes alphabet bytes := by
  constructor
  · intro h
    rw [decode] at h
    cases hstray : straySymbol? alphabet s with
    | some stray => rw [hstray] at h; cases h
    | none =>
      rw [hstray] at h
      exact eq_encodeBytes_of_decodeFrom h
  · rintro rfl
    have hstray : straySymbol? alphabet (encodeBytes alphabet bytes) = none := by
      have hlength : (encodeBytes alphabet bytes).length % 4 = 0 := length_encodeBytes bytes
      unfold straySymbol?
      split
      · rw [if_neg (by omega)]
      · rfl
    rw [decode, hstray]
    exact decodeFrom_encodeBytes 0 bytes

end Whole

end Base64
end Kitchen
