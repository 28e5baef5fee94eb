import Kitchen.Proofs.Highlight.Maps
import Kitchen.Proofs.Operation.Base64
import Kitchen.Proofs.Operation.Hex

/-!
# What a range has an influence on

Bytes of one range have an influence on one stretch of the text that encoders write. Two lists of bytes
that agree outside a range are written as texts that agree outside the image of the range, so the offsets
that the maps give say where a change of the input can be seen at most.
-/

namespace Kitchen

open Text

/-! ## Places in written bytes -/

namespace Hex

variable {delimiter : List Char}

private theorem encode_cons (b : UInt8) (rest : List UInt8) :
    encode delimiter (b :: rest) =
      hexPair b ++ if rest = [] then [] else delimiter ++ encode delimiter rest := by
  cases rest with
  | nil => simp [encode, joinWith]
  | cons next rest =>
    rw [if_neg (List.cons_ne_nil _ _), ← List.append_assoc]
    rfl

private theorem length_hexPair (b : UInt8) : (hexPair b).length = 2 := rfl

theorem length_encode (bytes : List UInt8) :
    (encode delimiter bytes).length = bytes.length * (2 + delimiter.length) - delimiter.length := by
  induction bytes with
  | nil => simp [encode, joinWith]
  | cons b rest ih =>
    rw [encode_cons, List.length_append, length_hexPair, List.length_cons, Nat.succ_mul]
    split
    case isTrue hrest => simp [hrest]
    case isFalse hrest =>
      obtain ⟨n, hn⟩ := Nat.exists_eq_succ_of_ne_zero (mt List.length_eq_zero_iff.mp hrest)
      have hmul : (n + 1) * (2 + delimiter.length) = n * (2 + delimiter.length) + (2 + delimiter.length) :=
        Nat.succ_mul _ _
      rw [List.length_append, ih, hn, Nat.succ_eq_add_one, hmul]
      omega

/-- A place in the pair of a byte depends on this byte alone, one in a delimiter on none. -/
theorem getElem?_encode_congr {a b : List UInt8} (hlength : a.length = b.length) {j : Nat}
    (h : j % (2 + delimiter.length) < 2 →
      a[j / (2 + delimiter.length)]? = b[j / (2 + delimiter.length)]?) :
    (encode delimiter a)[j]? = (encode delimiter b)[j]? := by
  induction a generalizing b j with
  | nil => rw [List.length_eq_zero_iff.mp hlength.symm]
  | cons x rest ih =>
    obtain ⟨y, rest', rfl⟩ := List.exists_cons_of_length_eq_add_one hlength.symm
    have hrest : rest.length = rest'.length := Nat.succ.inj hlength
    have hnil : rest = [] ↔ rest' = [] := by
      rw [← List.length_eq_zero_iff, ← List.length_eq_zero_iff, hrest]
    rw [encode_cons, encode_cons]
    by_cases hpair : j < 2
    · have hzero : j / (2 + delimiter.length) = 0 := Nat.div_eq_of_lt (by omega)
      have hmod : j % (2 + delimiter.length) = j := Nat.mod_eq_of_lt (by omega)
      rw [hmod, hzero] at h
      obtain rfl : x = y := Option.some.inj (h hpair)
      rw [List.getElem?_append_left hpair, List.getElem?_append_left hpair]
    · rw [List.getElem?_append_right (Nat.not_lt.mp hpair), List.getElem?_append_right (Nat.not_lt.mp hpair),
        length_hexPair, length_hexPair]
      by_cases hlast : rest = []
      · rw [if_pos hlast, if_pos (hnil.mp hlast)]
      · rw [if_neg hlast, if_neg (mt hnil.mpr hlast)]
        by_cases hdelimiter : j - 2 < delimiter.length
        · rw [List.getElem?_append_left hdelimiter, List.getElem?_append_left hdelimiter]
        · obtain ⟨k, rfl⟩ : ∃ k, j = k + (2 + delimiter.length) := ⟨j - (2 + delimiter.length), by omega⟩
          have hk : k + (2 + delimiter.length) - 2 - delimiter.length = k := by omega
          rw [List.getElem?_append_right (Nat.not_lt.mp hdelimiter),
            List.getElem?_append_right (Nat.not_lt.mp hdelimiter), hk]
          apply ih hrest
          rwa [Nat.add_mod_right, Nat.add_div_right k (by omega), List.getElem?_cons_succ,
            List.getElem?_cons_succ] at h

end Hex

namespace Base64

variable (alphabet : Alphabet)

theorem length_encode (bytes : List UInt8) :
    (encode alphabet bytes).length = Encoding.divideUp bytes.length 3 * 4 := by
  induction bytes using encode.induct with
  | case1 a b c rest ih =>
    simp only [encode, List.length_cons, ih, Encoding.divideUp]
    omega
  | case2 a b => simp [encode, Encoding.divideUp]
  | case3 a => simp [encode, Encoding.divideUp]
  | case4 => rfl

/-- The last group may be short. Then it is all that is left. -/
private theorem getElem?_encode_short {a b : List UInt8} (hlength : a.length = b.length)
    (hshort : a.length < 3) {j : Nat} (h : ∀ i, j / 4 * 3 ≤ i → i < j / 4 * 3 + 3 → a[i]? = b[i]?) :
    (encode alphabet a)[j]? = (encode alphabet b)[j]? := by
  by_cases hj : j < 4
  · have hsame : a = b := by
      apply List.ext_getElem?
      intro i
      by_cases hi : i < 3
      · exact h i (by omega) (by omega)
      · rw [List.getElem?_eq_none (by omega), List.getElem?_eq_none (by omega)]
    rw [hsame]
  · have hgroup : Encoding.divideUp a.length 3 ≤ 1 := (Encoding.divideUp_le_iff (by decide)).mpr (by omega)
    rw [List.getElem?_eq_none (by rw [length_encode]; omega),
      List.getElem?_eq_none (by rw [length_encode, ← hlength]; omega)]

/-- A place in a group of symbols depends on the three bytes of the group. -/
theorem getElem?_encode_congr {a b : List UInt8} (hlength : a.length = b.length) {j : Nat}
    (h : ∀ i, j / 4 * 3 ≤ i → i < j / 4 * 3 + 3 → a[i]? = b[i]?) :
    (encode alphabet a)[j]? = (encode alphabet b)[j]? := by
  induction a using encode.induct generalizing b j with
  | case1 x y z rest ih =>
    obtain ⟨x', bytes, rfl⟩ := List.exists_cons_of_length_eq_add_one hlength.symm
    obtain ⟨y', bytes, rfl⟩ := List.exists_cons_of_length_eq_add_one (Nat.succ.inj hlength).symm
    obtain ⟨z', rest', rfl⟩ := List.exists_cons_of_length_eq_add_one (Nat.succ.inj (Nat.succ.inj hlength)).symm
    have hrest : rest.length = rest'.length := by simpa using hlength
    have hgroup (x y z : UInt8) (rest : List UInt8) :
        encode alphabet (x :: y :: z :: rest) = encode alphabet [x, y, z] ++ encode alphabet rest := rfl
    rw [hgroup, hgroup x']
    by_cases hj : j < 4
    · obtain rfl : x = x' := Option.some.inj (h 0 (by omega) (by omega))
      obtain rfl : y = y' := Option.some.inj (h 1 (by omega) (by omega))
      obtain rfl : z = z' := Option.some.inj (h 2 (by omega) (by omega))
      rw [List.getElem?_append_left hj, List.getElem?_append_left hj]
    · obtain ⟨k, rfl⟩ : ∃ k, j = k + 4 := ⟨j - 4, by omega⟩
      have hfour (x y z : UInt8) : (encode alphabet [x, y, z]).length = 4 := rfl
      rw [List.getElem?_append_right (Nat.le_add_left 4 k), List.getElem?_append_right (Nat.le_add_left 4 k),
        hfour, hfour, Nat.add_sub_cancel]
      apply ih hrest
      intro i hlow hhigh
      exact h (i + 3) (by omega) (by omega)
  | case2 x y => exact getElem?_encode_short alphabet hlength (by simp) h
  | case3 x => exact getElem?_encode_short alphabet hlength (by simp) h
  | case4 => exact getElem?_encode_short alphabet hlength (by simp) h

end Base64

/-! ## Images -/

namespace Encoding

open ByteRange

/-- Bytes are written so that those of a range have no influence outside the image of the range. For a
range of the bytes the image stands in what is written, if it is not empty like the range. -/
structure BoundsInfluence {α : Type} (write : List UInt8 → List α) (image : ByteRange → ByteRange) :
    Prop where
  length : ∀ {a b : List UInt8}, a.length = b.length → (write a).length = (write b).length
  agrees : ∀ {r : ByteRange} {a b : List UInt8}, a.length = b.length →
    (∀ i, i < r.start ∨ r.stop ≤ i → a[i]? = b[i]?) →
      ∀ j, j < (image r).start ∨ (image r).stop ≤ j → (write a)[j]? = (write b)[j]?
  inside : ∀ {r : ByteRange} {a : List UInt8}, r.IsOrdered → r.stop ≤ a.length →
    (image r).IsOrdered ∧
      ((image r).stop ≤ (write a).length ∨ r.start = r.stop ∧ (image r).start = (image r).stop)

theorem BoundsInfluence.map {α β : Type} {write : List UInt8 → List α} {image : ByteRange → ByteRange}
    (h : BoundsInfluence write image) (f : α → β) : BoundsInfluence (fun bytes => (write bytes).map f) image where
  length hlength := by rw [List.length_map, List.length_map, h.length hlength]
  agrees hlength hagree j hj := by rw [List.getElem?_map, List.getElem?_map, h.agrees hlength hagree j hj]
  inside hr hstop := by
    rw [List.length_map]
    exact h.inside hr hstop

theorem boundsInfluence_base64 (alphabet : Base64.Alphabet) :
    BoundsInfluence (Base64.encode alphabet) (regroup 3 4) where
  length hlength := by rw [Base64.length_encode, Base64.length_encode, hlength]
  agrees {r a b} hlength hagree j hj := by
    apply Base64.getElem?_encode_congr alphabet hlength
    intro i hlow hhigh
    apply hagree
    have hstop := le_divideUp_mul r.stop (show 0 < 3 by decide)
    simp only [regroup] at hj
    omega
  inside {r a} hr hstop := by
    refine ⟨hr.regroup (by decide), .inl ?_⟩
    rw [Base64.length_encode]
    exact Nat.mul_le_mul_right 4 (divideUp_mono (by decide) hstop)

theorem boundsInfluence_hex (delimiter : List Char) :
    BoundsInfluence (Hex.encode delimiter) (spread (2 + delimiter.length)) where
  length hlength := by rw [Hex.length_encode, Hex.length_encode, hlength]
  agrees {r a b} hlength hagree j hj := by
    apply Hex.getElem?_encode_congr hlength
    intro hpair
    apply hagree
    have hpos : 0 < 2 + delimiter.length := by omega
    rcases hj with hj | hj
    · exact .inl ((Nat.div_lt_iff_lt_mul hpos).mpr hj)
    · right
      by_contra hlt
      -- The place stands in the pair of a byte of the range, and so before the end of the image.
      have hplace := Nat.div_add_mod j (2 + delimiter.length)
      have hmul : (j / (2 + delimiter.length) + 1) * (2 + delimiter.length) ≤
          r.stop * (2 + delimiter.length) := Nat.mul_le_mul_right _ (Nat.not_le.mp hlt)
      rw [Nat.succ_mul, Nat.mul_comm] at hmul
      simp only [spread] at hj
      omega
  inside {r a} hr hstop := by
    refine ⟨isOrdered_spread r, ?_⟩
    rcases Nat.eq_or_lt_of_le hr with hempty | hlt
    · refine .inr ⟨hempty, ?_⟩
      simp only [spread, hempty]
      omega
    · left
      have hlow : (r.start + 1) * (2 + delimiter.length) ≤ r.stop * (2 + delimiter.length) :=
        Nat.mul_le_mul_right _ hlt
      have hhigh : r.stop * (2 + delimiter.length) ≤ a.length * (2 + delimiter.length) :=
        Nat.mul_le_mul_right _ hstop
      rw [Nat.succ_mul] at hlow
      rw [Hex.length_encode]
      simp only [spread]
      omega

/-! ## Encoders -/

private theorem delimiterAt_ascii (args : List Argument) (i : Nat) : ∀ c ∈ delimiterAt args i, c.toNat < 128 := by
  have hall : (delimiterAt args i).all (·.toNat < 128) = true := by
    rw [delimiterAt]
    split <;> decide
  exact fun c hc => of_decide_eq_true (List.all_eq_true.mp hall c hc)

private theorem hexPair_ascii (b : UInt8) : ∀ c ∈ hexPair b, c.toNat < 128 := by
  have hdigit : ∀ n < 16, (hexDigit n).toNat < 128 := by decide
  have hb := b.toNat_lt
  intro c hc
  simp only [hexPair, List.mem_cons, List.not_mem_nil, or_false] at hc
  rcases hc with rfl | rfl
  · exact hdigit _ (by omega)
  · exact hdigit _ (by omega)

theorem utf8Encode_hex (args : List Argument) (bytes : List UInt8) :
    utf8Encode (String.ofList (Hex.encode (delimiterAt args 0) bytes)) =
      (Hex.encode (delimiterAt args 0) bytes).map fun c => UInt8.ofNat c.toNat := by
  apply utf8Encode_of_ascii
  induction bytes with
  | nil => simp [Hex.encode, joinWith]
  | cons b rest ih =>
    intro c hc
    rw [Hex.encode_cons] at hc
    rcases List.mem_append.mp hc with hc | hc
    · exact hexPair_ascii b c hc
    · split at hc
      · cases hc
      · rcases List.mem_append.mp hc with hc | hc
        · exact delimiterAt_ascii args 0 c hc
        · exact ih c hc

/-- Each encoder writes bytes as a text on which the bytes of a range have no influence outside the image
of the range. -/
theorem exists_boundsInfluence {operation : Operation} (h : operation ∈ [base64Encoder, hexEncoder])
    (args : List Argument) :
    ∃ map image, ∃ write : List UInt8 → String,
      operation.forward = some map ∧ (∀ ranges, map args ranges = ranges.map image) ∧
      (∀ context bytes log,
        operation.transform context args (.arrayBuffer bytes) log = (.ok (.string (write bytes)), log)) ∧
      BoundsInfluence (fun bytes => utf8Encode (write bytes)) image := by
  simp only [List.mem_cons, List.not_mem_nil, or_false] at h
  rcases h with rfl | rfl
  · obtain ⟨map, hmap, hmapped⟩ := (follows_base64Encoder args).forward
    refine ⟨map, _, _, hmap, hmapped, fun _ _ _ => rfl, ?_⟩
    simp only [Base64.utf8Encode_encode]
    exact (boundsInfluence_base64 _).map _
  · obtain ⟨map, hmap, hmapped⟩ := (follows_hexEncoder args).forward
    refine ⟨map, _, _, hmap, hmapped, fun _ _ _ => rfl, ?_⟩
    simp only [utf8Encode_hex]
    exact (boundsInfluence_hex _).map _

/-- Bytes of one length that agree outside a range are written as texts of one length that agree outside
its image. The image of a range of the bytes stands in the text, or it is empty like the range. -/
theorem image_bounds_influence {operation : Operation} (h : operation ∈ [base64Encoder, hexEncoder])
    (args : List Argument) (r : ByteRange) {a b : List UInt8} (hlength : a.length = b.length)
    (hagree : ∀ i, i < r.start ∨ r.stop ≤ i → a[i]? = b[i]?) :
    ∃ map image text other, operation.forward = some map ∧ map args [r] = [image] ∧
      (∀ context log, operation.transform context args (.arrayBuffer a) log = (.ok (.string text), log)) ∧
      (∀ context log, operation.transform context args (.arrayBuffer b) log = (.ok (.string other), log)) ∧
      (utf8Encode text).length = (utf8Encode other).length ∧
      (∀ j, j < image.start ∨ image.stop ≤ j → (utf8Encode text)[j]? = (utf8Encode other)[j]?) ∧
      (r.start ≤ r.stop → r.stop ≤ a.length →
        image.start ≤ image.stop ∧
          (image.stop ≤ (utf8Encode text).length ∨ r.start = r.stop ∧ image.start = image.stop)) := by
  obtain ⟨map, image, write, hmap, hmapped, hwrite, hbounds⟩ := exists_boundsInfluence h args
  refine ⟨map, image r, write a, write b, hmap, hmapped [r], ?_, ?_, hbounds.length hlength, ?_, ?_⟩
  · exact fun context log => hwrite context a log
  · exact fun context log => hwrite context b log
  · exact hbounds.agrees hlength hagree
  · exact hbounds.inside

/-- The last of two bytes with a comma before it. -/
theorem image_bounds_influence_comma :
    hexEncoder ∈ [base64Encoder, hexEncoder] ∧ ([0x00, 0x41] : List UInt8).length = [0x00, 0xFF].length ∧
      (∀ i, i < 1 ∨ 2 ≤ i → ([0x00, 0x41] : List UInt8)[i]? = [0x00, 0xFF][i]?) ∧
      ∃ map image text other, hexEncoder.forward = some map ∧
        map [.text "Comma"] [⟨1, 2⟩] = [image] ∧
        (∀ context log, hexEncoder.transform context [.text "Comma"] (.arrayBuffer [0x00, 0x41]) log =
          (.ok (.string text), log)) ∧
        (∀ context log, hexEncoder.transform context [.text "Comma"] (.arrayBuffer [0x00, 0xFF]) log =
          (.ok (.string other), log)) ∧
        (∀ j, j < image.start ∨ image.stop ≤ j → (utf8Encode text)[j]? = (utf8Encode other)[j]?) ∧
        image.stop ≤ (utf8Encode text).length := by
  have hmem : hexEncoder ∈ [base64Encoder, hexEncoder] := List.mem_cons_of_mem _ List.mem_cons_self
  have hagree : ∀ i, i < 1 ∨ 2 ≤ i → ([0x00, 0x41] : List UInt8)[i]? = [0x00, 0xFF][i]? := by
    intro i hi
    match i with
    | 0 => rfl
    | 1 => omega
    | i + 2 => rfl
  have hlength : ([0x00, 0x41] : List UInt8).length = ([0x00, 0xFF] : List UInt8).length := rfl
  obtain ⟨map, image, text, other, hmap, himage, htext, hother, -, hsame, hinside⟩ :=
    image_bounds_influence hmem [.text "Comma"] ⟨1, 2⟩ hlength hagree
  refine ⟨hmem, hlength, hagree, map, image, text, other, hmap, himage, htext, hother, hsame, ?_⟩
  rcases (hinside (by decide) (by decide)).2 with hstop | ⟨hempty, -⟩
  · exact hstop
  · exact absurd hempty (by decide)

/-- With a delimiter the empty range behind a byte is mapped behind the end of the text. -/
theorem not_inside_emptyRange :
    ∃ map, hexEncoder.forward = some map ∧ map [.text "Space"] [⟨1, 1⟩] = [⟨3, 3⟩] ∧
      toHex [.text "Space"] (.arrayBuffer [0x41]) = .ok (.string "41") ∧
      (utf8Encode "41").length = 2 :=
  ⟨_, rfl, rfl, rfl, rfl⟩

end Encoding
end Kitchen
