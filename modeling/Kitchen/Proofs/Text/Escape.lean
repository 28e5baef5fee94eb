import Kitchen.Proofs.Codec.Hex
import Kitchen.Text.Escape
import Mathlib.Data.List.Forall2
import Mathlib.Data.List.Induction

/-!
# Spelling texts with escapes

Every character has spellings by which it is read, and a text may be spelled character by character in
any mixture of them: no spelling runs into the next one. A text that is not read has a byte escape
without its two digits or a code point escape that names no character, behind pieces that are read.
-/

namespace Kitchen.Text

/-! ## Hexadecimal numbers -/

/-- The digits write a number to the base of sixteen, in either case and with zeros in front. -/
def WritesHex (digits : List Char) (n : Nat) : Prop :=
  ∃ zeros, digits.map Char.toLower = List.replicate zeros '0' ++ Nat.toDigits 16 n

theorem hexNumber_concat (digits : List Char) (c : Char) :
    hexNumber (digits ++ [c]) = hexNumber digits * 16 + hexValue c := by
  rw [hexNumber, List.foldl_append]
  rfl

theorem toDigits_of_lt_sixteen {n : Nat} (h : n < 16) : Nat.toDigits 16 n = [hexDigit n] := by
  have hall : ∀ n < 16, Nat.digitChar n = hexDigit n := by decide
  rw [Nat.toDigits_of_lt_base h, hall n h]

theorem toDigits_sixteen_mul_add {n : Nat} (hn : 0 < n) {d : Nat} (hd : d < 16) :
    Nat.toDigits 16 (n * 16 + d) = Nat.toDigits 16 n ++ [hexDigit d] := by
  rw [← toDigits_of_lt_sixteen hd, Nat.toDigits_append_toDigits (by decide) hn hd, Nat.mul_comm]

theorem isHexDigit_of_toLower {c : Char} (h : isHexDigit c.toLower = true) : isHexDigit c = true := by
  by_cases hcode : c.toNat < 128
  · have hall : ∀ n < 128, isHexDigit (Char.ofNat n).toLower = true →
        isHexDigit (Char.ofNat n) = true := by decide
    have hc := hall c.toNat hcode
    rw [Char.ofNat_toNat] at hc
    exact hc h
  · have hsame : c.toLower = c := by
      refine dif_neg fun hupper => hcode ?_
      have hle : c.toNat ≤ 90 := hupper.2
      omega
    rwa [hsame] at h

/-- The digits of a number are read as the number. -/
theorem hexNumber_toDigits (n : Nat) :
    hexNumber (Nat.toDigits 16 n) = n ∧ ∀ c ∈ Nat.toDigits 16 n, isHexDigit c = true := by
  induction n using Nat.strongRecOn with
  | ind n ih =>
    by_cases hsmall : n < 16
    · rw [toDigits_of_lt_sixteen hsmall]
      refine ⟨?_, ?_⟩
      · exact (Nat.zero_add _).trans (hexValue_hexDigit hsmall)
      · simpa using isHexDigit_hexDigit hsmall
    · have hlast : n % 16 < 16 := Nat.mod_lt n (by decide)
      obtain ⟨hnumber, hdigits⟩ := ih (n / 16) (by omega)
      have hsplit : Nat.toDigits 16 n = Nat.toDigits 16 (n / 16) ++ [hexDigit (n % 16)] := by
        rw [← toDigits_sixteen_mul_add (by omega) hlast, Nat.div_add_mod']
      rw [hsplit, hexNumber_concat, hnumber, hexValue_hexDigit hlast, Nat.div_add_mod']
      refine ⟨rfl, fun c hc => ?_⟩
      rcases List.mem_append.mp hc with hc | hc
      · exact hdigits c hc
      · rw [List.mem_singleton.mp hc]
        exact isHexDigit_hexDigit hlast

theorem hexNumber_replicate_append (zeros : Nat) (digits : List Char) :
    hexNumber (List.replicate zeros '0' ++ digits) = hexNumber digits := by
  induction zeros with
  | zero => rfl
  | succ zeros ih => exact ih

theorem hexNumber_map_toLower {digits : List Char} (h : ∀ c ∈ digits, isHexDigit c = true) :
    hexNumber (digits.map Char.toLower) = hexNumber digits := by
  induction digits using List.reverseRecOn with
  | nil => rfl
  | append_singleton digits c ih =>
    have hc := h c (by simp)
    have hdigits : ∀ d ∈ digits, isHexDigit d = true := fun d hd => h d (by simp [hd])
    rw [List.map_append, List.map_singleton, hexNumber_concat, hexNumber_concat, ih hdigits,
      (isHexDigit_recased hc).1.2]

/-- Digits write the number that they are read as, and no other one. -/
theorem writesHex_iff {digits : List Char} {n : Nat} :
    WritesHex digits n ↔
      digits ≠ [] ∧ (∀ c ∈ digits, isHexDigit c = true) ∧ hexNumber digits = n := by
  constructor
  · rintro ⟨zeros, hwritten⟩
    obtain ⟨hnumber, hall⟩ := hexNumber_toDigits n
    have hdigits : ∀ c ∈ digits, isHexDigit c = true := by
      intro c hc
      have hlower : c.toLower ∈ List.replicate zeros '0' ++ Nat.toDigits 16 n := by
        rw [← hwritten]
        exact List.mem_map_of_mem hc
      refine isHexDigit_of_toLower ?_
      rcases List.mem_append.mp hlower with hzero | hdigit
      · rw [List.eq_of_mem_replicate hzero]
        decide
      · exact hall _ hdigit
    refine ⟨?_, hdigits, ?_⟩
    · rintro rfl
      have hempty := (List.append_eq_nil_iff.mp hwritten.symm).2
      have hpos : 0 < (Nat.toDigits 16 n).length := Nat.length_toDigits_pos
      rw [hempty] at hpos
      cases hpos
    · rw [← hexNumber_map_toLower hdigits, hwritten, hexNumber_replicate_append, hnumber]
  · rintro ⟨hne, hdigits, rfl⟩
    induction digits using List.reverseRecOn with
    | nil => exact absurd rfl hne
    | append_singleton digits c ih =>
      have hc := hdigits c (by simp)
      have hvalue := hexValue_lt hc
      have hlower : hexDigit (hexValue c) = c.toLower := hexDigit_hexValue hc
      rw [hexNumber_concat]
      rcases List.eq_nil_or_concat digits with rfl | hconcat
      · refine ⟨0, ?_⟩
        rw [show hexNumber [] * 16 + hexValue c = hexValue c from Nat.zero_add _,
          toDigits_of_lt_sixteen hvalue, hlower]
        rfl
      · obtain ⟨zeros, hwritten⟩ := ih (by rcases hconcat with ⟨front, last, rfl⟩; simp)
          fun d hd => hdigits d (by simp [hd])
        rw [WritesHex, List.map_append, hwritten, List.map_singleton, ← hlower]
        rcases Nat.eq_zero_or_pos (hexNumber digits) with hzero | hpos
        · -- Only zeros so far: the last of them is one more in front of the new digit.
          refine ⟨zeros + 1, ?_⟩
          rw [hzero, Nat.zero_mul, Nat.zero_add, toDigits_of_lt_sixteen hvalue, Nat.toDigits_zero,
            List.replicate_succ']
        · refine ⟨zeros, ?_⟩
          rw [toDigits_sixteen_mul_add hpos hvalue, List.append_assoc]

/-! ## Spellings -/

/-- A spelling of a character. -/
inductive Spelling : Char → List Char → Prop where
  | itself {c : Char} (h : c ≠ '\\') : Spelling c [c]
  | backslash : Spelling '\\' ['\\', '\\']
  | lineFeed : Spelling '\n' ['\\', 'n']
  | carriageReturn : Spelling '\r' ['\\', 'r']
  | tab : Spelling '\t' ['\\', 't']
  | null : Spelling '\x00' ['\\', '0']
  | byte {c : Char} {digits : List Char} (hlength : digits.length = 2)
      (h : WritesHex digits c.toNat) : Spelling c ('\\' :: 'x' :: digits)
  | code {c : Char} {digits : List Char} (h : WritesHex digits c.toNat) :
      Spelling c ('\\' :: 'u' :: '{' :: (digits ++ ['}']))

/-- A text is spelled by spellings of its characters, one after another. -/
def Spells (text written : List Char) : Prop :=
  ∃ spellings, List.Forall₂ Spelling text spellings ∧ written = spellings.flatten

/-- The letters that mean something behind a backslash. -/
def escapeLetters : List Char := ['n', 'r', 't', '0', '\\', 'x', 'u']

/-- A piece of a text and what it is read as: a character by a spelling, or a backslash and a letter
without meaning, which stand for themselves. -/
inductive Piece : List Char → List Char → Prop where
  | spelling {c : Char} {written : List Char} (h : Spelling c written) : Piece written [c]
  | unknown {c : Char} (h : c ∉ escapeLetters) : Piece ['\\', c] ['\\', c]

/-- A text begins with an escape that lacks its digits or names no character. -/
inductive BeginsBroken : List Char → Prop where
  | byte {after : List Char}
      (h : ∀ digits rest, after = digits ++ rest → digits.length = 2 →
        ¬ ∀ d ∈ digits, isHexDigit d = true) : BeginsBroken ('\\' :: 'x' :: after)
  | code {after : List Char}
      (h : ∀ c digits rest, WritesHex digits (Char.toNat c) →
        after ≠ '{' :: (digits ++ '}' :: rest)) : BeginsBroken ('\\' :: 'u' :: after)

/-- Behind some pieces a text has a broken escape. -/
def HasBrokenEscape (text : List Char) : Prop :=
  ∃ (pieces : List (List Char)) (after : List Char), text = pieces.flatten ++ after ∧
    (∀ piece ∈ pieces, ∃ read, Piece piece read) ∧ BeginsBroken after

/-! ## Reading -/

theorem charOfCode_of_writesHex {digits : List Char} {c : Char} (h : WritesHex digits c.toNat) :
    charOfCode digits = .ok c := by
  obtain ⟨-, -, hnumber⟩ := writesHex_iff.mp h
  have hvalid : (hexNumber digits).isValidChar := hnumber ▸ c.valid
  have hsmall : ¬ twoTo 32 ≤ hexNumber digits := by
    have hc : c.toNat < 4294967296 := c.val.toBitVec.isLt
    have hlimit : twoTo 32 = 4294967296 := rfl
    omega
  have hchar : Char.ofNatAux _ hvalid = c := Char.toNat_inj.mp hnumber
  rw [charOfCode, if_neg hsmall, dif_pos hvalid, hchar]

/-- Digits that name no character are refused. -/
theorem exists_charOfCode_eq_error {digits : List Char} (hne : digits ≠ [])
    (hdigits : ∀ d ∈ digits, isHexDigit d = true) (h : ∀ c, ¬ WritesHex digits (Char.toNat c)) :
    ∃ fault, charOfCode digits = .error fault := by
  have hinvalid : ¬ (hexNumber digits).isValidChar := fun hvalid =>
    h (Char.ofNatAux _ hvalid) (writesHex_iff.mpr ⟨hne, hdigits, rfl⟩)
  by_cases hlarge : twoTo 32 ≤ hexNumber digits
  · exact ⟨_, if_pos hlarge⟩
  · rw [charOfCode, if_neg hlarge, dif_neg hinvalid]
    exact ⟨_, rfl⟩

/-- The digits of a code point are collected. -/
theorem unescapeFrom_code_digits {digits : List Char} (h : ∀ d ∈ digits, isHexDigit d = true)
    (seen s : List Char) :
    unescapeFrom (.code seen) (digits ++ s) = unescapeFrom (.code (digits.reverse ++ seen)) s := by
  induction digits generalizing seen with
  | nil => rfl
  | cons d digits ih =>
    obtain ⟨hd, hdigits⟩ := List.forall_mem_cons.mp h
    rw [List.cons_append, unescapeFrom, if_pos hd, ih hdigits, List.reverse_cons, List.append_assoc,
      List.singleton_append]

theorem unescapeFrom_plain {c : Char} (h : c ≠ '\\') (s : List Char) :
    unescapeFrom .plain (c :: s) = (unescapeFrom .plain s).map (c :: ·) := by
  rw [unescapeFrom, if_neg h]

theorem unescapeFrom_backslash (s : List Char) :
    unescapeFrom .plain ('\\' :: s) = unescapeFrom .backslash s := by
  rw [unescapeFrom, if_pos rfl]

/-- A spelling is read as its character, whatever follows. -/
theorem unescapeFrom_spelling {c : Char} {written : List Char} (h : Spelling c written)
    (s : List Char) :
    unescapeFrom .plain (written ++ s) = (unescapeFrom .plain s).map (c :: ·) := by
  cases h with
  | itself h => exact unescapeFrom_plain h s
  | backslash => exact unescapeFrom_backslash _
  | lineFeed => exact unescapeFrom_backslash _
  | carriageReturn => exact unescapeFrom_backslash _
  | tab => exact unescapeFrom_backslash _
  | null => exact unescapeFrom_backslash _
  | @byte _ digits hlength h =>
    obtain ⟨high, low, rfl⟩ := List.length_eq_two.mp hlength
    obtain ⟨-, hdigits, hnumber⟩ := writesHex_iff.mp h
    have hhigh : isHexDigit high = true := hdigits high (by simp)
    have hlow : isHexDigit low = true := hdigits low (by simp)
    have hstart : unescapeFrom .plain (('\\' :: 'x' :: [high, low]) ++ s) =
        unescapeFrom (.byte []) (high :: low :: s) := unescapeFrom_backslash _
    rw [hstart, unescapeFrom, if_pos hhigh, unescapeFrom, if_pos hlow, hnumber, Char.ofNat_toNat]
  | @code _ digits h =>
    obtain ⟨hne, hdigits, -⟩ := writesHex_iff.mp h
    have htext : ('\\' :: 'u' :: '{' :: (digits ++ ['}'])) ++ s =
        '\\' :: 'u' :: '{' :: (digits ++ '}' :: s) := by simp
    have hstart : unescapeFrom .plain ('\\' :: 'u' :: '{' :: (digits ++ '}' :: s)) =
        unescapeFrom (.code []) (digits ++ '}' :: s) := unescapeFrom_backslash _
    have hnonempty : digits.reverse.isEmpty = false := by simpa using hne
    rw [htext, hstart, unescapeFrom_code_digits hdigits, List.append_nil, unescapeFrom,
      if_neg (by decide), hnonempty, List.reverse_reverse, charOfCode_of_writesHex h]
    rfl

theorem unescapeFrom_unknown {c : Char} (h : c ∉ escapeLetters) (s : List Char) :
    unescapeFrom .plain ('\\' :: c :: s) = (unescapeFrom .plain s).map (['\\', c] ++ ·) := by
  have hne : ∀ letter ∈ escapeLetters, c = letter → False := by
    rintro letter hletter rfl
    exact h hletter
  rw [unescapeFrom_backslash, unescapeFrom]
  · rfl
  all_goals exact hne _ (by decide)

/-- A piece is read as it is by itself, whatever follows. -/
theorem unescapeFrom_piece {written read : List Char} (h : Piece written read) (s : List Char) :
    unescapeFrom .plain (written ++ s) = (unescapeFrom .plain s).map (read ++ ·) := by
  cases h with
  | spelling h => exact unescapeFrom_spelling h s
  | unknown h => exact unescapeFrom_unknown h s

/-- A text as the hexadecimal digits that it begins with and what comes behind them. -/
theorem exists_hexDigits (s : List Char) :
    ∃ digits rest, s = digits ++ rest ∧ (∀ d ∈ digits, isHexDigit d = true) ∧
      ∀ c ∈ rest.head?, isHexDigit c = false := by
  refine ⟨s.takeWhile isHexDigit, s.dropWhile isHexDigit, List.takeWhile_append_dropWhile.symm,
    List.all_eq_true.mp List.all_takeWhile, fun c hc => ?_⟩
  have hhead := List.head?_dropWhile_not isHexDigit s
  rw [Option.mem_def.mp hc] at hhead
  simpa using hhead

/-- A broken escape is refused. -/
theorem exists_unescapeFrom_eq_error {s : List Char} (h : BeginsBroken s) :
    ∃ fault, unescapeFrom .plain s = .error fault := by
  cases h with
  | @byte after h =>
    have hstart : unescapeFrom .plain ('\\' :: 'x' :: after) = unescapeFrom (.byte []) after :=
      unescapeFrom_backslash _
    refine ⟨.byteDigits, hstart.trans ?_⟩
    match after, h with
    | [], _ => rfl
    | [high], _ =>
      rw [unescapeFrom]
      split <;> rfl
    | high :: low :: rest, h =>
      have hdigits : ¬ (isHexDigit high = true ∧ isHexDigit low = true) := by
        simpa using h [high, low] rest rfl rfl
      rw [unescapeFrom]
      split
      case isTrue hhigh => rw [unescapeFrom, if_neg fun hlow => hdigits ⟨hhigh, hlow⟩]
      case isFalse => rfl
  | @code after h =>
    have hstart : unescapeFrom .plain ('\\' :: 'u' :: after) = unescapeFrom .brace after :=
      unescapeFrom_backslash _
    rw [hstart]
    match after, h with
    | [], _ => exact ⟨_, rfl⟩
    | c :: s, h =>
      rw [unescapeFrom]
      split
      case isFalse => exact ⟨_, rfl⟩
      case isTrue hbrace =>
        obtain ⟨digits, rest, rfl, hdigits, hend⟩ := exists_hexDigits s
        rw [unescapeFrom_code_digits hdigits, List.append_nil]
        match rest, hend, h with
        | [], _, _ => exact ⟨_, rfl⟩
        | d :: rest, hend, h =>
          rw [unescapeFrom, hend d rfl, if_neg Bool.false_ne_true]
          split
          case isFalse => exact ⟨_, rfl⟩
          case isTrue hclose =>
            obtain ⟨rfl, hne⟩ : d = '}' ∧ digits ≠ [] := by simpa using hclose
            have hnone (e : Char) : ¬ WritesHex digits e.toNat :=
              fun hwrites => h e digits rest hwrites (by rw [hbrace])
            obtain ⟨fault, hfault⟩ := exists_charOfCode_eq_error hne hdigits hnone
            rw [List.reverse_reverse, hfault]
            exact ⟨fault, rfl⟩

/-- Two digits are a byte escape of some character. -/
theorem exists_spelling_byte {digits : List Char} (hlength : digits.length = 2)
    (hdigits : ∀ d ∈ digits, isHexDigit d = true) : ∃ c, Spelling c ('\\' :: 'x' :: digits) := by
  obtain ⟨high, low, rfl⟩ := List.length_eq_two.mp hlength
  have hhigh := hexValue_lt (hdigits high (by simp))
  have hlow := hexValue_lt (hdigits low (by simp))
  have hnumber : hexNumber [high, low] = (0 * 16 + hexValue high) * 16 + hexValue low := rfl
  have hvalid : (hexNumber [high, low]).isValidChar := .inl (by omega)
  exact ⟨Char.ofNatAux _ hvalid, .byte rfl (writesHex_iff.mpr ⟨List.cons_ne_nil _ _, hdigits, rfl⟩)⟩

/-- A text is at its end, at a backslash at its end, before a piece, or before a broken escape. -/
theorem piece_cases (s : List Char) :
    s = [] ∨ s = ['\\'] ∨ (∃ written read rest, Piece written read ∧ written ≠ [] ∧
      s = written ++ rest) ∨ BeginsBroken s := by
  match s with
  | [] => exact .inl rfl
  | c :: s =>
    right
    by_cases hc : c = '\\'
    case neg => exact .inr (.inl ⟨[c], [c], s, .spelling (.itself hc), List.cons_ne_nil _ _, rfl⟩)
    subst hc
    match s with
    | [] => exact .inl rfl
    | letter :: s =>
      right
      by_cases hletter : letter ∈ escapeLetters
      case neg => exact .inl ⟨_, _, s, .unknown hletter, List.cons_ne_nil _ _, rfl⟩
      simp only [escapeLetters, List.mem_cons, List.not_mem_nil, or_false] at hletter
      rcases hletter with rfl | rfl | rfl | rfl | rfl | rfl | rfl
      · exact .inl ⟨_, _, s, .spelling .lineFeed, List.cons_ne_nil _ _, rfl⟩
      · exact .inl ⟨_, _, s, .spelling .carriageReturn, List.cons_ne_nil _ _, rfl⟩
      · exact .inl ⟨_, _, s, .spelling .tab, List.cons_ne_nil _ _, rfl⟩
      · exact .inl ⟨_, _, s, .spelling .null, List.cons_ne_nil _ _, rfl⟩
      · exact .inl ⟨_, _, s, .spelling .backslash, List.cons_ne_nil _ _, rfl⟩
      · by_cases hbyte : ∃ digits rest, s = digits ++ rest ∧ digits.length = 2 ∧
            ∀ d ∈ digits, isHexDigit d = true
        case neg => exact .inr (.byte fun digits rest hs hlength hdigits =>
          hbyte ⟨digits, rest, hs, hlength, hdigits⟩)
        obtain ⟨digits, rest, rfl, hlength, hdigits⟩ := hbyte
        obtain ⟨c, hspelling⟩ := exists_spelling_byte hlength hdigits
        exact .inl ⟨_, _, rest, .spelling hspelling, List.cons_ne_nil _ _, rfl⟩
      · by_cases hcode : ∃ c digits rest, WritesHex digits (Char.toNat c) ∧
            s = '{' :: (digits ++ '}' :: rest)
        case neg => exact .inr (.code fun c digits rest hwrites hs =>
          hcode ⟨c, digits, rest, hwrites, hs⟩)
        obtain ⟨c, digits, rest, hwrites, rfl⟩ := hcode
        exact .inl ⟨_, _, rest, .spelling (.code hwrites), List.cons_ne_nil _ _, by simp⟩

/-! ## Whole texts -/

theorem unescapeChars_of_spells {text written : List Char} (h : Spells text written) :
    unescapeChars written = .ok text := by
  obtain ⟨spellings, hspellings, rfl⟩ := h
  rw [unescapeChars]
  induction hspellings with
  | nil => rfl
  | cons hspelling _ ih =>
    rw [List.flatten_cons, unescapeFrom_spelling hspelling, ih]
    rfl

/-- The text with every backslash doubled. -/
def doubled (text : List Char) : List Char :=
  text.flatMap fun c => if c = '\\' then ['\\', '\\'] else [c]

theorem spells_doubled (text : List Char) : Spells text (doubled text) := by
  refine ⟨text.map fun c => if c = '\\' then ['\\', '\\'] else [c], ?_, List.flatMap_def⟩
  rw [List.forall₂_map_right_iff, List.forall₂_same]
  intro c _
  split
  case isTrue hc =>
    rw [hc]
    exact .backslash
  case isFalse hc => exact .itself hc

/-- The texts that are refused are those with a broken escape. -/
theorem exists_unescapeChars_eq_error_iff {text : List Char} :
    (∃ fault, unescapeChars text = .error fault) ↔ HasBrokenEscape text := by
  rw [unescapeChars]
  constructor
  · rintro ⟨fault, hfault⟩
    induction hlength : text.length using Nat.strongRecOn generalizing text with
    | ind length ih =>
      rcases piece_cases text with rfl | rfl | ⟨written, read, rest, hpiece, hne, rfl⟩ | hbroken
      · cases hfault
      · cases hfault
      · have hrest : unescapeFrom .plain rest = .error fault := by
          rw [unescapeFrom_piece hpiece] at hfault
          cases hresult : unescapeFrom .plain rest with
          | error cause =>
            rw [hresult] at hfault
            exact hfault
          | ok s =>
            rw [hresult] at hfault
            cases hfault
        have hshorter : rest.length < length := by
          have hpos := List.length_pos_iff.mpr hne
          rw [List.length_append] at hlength
          omega
        obtain ⟨pieces, after, htext, hpieces, hbroken⟩ := ih _ hshorter hrest rfl
        refine ⟨written :: pieces, after, ?_, ?_, hbroken⟩
        · rw [htext, List.flatten_cons, List.append_assoc]
        · exact List.forall_mem_cons.mpr ⟨⟨read, hpiece⟩, hpieces⟩
      · exact ⟨[], text, rfl, nofun, hbroken⟩
  · rintro ⟨pieces, after, rfl, hpieces, hbroken⟩
    obtain ⟨fault, hfault⟩ := exists_unescapeFrom_eq_error hbroken
    refine ⟨fault, ?_⟩
    induction pieces with
    | nil => exact hfault
    | cons piece pieces ih =>
      obtain ⟨⟨read, hpiece⟩, hrest⟩ := List.forall_mem_cons.mp hpieces
      rw [List.flatten_cons, List.append_assoc, unescapeFrom_piece hpiece, ih hrest]
      rfl

/-- A text is read back from itself with every backslash doubled, and from every spelling of its
characters. Exactly those texts are refused that have a byte escape without two digits, or a code point
escape without braces around digits that write a character. -/
theorem unescape_spelled (text written : String) :
    unescape (String.ofList (doubled text.toList)) = .ok text ∧
      (Spells text.toList written.toList → unescape written = .ok text) ∧
      ((∃ fault, unescape written = .error fault) ↔ HasBrokenEscape written.toList) := by
  have hread {s : String} (h : Spells text.toList s.toList) : unescape s = .ok text := by
    rw [unescape, unescapeChars_of_spells h]
    exact congrArg Except.ok String.ofList_toList
  refine ⟨hread ?_, hread, ?_⟩
  · rw [String.toList_ofList]
    exact spells_doubled text.toList
  · rw [← exists_unescapeChars_eq_error_iff, unescape]
    cases unescapeChars written.toList with
    | error fault => exact ⟨fun _ => ⟨fault, rfl⟩, fun _ => ⟨fault, rfl⟩⟩
    | ok s => exact ⟨nofun, nofun⟩

/-- A letter by a byte escape with a digit behind it that is no part of it, a doubled backslash before a
letter that it does not escape, and a cake by its code point with a zero in front. -/
theorem unescape_spelled_cake :
    let text := "A1\\n🎂"
    let written := "\\x411\\\\n\\u\x7b01F382\x7d"
    Spells text.toList written.toList ∧ unescape written = .ok text := by
  intro text written
  have hletter : WritesHex ['4', '1'] 'A'.toNat := ⟨0, by decide⟩
  have hcake : WritesHex ['0', '1', 'F', '3', '8', '2'] '🎂'.toNat := ⟨1, by decide⟩
  have htext : text.toList = ['A', '1', '\\', 'n', '🎂'] := by decide
  have hspells : Spells text.toList written.toList := by
    rw [htext]
    exact ⟨[['\\', 'x', '4', '1'], ['1'], ['\\', '\\'], ['n'],
        ['\\', 'u', '{', '0', '1', 'F', '3', '8', '2', '}']],
      .cons (.byte rfl hletter) (.cons (.itself (by decide)) (.cons .backslash
        (.cons (.itself (by decide)) (.cons (.code hcake) .nil)))), by decide⟩
  exact ⟨hspells, (unescape_spelled text written).2.1 hspells⟩

end Kitchen.Text
