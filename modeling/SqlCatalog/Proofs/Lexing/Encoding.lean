import Mathlib.Data.Bool.AllAny
import SqlCatalog.Lexeme.Scan

/-!
# Encoded texts and classes of bytes

A byte below 128 is a character by itself, and all bytes of any other
character are not below 128.  So a class of characters that treats everything
outside of ASCII alike can be told by bytes: a run of such characters is a run
of their bytes, and the first byte of a text tells whether it starts with a
given character of ASCII.
-/

namespace SqlCatalog

/-! ## Encoded texts -/

/-- The bytes of a text. -/
def utf8 (text : List Char) : List UInt8 :=
  text.flatMap String.utf8EncodeChar

@[simp]
theorem utf8_nil : utf8 [] = [] := rfl

@[simp]
theorem utf8_cons (char : Char) (text : List Char) :
    utf8 (char :: text) = String.utf8EncodeChar char ++ utf8 text := by
  simp [utf8]

@[simp]
theorem utf8_append (front back : List Char) :
    utf8 (front ++ back) = utf8 front ++ utf8 back := by
  simp [utf8]

@[simp]
theorem length_utf8 (text : List Char) :
    (utf8 text).length = byteLength text := by
  induction text with
  | nil => rfl
  | cons char text hypothesis =>
      simp [hypothesis, String.length_utf8EncodeChar]

theorem utf8_toList (sql : String) :
    utf8 sql.toList = sql.toByteArray.data.toList := by
  rw [← String.utf8Encode_toList, List.utf8Encode, List.data_toByteArray]
  rfl

theorem utf8ByteSize_ofList (text : List Char) :
    (String.ofList text).utf8ByteSize = byteLength text := by
  have bytes := congrArg List.length (utf8_toList (String.ofList text))
  rw [String.toList_ofList, length_utf8] at bytes
  exact bytes.symm

/-- A character is a byte below 128 or consists of bytes that are not. -/
theorem utf8EncodeChar_cases (char : Char) :
    (char.toNat < 128 ∧ String.utf8EncodeChar char = [char.toUInt8]) ∨
      (128 ≤ char.toNat ∧ String.utf8EncodeChar char ≠ [] ∧
        ∀ byte ∈ String.utf8EncodeChar char, 128 ≤ byte) := by
  have lead {byte sign : UInt8} (high : 128 ≤ sign) : 128 ≤ byte ||| sign :=
    UInt8.le_trans high UInt8.right_le_or
  have single : char.utf8Size = 1 ↔ char.toNat < 128 := by
    rw [Char.utf8Size_eq_one_iff, UInt32.le_iff_toNat_le]
    exact Nat.lt_succ_iff.symm
  rcases Char.utf8Size_eq char with one | two | three | four
  · exact Or.inl ⟨single.mp one, String.utf8EncodeChar_eq_singleton one⟩
  · refine Or.inr ⟨by omega, ?_⟩
    rw [String.utf8EncodeChar_eq_cons_cons two]
    simp [lead]
  · refine Or.inr ⟨by omega, ?_⟩
    rw [String.utf8EncodeChar_eq_cons_cons_cons three]
    simp [lead]
  · refine Or.inr ⟨by omega, ?_⟩
    rw [String.utf8EncodeChar_eq_cons_cons_cons_cons four]
    simp [lead]

/-- An ASCII character takes one byte. -/
theorem utf8EncodeChar_ascii
    {char : Char}
    (ascii : char.toNat < 128) :
    String.utf8EncodeChar char = [char.toUInt8] ∧ char.utf8Size = 1 := by
  rcases utf8EncodeChar_cases char with ⟨-, encoded⟩ | ⟨wide, -⟩
  · refine ⟨encoded, ?_⟩
    rw [← String.length_utf8EncodeChar, encoded]
    rfl
  · omega

/-- The first byte tells whether a text starts with a given ASCII character. -/
theorem head?_utf8_eq_iff
    {target : Char}
    (ascii : target.toNat < 128)
    (text : List Char) :
    (utf8 text).head? = some target.toUInt8 ↔ text.head? = some target := by
  have low : target.toUInt8.toNat = target.toNat := by
    have wrapped : target.toUInt8.toNat = target.toNat % 256 := rfl
    omega
  cases text with
  | nil => simp
  | cons char text =>
      rw [utf8_cons, List.head?_cons, Option.some.injEq]
      rcases utf8EncodeChar_cases char with
        ⟨single, encoded⟩ | ⟨wide, filled, high⟩
      · rw [encoded, List.singleton_append, List.head?_cons,
          Option.some.injEq, ← UInt8.toNat_inj, low, ← Char.toNat_inj]
        have wrapped : char.toUInt8.toNat = char.toNat % 256 := rfl
        omega
      · obtain ⟨byte, more, encoded⟩ := List.exists_cons_of_ne_nil filled
        have bound := high byte (by simp [encoded])
        rw [encoded, List.cons_append, List.head?_cons, Option.some.injEq]
        constructor
        · rintro rfl
          rw [UInt8.le_iff_toNat_le, low] at bound
          exact absurd ascii (Nat.not_lt.mpr bound)
        · rintro rfl
          omega

/-! ## Classes of bytes -/

def isSeparatorByte (byte : UInt8) : Bool :=
  [' ', '\t', '\n', '\x0c', '\r'].any fun char => char.toUInt8 == byte

def isDigitByte (byte : UInt8) : Bool :=
  '0'.toUInt8 ≤ byte && byte ≤ '9'.toUInt8

def isLetterByte (byte : UInt8) : Bool :=
  'A'.toUInt8 ≤ byte && byte ≤ 'Z'.toUInt8 ||
    'a'.toUInt8 ≤ byte && byte ≤ 'z'.toUInt8

/-- The bytes of words, all those outside of ASCII among them. -/
def isWordByte (byte : UInt8) : Bool :=
  isLetterByte byte || isDigitByte byte || byte == '_'.toUInt8 ||
    byte == '$'.toUInt8 || 128 ≤ byte

/--
A class of bytes finds the same runs as a class of characters: a character of
the class has no byte outside, and any other one starts with a byte outside.
-/
structure Mirrors (inBytes : UInt8 → Bool) (inChars : Char → Bool) : Prop where
  /-- All bytes of a character of the class are in the class of bytes. -/
  inside : ∀ char, inChars char = true →
    ∀ byte ∈ String.utf8EncodeChar char, inBytes byte = true
  /-- The first byte of any other character is not. -/
  outside : ∀ char, inChars char = false →
    ∀ byte ∈ (String.utf8EncodeChar char).head?, inBytes byte = false

/-- Classes that agree on ASCII and treat everything else alike. -/
theorem mirrors_of_ascii
    {inBytes : UInt8 → Bool} {inChars : Char → Bool}
    (ascii : ∀ code < 128,
      inBytes (UInt8.ofNat code) = inChars (Char.ofNat code))
    (beyond : Bool)
    (highByte : ∀ byte : UInt8, 128 ≤ byte → inBytes byte = beyond)
    (highChar : ∀ char : Char, 128 ≤ char.toNat → inChars char = beyond) :
    Mirrors inBytes inChars := by
  have each (char : Char) :
      ∀ byte ∈ String.utf8EncodeChar char, inBytes byte = inChars char := by
    intro byte member
    rcases utf8EncodeChar_cases char with
      ⟨single, encoded⟩ | ⟨wide, -, high⟩
    · rw [encoded, List.mem_singleton] at member
      have same := ascii char.toNat single
      rw [Char.ofNat_toNat] at same
      rw [member, ← same]
      rfl
    · rw [highByte byte (high byte member), highChar char wide]
  constructor
  · intro char member byte listed
    rw [each char byte listed, member]
  · intro char other byte first
    rw [each char byte (List.mem_of_mem_head? first), other]

theorem mirrors_isSeparator : Mirrors isSeparatorByte isSeparator := by
  refine mirrors_of_ascii (by decide) false ?_ ?_
  · intro byte high
    have narrow :
        ∀ char ∈ [' ', '\t', '\n', '\x0c', '\r'], char.toUInt8 < 128 :=
      List.all_iff_forall_prop.mp (by decide)
    simp only [isSeparatorByte, List.any_eq_false, beq_iff_eq]
    rintro char listed rfl
    exact absurd (narrow char listed) (UInt8.not_lt.mpr high)
  · intro char wide
    have narrow :
        ∀ char ∈ [' ', '\t', '\n', '\x0c', '\r'], char.toNat < 128 :=
      List.all_iff_forall_prop.mp (by decide)
    simp only [isSeparator, List.contains_eq_mem, decide_eq_false_iff_not]
    intro listed
    exact absurd (narrow char listed) (Nat.not_lt.mpr wide)

theorem mirrors_isDigit : Mirrors isDigitByte Char.isDigit := by
  refine mirrors_of_ascii (by decide) false ?_ ?_
  · intro byte high
    have above : '9'.toUInt8 < byte := UInt8.lt_of_lt_of_le (by decide) high
    simp [isDigitByte, above]
  · intro char wide
    rw [Char.toNat] at wide
    simp only [Char.isDigit, UInt32.le_iff_toNat_le, Bool.and_eq_false_iff,
      decide_eq_false_iff_not]
    exact Or.inr (Nat.not_le.mpr (Nat.lt_of_lt_of_le (by decide) wide))

theorem mirrors_isWord : Mirrors isWordByte isWordChar := by
  refine mirrors_of_ascii (by decide) true ?_ ?_
  · intro byte high
    simp [isWordByte, high]
  · intro char wide
    simp [isWordChar, wide]

/-- A line goes on up to a line feed. -/
theorem mirrors_line : Mirrors (· != '\n'.toUInt8) (· != '\n') := by
  refine mirrors_of_ascii (by decide) true ?_ ?_
  · rintro byte high
    rw [bne_iff_ne]
    rintro rfl
    revert high
    decide
  · intro char wide
    rw [bne_iff_ne]
    rintro rfl
    revert wide
    decide

theorem takeWhile_utf8
    {inBytes : UInt8 → Bool} {inChars : Char → Bool}
    (mirrors : Mirrors inBytes inChars)
    (text : List Char) :
    (utf8 text).takeWhile inBytes = utf8 (text.takeWhile inChars) := by
  induction text with
  | nil => rfl
  | cons char text hypothesis =>
      cases member : inChars char with
      | true =>
          rw [utf8_cons, List.takeWhile_append_of_pos (mirrors.inside char member),
            hypothesis, List.takeWhile_cons_of_pos member, utf8_cons]
      | false =>
          have stop := mirrors.outside char member
          have filled : String.utf8EncodeChar char ≠ [] := by
            rcases utf8EncodeChar_cases char with ⟨-, encoded⟩ | ⟨-, filled, -⟩
            · simp [encoded]
            · exact filled
          obtain ⟨byte, more, encoded⟩ := List.exists_cons_of_ne_nil filled
          rw [encoded] at stop
          have other := stop byte rfl
          rw [utf8_cons, encoded, List.cons_append,
            List.takeWhile_cons_of_neg (by simp [other]),
            List.takeWhile_cons_of_neg (by simp [member]), utf8_nil]

end SqlCatalog
