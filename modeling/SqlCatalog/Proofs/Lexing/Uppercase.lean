import SqlCatalog.Proofs.Lexing.Symbols

/-!
# Text in upper case

Upper-casing twice does nothing more than upper-casing once.  A character is
its own upper case, or it is a letter with capitals in its place, and capitals
are their own upper case.  Neither letters nor capitals are digits or
White_Space.

So upper case leaves a token in its class: marks, signs and White_Space stand
in the token afterwards exactly where they stood before.  It follows that the
canonical form of a token is its own canonical form.
-/

namespace SqlCatalog

/-! ## Upper cases in the table -/

namespace Unicode

theorem CaseRun.contains_iff {run : CaseRun} {code : Nat} :
    run.contains code = true ↔
      run.first ≤ code ∧ code ≤ run.last ∧
        (code - run.first) % run.step = 0 := by
  simp [contains, and_assoc]

/-- Whether the table holds an upper case for a code point. -/
def isMapped (code : Nat) : Bool :=
  (caseRuns.any fun run => run.contains code) ||
    caseExpansions.any fun entry => entry.1 == code

/-- Whether a code point belongs to White_Space. -/
def isWhiteCode (code : Nat) : Bool :=
  whiteSpaceRanges.any fun range => range.contains code

theorem upperCodes_of_not_isMapped
    {code : Nat}
    (unmapped : isMapped code = false) :
    upperCodes code = [code] := by
  rw [isMapped, Bool.or_eq_false_iff, List.any_eq_false, List.any_eq_false]
    at unmapped
  have noRun : (caseRuns.find? fun run => run.contains code) = none :=
    List.find?_eq_none.mpr unmapped.1
  have noEntry : caseExpansions.lookup code = none := by
    rw [List.lookup_eq_none_iff]
    intro entry listed
    have other := unmapped.2 entry listed
    rw [beq_iff_eq] at other
    exact bne_iff_ne.mpr (Ne.symm other)
  rw [upperCodes, noRun, noEntry]
  rfl

/--
Whether the upper cases of a run pass over the members of another one.  They
may lie among them if both are every other code point.
-/
def CaseRun.passes (run other : CaseRun) : Bool :=
  Nat.blt (run.target + (run.last - run.first)) other.first ||
    Nat.blt other.last run.target ||
      (run.step == 2 || run.first == run.last) && other.step == 2 &&
        run.target % 2 != other.first % 2

/-- Whether the upper cases of a run lie outside of a range. -/
def CaseRun.avoids (run : CaseRun) (first last : Nat) : Bool :=
  Nat.blt (run.target + (run.last - run.first)) first ||
    Nat.blt last run.target

theorem CaseRun.not_contains_of_passes
    {run other : CaseRun} {code : Nat}
    (passed : run.passes other = true)
    (member : run.contains code = true) :
    other.contains (run.image code) = false := by
  rw [Bool.eq_false_iff]
  intro met
  rw [contains_iff] at member met
  simp only [passes, Nat.blt_eq, Bool.or_eq_true, Bool.and_eq_true,
    beq_iff_eq, bne_iff_ne] at passed
  rw [image] at met
  rcases passed with (early | late) | ⟨⟨parity, two⟩, apart⟩
  · omega
  · omega
  · rw [two] at met
    rcases parity with both | single
    · rw [both] at member
      omega
    · omega

theorem CaseRun.image_outside_of_avoids
    {run : CaseRun} {first last code : Nat}
    (avoided : run.avoids first last = true)
    (member : run.contains code = true) :
    ¬(first ≤ run.image code ∧ run.image code ≤ last) := by
  rw [contains_iff] at member
  simp only [avoids, Nat.blt_eq, Bool.or_eq_true] at avoided
  rw [image]
  omega

/-- What upper-casing puts in place of members of a run stays as it is. -/
theorem CaseRun.settled_image
    {run : CaseRun} {code : Nat}
    (listed : run ∈ caseRuns)
    (member : run.contains code = true) :
    isMapped (run.image code) = false ∧ isWhiteCode (run.image code) = false := by
  have runs :
      (caseRuns.all fun run => caseRuns.all fun other => run.passes other) =
        true := by
    decide +kernel
  have expansions :
      (caseRuns.all fun run => caseExpansions.all fun entry =>
        run.avoids entry.1 entry.1) = true := by
    decide +kernel
  have whiteSpace :
      (caseRuns.all fun run => whiteSpaceRanges.all fun range =>
        run.avoids range.first range.last) = true := by
    decide +kernel
  rw [List.all_eq_true] at runs expansions whiteSpace
  refine ⟨?_, ?_⟩
  · rw [isMapped, Bool.or_eq_false_iff, List.any_eq_false, List.any_eq_false]
    refine ⟨?_, ?_⟩
    · intro other others
      have passed := List.all_eq_true.mp (runs run listed) other others
      rw [not_contains_of_passes passed member]
      exact Bool.false_ne_true
    · intro entry entries
      have avoided := List.all_eq_true.mp (expansions run listed) entry entries
      have outside := image_outside_of_avoids avoided member
      rw [beq_iff_eq]
      omega
  · rw [isWhiteCode, List.any_eq_false]
    intro range ranges
    have avoided := List.all_eq_true.mp (whiteSpace run listed) range ranges
    have outside := image_outside_of_avoids avoided member
    simpa [CodeRange.contains] using outside

/-- What upper-casing puts in place of single letters stays as it is. -/
theorem settled_expansion
    {entry : Nat × List Nat} {code : Nat}
    (listed : entry ∈ caseExpansions)
    (member : code ∈ entry.2) :
    isMapped code = false ∧ isWhiteCode code = false := by
  -- Most of the code points occur in many entries.
  have each :
      ((caseExpansions.flatMap Prod.snd).eraseDups.all fun code =>
        !isMapped code && !isWhiteCode code) = true := by
    decide +kernel
  rw [List.all_eq_true] at each
  have inside : code ∈ (caseExpansions.flatMap Prod.snd).eraseDups := by
    rw [List.mem_eraseDups]
    exact List.mem_flatMap.mpr ⟨entry, listed, member⟩
  simpa using each code inside

/-- White_Space has no upper case. -/
theorem not_isMapped_of_isWhiteCode
    {code : Nat}
    (white : isWhiteCode code = true) :
    isMapped code = false := by
  have apart :
      (whiteSpaceRanges.all fun range =>
        (caseRuns.all fun run =>
          Nat.blt range.last run.first || Nat.blt run.last range.first) &&
        caseExpansions.all fun entry => !range.contains entry.1) = true := by
    decide +kernel
  obtain ⟨range, listed, inside⟩ := List.any_eq_true.mp white
  have here := List.all_eq_true.mp apart range listed
  rw [Bool.and_eq_true, List.all_eq_true, List.all_eq_true] at here
  rw [isMapped, Bool.or_eq_false_iff, List.any_eq_false, List.any_eq_false]
  refine ⟨?_, ?_⟩
  · intro run runs member
    have outside := here.1 run runs
    simp only [Nat.blt_eq, Bool.or_eq_true] at outside
    simp only [CodeRange.contains, Bool.and_eq_true, decide_eq_true_eq] at inside
    rw [CaseRun.contains_iff] at member
    omega
  · intro entry entries same
    have outside := here.2 entry entries
    rw [beq_iff_eq.mp same, inside] at outside
    cases outside

end Unicode

/-! ## Letters and their capitals -/

/-- What upper-casing puts in place of a letter. -/
structure IsCapital (char : Char) : Prop where
  /-- Capitals stand in words. -/
  word : isWordChar char = true
  /-- A capital is no digit. -/
  noDigit : char.isDigit = false
  /-- A capital is not White_Space. -/
  solid : Unicode.isWhiteSpace char = false
  /-- A capital is its own upper case. -/
  fixed : Unicode.upperChar char = [char]

instance (char : Char) : Decidable (IsCapital char) :=
  decidable_of_iff
    (isWordChar char = true ∧ char.isDigit = false ∧
      Unicode.isWhiteSpace char = false ∧ Unicode.upperChar char = [char])
    ⟨fun ⟨word, noDigit, solid, fixed⟩ => ⟨word, noDigit, solid, fixed⟩,
      fun ⟨word, noDigit, solid, fixed⟩ => ⟨word, noDigit, solid, fixed⟩⟩

/-- A character with capitals in its place. -/
structure IsLetter (char : Char) : Prop where
  /-- Letters stand in words. -/
  word : isWordChar char = true
  /-- A letter is no digit. -/
  noDigit : char.isDigit = false
  /-- A letter is not White_Space. -/
  solid : Unicode.isWhiteSpace char = false
  /-- The letter does not vanish. -/
  filled : Unicode.upperChar char ≠ []
  /-- All of its upper case are capitals. -/
  capitals : ∀ image ∈ Unicode.upperChar char, IsCapital image

instance (char : Char) : Decidable (IsLetter char) :=
  decidable_of_iff
    (isWordChar char = true ∧ char.isDigit = false ∧
      Unicode.isWhiteSpace char = false ∧ Unicode.upperChar char ≠ [] ∧
      ((Unicode.upperChar char).all fun image => decide (IsCapital image)) =
        true)
    ⟨fun ⟨word, noDigit, solid, filled, capitals⟩ =>
        ⟨word, noDigit, solid, filled, by simpa using capitals⟩,
      fun ⟨word, noDigit, solid, filled, capitals⟩ =>
        ⟨word, noDigit, solid, filled, by simpa using capitals⟩⟩

theorem isDigit_eq_false_of_le
    {char : Char}
    (wide : 0x80 ≤ char.toNat) :
    char.isDigit = false := by
  rw [Bool.eq_false_iff]
  intro digit
  rw [Char.isDigit, Bool.and_eq_true, decide_eq_true_eq, decide_eq_true_eq] at digit
  have bound : char.toNat ≤ '9'.toNat := digit.2
  have last : '9'.toNat < 0x80 := by decide
  omega

/-- A code point that the table leaves alone is that of a capital. -/
theorem isCapital_ofNat
    {code : Nat}
    (word : isWordCode code = true)
    (unmapped : Unicode.isMapped code = false)
    (solid : Unicode.isWhiteCode code = false) :
    IsCapital (Char.ofNat code) := by
  have number := toNat_ofNat_of_isWordCode word
  by_cases ascii : code < 0x80
  · have capital :
        ∀ code < 0x80, isWordCode code = true → IsCapital (Char.ofNat code) := by
      decide
    exact capital code ascii word
  · refine ⟨isWordChar_ofNat word, ?_, ?_, ?_⟩
    · exact isDigit_eq_false_of_le (by omega)
    · change Unicode.isWhiteCode (Char.ofNat code).toNat = false
      rwa [number]
    · rw [Unicode.upperChar, number, if_neg ascii,
        Unicode.upperCodes_of_not_isMapped unmapped]
      rfl

/-- A character outside of ASCII with an upper case in the table is a letter. -/
theorem isLetter_of_isMapped
    {char : Char} {images : List Nat}
    (wide : 0x80 ≤ char.toNat)
    (mapped : Unicode.isMapped char.toNat = true)
    (upper : Unicode.upperCodes char.toNat = images)
    (filled : images ≠ [])
    (capitals : ∀ code ∈ images, IsCapital (Char.ofNat code)) :
    IsLetter char := by
  have image : Unicode.upperChar char = images.map Char.ofNat := by
    rw [Unicode.upperChar, if_neg (Nat.not_lt.mpr wide), upper]
  refine ⟨?_, isDigit_eq_false_of_le wide, ?_, ?_, ?_⟩
  · simp [isWordChar, wide]
  · rw [Bool.eq_false_iff]
    intro white
    rw [Unicode.not_isMapped_of_isWhiteCode white] at mapped
    cases mapped
  · simpa [image] using filled
  · simpa [image] using capitals

/-- A character is its own upper case, or it is a letter. -/
theorem upperChar_cases (char : Char) :
    Unicode.upperChar char = [char] ∨ IsLetter char := by
  by_cases ascii : char.toNat < 0x80
  · exact of_toNat_lt (by decide) char ascii
  have wide := Nat.not_lt.mp ascii
  rcases Unicode.upperCodes_cases char.toNat with
    ⟨run, listed, member, upper⟩ | ⟨entry, listed, same, upper⟩ | itself
  · have mapped : Unicode.isMapped char.toNat = true := by
      rw [Unicode.isMapped, Bool.or_eq_true, List.any_eq_true]
      exact Or.inl ⟨run, listed, member⟩
    obtain ⟨unmapped, solid⟩ := Unicode.CaseRun.settled_image listed member
    refine Or.inr (isLetter_of_isMapped wide mapped upper (by simp) ?_)
    intro code inside
    rw [List.mem_singleton.mp inside]
    exact isCapital_ofNat (isWordCode_image listed member) unmapped solid
  · have mapped : Unicode.isMapped char.toNat = true := by
      rw [Unicode.isMapped, Bool.or_eq_true, List.any_eq_true, List.any_eq_true]
      exact Or.inr ⟨entry, listed, beq_iff_eq.mpr same⟩
    obtain ⟨filled, words⟩ := isWordCode_expansion entry listed
    refine Or.inr (isLetter_of_isMapped wide mapped upper filled ?_)
    intro code inside
    obtain ⟨unmapped, solid⟩ := Unicode.settled_expansion listed inside
    exact isCapital_ofNat (words code inside) unmapped solid
  · refine Or.inl ?_
    rw [Unicode.upperChar, if_neg ascii, itself, List.map_singleton,
      Char.ofNat_toNat]

/-- What upper-casing puts in place of a character is its own upper case. -/
theorem upperChar_of_mem_upperChar
    {char image : Char}
    (member : image ∈ Unicode.upperChar char) :
    Unicode.upperChar image = [image] := by
  rcases upperChar_cases char with fixed | letter
  · rw [fixed, List.mem_singleton] at member
    rwa [member]
  · exact (letter.capitals image member).fixed

/-- White_Space stays White_Space, and nothing becomes White_Space. -/
theorem isWhiteSpace_of_mem_upperChar
    {char image : Char}
    (member : image ∈ Unicode.upperChar char) :
    Unicode.isWhiteSpace image = Unicode.isWhiteSpace char := by
  rcases upperChar_cases char with fixed | letter
  · rw [fixed, List.mem_singleton] at member
    rw [member]
  · rw [(letter.capitals image member).solid, letter.solid]

/-! ## Texts and tokens in upper case -/

/-- Upper-casing twice does nothing more than upper-casing once. -/
theorem Unicode.upper_upper (text : List Char) :
    upper (upper text) = upper text := by
  apply upper_eq_self
  intro char member
  obtain ⟨letter, -, inside⟩ := List.mem_flatMap.mp member
  exact upperChar_of_mem_upperChar inside

/-- Upper case starts with the same character, or with a capital for a letter. -/
theorem Unicode.upper_cons_cases (first : Char) (body : List Char) :
    upper (first :: body) = first :: upper body ∨
      IsLetter first ∧ ∃ capital later,
        upper (first :: body) = capital :: later ∧ IsCapital capital := by
  rw [upper_cons]
  rcases upperChar_cases first with fixed | letter
  · rw [fixed]
    exact Or.inl rfl
  · obtain ⟨capital, more, image⟩ := List.exists_cons_of_ne_nil letter.filled
    have here := letter.capitals capital (by simp [image])
    rw [image]
    exact Or.inr ⟨letter, capital, more ++ upper body, rfl, here⟩

/-- Upper case starts with the same signs. -/
theorem Unicode.isPrefixOf_upper
    {signs : List Char}
    (noWord : ∀ sign ∈ signs, isWordChar sign = false)
    (text : List Char) :
    signs.isPrefixOf (upper text) = signs.isPrefixOf text := by
  induction signs generalizing text with
  | nil => simp
  | cons sign signs hypothesis =>
      rw [List.forall_mem_cons] at noWord
      cases text with
      | nil => rfl
      | cons first body =>
          rcases upper_cons_cases first body with
            same | ⟨letter, capital, later, image, word⟩
          · simp [same, List.isPrefixOf, hypothesis noWord.2]
          · have other {char : Char} (word : isWordChar char = true) :
                (sign == char) = false := by
              rw [beq_eq_false_iff_ne]
              rintro rfl
              rw [noWord.1] at word
              cases word
            simp [image, List.isPrefixOf, other letter.word, other word.word]

namespace Token

@[simp]
theorem toList_upper (token : Token) :
    token.upper.toList = Unicode.upper token.toList := by
  simp [upper]

theorem upper_upper (token : Token) : token.upper.upper = token.upper := by
  rw [upper, toList_upper, Unicode.upper_upper, upper]

theorem isQuoted_upper (token : Token) :
    token.upper.isQuoted = token.isQuoted := by
  rw [isQuoted, isQuoted, delimiter?, delimiter?, toList_upper]
  cases token.toList with
  | nil => rfl
  | cons first body =>
      rcases Unicode.upper_cons_cases first body with
        same | ⟨letter, capital, later, image, word⟩
      · rw [same]
        rfl
      · have bare := ofMark?_eq_none_of_class isWordChar_mark letter.word
        have unmarked := ofMark?_eq_none_of_class isWordChar_mark word.word
        simp [image, bare, unmarked]

theorem isComment_upper (token : Token) :
    token.upper.isComment = token.isComment := by
  have signs :
      ∀ opening ∈ commentOpenings, ∀ sign ∈ opening,
        isWordChar sign = false := by
    simp [commentOpenings, isWordChar]
  rw [isComment, isComment, toList_upper, Bool.eq_iff_iff, List.any_eq_true,
    List.any_eq_true]
  refine exists_congr fun opening => and_congr_right fun listed => ?_
  rw [Unicode.isPrefixOf_upper (signs opening listed)]

theorem isBlank_upper (token : Token) :
    token.upper.isBlank = token.isBlank := by
  have white (char : Char) :
      (Unicode.upperChar char).all Unicode.isWhiteSpace =
        Unicode.isWhiteSpace char := by
    obtain ⟨image, more, upper⟩ :=
      List.exists_cons_of_ne_nil (Unicode.upperChar_ne_nil char)
    rw [Bool.eq_iff_iff, List.all_eq_true]
    constructor
    · intro all
      have member : image ∈ Unicode.upperChar char := by
        simp [upper]
      rw [← isWhiteSpace_of_mem_upperChar member]
      exact all image member
    · intro blank image member
      rw [isWhiteSpace_of_mem_upperChar member, blank]
  have filled (text : List Char) :
      (Unicode.upper text).isEmpty = text.isEmpty := by
    cases text with
    | nil => rfl
    | cons first body => simp [Unicode.upperChar_ne_nil]
  rw [isBlank, isBlank, toList_upper, filled, Unicode.upper, List.all_flatMap]
  simp only [white]

/-- The canonical form of a token is its own canonical form. -/
theorem canonical_canonical (token : Token) :
    token.canonical.canonical = token.canonical := by
  have blank : Token.blank.canonical = Token.blank := by decide
  cases quoted : token.isQuoted with
  | true => simp [canonical, quoted]
  | false =>
      cases gap : token.isComment || token.isBlank with
      | true =>
          have image : token.canonical = Token.blank := by
            simp [canonical, quoted, gap]
          rw [image, blank]
      | false =>
          have image : token.canonical = token.upper := by
            simp [canonical, quoted, gap]
          rw [image, canonical, isQuoted_upper, isComment_upper, isBlank_upper,
            quoted, gap, upper_upper]
          rfl

end Token

end SqlCatalog
