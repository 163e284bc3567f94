import SqlCatalog.Unicode.CaseTable

/-!
# Full upper-casing

The full, locale-independent upper-case mapping of Unicode.  It goes character
by character, may lengthen the text, and acts on ASCII as the core library's
`Char.toUpper`.
-/

namespace SqlCatalog.Unicode

/-- The code points of the upper case of a code point outside ASCII. -/
def upperCodes (code : Nat) : List Nat :=
  match caseRuns.find? fun run => run.contains code with
  | some run => [run.image code]
  | none => (caseExpansions.lookup code).getD [code]

/-- The upper case of one character. -/
def upperChar (char : Char) : List Char :=
  if char.toNat < 0x80 then [char.toUpper]
  else (upperCodes char.toNat).map Char.ofNat

/-- The upper case of a text. -/
def upper (text : List Char) : List Char :=
  text.flatMap upperChar

@[simp]
theorem upper_nil : upper [] = [] := rfl

@[simp]
theorem upper_cons (char : Char) (text : List Char) :
    upper (char :: text) = upperChar char ++ upper text := by
  simp [upper]

@[simp]
theorem upper_append (front back : List Char) :
    upper (front ++ back) = upper front ++ upper back := by
  simp [upper]

/-- A text of characters that are their own upper case is its own upper case. -/
theorem upper_eq_self
    {text : List Char}
    (fixed : ∀ char ∈ text, upperChar char = [char]) :
    upper text = text := by
  induction text with
  | nil => rfl
  | cons char text hypothesis =>
      rw [upper_cons, fixed char List.mem_cons_self,
        hypothesis fun other member => fixed other (List.mem_cons_of_mem char member)]
      rfl

example : upper ['s', 't', 'ß'] = ['S', 'T', 'S', 'S'] := by decide +kernel

end SqlCatalog.Unicode
