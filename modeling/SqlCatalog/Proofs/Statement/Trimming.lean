import SqlCatalog.Proofs.Statement.Parts
import SqlCatalog.Proofs.Token.Gaps

/-!
# Trimming once

Trimming takes off one blank at most on either side.  For whatever is cut from
a sequence in canonical form this is enough: neither the statements nor the
spans of a table definition nor the fragments of its body start or end with a
blank.
-/

namespace SqlCatalog

namespace Statement

open Token (IsTrimmed)

/-- Neither the statement nor what is cut from it has blanks at its ends. -/
structure IsTrimmedThroughout (statement : List Token) : Prop where
  whole : IsTrimmed statement
  header : ∀ found, spans statement = .ok found → IsTrimmed found.header
  body : ∀ found, spans statement = .ok found → IsTrimmed found.body
  options : ∀ found, spans statement = .ok found → IsTrimmed found.options
  fragments : ∀ found, spans statement = .ok found →
    ∀ fragment ∈ Fragment.split found.body, IsTrimmed fragment

/-- What is cut from a spaced sequence has no blanks at its ends. -/
theorem isTrimmedThroughout_of_mem_split
    {tokens statement : List Token}
    (spaced : Token.IsSpaced tokens)
    (member : statement ∈ split tokens) :
    IsTrimmedThroughout statement := by
  obtain ⟨part, inside, rfl⟩ := exists_part_of_mem_split member
  obtain ⟨within, whole⟩ := spaced.trim_part inside
  have statementSpaced := spaced.of_part within
  have spansTrimmed
      {found : Spans}
      (cutting : spans (Token.trim part) = .ok found) :
      IsTrimmed found.header ∧ IsTrimmed found.body ∧
        IsTrimmed found.options ∧ Token.IsSpaced found.body := by
    obtain ⟨header, body, options, first, second, third, rfl⟩ :=
      exists_parts_of_spans cutting
    obtain ⟨bodyInside, bodyTrimmed⟩ := statementSpaced.trim_part second
    exact ⟨(statementSpaced.trim_part first).2, bodyTrimmed,
      (statementSpaced.trim_part third).2, statementSpaced.of_part bodyInside⟩
  refine ⟨whole, ?_, ?_, ?_, ?_⟩
  · intro found cutting
    exact (spansTrimmed cutting).1
  · intro found cutting
    exact (spansTrimmed cutting).2.1
  · intro found cutting
    exact (spansTrimmed cutting).2.2.1
  · intro found cutting fragment listed
    obtain ⟨piece, place, rfl⟩ := Fragment.exists_part_of_mem_split listed
    exact ((spansTrimmed cutting).2.2.2.trim_part place).2

/--
Canonical form keeps one blank of each gap, so trimming, which takes off one
blank at most, leaves none at the ends of what is cut from it.
-/
theorem trimming_once (raw : List Token) :
    Token.KeepsGaps raw (Token.normalize 0 raw) ∧
      (∀ tokens : List Token, ∃ front back,
        tokens = front ++ (Token.trim tokens ++ back) ∧
          front.length ≤ 1 ∧ back.length ≤ 1) ∧
        ∀ minTokens, ∀ statement ∈ split (Token.normalize minTokens raw),
          IsTrimmedThroughout statement := by
  refine ⟨Token.keepsGaps_normalize raw, ?_, ?_⟩
  · intro tokens
    obtain ⟨front, back, parts, -, -, few⟩ := Token.trim_parts tokens
    exact ⟨front, back, parts, few⟩
  · intro minTokens statement member
    apply isTrimmedThroughout_of_mem_split _ member
    rw [Token.normalize]
    split
    · exact .nil
    · exact Token.isSpaced_squeeze _

/--
A definition with comments and blanks side by side, in front of and behind each
part that is cut from it.
-/
theorem trimming_once_commented :
    let raw :=
      ["create", " ", "table", "\n", "t", " ", "(", "-- a", "\n", "\x60a\x60",
        " ", "int", " ", ",", "/* b */", "\x60b\x60", " ", "# c", ")", "/* d */",
        "\n", "engine", "=", "x", " ", "-- e", ";"]
    let statement :=
      ["CREATE", " ", "TABLE", " ", "T", " ", "(", " ", "\x60a\x60", " ", "INT",
        " ", ",", " ", "\x60b\x60", " ", ")", " ", "ENGINE", "=", "X"]
    let found : Spans :=
      { header := ["CREATE", " ", "TABLE", " ", "T"]
        body := ["\x60a\x60", " ", "INT", " ", ",", " ", "\x60b\x60"]
        options := ["ENGINE", "=", "X"] }
    Token.KeepsGaps raw (statement ++ [" ", ";"]) ∧
      split (Token.normalize 0 raw) = [statement] ∧
      spans statement = .ok found ∧
      Fragment.split found.body = [["\x60a\x60", " ", "INT"], ["\x60b\x60"]] ∧
      IsTrimmed statement ∧ IsTrimmed found.header ∧ IsTrimmed found.body ∧
      IsTrimmed found.options ∧ IsTrimmed ["\x60a\x60", " ", "INT"] ∧
      IsTrimmed ["\x60b\x60"] := by
  intro raw statement found
  have canonical : Token.normalize 0 raw = statement ++ [" ", ";"] := by
    decide +kernel
  have statements : split (Token.normalize 0 raw) = [statement] := by
    rw [canonical]
    decide
  have cutting : spans statement = .ok found := by decide +kernel
  have fragments :
      Fragment.split found.body = [["\x60a\x60", " ", "INT"], ["\x60b\x60"]] := by
    decide +kernel
  obtain ⟨gaps, -, each⟩ := trimming_once raw
  have listed : statement ∈ split (Token.normalize 0 raw) := by
    rw [statements]
    exact List.mem_singleton_self statement
  have trimmed := each 0 statement listed
  have pieces := trimmed.fragments found cutting
  simp only [fragments, List.forall_mem_cons] at pieces
  rw [canonical] at gaps
  exact ⟨gaps, statements, cutting, fragments, trimmed.whole,
    trimmed.header found cutting, trimmed.body found cutting,
    trimmed.options found cutting, pieces.1, pieces.2.1⟩

end Statement

end SqlCatalog
