import SqlCatalog.Proofs.Extraction.Canonical
import SqlCatalog.Proofs.Lexing.Respelling

/-!
# Extraction from the canonical text

The canonical tokens of a text make up a text of their own.  That text is read
as those tokens, and they are their own canonical form, so nothing changes when
a text is replaced by its canonical text more than once.  The extraction is
that of the original text, unless that one ends in an open token: a comment
that is never closed leaves a blank, about which there is nothing to complain.
-/

namespace SqlCatalog

theorem normalize_tokenize (sql : String) :
    Token.normalize 0 (tokenize sql).tokens =
      canonicalTokens (lexemes sql.toList) := by
  rw [Token.normalize_zero, tokenize_tokens, List.map_map]
  rfl

/-- Canonical tokens are their own canonical form. -/
theorem normalize_canonicalTokens (sequence : List Lexeme) :
    Token.normalize 0 (canonicalTokens sequence) = canonicalTokens sequence := by
  have each :
      (canonicalTokens sequence).map Token.canonical =
        canonicalTokens sequence := by
    calc
      (canonicalTokens sequence).map Token.canonical =
          (canonicalTokens sequence).map id :=
        List.map_congr_left fun _ member =>
          canonical_of_mem_canonicalTokens member
      _ = canonicalTokens sequence := List.map_id _
  have spaced : Token.IsSpaced (canonicalTokens sequence) :=
    Token.isSpaced_squeeze _
  rw [Token.normalize_zero, each, spaced.squeeze_eq_self]

/-- Canonical tokens, joined, are read as they are. -/
theorem tokenize_join_canonicalTokens (text : List Char) :
    (tokenize (String.join (canonicalTokens (lexemes text)))).tokens =
        canonicalTokens (lexemes text) ∧
      (Lexeme.lastFault? 0 (lexemes text) = none →
        (tokenize (String.join (canonicalTokens (lexemes text)))).fault =
          none) := by
  obtain ⟨read, respelling⟩ := exists_isRespelling (reads_lexemes text)
  rw [← respelling.tokens, tokenize_join_of_reads respelling.reads]
  refine ⟨rfl, ?_⟩
  rw [lastFault?_eq_none_iff, lastFault?_eq_none_iff]
  exact respelling.closed

/--
The canonical text of a text is read as the canonical tokens, which are their
own canonical form.  If no token of the original text is open, both texts have
the same extraction.
-/
theorem extract_canonical_text (sql : String) :
    let tokens := Token.normalize 0 (tokenize sql).tokens
    (tokenize (String.join tokens)).tokens = tokens ∧
      Token.normalize 0 tokens = tokens ∧
      ((tokenize sql).fault = none →
        (Extractor.mk 0).extract (String.join tokens) =
          (Extractor.mk 0).extract sql) := by
  intro tokens
  have canonical : tokens = canonicalTokens (lexemes sql.toList) :=
    normalize_tokenize sql
  have fixed : Token.normalize 0 tokens = tokens := by
    rw [canonical]
    exact normalize_canonicalTokens _
  obtain ⟨again, closed⟩ := tokenize_join_canonicalTokens sql.toList
  rw [← canonical] at again closed
  refine ⟨again, fixed, ?_⟩
  intro noFault
  rw [extract_eq_ofTokens, extract_eq_ofTokens, Extractor.canonical, again,
    fixed, closed (by rwa [← tokenize_fault]), noFault]
  rfl

/--
Letters that become several, a number with a word right behind it, words and
signs that are White_Space, and comments.
-/
theorem extract_canonical_text_spaced :
    let sql :=
      "create/*ß*/table `ß`\x0b(\u00a0`a` ﬁ3.5.7ſ--ß\n,`b` 3.14ŉ)comment\u00a0"
    let canonical := "CREATE TABLE `ß` ( `a` FI3.5.7S ,`b` 3.14ʼN)COMMENT\u00a0"
    (tokenize sql).fault = none ∧
      String.join (Token.normalize 0 (tokenize sql).tokens) = canonical ∧
      (Extractor.mk 0).extract canonical = (Extractor.mk 0).extract sql ∧
      ((Extractor.mk 0).extract sql).tables =
        [{ name := "ß"
           columns :=
            [{ name := "a", dataType := "FI3.5.7S" },
              { name := "b", dataType := "3.14ʼN" }] }] := by
  intro sql canonical
  have closed : (tokenize sql).fault = none := by decide +kernel
  have joined :
      String.join (Token.normalize 0 (tokenize sql).tokens) = canonical := by
    decide +kernel
  refine ⟨closed, joined, ?_, by decide +kernel⟩
  rw [← joined]
  exact (extract_canonical_text sql).2.2 closed

end SqlCatalog
