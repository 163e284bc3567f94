import SqlCatalog.Proofs.Fragment.Pieces
import SqlCatalog.Proofs.Token.Spacing
import SqlCatalog.Statement.Clauses
import SqlCatalog.Statement.Split

/-!
# Parts of a sequence

Statements, the spans of a table definition and the fragments of its body are
trimmed parts of the sequence that they are cut from.  So they hold no other
tokens, and if the sequence is spaced, no part starts or ends with a blank.
-/

namespace SqlCatalog

/-- A trimmed part of a spaced sequence is spaced and has no outer blanks. -/
theorem Token.IsSpaced.trim_part
    {tokens part : List Token}
    (spaced : IsSpaced tokens)
    (inside : part <:+: tokens) :
    trim part <:+: tokens ∧ IsTrimmed (trim part) :=
  ⟨(infix_trim part).trans inside, (spaced.of_part inside).isTrimmed_trim⟩

/-! ## Statements -/

namespace Statement

/-- The first chunk starts the sequence, and the others are parts of it. -/
theorem infix_cut (tokens : List Token) :
    (cut tokens).1 <+: tokens ∧ ∀ chunk ∈ (cut tokens).2, chunk <:+: tokens := by
  induction tokens with
  | nil => exact ⟨List.nil_prefix, by simp [cut]⟩
  | cons token rest hypothesis =>
      obtain ⟨first, later⟩ := hypothesis
      rw [cut]
      split
      case isTrue =>
        refine ⟨List.nil_prefix, ?_⟩
        intro chunk member
        rcases List.mem_cons.mp member with rfl | member
        · exact List.infix_cons first.isInfix
        · exact List.infix_cons (later chunk member)
      case isFalse =>
        refine ⟨List.cons_prefix_cons.mpr ⟨rfl, first⟩, ?_⟩
        intro chunk member
        exact List.infix_cons (later chunk member)

/-- A statement is what trimming leaves of a part of the sequence. -/
theorem exists_part_of_mem_split
    {tokens statement : List Token}
    (member : statement ∈ split tokens) :
    ∃ part, part <:+: tokens ∧ statement = Token.trim part := by
  obtain ⟨part, listed, rfl⟩ := List.mem_map.mp (List.mem_filter.mp member).1
  refine ⟨part, ?_, rfl⟩
  rcases List.mem_cons.mp listed with rfl | listed
  · exact (infix_cut tokens).1.isInfix
  · exact (infix_cut tokens).2 part listed

/-- The spans of a statement are what trimming leaves of parts of it. -/
theorem exists_parts_of_spans
    {statement : List Token} {found : Spans}
    (cutting : spans statement = .ok found) :
    ∃ header body options,
      header <:+: statement ∧ body <:+: statement ∧ options <:+: statement ∧
      found =
        ⟨Token.trim header, Token.trim body, Token.trim options⟩ := by
  unfold spans at cutting
  split at cutting
  case h_1 => cases cutting
  case h_2 start _ =>
    split at cutting
    case h_1 => cases cutting
    case h_2 close _ =>
      cases cutting
      refine ⟨_, _, _, (List.take_prefix start statement).isInfix, ?_,
        (List.drop_suffix (close + 1) statement).isInfix, rfl⟩
      exact (List.drop_suffix _ _).isInfix.trans
        (List.take_prefix close statement).isInfix

end Statement

/-! ## Fragments -/

namespace Fragment

/-- The first piece starts the body, and the others are parts of it. -/
theorem infix_cut (depth : Int) (body : List Token) :
    (cut depth body).1 <+: body ∧
      ∀ piece ∈ (cut depth body).2, piece <:+: body := by
  induction body generalizing depth with
  | nil => exact ⟨List.nil_prefix, by simp [cut]⟩
  | cons token rest hypothesis =>
      obtain ⟨first, later⟩ := hypothesis (depth + Bracket.weight token)
      rw [cut]
      split
      case isTrue =>
        refine ⟨List.nil_prefix, ?_⟩
        intro piece member
        rcases List.mem_cons.mp member with rfl | member
        · exact List.infix_cons first.isInfix
        · exact List.infix_cons (later piece member)
      case isFalse =>
        refine ⟨List.cons_prefix_cons.mpr ⟨rfl, first⟩, ?_⟩
        intro piece member
        exact List.infix_cons (later piece member)

/-- A fragment is what trimming leaves of a part of the body. -/
theorem exists_part_of_mem_split
    {body fragment : List Token}
    (member : fragment ∈ split body) :
    ∃ part, part <:+: body ∧ fragment = Token.trim part := by
  obtain ⟨part, listed, rfl⟩ := exists_piece_of_mem_split member
  refine ⟨part, ?_, rfl⟩
  rcases List.mem_cons.mp listed with rfl | listed
  · exact (infix_cut 0 body).1.isInfix
  · exact (infix_cut 0 body).2 part listed

end Fragment

end SqlCatalog
