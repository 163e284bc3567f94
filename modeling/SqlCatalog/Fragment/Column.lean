import SqlCatalog.Bracket
import SqlCatalog.Pattern
import SqlCatalog.Schema.Column
import SqlCatalog.Token.Quoting

/-!
# Columns defined by fragments

A fragment that starts with a quoted token defines a column of that name; its
type follows.  All other clauses are looked up one by one, so that they may
come in any order and clauses of no interest are passed over.
-/

namespace SqlCatalog.Fragment

/--
The declared type: the tokens behind the name up to the next blank, and the
keyword for numbers without a sign if that comes right after.
-/
def dataType (fragment : List Token) : String :=
  let tokens := fragment.drop 2
  let declared := tokens.takeWhile (· != Token.blank)
  let behind := tokens.dropWhile (· != Token.blank)
  if declared.isEmpty then ""
  else if behind[1]? = some "UNSIGNED" then
    String.join declared ++ " UNSIGNED"
  else String.join declared

/-- The value of the quoted token at an index, empty if there is none. -/
def literalAt (tokens : List Token) (index : Nat) : String :=
  (tokens[index]?.map Token.unquote).getD ""

/-- The keywords that are defaults by themselves. -/
def defaultKeywords : List Token :=
  ["CURRENT_TIMESTAMP", "NULL"]

/-- The start of a default clause with the given demand on its value. -/
def defaultClause (value : Element) : Pattern :=
  [.exactly "DEFAULT", .blank, value]

/--
The default value.  Only the first default clause is read: a literal, an
expression in parentheses or a keyword; any other form leaves the value empty.
-/
def defaultValue (fragment : List Token) : Except Fault String :=
  let clause := fragment.dropWhile (· != "DEFAULT")
  if (defaultClause .quoted).fits clause then .ok (literalAt clause 2)
  else if (defaultClause (.exactly "(")).fits clause then
    match Bracket.closing clause 2 with
    | .error fault => .error fault
    | .ok close => .ok (String.join ((clause.take close).drop 3))
  else
    .ok
      ((defaultKeywords.find? fun keyword =>
        (defaultClause (.exactly keyword)).fits clause).getD "")

/-- The comment: the literal of the first comment clause. -/
def comment (fragment : List Token) : String :=
  let clause := fragment.dropWhile (· != "COMMENT")
  if Pattern.fits [.exactly "COMMENT", .blank, .quoted] clause then
    literalAt clause 2
  else ""

/-- The token right behind the first place where a pattern fits. -/
def valueAfter (pattern : Pattern) (fragment : List Token) : String :=
  ((pattern.find? fragment).bind fun start =>
    fragment[start + pattern.length]?).getD ""

/-- The character set; its long key is tried first. -/
def charset (fragment : List Token) : String :=
  let long :=
    valueAfter [.exactly "CHARACTER", .blank, .exactly "SET", .blank] fragment
  if long.isEmpty then valueAfter [.exactly "CHARSET", .blank] fragment
  else long

/-- The collation. -/
def collation (fragment : List Token) : String :=
  valueAfter [.exactly "COLLATE", .blank] fragment

/-- Whether the column is declared never to be null. -/
def isNotNull (fragment : List Token) : Bool :=
  (Pattern.find? [.exactly "NOT", .blank, .exactly "NULL"] fragment).isSome

/-- Whether the column is numbered automatically. -/
def isAutoIncrement (fragment : List Token) : Bool :=
  fragment.contains "AUTO_INCREMENT"

/-- The column that a fragment defines, none if it defines no column. -/
def column (fragment : List Token) : Except Fault (Option Column) :=
  match fragment with
  | [] => .ok none
  | first :: rest =>
    if !first.isQuoted then .ok none
    else if rest.isEmpty then .error (.bareColumnName fragment.length)
    else if first.unquote.isEmpty then .error .emptyColumnName
    else do
      let value ← defaultValue fragment
      return some {
        name := first.unquote
        dataType := dataType fragment
        defaultValue := value
        comment := comment fragment
        notNull := isNotNull fragment
        autoIncrement := isAutoIncrement fragment
        charset := charset fragment
        collation := collation fragment }

end SqlCatalog.Fragment
