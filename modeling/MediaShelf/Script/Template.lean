import MediaShelf.Script.TokenValue
import MediaShelf.Text.Ascii

/-!
# Templates

A template is text with placeholders. It is split into pieces first, from left to right, and then
each piece is written for itself. So a value is never searched for placeholders, and what is written
for one piece has no effect on the others.

A `%` in front of three ASCII letters or digits that name no token stays, together with the three;
any other `%` stays alone.
-/

namespace MediaShelf

/-- A piece of a template. -/
inductive TemplatePiece where
  /-- A character that stands for itself. -/
  | literal (c : Char)
  /-- A token, to be replaced by what it stands for. -/
  | token (token : Token)
deriving DecidableEq

namespace TemplatePiece

/-- What a piece is replaced by. -/
def value (ctx : NamingContext) (options : NamingOptions) : TemplatePiece → List Char
  | literal c => [c]
  | token t => (t.value ctx options).toList

/-- The piece of a placeholder, or its characters if it names no token. -/
def ofPlaceholder (a b c : Char) : List TemplatePiece :=
  match Token.named? [a, b, c] with
  | some t => [token t]
  | none => [literal '%', literal a, literal b, literal c]

end TemplatePiece

/-- Whether three characters can be the name of a token. -/
def isTokenName (a b c : Char) : Bool :=
  Text.isAsciiAlphanumeric a && Text.isAsciiAlphanumeric b && Text.isAsciiAlphanumeric c

/-- The pieces of a template. -/
def templatePieces : List Char → List TemplatePiece
  | '%' :: a :: b :: c :: rest =>
    if isTokenName a b c then TemplatePiece.ofPlaceholder a b c ++ templatePieces rest
    else .literal '%' :: templatePieces (a :: b :: c :: rest)
  | c :: rest => .literal c :: templatePieces rest
  | [] => []

/-- Writes a template with the values of its tokens. -/
def substitute (ctx : NamingContext) (options : NamingOptions) (template : List Char) : List Char :=
  (templatePieces template).flatMap (·.value ctx options)

end MediaShelf
