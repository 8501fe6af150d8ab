import PhaseSplit.Text.Alphanumeric
import PhaseSplit.Text.Blank

/-!
# Wrapped paragraphs

A paragraph set in lines of limited width.  A text is cut into pieces: the spaces between its words,
and the parts of words between which a line may end.  Pieces are kept whole where they fit on a
line; a longer one is cut where the line is full, or after the last hyphen before that.

* `Paragraph.pieces` — the pieces of a text;
* `Paragraph.wrap` — the lines of a text.
-/

namespace PhaseSplit.Paragraph

/-! ## Words -/

/-- Whether a glyph stands between words. -/
def isSpace (g : Glyph) : Bool :=
  g = .char ' ' || g = .char '\t' || g = .char '\n' || g = .char '\r' || g = .char '\x0b'
    || g = .char '\x0c'

/-- The words of a text after the letters of an unfinished word. -/
def wordsAfter (word : Text) : Text → List Text
  | [] => if word = [] then [] else [word]
  | g :: t =>
    if isSpace g then if word = [] then wordsAfter [] t else word :: wordsAfter [] t
    else wordsAfter (word ++ [g]) t

/-- The words of a text. -/
def words (t : Text) : List Text := wordsAfter [] t

/-! ## Parts of words -/

/-- Whether a glyph is a hyphen. -/
def isHyphen (g : Glyph) : Bool := g.is '-'

/-- Whether a dash may follow a glyph: one of a word, or a mark that ends a clause. -/
def mayPrecedeDash (g : Glyph) : Bool := g.isWordGlyph || (Text.lit "!\"'&.,?").contains g

/-- Whether a text starts with two hyphens or more. -/
def startsWithDash : Text → Bool
  | a :: b :: _ => isHyphen a && isHyphen b
  | _ => false

/-- Whether a text starts with a dash between words. -/
def isBeforeDash (before after : Text) : Bool :=
  before.head?.any mayPrecedeDash && startsWithDash after
    && (after.dropWhile isHyphen).head?.any Glyph.isWordGlyph

/-- Whether a dash between words has just ended. -/
def isAfterDash (before after : Text) : Bool :=
  startsWithDash before && (before.dropWhile isHyphen).head?.any mayPrecedeDash
    && after.head?.any Glyph.isWordGlyph

/-- Whether a text goes on like the start of a word: two letters, perhaps with a hyphen between
them. -/
def startsLikeWord : Text → Bool
  | a :: b :: t => a.isLetter && (b.isLetter || (isHyphen b && t.head?.any Glyph.isLetter))
  | _ => false

/-- Whether a text ends in a hyphen after a letter and before it another, perhaps with a hyphen
between them; the text is given backwards. -/
def endsInHyphen : Text → Bool
  | h :: a :: b :: t =>
    isHyphen h && a.isLetter && (b.isLetter || (isHyphen b && t.head?.any Glyph.isLetter))
  | _ => false

/-- Whether a line may end inside a word, between what stands before, given backwards, and what
comes after. -/
def mayEnd (before after : Text) : Bool :=
  isBeforeDash before after || isAfterDash before after
    || (endsInHyphen before && startsLikeWord after)

/-- The parts of the rest of a word between which a line may end, after the glyphs `before`, given
backwards. -/
def cutWord (before : Text) : Text → List Text
  | [] => []
  | g :: t =>
    match cutWord (g :: before) t with
    | [] => [[g]]
    | piece :: pieces =>
      if mayEnd (g :: before) t then [g] :: piece :: pieces else (g :: piece) :: pieces

/-- The pieces of a text: the parts of its words, and a space between each two words. -/
def pieces (t : Text) : List Text :=
  List.intercalate [[.char ' ']] ((words t).map (cutWord []))

/-! ## Lines -/

/-- The pieces that fit into some room, and the pieces after them. -/
def fitting : (room : Nat) → List Text → List Text × List Text
  | _, [] => ([], [])
  | room, piece :: pieces =>
    if piece.length ≤ room then
      let (line, rest) := fitting (room - piece.length) pieces
      (piece :: line, rest)
    else ([], piece :: pieces)

/-- The length of the part of a long piece that goes into the room left on a line. -/
def cutLength (room : Nat) (piece : Text) : Nat :=
  let upToHyphen := ((piece.take room).reverse.dropWhile (!isHyphen ·)).length
  if (piece.take (upToHyphen - 1)).all isHyphen then room else upToHyphen

/-- The pieces of the first line, and the pieces after it.  A piece that fits on no line is cut. -/
def firstLine (width : Nat) (pieces : List Text) : List Text × List Text :=
  match fitting width pieces with
  | (line, piece :: rest) =>
    if width < piece.length then
      let cut := cutLength (width - line.flatten.length) piece
      (line ++ [piece.take cut], piece.drop cut :: rest)
    else (line, piece :: rest)
  | (line, []) => (line, [])

/-- Whether a piece shows nothing. -/
def isEmptyPiece (piece : Text) : Bool :=
  piece.all fun g => g.isBlank || (28 ≤ g.code && g.code ≤ 31)

/-- Pieces without one that shows nothing at the start. -/
def dropEmptyStart : List Text → List Text
  | piece :: pieces => if isEmptyPiece piece then pieces else piece :: pieces
  | [] => []

/-- Pieces without one that shows nothing at the end. -/
def dropEmptyEnd (pieces : List Text) : List Text := (dropEmptyStart pieces.reverse).reverse

/-- The lines of some pieces; `fuel` bounds their number. -/
def linesOf (width : Nat) : (fuel : Nat) → List Text → List Text
  | 0, _ => []
  | _, [] => []
  | fuel + 1, pieces =>
    let (line, rest) := firstLine width pieces
    let line := dropEmptyEnd line
    (if line = [] then [] else [line.flatten]) ++ linesOf width fuel (dropEmptyStart rest)

/-- The lines of a text, no line wider than `width`. -/
def wrap (width : Nat) (t : Text) : List Text := linesOf width (t.length + 1) (pieces t)

end PhaseSplit.Paragraph
