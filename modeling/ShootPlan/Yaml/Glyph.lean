/-!
The characters of a YAML text, each with the line and the column where it stands, and the
bytes before it on the line.
-/
namespace ShootPlan.Yaml

structure Glyph where
  char : Char
  line : Nat
  column : Nat
  offset : Nat
  deriving DecidableEq, Repr

namespace Glyph

/-- Control characters other than tabs and breaks may not stand in a text. -/
def isAllowed (c : Char) : Bool :=
  let n := c.toNat
  n = 9 || n = 10 || n = 13 || n = 0x85 || (0x20 ≤ n && n ≤ 0x7E) || (0xA0 ≤ n && n ≤ 0xFFFD)
    || 0x10000 ≤ n

/-- Every break but the line and the paragraph separator reads as a line feed. -/
def unify : List Char → List Char
  | '\r' :: '\n' :: rest => '\n' :: unify rest
  | c :: rest => (if c = '\r' || c.toNat = 0x85 then '\n' else c) :: unify rest
  | [] => []

def breaks (c : Char) : Bool := c = '\n' || c.toNat = 0x2028 || c.toNat = 0x2029

def place (line column offset : Nat) : List Char → List Glyph
  | [] => []
  | c :: rest =>
    ⟨c, line, column, offset⟩ ::
      if breaks c then place (line + 1) 0 0 rest
      else place line (column + 1) (offset + c.utf8Size) rest

def ofText? (text : String) : Option (List Glyph) :=
  if text.toList.all isAllowed then some (place 0 0 0 (unify text.toList)) else none

def isBreak (g : Glyph) : Bool := breaks g.char

def isBlank (g : Glyph) : Bool := g.char = ' ' || g.char = '\t'

/-- The characters of names: those of anchors, tag handles and directives. -/
def isNameChar (c : Char) : Bool := c.isAlphanum || c = '_' || c = '-'

/-- The characters left on the line. -/
def restOfLine (gs : List Glyph) : List Char := (gs.takeWhile fun g => !g.isBreak).map char

/-- The characters of the word ahead. -/
def restOfWord (gs : List Glyph) : List Char := (gs.takeWhile fun g => !g.isBreak && !g.isBlank).map char

/-- A blank, a break or the end of the text comes next. -/
def endsWord : List Glyph → Bool
  | [] => true
  | g :: _ => g.isBlank || g.isBreak

/-- Three dashes or three dots at the start of a line: which of them, and what follows. -/
def documentMark : List Glyph → Option (Char × List Glyph)
  | a :: b :: c :: rest =>
    if a.column = 0 && (a.char = '-' || a.char = '.') && b.char = a.char && c.char = a.char
        && endsWord rest then
      some (a.char, rest)
    else none
  | _ => none

end Glyph

end ShootPlan.Yaml
