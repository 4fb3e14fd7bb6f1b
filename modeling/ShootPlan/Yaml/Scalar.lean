import ShootPlan.JsonText
import ShootPlan.Yaml.Glyph
/-!
The texts of YAML scalars in their written styles. Plain and quoted scalars fold their
lines, block scalars keep them or fold them. Every reader takes what stands after the
opening mark and gives the text and what follows; it fails on what cannot be read.
-/
namespace ShootPlan.Yaml

inductive Style where
  | plain
  | quoted
  | literal
  | folded
  deriving DecidableEq, Repr

/-- The blanks and breaks between two words of a scalar. -/
inductive Gap where
  | blanks (cs : List Char)
  /-- Blanks beside a break are dropped. An escaped break is not there as `first`. -/
  | breaks (first : Option Char) (more : List Char)

namespace Gap

def empty : Gap := .blanks []

def isEmpty : Gap → Bool
  | .blanks cs => cs.isEmpty
  | .breaks .. => false

def isBroken : Gap → Bool
  | .blanks _ => false
  | .breaks .. => true

def addBlank (c : Char) : Gap → Gap
  | .blanks cs => .blanks (cs ++ [c])
  | broken => broken

def addBreak (c : Char) : Gap → Gap
  | .blanks _ => .breaks (some c) []
  | .breaks first more => .breaks first (more ++ [c])

/-- A lone line feed is a space; of several the first is dropped. A separator is kept. -/
def text : Gap → List Char
  | .blanks cs => cs
  | .breaks (some '\n') [] => [' ']
  | .breaks (some '\n') more => more
  | .breaks first more => first.toList ++ more

end Gap

namespace Scalar

/-- The characters that end a plain scalar inside a flow collection. -/
def isFlowMark (c : Char) : Bool := c = ',' || c = '[' || c = ']' || c = '\x7b' || c = '\x7d'

/-- A colon before one of these cannot be read inside a flow collection. -/
def splitsColon (gs : List Glyph) : Bool :=
  match gs with
  | g :: _ => isFlowMark g.char || g.char = '?'
  | [] => false

/--
A plain scalar, also told whether the text goes on in a new line after it. Its lines stand
at column `least` or later, but for those inside a flow collection.
-/
def plain (flow : Bool) (least : Nat) (gap : Gap) : List Glyph → Option (List Char × Bool × List Glyph)
  | [] => some ([], gap.isBroken, [])
  | g :: rest =>
    if g.isBreak then plain flow least (gap.addBreak g.char) rest
    else if g.isBlank then
      if g.char = '\t' && gap.isBroken && g.column < least then none
      else plain flow least (gap.addBlank g.char) rest
    else if !gap.isEmpty && ((!flow && g.column < least) || g.char = '#'
        || (Glyph.documentMark (g :: rest)).isSome) then
      some ([], gap.isBroken, g :: rest)
    else if flow && g.char = ':' && splitsColon rest then none
    else if (g.char = ':' && Glyph.endsWord rest) || (flow && isFlowMark g.char) then
      some ([], gap.isBroken, g :: rest)
    else (plain flow least .empty rest).map fun (cs, after) => (gap.text ++ g.char :: cs, after)

/-- The character that a backslash and this letter stand for. -/
def escape : Char → Option Char
  | '0' => some (Char.ofNat 0)
  | 'a' => some (Char.ofNat 7)
  | 'b' => some (Char.ofNat 8)
  | 't' | '\t' => some '\t'
  | 'n' => some '\n'
  | 'v' => some (Char.ofNat 11)
  | 'f' => some (Char.ofNat 12)
  | 'r' => some '\r'
  | 'e' => some (Char.ofNat 27)
  | ' ' => some ' '
  | '"' => some '"'
  | '/' => some '/'
  | '\\' => some '\\'
  | 'N' => some (Char.ofNat 0x85)
  | '_' => some (Char.ofNat 0xA0)
  | 'L' => some (Char.ofNat 0x2028)
  | 'P' => some (Char.ofNat 0x2029)
  | _ => none

/-- How many hexadecimal digits follow this letter. -/
def codeLength : Char → Option Nat
  | 'x' => some 2
  | 'u' => some 4
  | 'U' => some 8
  | _ => none

def hexNumber (digits : List Char) : Option Nat :=
  digits.foldlM (fun n c => (Written.hexValue c).map (n * 16 + ·)) 0

/-- The character with this code; surrogates and numbers beyond the last code have none. -/
def codePoint (count : Nat) (digits : List Char) : Option Char := do
  let n ← hexNumber digits
  if digits.length = count ∧ n.isValidChar then return Char.ofNat n else none

/-- A quoted scalar after its opening quote; `gap` is what has just been passed. -/
def quoted (single : Bool) (gap : Gap) : List Glyph → Option (List Char × List Glyph)
  | [] => none
  | g :: rest =>
    if g.isBreak then quoted single (gap.addBreak g.char) rest
    else if g.isBlank then quoted single (gap.addBlank g.char) rest
    else if (Glyph.documentMark (g :: rest)).isSome then none
    else if single && g.char = '\'' then
      match rest with
      | h :: more =>
        if h.char = '\'' then
          (quoted single .empty more).map fun (cs, after) => (gap.text ++ '\'' :: cs, after)
        else some (gap.text, rest)
      | [] => some (gap.text, [])
    else if !single && g.char = '"' then some (gap.text, rest)
    else if !single && g.char = '\\' then
      match rest with
      | [] => none
      | h :: more =>
        if h.isBreak then
          (quoted single (.breaks none []) more).map fun (cs, after) => (gap.text ++ cs, after)
        else
          match escape h.char, codeLength h.char with
          | some c, _ =>
            (quoted single .empty more).map fun (cs, after) => (gap.text ++ c :: cs, after)
          | none, some count => do
            let c ← codePoint count ((more.take count).map Glyph.char)
            let (cs, after) ← quoted single .empty (more.drop count)
            return (gap.text ++ c :: cs, after)
          | none, none => none
    else (quoted single .empty rest).map fun (cs, after) => (gap.text ++ g.char :: cs, after)
termination_by gs => gs.length

/-- What becomes of the breaks at the end of a block scalar. -/
inductive Chomp where
  | clip
  | strip
  | keep
  deriving DecidableEq, Repr

/--
What has been passed since the last line with content: the break that ended it and those
of the blank lines, and whether that line began with a blank.
-/
structure Pause where
  first : Option Char
  more : List Char
  indented : Bool

namespace Pause

/-- Lines are folded only between two that both begin without a blank. -/
def text (fold : Bool) (next : Glyph) (p : Pause) : List Char :=
  if fold && p.first = some '\n' && !p.indented && !next.isBlank then
    if p.more.isEmpty then [' '] else p.more
  else p.first.toList ++ p.more

def ending (p : Pause) : Chomp → List Char
  | .strip => []
  | .clip => p.first.toList
  | .keep => p.first.toList ++ p.more

end Pause

mutual

/-- The lines of a block scalar that stand at column `indent` or later. -/
def blockLines (fold : Bool) (chomp : Chomp) (indent : Nat) (p : Pause) :
    List Glyph → Option (List Char × List Glyph)
  | [] => some (p.ending chomp, [])
  | g :: rest =>
    if g.isBreak then
      blockLines fold chomp indent ⟨p.first, p.more ++ [g.char], p.indented⟩ rest
    else if g.column < indent then
      if g.char = ' ' then blockLines fold chomp indent p rest
      else if g.char = '\t' then none
      else some (p.ending chomp, g :: rest)
    else
      (blockLine fold chomp indent g.isBlank rest).map fun (cs, after) =>
        (p.text fold g ++ g.char :: cs, after)

/-- The rest of a line and the lines after it. -/
def blockLine (fold : Bool) (chomp : Chomp) (indent : Nat) (indented : Bool) :
    List Glyph → Option (List Char × List Glyph)
  | [] => some ([], [])
  | g :: rest =>
    if g.isBreak then blockLines fold chomp indent ⟨some g.char, [], indented⟩ rest
    else
      (blockLine fold chomp indent indented rest).map fun (cs, after) => (g.char :: cs, after)

end

/-- The widest margin of the lines up to the first one with content; a tab may not end it. -/
def margin (widest : Nat) : List Glyph → Option Nat
  | [] => some widest
  | g :: rest =>
    if g.char = ' ' then margin (max widest (g.column + 1)) rest
    else if g.isBreak then margin widest rest
    else if g.char = '\t' then none
    else some widest

def chompMark : List Char → Option Chomp × List Char
  | '+' :: rest => (some .keep, rest)
  | '-' :: rest => (some .strip, rest)
  | cs => (none, cs)

def indentMark : List Char → Option Nat × List Char
  | c :: rest => if c.isDigit then (some (c.toNat - 48), rest) else (none, c :: rest)
  | [] => (none, [])

/-- Only a comment may follow. -/
def endsLine (cs : List Char) : Bool :=
  match cs.dropWhile fun c => c = ' ' || c = '\t' with
  | [] => true
  | c :: _ => c = '#'

/-- The marks after the sign of a block scalar, in either order, up to the end of the line. -/
def blockMarks (cs : List Char) : Option (Chomp × Option Nat) :=
  let (chomp, cs) := chompMark cs
  let (step, cs) := indentMark cs
  let (chomp, cs) := if chomp.isNone && step.isSome then chompMark cs else (chomp, cs)
  if endsLine cs && step != some 0 then some (chomp.getD .clip, step) else none

/-- A block scalar inside the block collection at column `level`. -/
def block (fold : Bool) (level : Option Nat) (gs : List Glyph) : Option (List Char × List Glyph) := do
  let (chomp, step) ← blockMarks (Glyph.restOfLine gs)
  let body := (gs.dropWhile fun g => !g.isBreak).drop 1
  let indent ←
    match step with
    | some n => some (level.getD 0 + n)
    | none => (margin 0 body).map (max ((level.map (· + 1)).getD 1))
  blockLines fold chomp indent ⟨none, [], false⟩ body

end Scalar

end ShootPlan.Yaml
