import ShootPlan.Yaml.Tag
/-!
The tokens of a YAML text. Block collections have no closing marks of their own, so their
ends are found from the columns; and what a key is shows only at the colon after it, so
the token that opens a key is put in later, in front of where it began.
-/
namespace ShootPlan.Yaml

inductive Token where
  | directive (directive : Directive)
  | documentStart
  | documentEnd
  | sequenceStart
  | mappingStart
  | blockEnd
  | flowSequenceStart
  | flowSequenceEnd
  | flowMappingStart
  | flowMappingEnd
  | flowEntry
  | entry
  | key
  | value
  | anchor (name : String)
  | alias (name : String)
  | tag (tag : Tag)
  | scalar (style : Style) (text : String)
  deriving DecidableEq, Repr

/-- A place where a key may have begun. -/
structure KeyStart where
  /-- How many tokens stand before it. -/
  before : Nat
  line : Nat
  column : Nat
  offset : Nat
  /-- At this column there can be nothing but a key. -/
  required : Bool

/-- The tokens so far, and what the next ones depend on. -/
structure Outline where
  /-- The newest first. -/
  tokens : List Token := []
  /-- How many tokens these are. -/
  count : Nat := 0
  /-- The columns of the open block collections, the innermost first. -/
  levels : List Nat := []
  /-- Where the key of a colon to come may have begun. -/
  key : Option KeyStart := none
  /-- The same outside each open flow collection, the innermost first. -/
  outer : List (Option KeyStart) := []
  /-- A key may begin here. -/
  fresh : Bool := true

namespace Outline

def inFlow (o : Outline) : Bool := !o.outer.isEmpty

def push (t : Token) (o : Outline) : Outline :=
  { o with tokens := t :: o.tokens, count := o.count + 1 }

/-- Put a token in front of the newest `later` ones. -/
def insert (t : Token) (later : Nat) (o : Outline) : Outline :=
  { o with tokens := o.tokens.take later ++ t :: o.tokens.drop later, count := o.count + 1 }

/-- End the innermost block collections as long as they are to be closed. -/
def close (closes : Nat → Bool) (o : Outline) : Outline :=
  if o.inFlow then o
  else
    let levels := o.levels.dropWhile closes
    let ended := o.levels.length - levels.length
    let tokens := List.replicate ended .blockEnd ++ o.tokens
    { o with tokens := tokens, count := o.count + ended, levels := levels }

def closeAll (o : Outline) : Outline := o.close fun _ => true

/-- Begin a block collection, `later` tokens back, if the column is a new one. -/
def openAt (column : Nat) (t : Token) (later : Nat) (o : Outline) : Outline :=
  if o.inFlow || (o.levels.head?.map fun level => decide (column ≤ level)).getD false then o
  else { o.insert t later with levels := column :: o.levels }

/-- No key began where one may have; a required one fails. -/
def dropKey (o : Outline) : Option Outline :=
  match o.key with
  | some start => if start.required then none else some { o with key := none }
  | none => some o

/-- Remember this place if a key may begin here. -/
def saveKey (g : Glyph) (o : Outline) : Option Outline :=
  if o.fresh then do
    let o ← o.dropKey
    let required := !o.inFlow && o.levels.head? == some g.column
    return { o with key := some ⟨o.count, g.line, g.column, g.offset, required⟩ }
  else some o

/-- A key stands on one line and takes 1024 bytes at most. -/
def stillKey (g : Glyph) : Option KeyStart → Option (Option KeyStart)
  | none => some none
  | some start =>
    if start.line < g.line || start.offset + 1024 < g.offset then
      if start.required then none else some none
    else some (some start)

def dropStale (g : Glyph) (o : Outline) : Option Outline := do
  return { o with key := ← stillKey g o.key, outer := ← o.outer.mapM (stillKey g) }

/-- A token that a key may begin with. -/
def begin (t : Token) (g : Glyph) (o : Outline) : Option Outline := do
  return { (← o.saveKey g).push t with fresh := false }

def flowStart (t : Token) (g : Glyph) (o : Outline) : Option Outline := do
  let o ← o.saveKey g
  return { o.push t with key := none, outer := o.key :: o.outer, fresh := true }

def flowEnd (t : Token) (o : Outline) : Option Outline := do
  let o ← o.dropKey
  match o.outer with
  | key :: outer => return { o.push t with key := key, outer := outer, fresh := false }
  | [] => return { o.push t with fresh := false }

def flowEntry (o : Outline) : Option Outline := do
  return { (← o.dropKey).push .flowEntry with fresh := true }

def blockEntry (g : Glyph) (o : Outline) : Option Outline := do
  if !o.inFlow && !o.fresh then none
  return { (← (o.openAt g.column .sequenceStart 0).dropKey).push .entry with fresh := true }

def keyMark (g : Glyph) (o : Outline) : Option Outline := do
  if !o.inFlow && !o.fresh then none
  return { (← (o.openAt g.column .mappingStart 0).dropKey).push .key with fresh := !o.inFlow }

def valueMark (g : Glyph) (o : Outline) : Option Outline :=
  match o.key with
  | some start =>
    let later := o.count - start.before
    let o := (o.insert .key later).openAt start.column .mappingStart (later + 1)
    some { o.push .value with key := none, fresh := false }
  | none => do
    if !o.inFlow && !o.fresh then none
    return { (o.openAt g.column .mappingStart 0).push .value with fresh := !o.inFlow }

/-- A mark that stands outside every collection. -/
def border (t : Token) (o : Outline) : Option Outline := do
  return { (← o.closeAll.dropKey).push t with fresh := false }

def blockScalar (style : Style) (gs : List Glyph) (o : Outline) :
    Option (Outline × List Glyph) := do
  let o ← o.dropKey
  let (text, rest) ← Scalar.block (style = .folded) o.levels.head? gs
  return ({ o.push (.scalar style (String.ofList text)) with fresh := true }, rest)

def quotedScalar (single : Bool) (g : Glyph) (gs : List Glyph) (o : Outline) :
    Option (Outline × List Glyph) := do
  let (text, rest) ← Scalar.quoted single .empty gs
  return (← o.begin (.scalar .quoted (String.ofList text)) g, rest)

def plainScalar (g : Glyph) (gs : List Glyph) (o : Outline) : Option (Outline × List Glyph) := do
  let least := (o.levels.head?.map (· + 1)).getD 0
  let (text, broken, rest) ← Scalar.plain o.inFlow least .empty (g :: gs)
  return ({ ← o.begin (.scalar .plain (String.ofList text)) g with fresh := broken }, rest)

/-- The name of an anchor; it ends at a blank, a break or one of a few marks. -/
def named (t : String → Token) (g : Glyph) (gs : List Glyph) (o : Outline) :
    Option (Outline × List Glyph) := do
  let name := gs.takeWhile fun g => Glyph.isNameChar g.char
  let rest := gs.dropWhile fun g => Glyph.isNameChar g.char
  let ends := (rest.head?.map fun g => "?:,]\x7d%@\x60".toList.contains g.char).getD true
  if name.isEmpty || !(ends || Glyph.endsWord rest) then none
  return (← o.begin (t (String.ofList (name.map Glyph.char))) g, rest)

def tag (g : Glyph) (gs : List Glyph) (o : Outline) : Option (Outline × List Glyph) := do
  let word := Glyph.restOfWord (g :: gs)
  let (tag, rest) ← Tag.ofWord? word
  if rest.isEmpty || (o.inFlow && rest.head? == some ',') then
    return (← o.begin (.tag tag) g, (g :: gs).drop (word.length - rest.length))
  else none

/-- A directive takes its line with the break, so no key may begin on the next one yet. -/
def directive (gs : List Glyph) (o : Outline) : Option (Outline × List Glyph) := do
  let directive ← Directive.ofLine? (Glyph.restOfLine gs)
  return (← o.border (.directive directive), (gs.dropWhile fun g => !g.isBreak).drop 1)

/-- What a plain scalar may not begin with. -/
def isMark (c : Char) : Bool := "-?:,[]\x7b\x7d#&*!|>\x27\x22%@\x60".toList.contains c

/-- A mark may begin a plain scalar if more follows. -/
def beginsPlain (flow : Bool) (g : Glyph) (rest : List Glyph) : Bool :=
  !(g.isBlank || isMark g.char)
    || (g.char = '-' && !(rest.head?.map Glyph.isBlank).getD false)
    || (!flow && (g.char = '?' || g.char = ':') && !Glyph.endsWord rest)

/-- Take the token that the text goes on with. -/
def token (g : Glyph) (rest : List Glyph) (o : Outline) : Option (Outline × List Glyph) :=
  if g.column = 0 && g.char = '%' then o.directive rest
  else
    match Glyph.documentMark (g :: rest) with
    | some (c, after) =>
      (o.border (if c = '-' then .documentStart else .documentEnd)).map (·, after)
    | none =>
      let stands := Glyph.endsWord rest
      match g.char with
      | '[' => (o.flowStart .flowSequenceStart g).map (·, rest)
      | '\x7b' => (o.flowStart .flowMappingStart g).map (·, rest)
      | ']' => (o.flowEnd .flowSequenceEnd).map (·, rest)
      | '\x7d' => (o.flowEnd .flowMappingEnd).map (·, rest)
      | ',' => o.flowEntry.map (·, rest)
      | '*' => o.named .alias g rest
      | '&' => o.named .anchor g rest
      | '!' => o.tag g rest
      | '\x27' => o.quotedScalar true g rest
      | '\x22' => o.quotedScalar false g rest
      | c =>
        if c = '-' && stands then (o.blockEntry g).map (·, rest)
        else if c = '?' && (o.inFlow || stands) then (o.keyMark g).map (·, rest)
        else if c = ':' && (o.inFlow || stands) then (o.valueMark g).map (·, rest)
        else if c = '|' && !o.inFlow then o.blockScalar .literal rest
        else if c = '>' && !o.inFlow then o.blockScalar .folded rest
        else if beginsPlain o.inFlow g rest then o.plainScalar g rest
        else none

end Outline

namespace Token

/--
Pass over blanks, comments and breaks. After a break in a block collection a key may begin;
where one may, tabs are no blanks.
-/
def skip (flow : Bool) (fresh comment : Bool) : List Glyph → Bool × List Glyph
  | [] => (fresh, [])
  | g :: rest =>
    if g.isBreak then skip flow (fresh || !flow) false rest
    else if comment || g.char = '#' then skip flow fresh true rest
    else if g.char = ' ' || (g.char = '\t' && (flow || !fresh))
        || (g.char.toNat = 0xFEFF && g.column = 0) then
      skip flow fresh false rest
    else (fresh, g :: rest)

/-- Every step takes a character or more, so their number is fuel enough. -/
def scan : Nat → Outline → List Glyph → Option Outline
  | 0, _, _ => none
  | fuel + 1, o, gs =>
    match skip o.inFlow o.fresh false gs with
    | (_, []) => o.closeAll.dropKey
    | (fresh, g :: rest) => do
      let o ← { o with fresh := fresh }.dropStale g
      let (o, rest) ← (o.close fun level => g.column < level).token g rest
      scan fuel o rest

def ofText? (text : String) : Option (List Token) := do
  let gs ← Glyph.ofText? text
  let o ← scan (gs.length + 1) {} gs
  return o.tokens.reverse

end Token

end ShootPlan.Yaml
