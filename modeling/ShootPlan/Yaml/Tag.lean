import ShootPlan.Numeral
import ShootPlan.Yaml.Scalar
/-!
Tags of YAML nodes and the directives at the head of a document. A tag is written with a
handle, which stands for what every tag with it begins with, or in full.
-/
namespace ShootPlan.Yaml

/-- What a tag says. Its escapes may spell any octets, so it need not be a text. -/
abbrev Octets := List UInt8

namespace Octets

def ofText (text : String) : Octets := text.toUTF8.toList

def text? (octets : Octets) : Option String := String.fromUTF8? ⟨octets.toArray⟩

/-- A zero ends what is said. -/
def clip (octets : Octets) : Octets := octets.takeWhile (· ≠ 0)

end Octets

/-- The empty handle stands for nothing: the suffix is the whole tag. -/
structure Tag where
  handle : String
  suffix : Octets
  deriving DecidableEq, Repr

inductive Directive where
  | version
  | tag (handle : String) (lead : Octets)
  deriving DecidableEq, Repr

namespace Tag

/-- A handle, complete if a second exclamation mark ends it. -/
def handleChars : List Char → Option (List Char × Bool × List Char)
  | '!' :: cs =>
    let name := cs.takeWhile Glyph.isNameChar
    match cs.dropWhile Glyph.isNameChar with
    | '!' :: rest => some ('!' :: name ++ ['!'], true, rest)
    | rest => some ('!' :: name, false, rest)
  | _ => none

def octet : List Char → Option (Nat × List Char)
  | '%' :: a :: b :: rest => do
    return ((← Written.hexValue a) * 16 + (← Written.hexValue b), rest)
  | _ => none

/-- So many octets that may follow the first of a character. -/
def continued : Nat → List Char → Option (Octets × List Char)
  | 0, cs => some ([], cs)
  | count + 1, cs => do
    let (b, rest) ← octet cs
    if b / 64 ≠ 2 then none
    let (more, rest) ← continued count rest
    return (.ofNat b :: more, rest)

/-- The octets of one character; the first tells how many there are. -/
def escaped (cs : List Char) : Option (Octets × List Char) := do
  let (a, rest) ← octet cs
  let count ←
    if a < 128 then some 0
    else if a / 32 = 6 then some 1
    else if a / 16 = 14 then some 2
    else if a / 8 = 30 then some 3
    else none
  let (more, rest) ← continued count rest
  return (.ofNat a :: more, rest)

/-- Commas and brackets only where the tag is written in full. -/
def isTagChar (full : Bool) (c : Char) : Bool :=
  Glyph.isNameChar c || ";/?:@&=+$.!~*'()".toList.contains c || (full && ",[]".toList.contains c)

/-- The characters of a tag; each step takes one or an escape, so their number is fuel enough. -/
def tagChars (full : Bool) : Nat → List Char → Option (Octets × List Char)
  | fuel + 1, '%' :: rest => do
    let (octets, rest) ← escaped ('%' :: rest)
    let (more, after) ← tagChars full fuel rest
    return (octets ++ more, after)
  | fuel + 1, c :: rest =>
    if isTagChar full c then
      (tagChars full fuel rest).map fun (more, after) => (.ofNat c.toNat :: more, after)
    else some ([], c :: rest)
  | _, rest => some ([], rest)

/-- There must be a character, even if nothing is said with it. -/
def someTagChars (full : Bool) (cs : List Char) : Option (Octets × List Char) := do
  let (taken, rest) ← tagChars full cs.length cs
  if taken.isEmpty then none else return (taken.clip, rest)

/-- A tag and what is left of its word. A lone exclamation mark is a tag of its own. -/
def ofWord? : List Char → Option (Tag × List Char)
  | '!' :: '<' :: cs => do
    match ← someTagChars true cs with
    | (suffix, '>' :: rest) => return (⟨"", suffix⟩, rest)
    | _ => none
  | cs => do
    match ← handleChars cs with
    | (handle, true, rest) =>
      let (suffix, rest) ← someTagChars false rest
      return (⟨String.ofList handle, suffix⟩, rest)
    | (name, false, rest) =>
      let (more, rest) ← tagChars false rest.length rest
      match (Octets.ofText (String.ofList (name.drop 1)) ++ more).clip with
      | [] => return (⟨"", .ofText "!"⟩, rest)
      | suffix => return (⟨"!", suffix⟩, rest)

/-- The handles that need no directive. -/
def knownHandles : List (String × Octets) :=
  [("!", .ofText "!"), ("!!", .ofText "tag:yaml.org,2002:")]

/-- The tag in full; a handle that nothing declares has no meaning. -/
def resolve (declared : List (String × Octets)) (tag : Tag) : Option Octets :=
  if tag.handle = "" then some tag.suffix
  else (declared ++ knownHandles).lookup tag.handle |>.map (· ++ tag.suffix)

end Tag

namespace Directive

def isBlank (c : Char) : Bool := c = ' ' || c = '\t'

def skip (cs : List Char) : List Char := cs.dropWhile isBlank

def digits (cs : List Char) : Option (Nat × List Char) :=
  let ds := cs.takeWhile Char.isDigit
  if ds.length ≤ 9 then (Numeral.natural? ds).map (·, cs.dropWhile Char.isDigit) else none

/-- Versions 1.1 and 1.2 are understood. -/
def version? (cs : List Char) : Option Directive := do
  match ← digits (skip cs) with
  | (major, '.' :: rest) =>
    let (minor, rest) ← digits rest
    if major = 1 ∧ (minor = 1 ∨ minor = 2) ∧ Scalar.endsLine rest then return .version else none
  | _ => none

def tag? (cs : List Char) : Option Directive := do
  let (handle, complete, rest) ← Tag.handleChars (skip cs)
  let (lead, after) ← Tag.someTagChars true (skip rest)
  if (complete || handle = ['!']) && (rest.head?.map isBlank).getD false
      && (after.head?.map isBlank).getD true && Scalar.endsLine after then
    return .tag (String.ofList handle) lead
  else none

/-- The directive on a line after its percent sign; a blank ends its name. -/
def ofLine? (cs : List Char) : Option Directive :=
  match String.ofList (cs.takeWhile (!isBlank ·)), cs.dropWhile (!isBlank ·) with
  | "YAML", rest => version? rest
  | "TAG", rest => tag? rest
  | _, _ => none

end Directive

end ShootPlan.Yaml
