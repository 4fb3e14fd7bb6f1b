import ShootPlan.Binary
import ShootPlan.Json
/-!
JSON text. Printing is compact. Reading gives the text's own tree first, `Written`, which
still knows repeated members and strings that no text value exists for.
-/
namespace ShootPlan

namespace Json

def hexDigit (n : Nat) : Char := if n < 10 then Char.ofNat (48 + n) else Char.ofNat (87 + n)

/-- Only quotes, backslashes and characters below the blank are escaped. -/
def escape (c : Char) : List Char :=
  if c = '"' then ['\\', '"']
  else if c = '\\' then ['\\', '\\']
  else if c = '\n' then ['\\', 'n']
  else if c = '\r' then ['\\', 'r']
  else if c = '\t' then ['\\', 't']
  else if c.toNat = 8 then ['\\', 'b']
  else if c.toNat = 12 then ['\\', 'f']
  else if c.toNat < 32 then ['\\', 'u', '0', '0', hexDigit (c.toNat / 16), hexDigit (c.toNat % 16)]
  else [c]

def quoted (s : String) : List Char := '"' :: s.toList.flatMap escape ++ ['"']

mutual

def chars : Json → List Char
  | .null => ['n', 'u', 'l', 'l']
  | .bool true => ['t', 'r', 'u', 'e']
  | .bool false => ['f', 'a', 'l', 's', 'e']
  | .int n => (toString n).toList
  | .decimal d => d.chars
  | .string s => quoted s
  | .array items => '[' :: charsOfItems items ++ [']']
  | .object members => '\x7b' :: charsOfMembers members ++ ['\x7d']

def charsOfItems : List Json → List Char
  | [] => []
  | [item] => item.chars
  | item :: rest => item.chars ++ ',' :: charsOfItems rest

def charsOfMembers : List (String × Json) → List Char
  | [] => []
  | [(key, value)] => quoted key ++ ':' :: value.chars
  | (key, value) :: rest => quoted key ++ ':' :: value.chars ++ ',' :: charsOfMembers rest

end

/-- Compact text, members in the order the value has them. -/
def text (json : Json) : String := String.ofList json.chars

end Json

/--
A JSON text as it stands. Members keep their order and may repeat; a string with half of a
surrogate pair is well formed but has no value.
-/
inductive Written where
  | null
  | bool (value : Bool)
  | int (value : Int)
  | decimal (value : Decimal)
  | string (value : Option String)
  | array (items : List Written)
  | object (members : List (Option String × Written))
  deriving Inhabited

namespace Written

def isBlank (c : Char) : Bool := c = ' ' || c = '\t' || c = '\n' || c = '\r'

def skip (cs : List Char) : List Char := cs.dropWhile isBlank

def hexValue (c : Char) : Option Nat :=
  if '0' ≤ c ∧ c ≤ '9' then some (c.toNat - 48)
  else if 'a' ≤ c ∧ c ≤ 'f' then some (c.toNat - 87)
  else if 'A' ≤ c ∧ c ≤ 'F' then some (c.toNat - 55)
  else none

def hex4 (a b c d : Char) : Option Nat := do
  return ((← hexValue a) * 16 + (← hexValue b)) * 256 + (← hexValue c) * 16 + (← hexValue d)

def isHighSurrogate (n : Nat) : Bool := 0xD800 ≤ n && n < 0xDC00

def isLowSurrogate (n : Nat) : Bool := 0xDC00 ≤ n && n < 0xE000

/-- The character that a one-letter escape stands for. -/
def simpleEscape : Char → Option Char
  | '"' => some '"'
  | '\\' => some '\\'
  | '/' => some '/'
  | 'b' => some (Char.ofNat 8)
  | 'f' => some (Char.ofNat 12)
  | 'n' => some '\n'
  | 'r' => some '\r'
  | 't' => some '\t'
  | _ => none

/-- The rest of a string after its opening quote, and what follows the closing one. -/
def stringBody : List Char → Option (Option (List Char) × List Char)
  | [] => none
  | '"' :: rest => some (some [], rest)
  | '\\' :: 'u' :: a :: b :: c :: d :: '\\' :: 'u' :: e :: f :: g :: h :: rest => do
    let first ← hex4 a b c d
    if isHighSurrogate first && ((hex4 e f g h).map isLowSurrogate).getD false then
      let low ← hex4 e f g h
      let (body, after) ← stringBody rest
      return (body.map (Char.ofNat (0x10000 + (first - 0xD800) * 1024 + (low - 0xDC00)) :: ·), after)
    else
      let (body, after) ← stringBody ('\\' :: 'u' :: e :: f :: g :: h :: rest)
      if isHighSurrogate first || isLowSurrogate first then return (none, after)
      return (body.map (Char.ofNat first :: ·), after)
  | '\\' :: 'u' :: a :: b :: c :: d :: rest => do
    let code ← hex4 a b c d
    let (body, after) ← stringBody rest
    if isHighSurrogate code || isLowSurrogate code then return (none, after)
    return (body.map (Char.ofNat code :: ·), after)
  | '\\' :: c :: rest => do
    let plain ← simpleEscape c
    let (body, after) ← stringBody rest
    return (body.map (plain :: ·), after)
  | c :: rest => do
    if c.toNat < 32 then none
    let (body, after) ← stringBody rest
    return (body.map (c :: ·), after)

def digitsValue (cs : List Char) : Nat := Nat.ofDigitChars 10 cs 0

/-- Digits after a point or an exponent mark; there must be one. -/
def someDigits (cs : List Char) : Option (List Char × List Char) :=
  match cs.takeWhile Char.isDigit with
  | [] => none
  | ds => some (ds, cs.dropWhile Char.isDigit)

def fraction : List Char → Option (Option (List Char) × List Char)
  | '.' :: rest => (someDigits rest).map fun (ds, after) => (some ds, after)
  | cs => some (none, cs)

def scale : List Char → Option (Option Int × List Char)
  | c :: rest =>
    if c = 'e' ∨ c = 'E' then
      match rest with
      | '-' :: rest => (someDigits rest).map fun (ds, after) => (some (-(digitsValue ds : Int)), after)
      | '+' :: rest => (someDigits rest).map fun (ds, after) => (some (digitsValue ds : Int), after)
      | rest => (someDigits rest).map fun (ds, after) => (some (digitsValue ds : Int), after)
    else some (none, c :: rest)
  | [] => some (none, [])

/-- The decimal that 64 bits keep. One too large for them can only stand where it is ignored. -/
def keptDecimal (negative : Bool) (digits : Nat) (exponent : Int) : Written :=
  let d := Decimal.ofParts negative digits exponent
  .decimal (d.kept?.getD d)

/--
A number without fraction and exponent is an integer where 64 bits hold it, with or
without a sign bit; every other number is a decimal.
-/
def number (negative : Bool) (cs : List Char) : Option (Written × List Char) := do
  let (whole, rest) ← someDigits cs
  if whole.length > 1 && whole.head? == some '0' then none
  let (part, rest) ← fraction rest
  let (power, rest) ← scale rest
  let n := digitsValue whole
  match part, power with
  | none, none =>
    if negative && 0 < n && n ≤ Nat.pow 2 63 then return (.int (-n), rest)
    if !negative && n < Nat.pow 2 64 then return (.int n, rest)
    return (keptDecimal negative n 0, rest)
  | _, _ =>
    let ds := part.getD []
    return (keptDecimal negative (digitsValue (whole ++ ds)) (power.getD 0 - ds.length), rest)

mutual

/-- One value at the head of the text, and the text after it. -/
def value : Nat → List Char → Option (Written × List Char)
  | 0, _ => none
  | fuel + 1, cs =>
    match skip cs with
    | 'n' :: 'u' :: 'l' :: 'l' :: rest => some (.null, rest)
    | 't' :: 'r' :: 'u' :: 'e' :: rest => some (.bool true, rest)
    | 'f' :: 'a' :: 'l' :: 's' :: 'e' :: rest => some (.bool false, rest)
    | '"' :: rest => (stringBody rest).map fun (body, after) => (.string (body.map String.ofList), after)
    | '[' :: rest =>
      match skip rest with
      | ']' :: rest => some (.array [], rest)
      | rest => (items fuel rest).map fun (xs, after) => (.array xs, after)
    | '\x7b' :: rest =>
      match skip rest with
      | '\x7d' :: rest => some (.object [], rest)
      | rest => (members fuel rest).map fun (ms, after) => (.object ms, after)
    | '-' :: rest => number true rest
    | rest => number false rest

def items : Nat → List Char → Option (List Written × List Char)
  | 0, _ => none
  | fuel + 1, cs => do
    let (first, rest) ← value fuel cs
    match skip rest with
    | ',' :: rest =>
      let (more, after) ← items fuel rest
      return (first :: more, after)
    | ']' :: rest => return ([first], rest)
    | _ => none

def members : Nat → List Char → Option (List (Option String × Written) × List Char)
  | 0, _ => none
  | fuel + 1, cs =>
    match skip cs with
    | '"' :: rest => do
      let (key, rest) ← stringBody rest
      match skip rest with
      | ':' :: rest =>
        let (first, rest) ← value fuel rest
        let entry := (key.map String.ofList, first)
        match skip rest with
        | ',' :: rest =>
          let (more, after) ← members fuel rest
          return (entry :: more, after)
        | '\x7d' :: rest => return ([entry], rest)
        | _ => none
      | _ => none
    | _ => none

end

/-- A text is one value with blanks around it. Two steps a character are enough. -/
def ofText (text : String) : Option Written := do
  let cs := text.toList
  let (tree, rest) ← value (2 * cs.length + 2) cs
  if (skip rest).isEmpty then return tree else none

mutual

/-- The value a text stands for; there is none when a string in it has none. -/
def json : Written → Option Json
  | .null => some .null
  | .bool b => some (.bool b)
  | .int n => some (.int n)
  | .decimal d => some (.decimal d)
  | .string s => s.map .string
  | .array items => (jsonItems items).map .array
  | .object members => (jsonMembers members).map .object

def jsonItems : List Written → Option (List Json)
  | [] => some []
  | item :: rest => do return (← item.json) :: (← jsonItems rest)

def jsonMembers : List (Option String × Written) → Option (List (String × Json))
  | [] => some []
  | (key, value) :: rest => do return (← key, ← value.json) :: (← jsonMembers rest)

end

mutual

/-- The tree of the text that the value is printed as. -/
def ofJson : Json → Written
  | .null => .null
  | .bool b => .bool b
  | .int n => .int n
  | .decimal d => .decimal d
  | .string s => .string (some s)
  | .array items => .array (ofItems items)
  | .object members => .object (ofMembers members)

def ofItems : List Json → List Written
  | [] => []
  | item :: rest => ofJson item :: ofItems rest

def ofMembers : List (String × Json) → List (Option String × Written)
  | [] => []
  | (key, value) :: rest => (some key, ofJson value) :: ofMembers rest

end

end Written

namespace Json

/-- The canonical value of a JSON text. -/
def ofText (text : String) : Option Json := ((Written.ofText text).bind Written.json).map canonical

end Json

end ShootPlan
