import ShootPlan.Coded
import ShootPlan.Yaml.Document
/-!
What YAML nodes mean. A scalar is a text wherever one is wanted; only where nothing is
known of what is wanted does the text decide between null, truth values, numbers and texts.
-/
namespace ShootPlan.Yaml

namespace Scalar

def isNull (text : String) : Bool := ["null", "Null", "NULL", "~"].contains text

def bool? (text : String) : Option Bool :=
  if ["true", "True", "TRUE"].contains text then some true
  else if ["false", "False", "FALSE"].contains text then some false
  else none

def digit? (radix : Nat) (c : Char) : Option Nat := do
  let n ← Written.hexValue c
  if n < radix then return n else none

def inRadix? (radix : Nat) : List Char → Option Nat
  | [] => none
  | cs => cs.foldlM (fun n c => (digit? radix c).map (n * radix + ·)) 0

/-- A decimal number has no leading zeros. -/
def natural? : List Char → Option Nat
  | '0' :: 'x' :: cs => inRadix? 16 cs
  | '0' :: 'o' :: cs => inRadix? 8 cs
  | '0' :: 'b' :: cs => inRadix? 2 cs
  | '0' :: _ :: _ => none
  | cs => inRadix? 10 cs

def int? (text : String) : Option Int :=
  match text.toList with
  | '+' :: cs => (natural? cs).map Int.ofNat
  | '-' :: cs => (natural? cs).map fun n => -(n : Int)
  | cs => (natural? cs).map Int.ofNat

/-- Digits with a point somewhere, and an exponent; the sign is already off. They must be finite. -/
def decimal? (negative : Bool) (cs : List Char) : Option Decimal := do
  let whole := cs.takeWhile Char.isDigit
  let rest := cs.dropWhile Char.isDigit
  let (part, rest) :=
    match rest with
    | '.' :: rest => (rest.takeWhile Char.isDigit, rest.dropWhile Char.isDigit)
    | rest => ([], rest)
  let digits ← Numeral.natural? (whole ++ part)
  let scale ←
    match rest with
    | [] => some 0
    | e :: rest => if e = 'e' ∨ e = 'E' then Numeral.signed? rest else none
  (Decimal.ofParts negative digits (scale - part.length)).kept?

/-- What has no finite value is null. -/
def float? (text : String) : Option Json :=
  if [".inf", ".Inf", ".INF", "+.inf", "+.Inf", "+.INF", "-.inf", "-.Inf", "-.INF", ".nan", ".NaN",
      ".NAN"].contains text then some .null
  else
    match text.toList with
    | '+' :: cs => (decimal? false cs).map .decimal
    | '-' :: cs => (decimal? true cs).map .decimal
    | cs => (decimal? false cs).map .decimal

/-- An integer that 64 bits hold, with or without a sign bit. -/
def integer? (n : Int) : Option Json :=
  if -9223372036854775808 ≤ n ∧ n ≤ 18446744073709551615 then some (.int n) else none

/-- An integer that only twice as many bits hold is refused; beyond that it is a decimal. -/
def isWide (n : Int) : Bool :=
  -170141183460469231731687303715884105728 ≤ n && n ≤ 340282366920938463463374607431768211455

/-- Digits with leading zeros are a text. -/
def isPadded (text : String) : Bool :=
  let ds :=
    match text.toList with
    | '+' :: cs | '-' :: cs => cs
    | cs => cs
  1 < ds.length && ds.head? == some '0' && ds.all Char.isDigit

/-- The value that a plain scalar without a tag is written for. -/
def plainJson (text : String) : Option Json :=
  if text = "" || isNull text then some .null
  else
    match bool? text, (int? text).filter isWide with
    | some b, _ => some (.bool b)
    | none, some n => integer? n
    | none, none =>
      if isPadded text then some (.string text) else some ((float? text).getD (.string text))

def coreTag (name : String) : Octets := .ofText ("tag:yaml.org,2002:" ++ name)

def boolTag : Octets := coreTag "bool"

def intTag : Octets := coreTag "int"

def floatTag : Octets := coreTag "float"

def nullTag : Octets := coreTag "null"

/-- The code of the exclamation mark. -/
def localMark : UInt8 := 33

/-- The name in a tag of the document's own, if it is a text; a lone mark is its own name. -/
def localName? (tag : Option Octets) : Option String :=
  match tag with
  | some (mark :: name) => if mark = localMark then (if name = [] then some "!" else Octets.text? name) else none
  | _ => none

/-- By a tag of the document's own no value can be told. -/
def isLocal (tag : Option Octets) : Bool := (localName? tag).isSome

def json? (tag : Option Octets) (style : Style) (text : String) : Option Json :=
  match tag with
  | none => if style = .plain then plainJson text else some (.string text)
  | some t =>
    if isLocal tag then none
    else if t = boolTag then (bool? text).map .bool
    else if t = intTag then (int? text).bind integer?
    else if t = floatTag then float? text
    else if t = nullTag then if isNull text then some .null else none
    else if t.head? = some localMark ∧ style = .plain then plainJson text
    else some (.string text)

/-- Truth values and integers are plain, or literal with the tag. -/
def isBare (tag : Option Octets) (style : Style) (wanted : Octets) : Bool :=
  style = .plain || (style = .literal && tag = some wanted)

end Scalar

/-- A node within its document. -/
structure Value where
  node : Node
  /-- The marked nodes of the document; the first with a number has it. -/
  marks : List (Nat × Node)
  /-- How many collections may still be opened, one inside the other. -/
  depth : Nat

namespace Value

/-- The node itself or the one that it is an alias of. -/
def target (v : Value) : Node := v.node.target v.marks

/-- A node inside this one. -/
def inner (v : Value) (node : Node) : Value := { v with node := node, depth := v.depth - 1 }

def found (v : Value) : Found :=
  match v.target with
  | .alias _ => .null
  | .scalar _ _ text => .string text
  | .sequence .. => .sequence
  | .mapping .. => .map

def string? (v : Value) : Option String :=
  match v.target with
  | .scalar _ _ text => some text
  | _ => none

def bool? (v : Value) : Option Bool :=
  match v.target with
  | .scalar props style text =>
    if Scalar.isBare props.tag style Scalar.boolTag then Scalar.bool? text else none
  | _ => none

def int? (v : Value) : Option Int :=
  match v.target with
  | .scalar props style text =>
    if Scalar.isBare props.tag style Scalar.intTag then Scalar.int? text else none
  | _ => none

/-- An empty plain scalar is an empty list. -/
def items? (v : Value) : Option (List Value) :=
  match v.target with
  | .sequence _ items => if v.depth = 0 then none else some (items.map v.inner)
  | .scalar _ .plain "" => some []
  | _ => none

/-- An empty plain scalar is an empty map. Only scalars are keys. -/
def members? (v : Value) : Option (List (String × Value)) :=
  match v.target with
  | .mapping _ entries =>
    if v.depth = 0 then none
    else entries.mapM fun (key, value) => (v.inner key).string?.map (·, v.inner value)
  | .scalar _ .plain "" => some []
  | _ => none

def isNull (v : Value) : Except Fault Bool :=
  match v.target with
  | .scalar props .plain text =>
    match props.tag with
    | none => .ok (text = "" || Scalar.isNull text)
    | some t =>
      if t != Scalar.nullTag then .ok false
      else if Scalar.isNull text then .ok true
      else .error .unreadable
  | _ => .ok false

/-- What comes with a variant that is given as a tag. -/
def payload (v : Value) : Except Fault Unit :=
  match v.target with
  | .scalar _ .plain text =>
    if text = "" || Scalar.isNull text then .ok () else .error .unreadable
  | _ => .error .unreadable

/-- A variant is a scalar with its name or a tag of the document's own. -/
def variant (v : Value) : Except Fault (String × Except Fault Unit) :=
  let tag :=
    match v.target with
    | .alias _ => none
    | .scalar props .. | .sequence props _ | .mapping props _ => props.tag
  match Scalar.localName? tag, v.string? with
  | some name, _ => .ok (name, v.payload)
  | none, some name => .ok (name, .ok ())
  | none, none => .error .notOneKey

/-- The value of a node inside so many collections. -/
def json? (marks : List (Nat × Node)) : Nat → Node → Option Json
  | 0, node =>
    match node.target marks with
    | .scalar props style text => Scalar.json? props.tag style text
    | _ => none
  | depth + 1, node => do
    match node.target marks with
    | .scalar props style text => Scalar.json? props.tag style text
    | .sequence props items =>
      if Scalar.isLocal props.tag then none
      return .array (← items.mapM (json? marks depth))
    | .mapping props entries =>
      if Scalar.isLocal props.tag then none
      let members ← entries.mapM fun (key, value) => do
        match key.target marks with
        | .scalar _ _ name => return (name, ← json? marks depth value)
        | _ => none
      return .object members
    | .alias _ => none

def json (v : Value) : Except Fault Json :=
  match json? v.marks v.depth v.node with
  | some json => .ok json.canonical
  | none => .error .unreadable

instance : Source Value where
  found := found
  string? := string?
  bool? := bool?
  int? := int?
  items? := items?
  members? := members?
  isNull := isNull
  variant := variant
  json := json
  wrapped v := { v with depth := v.depth - 1 }
  surplus := .surplus

/-- Follow an alias, if the number of them that is left allows it. -/
def follow (marks : List (Nat × Node)) (node : Node) : StateT Nat Option Node := do
  if let .alias _ := node then
    let left ← get
    if left = 0 then failure
    set (left - 1)
  return node.target marks

/-- Follow the aliases in what a reader of this shape looks at, inside so many collections. -/
def followAll (marks : List (Nat × Node)) : Nat → Shape → Node → StateT Nat Option Unit
  | 0, _, node => discard (follow marks node)
  | depth + 1, shape, node => do
    match ← follow marks node with
    | .sequence _ items =>
      items.zipIdx.forM fun (item, index) =>
        match shape.item? index with
        | some part => followAll marks depth part item
        | none => return ()
    | .mapping _ entries =>
      entries.forM fun (key, value) => do
        match ← follow marks key with
        | .scalar _ _ name =>
          match shape.member? name with
          | some part => followAll marks depth part value
          | none => return ()
        | _ => return ()
    | _ => return ()

/-- How many collections may lie inside each other. -/
def maxDepth : Nat := 128

/--
Read a YAML text. The aliases that are followed, those in values that others stand for
each time anew, are at most a hundred times the parts of the document.
-/
def read {α : Type} [Coded α] (text : String) : Except Fault α := do
  let some root := Node.ofText? text | throw .unreadable
  let marks := root.marked.reverse
  let some _ := (followAll marks maxDepth (Coded.shape α) root).run (100 * root.weight)
    | throw .unreadable
  Coded.read (⟨root, marks, maxDepth⟩ : Value)

end Value

end ShootPlan.Yaml
