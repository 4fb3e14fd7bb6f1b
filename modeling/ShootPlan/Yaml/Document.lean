import ShootPlan.Yaml.Node
/-!
The document that the tokens of a YAML text make. A text with no document or with more
than one is refused.
-/
namespace ShootPlan.Yaml.Node

/-- The tokens left, and the anchors so far with their numbers. -/
structure Rest where
  tokens : List Token
  marks : List (String × Nat) := []

abbrev Parse := StateT Rest Option

def peek : Parse (Option Token) := do return (← get).tokens.head?

def skip : Parse Unit := modify fun rest => { rest with tokens := rest.tokens.drop 1 }

/-- Take this token if it comes next. -/
def accept (t : Token) : Parse Bool := do
  if (← peek) = some t then
    skip
    return true
  else return false

/--
Number an anchor by the count of names before it. So a name that is given again has the
same number as the next new name.
-/
def setMark (name : String) : Parse Nat := do
  let marks := (← get).marks
  let kept := marks.filter fun m => m.1 != name
  modify fun rest => { rest with marks := (name, marks.length) :: kept }
  return marks.length

/-- Only an anchor that came before can be referred to. -/
def getMark (name : String) : Parse Nat := do
  match (← get).marks.lookup name with
  | some mark => return mark
  | none => failure

def someTag (declared : List (String × Octets)) : Parse (Option Octets) := do
  match ← peek with
  | some (.tag tag) =>
    skip
    match tag.resolve declared with
    | some tag => return some tag
    | none => failure
  | _ => return none

def someMark : Parse (Option Nat) := do
  match ← peek with
  | some (.anchor name) =>
    skip
    return some (← setMark name)
  | _ => return none

/-- One tag and one anchor at most, in either order. -/
def properties (declared : List (String × Octets)) : Parse Properties := do
  match ← someMark with
  | some mark => return ⟨← someTag declared, some mark⟩
  | none =>
    let tag ← someTag declared
    return ⟨tag, ← if tag.isSome then someMark else pure none⟩

/-- Parse a node unless one of the tokens comes next that leave its place empty. -/
def orEmpty (ends : List Token) (node : Parse Node) : Parse Node := do
  match ← peek with
  | some t => if ends.contains t then return empty else node
  | none => node

mutual

/-- A node; in a block mapping a sequence may stand at the column of its key. -/
def node (declared : List (String × Octets)) (block inMapping : Bool) : Nat → Parse Node
  | 0 => failure
  | fuel + 1 => do
    if let some (.alias name) ← peek then
      skip
      return .alias (← getMark name)
    let props ← properties declared
    match ← peek with
    | some (.scalar style text) =>
      skip
      return .scalar props style text
    | some .flowSequenceStart =>
      skip
      return .sequence props (← flowItems declared true fuel)
    | some .flowMappingStart =>
      skip
      return .mapping props (← flowEntries declared true fuel)
    | some .entry =>
      if inMapping then return .sequence props (← levelItems declared fuel) else bare props
    | some .sequenceStart =>
      if block then
        skip
        return .sequence props (← blockItems declared fuel)
      else bare props
    | some .mappingStart =>
      if block then
        skip
        return .mapping props (← blockEntries declared fuel)
      else bare props
    | _ => bare props
where
  /-- Properties alone make an empty scalar. -/
  bare (props : Properties) : Parse Node :=
    if props = {} then failure else return .scalar props .plain ""

def blockItems (declared : List (String × Octets)) : Nat → Parse (List Node)
  | 0 => failure
  | fuel + 1 => do
    if ← accept .entry then
      let item ← orEmpty [.entry, .blockEnd] (node declared true false fuel)
      return item :: (← blockItems declared fuel)
    else if ← accept .blockEnd then return []
    else failure

/-- The items of a sequence at the column of its key: nothing marks their end. -/
def levelItems (declared : List (String × Octets)) : Nat → Parse (List Node)
  | 0 => failure
  | fuel + 1 => do
    if ← accept .entry then
      let item ← orEmpty [.entry, .key, .value, .blockEnd] (node declared true false fuel)
      return item :: (← levelItems declared fuel)
    else return []

def blockEntries (declared : List (String × Octets)) : Nat → Parse (List (Node × Node))
  | 0 => failure
  | fuel + 1 => do
    let side := orEmpty [.key, .value, .blockEnd] (node declared true true fuel)
    if ← accept .key then
      let key ← side
      let value ← if ← accept .value then side else pure empty
      return (key, value) :: (← blockEntries declared fuel)
    else if ← accept .blockEnd then return []
    else failure

/-- The items up to the closing bracket; all but the first have a comma before them. -/
def flowItems (declared : List (String × Octets)) (first : Bool) : Nat → Parse (List Node)
  | 0 => failure
  | fuel + 1 => do
    if ← accept .flowSequenceEnd then return []
    if !first then
      if !(← accept .flowEntry) then failure
    if ← accept .flowSequenceEnd then return []
    let item ←
      if ← accept .key then pair declared fuel
      else node declared false false fuel
    return item :: (← flowItems declared false fuel)

/-- A mapping of one entry that stands for an item of a flow sequence. -/
def pair (declared : List (String × Octets)) : Nat → Parse Node
  | 0 => failure
  | fuel + 1 => do
    let key ←
      match ← peek with
      | some .value | some .flowEntry | some .flowSequenceEnd =>
        skip
        pure empty
      | _ => node declared false false fuel
    let value ←
      if ← accept .value then
        orEmpty [.flowEntry, .flowSequenceEnd] (node declared false false fuel)
      else pure empty
    return .mapping {} [(key, value)]

def flowEntries (declared : List (String × Octets)) (first : Bool) :
    Nat → Parse (List (Node × Node))
  | 0 => failure
  | fuel + 1 => do
    if ← accept .flowMappingEnd then return []
    if !first then
      if !(← accept .flowEntry) then failure
    if ← accept .flowMappingEnd then return []
    let entry ←
      if ← accept .key then do
        let key ← orEmpty [.value, .flowEntry, .flowMappingEnd] (node declared false false fuel)
        let value ←
          if ← accept .value then
            orEmpty [.flowEntry, .flowMappingEnd] (node declared false false fuel)
          else pure empty
        pure (key, value)
      else do pure (← node declared false false fuel, empty)
    return entry :: (← flowEntries declared false fuel)

end

/-- The tag handles that the directives declare, each once, and what follows them. -/
def declarations (versioned : Bool) (declared : List (String × Octets)) :
    List Token → Option (List (String × Octets) × List Token)
  | .directive .version :: rest => if versioned then none else declarations true declared rest
  | .directive (.tag handle lead) :: rest =>
    if (declared.lookup handle).isSome then none
    else declarations versioned ((handle, lead) :: declared) rest
  | rest => some (declared, rest)

/-- Nothing stands between a document's mark and one of these. -/
def endsDocument : List Token → Bool
  | [] => true
  | t :: _ =>
    match t with
    | .directive _ | .documentStart | .documentEnd => true
    | _ => false

/--
The root of the only document. Only a document with a mark of its own may have directives
or be empty. Every call takes a token, so twice their number is fuel enough.
-/
def ofTokens? (tokens : List Token) : Option Node := do
  let (declared, body) ← declarations false [] tokens
  let (marked, body) ←
    match body with
    | .documentStart :: body => some (true, body)
    | body => if body.length = tokens.length then some (false, body) else none
  if marked && endsDocument body then
    return ← if body.all (· = .documentEnd) then some empty else none
  let (root, rest) ← (node declared true false (2 * body.length + 2)).run { tokens := body }
  if rest.tokens.all (· = .documentEnd) then return root else none

def ofText? (text : String) : Option Node := do ofTokens? (← Token.ofText? text)

end ShootPlan.Yaml.Node
