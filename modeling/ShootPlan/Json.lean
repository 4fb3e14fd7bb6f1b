import ShootPlan.Decimal
/-!
JSON values. An object keeps its members in the order given; `canonical` sorts them by
key and keeps the last member of a repeated key, which is the form every read document has.
-/
namespace ShootPlan

inductive Json where
  | null
  | bool (value : Bool)
  | int (value : Int)
  | decimal (value : Decimal)
  | string (value : String)
  | array (items : List Json)
  | object (members : List (String × Json))
  deriving Inhabited

namespace Json

mutual

def decEq : (a b : Json) → Decidable (a = b)
  | .null, .null => isTrue rfl
  | .bool a, .bool b => decidable_of_iff (a = b) (by simp)
  | .int a, .int b => decidable_of_iff (a = b) (by simp)
  | .decimal a, .decimal b => decidable_of_iff (a = b) (by simp)
  | .string a, .string b => decidable_of_iff (a = b) (by simp)
  | .array a, .array b => @decidable_of_iff _ (a = b) (by simp) (decEqItems a b)
  | .object a, .object b => @decidable_of_iff _ (a = b) (by simp) (decEqMembers a b)
  | .null, .bool _ | .null, .int _ | .null, .decimal _ | .null, .string _ | .null, .array _
  | .null, .object _ => isFalse (by simp)
  | .bool _, .null | .bool _, .int _ | .bool _, .decimal _ | .bool _, .string _
  | .bool _, .array _ | .bool _, .object _ => isFalse (by simp)
  | .int _, .null | .int _, .bool _ | .int _, .decimal _ | .int _, .string _
  | .int _, .array _ | .int _, .object _ => isFalse (by simp)
  | .decimal _, .null | .decimal _, .bool _ | .decimal _, .int _ | .decimal _, .string _
  | .decimal _, .array _ | .decimal _, .object _ => isFalse (by simp)
  | .string _, .null | .string _, .bool _ | .string _, .int _ | .string _, .decimal _
  | .string _, .array _ | .string _, .object _ => isFalse (by simp)
  | .array _, .null | .array _, .bool _ | .array _, .int _ | .array _, .decimal _
  | .array _, .string _ | .array _, .object _ => isFalse (by simp)
  | .object _, .null | .object _, .bool _ | .object _, .int _ | .object _, .decimal _
  | .object _, .string _ | .object _, .array _ => isFalse (by simp)

def decEqItems : (a b : List Json) → Decidable (a = b)
  | [], [] => isTrue rfl
  | [], _ :: _ => isFalse (by simp)
  | _ :: _, [] => isFalse (by simp)
  | a :: as, b :: bs =>
    match decEq a b, decEqItems as bs with
    | isTrue h, isTrue t => isTrue (by rw [h, t])
    | isFalse h, _ => isFalse (by simp [h])
    | _, isFalse t => isFalse (by simp [t])

def decEqMembers : (a b : List (String × Json)) → Decidable (a = b)
  | [], [] => isTrue rfl
  | [], _ :: _ => isFalse (by simp)
  | _ :: _, [] => isFalse (by simp)
  | (k, a) :: as, (l, b) :: bs =>
    match decEq a b, decEqMembers as bs, (inferInstance : Decidable (k = l)) with
    | isTrue h, isTrue t, isTrue e => isTrue (by rw [h, t, e])
    | isFalse h, _, _ => isFalse (by simp [h])
    | _, isFalse t, _ => isFalse (by simp [t])
    | _, _, isFalse e => isFalse (by simp [e])

end

instance : DecidableEq Json := decEq

/-- Put a member where its key belongs, unless the key is there. -/
def placeAbsent (key : String) (value : Json) : List (String × Json) → List (String × Json)
  | [] => [(key, value)]
  | (k, v) :: rest =>
    if key < k then (key, value) :: (k, v) :: rest
    else if key = k then (k, v) :: rest
    else (k, v) :: placeAbsent key value rest

mutual

/-- Members sorted by key at every depth; the last of a repeated key is kept. -/
def canonical : Json → Json
  | .array items => .array (canonicalItems items)
  | .object members => .object (canonicalMembers members)
  | scalar => scalar

def canonicalItems : List Json → List Json
  | [] => []
  | item :: rest => item.canonical :: canonicalItems rest

def canonicalMembers : List (String × Json) → List (String × Json)
  | [] => []
  | (key, value) :: rest => placeAbsent key value.canonical (canonicalMembers rest)

end

mutual

/-- What values are compared by: the canonical form, with all its decimals as they are compared. -/
def comparand : Json → Json
  | .decimal value => .decimal value.comparand
  | .array items => .array (comparandItems items)
  | .object members => .object (comparandMembers members)
  | scalar => scalar

def comparandItems : List Json → List Json
  | [] => []
  | item :: rest => item.comparand :: comparandItems rest

def comparandMembers : List (String × Json) → List (String × Json)
  | [] => []
  | (key, value) :: rest => placeAbsent key value.comparand (comparandMembers rest)

end

/-- The first member of that key; null where there is none. -/
def member (json : Json) (key : String) : Json :=
  match json with
  | .object members => ((members.find? fun m => m.1 == key).map Prod.snd).getD .null
  | _ => .null

end Json

end ShootPlan
