import ShootPlan.Blank
import ShootPlan.Cidr
import ShootPlan.Numeral
/-!
CIDR notation: four octets, a slash and the prefix length. Reading is strict about the
octets, lenient about the length, and clears the host bits.
-/
namespace ShootPlan

/-- What is wrong with a text that is no CIDR, in the order it is checked. -/
inductive CidrFault where
  | missingLength
  | invalidAddress
  | invalidLength
  | lengthTooLarge
  deriving DecidableEq, Repr

def CidrFault.reason : CidrFault → String
  | .missingLength => "missing prefix length"
  | .invalidAddress => "invalid IPv4 address"
  | .invalidLength => "invalid prefix length"
  | .lengthTooLarge => "prefix length exceeds 32"

namespace Cidr

/-- An octet is a number up to 255 without leading zeros. -/
def octet? (cs : List Char) : Option (Fin 256) := do
  if cs.length > 3 ∨ (cs.length > 1 ∧ cs.head? = some '0') then none
  let n ← Numeral.natural? cs
  if h : n < 256 then some ⟨n, h⟩ else none

def ofOctets (a b c d : Fin 256) : Fin (blockSize 0) :=
  ⟨((a.val * 256 + b.val) * 256 + c.val) * 256 + d.val, by
    show _ < 4294967296
    omega⟩

def address? (cs : List Char) : Option (Fin (blockSize 0)) :=
  match cs.splitOn '.' with
  | [a, b, c, d] => do return ofOctets (← octet? a) (← octet? b) (← octet? c) (← octet? d)
  | _ => none

/-- A prefix length is a number up to 255 that may have a plus sign and leading zeros. -/
def length? (cs : List Char) : Option Nat := (Numeral.unsigned? cs).filter (· ≤ 255)

def ofChars (cs : List Char) : Except CidrFault Cidr := do
  let trimmed := Blank.trim cs
  let '/' :: lengthText := trimmed.dropWhile (· ≠ '/') | throw .missingLength
  let some address := address? (trimmed.takeWhile (· ≠ '/')) | throw .invalidAddress
  let some length := length? lengthText | throw .invalidLength
  if h : length ≤ 32 then return ofAddress address length h
  else throw .lengthTooLarge

def ofText (text : String) : Except CidrFault Cidr := ofChars text.toList

/-- The octets of an address, most significant first. -/
def octets (address : Nat) : List Nat :=
  [address / 16777216 % 256, address / 65536 % 256, address / 256 % 256, address % 256]

def addressChars (address : Nat) : List Char :=
  ['.'].intercalate ((octets address).map Numeral.chars)

def chars (block : Cidr) : List Char :=
  addressChars block.base ++ '/' :: Numeral.chars block.length

def text (block : Cidr) : String := String.ofList block.chars

end Cidr

end ShootPlan
