import IdentityDirectory.Bytes
import IdentityDirectory.Text.Basic
import IdentityDirectory.Text.Number
/-!
Socket addresses. An IPv6 address is written in its short form: small letters, the longest run of at
least two zero groups, the first of several, as a double colon; an address of the mapped block ends in
dotted form. The reader takes exactly one address and one port.
-/
namespace IdentityDirectory

inductive Endpoint where
  | v4 (ip : Octets 4) (port : UInt16)
  | v6 (ip : Octets 16) (port : UInt16) (flow scope : UInt32)
  deriving DecidableEq, Repr

namespace Endpoint
open Text

def dotted (b : Bytes) : List Char := join ['.'] (b.map fun x => decimal x.toNat)

def groups : Bytes → List Nat
  | x :: y :: b => (256 * x.toNat + y.toNat) :: groups b
  | _ => []

def ofGroups (gs : List Nat) : Bytes := gs.flatMap (Bytes.bigEndian 2)

def zeroRun (gs : List Nat) : Nat := (gs.takeWhile (· = 0)).length

def longestRun : Nat → List Nat → Nat × Nat
  | _, [] => (0, 0)
  | i, g :: gs =>
    let later := longestRun (i + 1) gs
    if later.2 ≤ zeroRun (g :: gs) then (i, zeroRun (g :: gs)) else later

def colons (gs : List Nat) : List Char := join [':'] (gs.map fun g => lower (hexShort g))

def ipv6 (b : Bytes) : List Char :=
  let gs := groups b
  if gs.take 6 = [0, 0, 0, 0, 0, 65535] then "::ffff:".toList ++ dotted (b.drop 12)
  else
    let run := longestRun 0 gs
    if run.2 < 2 then colons gs
    else colons (gs.take run.1) ++ [':', ':'] ++ colons (gs.drop (run.1 + run.2))

def toText : Endpoint → String
  | v4 ip port => String.ofList (dotted ip.bytes ++ ':' :: decimal port.toNat)
  | v6 ip port _ scope =>
    let zone := if scope = 0 then [] else '%' :: decimal scope.toNat
    String.ofList ('[' :: ipv6 ip.bytes ++ zone ++ [']', ':'] ++ decimal port.toNat)

def span (radix : Nat) (s : List Char) : List Char × List Char :=
  s.span fun c => (digitOf radix c).isSome

def number (radix count limit : Nat) (s : List Char) : Option (Nat × List Char) :=
  let (digits, rest) := span radix s
  if digits.length = 0 ∨ count < digits.length then none
  else match readUnsigned radix limit digits with
    | .ok v => some (v, rest)
    | .error _ => none

/-- A number that starts with 0 only if it is 0. -/
def octet (s : List Char) : Option (Nat × List Char) :=
  match s with
  | '0' :: c :: _ => if (digitOf 10 c).isSome then none else number 10 3 255 s
  | _ => number 10 3 255 s

def field (limit : Nat) (s : List Char) : Option (Nat × List Char) := number 10 s.length limit s

def expect (c : Char) : List Char → Option (List Char)
  | x :: s => if x = c then some s else none
  | [] => none

def quad (s : List Char) : Option (List Nat × List Char) := do
  let (a, s) ← octet s
  let s ← expect '.' s
  let (b, s) ← octet s
  let s ← expect '.' s
  let (c, s) ← octet s
  let s ← expect '.' s
  let (d, s) ← octet s
  return ([a, b, c, d], s)

/-- Up to count groups between colons, and whether they end in dotted form, which takes two. -/
def readGroups : Nat → Bool → List Char → List Nat × Bool × List Char
  | 0, _, s => ([], false, s)
  | count + 1, isFirst, s =>
    let start := if isFirst then some s else expect ':' s
    match if count = 0 then none else start.bind quad with
    | some (q, rest) => (groups (q.map UInt8.ofNat), true, rest)
    | none =>
      match start.bind (number 16 4 65535) with
      | none => ([], false, s)
      | some (g, rest) =>
        let (gs, isDotted, rest) := readGroups count false rest
        (g :: gs, isDotted, rest)

/-- Eight groups, or fewer around a double colon that stands for the missing ones. -/
def readIpv6 (s : List Char) : Option (Bytes × List Char) :=
  let (head, isDotted, rest) := readGroups 8 true s
  if head.length = 8 then some (ofGroups head, rest)
  else if isDotted then none
  else match rest with
    | ':' :: ':' :: rest =>
      let (tail, _, rest) := readGroups (7 - head.length) true rest
      some (ofGroups (head ++ List.replicate (8 - head.length - tail.length) 0 ++ tail), rest)
    | _ => none

def readPort (s : List Char) : Option UInt16 := do
  let s ← expect ':' s
  let (port, s) ← field 65535 s
  if s.isEmpty then some (UInt16.ofNat port) else none

def readV4 (s : List Char) : Option Endpoint := do
  let (q, s) ← quad s
  let port ← readPort s
  return v4 (Octets.ofBytes 4 (q.map UInt8.ofNat)) port

def readScope : List Char → Option (Nat × List Char)
  | '%' :: s => field 0xFFFFFFFF s
  | s => some (0, s)

def readV6 (s : List Char) : Option Endpoint := do
  let s ← expect '[' s
  let (ip, s) ← readIpv6 s
  let (scope, s) ← readScope s
  let s ← expect ']' s
  let port ← readPort s
  return v6 (Octets.ofBytes 16 ip) port 0 (UInt32.ofNat scope)

def ofText? (text : String) : Option Endpoint :=
  (readV4 text.toList).or (readV6 text.toList)

def syntaxMessage : String := "invalid socket address syntax"

end Endpoint
end IdentityDirectory
