import MasterControl.Foundation.Json
import Mathlib.Data.List.TakeWhile

/-!
# Where a text points

RFC 3986 splits a text into a scheme and a rest; the rest of a hierarchical one starts with
two slashes and an authority, and the host stands in the authority between the user
information and the port.  `urlOrigin` says from which host a text is fetched by a program
that resolves URLs, addresses of the form `host:path` and `helper::address`, and paths;
`pathOrigin` says the same of a path, which names a host when it starts with two separators.
-/

namespace MasterControl
namespace Foundation

/-- Where the content of a text comes from. -/
inductive Origin where
  | local
  /-- Over a network, from a host if the text names one. -/
  | network (host : Option Bytes)
deriving DecidableEq

def lowerByte (b : UInt8) : UInt8 := if 65 ≤ b ∧ b ≤ 90 then b + 32 else b

/-- A text in ASCII lower case. -/
def lowerBytes (text : Bytes) : Bytes := text.map lowerByte

/-! ## RFC 3986 -/

def isAlphaByte (b : UInt8) : Bool := (65 ≤ b && b ≤ 90) || (97 ≤ b && b ≤ 122)

/-- A letter, a digit, `+`, `-` or `.`. -/
def isSchemeByte (b : UInt8) : Bool :=
  isAlphaByte b || (48 ≤ b && b ≤ 57) || b = 43 || b = 45 || b = 46

/-- A letter, and letters, digits, `+`, `-` and `.` behind it. -/
def validScheme : Bytes → Bool
  | [] => false
  | b :: rest => isAlphaByte b && rest.all isSchemeByte

/-- The scheme and what stands behind its colon. -/
def splitScheme (text : Bytes) : Option (Bytes × Bytes) :=
  let scheme := text.takeWhile (· ≠ 58)
  match text.dropWhile (· ≠ 58) with
  | [] => none
  | _ :: rest => if validScheme scheme then some (scheme, rest) else none

/-- The authority ends at a slash, a question mark or a number sign. -/
def authority (rest : Bytes) : Bytes := rest.takeWhile fun b => b ≠ 47 && b ≠ 63 && b ≠ 35

/-- What stands behind the last `@`. -/
def dropUserinfo (authority : Bytes) : Bytes := (authority.reverse.takeWhile (· ≠ 64)).reverse

/-- The host of an authority: an address in brackets, or what stands before the port. -/
def hostOf (authority : Bytes) : Bytes :=
  let hostport := dropUserinfo authority
  if hostport.head? = some 91 then
    hostport.takeWhile (· ≠ 93) ++ (hostport.dropWhile (· ≠ 93)).take 1
  else hostport.takeWhile (· ≠ 58)

/-! ## Paths and addresses -/

def isSeparatorByte (b : UInt8) : Bool := b = 47 || b = 92

/-- A path with two separators in front names a host, or a device. -/
def pathOrigin : Bytes → Origin
  | a :: b :: rest =>
    if isSeparatorByte a && isSeparatorByte b then
      let name := rest.takeWhile fun b => !isSeparatorByte b
      if name = [63] || name = [46] then
        let device := rest.drop 2
        if lowerBytes (device.take 3) = [117, 110, 99] then
          .network (some ((device.drop 4).takeWhile fun b => !isSeparatorByte b))
        else .local
      else .network (some name)
    else .local
  | _ => .local

/-- A drive letter and a colon. -/
def hasDrivePrefix : Bytes → Bool
  | a :: b :: _ => isAlphaByte a && b = 58
  | _ => false

/-- `host:path`: a colon before the first slash, and no drive. -/
def isHostPath (text : Bytes) : Bool :=
  (text.takeWhile (· ≠ 47)).contains 58 && !hasDrivePrefix text

/-- The origin of a text for a program that resolves URLs. -/
def urlOrigin (text : Bytes) : Origin :=
  match splitScheme text with
  | some (scheme, 47 :: 47 :: rest) =>
    let host := hostOf (authority rest)
    if lowerBytes scheme = [102, 105, 108, 101] ∧ (host = [] ∨ lowerBytes host =
        [108, 111, 99, 97, 108, 104, 111, 115, 116]) then .local
    else .network (some host)
  | some (_, 58 :: _) => .network none
  | _ =>
    if isHostPath text then .network (some (hostOf (text.takeWhile (· ≠ 58))))
    else pathOrigin text

/-! ## Hosts -/

theorem dropUserinfo_of_not_mem {authority : Bytes} (h : 64 ∉ authority) :
    dropUserinfo authority = authority := by
  have hall : ∀ b ∈ authority.reverse, decide (b ≠ 64) = true := by
    intro b hb
    refine decide_eq_true ?_
    rintro rfl
    exact h (List.mem_reverse.mp hb)
  rw [dropUserinfo, List.takeWhile_eq_self_iff.mpr hall, List.reverse_reverse]

/-- Without user information and brackets, the host ends at a colon. -/
theorem hostOf_plain {authority : Bytes} (huser : 64 ∉ authority)
    (hbracket : authority.head? ≠ some 91) : hostOf authority = authority.takeWhile (· ≠ 58) := by
  simp only [hostOf, dropUserinfo_of_not_mem huser]
  rw [if_neg hbracket]

end Foundation
end MasterControl
