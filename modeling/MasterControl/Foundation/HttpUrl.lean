import MasterControl.Foundation.ByteText
import MasterControl.Foundation.Search
import MasterControl.Foundation.Uri

/-!
# Addresses and URLs

`readIpv4` and `readIpv6` read the textual forms of addresses: the numbers of an address of version 4
with or without zeros in front, in other bases and with fewer dots (RFC 6943), and those of version
6 in full, compressed, or with four decimal numbers at the end (RFC 4291).

`parseHttpUrl` reads an `http` URL without user information by RFC 3986.  A URL that is put
together from a host, a port and a path is read as that host, that port and that path exactly when
the path holds no other letters than a path may hold (`parseHttpUrl_compose_iff`).
-/

namespace MasterControl
namespace Foundation

/-! ## Numbers -/

def isHexByte (b : UInt8) : Bool := isDigitByte b || (65 ≤ b && b ≤ 70) || (97 ≤ b && b ≤ 102)

def isOctalByte (b : UInt8) : Bool := 48 ≤ b && b ≤ 55

def hexDigitValue (b : UInt8) : ℕ :=
  if isDigitByte b then b.toNat - 48 else (lowerByte b).toNat - 87

/-- The value of digits in a base. -/
def digitsIn (base : ℕ) (digits : Bytes) : ℕ :=
  digits.foldl (fun value b => base * value + hexDigitValue b) 0

/-- A decimal number, with zeros in front or not. -/
def decimalPart (text : Bytes) : Option ℕ :=
  if text ≠ [] ∧ text.all isDigitByte = true then some (decimalValue text) else none

/-- A number as `inet_aton` reads it: hexadecimal behind `0x`, octal behind `0`, or decimal. -/
def atonPart (text : Bytes) : Option ℕ :=
  if lowerBytes (text.take 2) = [48, 120] then
    if text.drop 2 ≠ [] ∧ (text.drop 2).all isHexByte = true then
      some (digitsIn 16 (text.drop 2)) else none
  else if text.head? = some 48 then
    if text.all isOctalByte then some (digitsIn 8 text) else none
  else decimalPart text

/-! ## Addresses -/

/-- The address of one to four numbers; the last one fills what is left. -/
def readIpv4 (part : Bytes → Option ℕ) (text : Bytes) : Option ℕ :=
  match (text.splitOn 46).mapM part with
  | some [a, b, c, d] =>
    if a < 256 ∧ b < 256 ∧ c < 256 ∧ d < 256 then
      some (16777216 * a + 65536 * b + 256 * c + d) else none
  | some [a, b, c] =>
    if a < 256 ∧ b < 256 ∧ c < 65536 then some (16777216 * a + 65536 * b + c) else none
  | some [a, b] => if a < 256 ∧ b < 16777216 then some (16777216 * a + b) else none
  | some [a] => if a < 4294967296 then some a else none
  | _ => none

def readHexGroup (text : Bytes) : Option ℕ :=
  if text ≠ [] ∧ text.length ≤ 4 ∧ text.all isHexByte = true then some (digitsIn 16 text) else none

/-- The groups of a part of an address; the last one may be four decimal numbers. -/
def readGroups : List Bytes → Option (List ℕ)
  | [] => some []
  | [last] =>
    if last.count 46 = 3 then
      (readIpv4 decimalPart last).map fun address => [address / 65536, address % 65536]
    else (readHexGroup last).map fun group => [group]
  | group :: groups =>
    match readHexGroup group, readGroups groups with
    | some value, some values => some (value :: values)
    | _, _ => none

/-- The groups before or behind the zeros that are left out, possibly none. -/
def readSide (read : List Bytes → Option (List ℕ)) (text : Bytes) : Option (List ℕ) :=
  if text = [] then some [] else read (text.splitOn 58)

def isIpv6Byte (b : UInt8) : Bool := isHexByte b || b = 58 || b = 46

/-- The eight groups of an address. -/
def readIpv6 (text : Bytes) : Option (List ℕ) :=
  if text.all isIpv6Byte && text.contains 58 then
    match cut [58, 58] text with
    | none => (readGroups (text.splitOn 58)).filter fun groups => groups.length = 8
    | some (front, back) =>
      match readSide (List.mapM readHexGroup) front, readSide readGroups back with
      | some before, some behind =>
        if before.length + behind.length < 8 then
          some (before ++ List.replicate (8 - before.length - behind.length) 0 ++ behind)
        else none
      | _, _ => none
  else none

/-- `0.0.0.0`, and what begins with 127. -/
def isLocalIpv4 (address : ℕ) : Bool := address = 0 || address / 16777216 = 127

/-- `::` and `::1`, and the local addresses of version 4 that are mapped. -/
def isLocalIpv6 (groups : List ℕ) : Bool :=
  groups = [0, 0, 0, 0, 0, 0, 0, 0] || groups = [0, 0, 0, 0, 0, 0, 0, 1] ||
    (groups.take 6 = [0, 0, 0, 0, 0, 65535] &&
      isLocalIpv4 (65536 * groups.getD 6 0 + groups.getD 7 0))

/-- A host without the brackets of an address. -/
def unbracketed (host : Bytes) : Bytes :=
  if host.head? = some 91 ∧ host.getLast? = some 93 then host.tail.dropLast else host

/-- An unspecified address or one of the computer itself, in any textual form. -/
def isLocalAddress (host : Bytes) : Bool :=
  (readIpv4 atonPart host).any isLocalIpv4 || (readIpv4 decimalPart host).any isLocalIpv4 ||
    (readIpv6 (unbracketed host)).any isLocalIpv6

/-- The unspecified address of either version, in any textual form. -/
def isUnspecifiedAddress (host : Bytes) : Bool :=
  (readIpv4 atonPart host).any (· = 0) || (readIpv4 decimalPart host).any (· = 0) ||
    (readIpv6 (unbracketed host)).any (· = [0, 0, 0, 0, 0, 0, 0, 0])

/-! ## Hosts -/

def isHostByte (b : UInt8) : Bool := isAlphaByte b || isDigitByte b || b = 45 || b = 46 || b = 95

/-- Labels of letters, digits, hyphens and underscores; an address of version 4 is one of these. -/
def isHostName (host : Bytes) : Bool := host ≠ [] && host.all isHostByte

/-- The name of a host or an address. -/
def isHost (host : Bytes) : Bool := isHostName host || (readIpv6 host).isSome

/-- A host as it stands in a URL. -/
def hostInUrl (host : Bytes) : Bytes := if host.contains 58 then [91] ++ host ++ [93] else host

/-! ## URLs -/

def isUnreservedByte (b : UInt8) : Bool := isHostByte b || b = 126

/-- The sub-delimiters: one of `!$&'()*+,;=`. -/
def isSubDelimByte (b : UInt8) : Bool :=
  b = 33 || b = 36 || (38 ≤ b && b ≤ 44) || b = 59 || b = 61

def isPathByte (b : UInt8) : Bool :=
  isUnreservedByte b || isSubDelimByte b || b = 58 || b = 64 || b = 47

/-- A text of letters that may stand in it, and of encoded ones. -/
def encodedText (allowed : UInt8 → Bool) : Bytes → Bool
  | [] => true
  | 37 :: a :: b :: rest => isHexByte a && isHexByte b && encodedText allowed rest
  | b :: rest => b ≠ 37 && allowed b && encodedText allowed rest

structure HttpUrl where
  host : Bytes
  port : Option ℕ
  path : Bytes
  query : Option Bytes := none
  fragment : Option Bytes := none
deriving DecidableEq

/-- What stands behind the host. -/
def readPort (text : Bytes) : Option (Option ℕ) :=
  match text with
  | [] => some none
  | b :: digits =>
    if b = 58 ∧ digits.all isDigitByte = true then
      some (if digits = [] then none else some (decimalValue digits))
    else none

/-- The host and the port. -/
def readAuthority (authority : Bytes) : Option (Bytes × Option ℕ) :=
  if authority.head? = some 91 then
    match cut [93] authority.tail with
    | none => none
    | some (literal, rest) =>
      if (readIpv6 literal).isSome then (readPort rest).map fun port => (literal, port) else none
  else
    let host := authority.takeWhile (· ≠ 58)
    if host ≠ [] ∧ encodedText (fun b => isUnreservedByte b || isSubDelimByte b) host = true then
      (readPort (authority.dropWhile (· ≠ 58))).map fun port => (host, port)
    else none

def isAuthorityByte (b : UInt8) : Bool := b ≠ 47 && b ≠ 63 && b ≠ 35

def parseHttpUrl (text : Bytes) : Option HttpUrl :=
  if [104, 116, 116, 112, 58, 47, 47].isPrefixOf text then
    let rest := text.drop 7
    let behind := rest.dropWhile isAuthorityByte
    let path := behind.takeWhile fun b => b ≠ 63 && b ≠ 35
    let more := behind.dropWhile fun b => b ≠ 63 && b ≠ 35
    let query := if more.head? = some 63 then some (more.tail.takeWhile (· ≠ 35)) else none
    let hash := more.dropWhile (· ≠ 35)
    let fragment := if hash = [] then none else some hash.tail
    let valid := encodedText fun b => isPathByte b || b = 63
    match readAuthority (rest.takeWhile isAuthorityByte) with
    | none => none
    | some (host, port) =>
      if encodedText isPathByte path && query.all valid && fragment.all valid then
        some { host, port, path, query, fragment }
      else none
  else none

/-- A URL put together. -/
def composeHttpUrl (host : Bytes) (port : ℕ) (path : Bytes) : Bytes :=
  [104, 116, 116, 112, 58, 47, 47] ++ host ++ [58] ++ decimal port ++ path

/-! ## Reading back -/

section Reading

variable {host path text : Bytes} {allowed : UInt8 → Bool} {b : UInt8} {port : ℕ}

/-- A letter that may not stand in an encoded text does not. -/
theorem not_mem_of_encodedText (h : encodedText allowed text = true) (hb : allowed b = false)
    (hhex : isHexByte b = false) (hpercent : b ≠ 37) : b ∉ text := by
  induction text using encodedText.induct with
  | case1 => exact List.not_mem_nil
  | case2 c d rest ih =>
    rw [encodedText, Bool.and_eq_true, Bool.and_eq_true] at h
    intro hmem
    rcases List.mem_cons.mp hmem with rfl | hmem
    · exact hpercent rfl
    · rcases List.mem_cons.mp hmem with rfl | hmem
      · rw [h.1.1] at hhex
        cases hhex
      · rcases List.mem_cons.mp hmem with rfl | hmem
        · rw [h.1.2] at hhex
          cases hhex
        · exact ih h.2 hmem
  | case3 c rest hno ih =>
    rw [encodedText, Bool.and_eq_true, Bool.and_eq_true] at h
    · intro hmem
      rcases List.mem_cons.mp hmem with rfl | hmem
      · rw [h.1.2] at hb
        cases hb
      · exact ih h.2 hmem
    · exact hno

theorem encodedText_of_all (h : ∀ b ∈ text, allowed b = true) (hpercent : 37 ∉ text) :
    encodedText allowed text = true := by
  induction text with
  | nil => rfl
  | cons b text ih =>
    have hb : b ≠ 37 := fun hb => hpercent (hb ▸ List.mem_cons_self)
    rw [encodedText, h b List.mem_cons_self, decide_eq_true hb,
      ih (fun c hc => h c (List.mem_cons_of_mem b hc)) fun hc =>
        hpercent (List.mem_cons_of_mem b hc)]
    · rfl
    · rintro c d rest rfl -
      exact hb rfl

/-- A letter of a class that leaves out the delimiters stands in an authority. -/
theorem isAuthorityByte_of {p : UInt8 → Bool} (hslash : p 47 = false) (hquestion : p 63 = false)
    (hnumber : p 35 = false) (hb : p b = true) : isAuthorityByte b = true := by
  have hne : ∀ c, p c = false → b ≠ c := by
    rintro c hc rfl
    rw [hc] at hb
    cases hb
  rw [isAuthorityByte, decide_eq_true (hne 47 hslash), decide_eq_true (hne 63 hquestion),
    decide_eq_true (hne 35 hnumber)]
  rfl

theorem not_mem_of_all {p : UInt8 → Bool} (h : text.all p = true) (hb : p b = false) :
    b ∉ text := by
  intro hmem
  rw [List.all_eq_true.mp h b hmem] at hb
  cases hb

theorem isHostName_iff : isHostName host = true ↔ host ≠ [] ∧ host.all isHostByte = true := by
  rw [isHostName, Bool.and_eq_true, decide_eq_true_iff]

/-- An address of version 6 holds a colon, and no other letters than it may. -/
theorem letters_of_readIpv6 (h : (readIpv6 host).isSome = true) :
    host.all isIpv6Byte = true ∧ 58 ∈ host := by
  unfold readIpv6 at h
  split_ifs at h with hletters
  · rwa [Bool.and_eq_true, List.contains_iff_mem] at hletters
  · cases h

theorem readPort_decimal (port : ℕ) : readPort (58 :: decimal port) = some (some port) := by
  have hdigits : (decimal port).all isDigitByte = true :=
    List.all_eq_true.mpr fun b hb => isDigitByte_of_mem_decimal hb
  rw [readPort, if_pos ⟨rfl, hdigits⟩, if_neg (decimal_ne_nil port), decimalValue_decimal]

theorem readAuthority_name (h : isHostName host = true) (port : ℕ) :
    readAuthority (host ++ 58 :: decimal port) = some (host, some port) := by
  obtain ⟨hne, hall⟩ := isHostName_iff.mp h
  have hcolon : ∀ b ∈ host, decide (b ≠ 58) = true := by
    intro b hb
    refine decide_eq_true ?_
    rintro rfl
    exact not_mem_of_all hall rfl hb
  have hhead : ¬ (host ++ 58 :: decimal port).head? = some 91 := by
    rw [List.head?_append_of_ne_nil _ hne]
    intro hhead
    exact not_mem_of_all hall rfl (List.mem_of_head? hhead)
  have htake : (host ++ 58 :: decimal port).takeWhile (· ≠ 58) = host := by
    rw [List.takeWhile_append_of_pos hcolon]
    exact List.append_nil host
  have hdrop : (host ++ 58 :: decimal port).dropWhile (· ≠ 58) = 58 :: decimal port :=
    List.dropWhile_append_of_pos hcolon
  have hencoded : encodedText (fun b => isUnreservedByte b || isSubDelimByte b) host = true := by
    refine encodedText_of_all (fun b hb => ?_) (not_mem_of_all hall rfl)
    rw [isUnreservedByte, List.all_eq_true.mp hall b hb]
    rfl
  rw [readAuthority, if_neg hhead]
  dsimp only
  rw [htake, hdrop, if_pos ⟨hne, hencoded⟩, readPort_decimal]
  rfl

theorem readAuthority_ipv6 (h : (readIpv6 host).isSome = true) (port : ℕ) :
    readAuthority ([91] ++ host ++ [93] ++ 58 :: decimal port) = some (host, some port) := by
  have hbracket : 93 ∉ host := not_mem_of_all (letters_of_readIpv6 h).1 rfl
  have htail : ([91] ++ host ++ [93] ++ 58 :: decimal port).tail =
      host ++ 93 :: (58 :: decimal port) := by simp
  have hhead : ([91] ++ host ++ [93] ++ 58 :: decimal port).head? = some 91 := by simp
  rw [readAuthority, if_pos hhead, htail, cut_singleton_of_not_mem hbracket _]
  dsimp only
  rw [if_pos h, readPort_decimal]
  rfl

/-- What stands before the path. -/
theorem readAuthority_hostInUrl (h : isHost host = true) (port : ℕ) :
    readAuthority (hostInUrl host ++ 58 :: decimal port) = some (host, some port) := by
  rw [isHost, Bool.or_eq_true] at h
  unfold hostInUrl
  split_ifs with hcolon
  · rw [List.contains_iff_mem] at hcolon
    rcases h with hname | haddress
    · exact absurd hcolon (not_mem_of_all (isHostName_iff.mp hname).2 rfl)
    · exact readAuthority_ipv6 haddress port
  · rw [List.contains_iff_mem] at hcolon
    rcases h with hname | haddress
    · exact readAuthority_name hname port
    · exact absurd (letters_of_readIpv6 haddress).2 hcolon

theorem authority_bytes (h : isHost host = true) (port : ℕ) :
    ∀ b ∈ hostInUrl host ++ 58 :: decimal port, isAuthorityByte b = true := by
  intro b hb
  rcases List.mem_append.mp hb with hb | hb
  · have hhost : ∀ c ∈ host, isAuthorityByte c = true := by
      intro c hc
      rw [isHost, Bool.or_eq_true] at h
      rcases h with hname | haddress
      · exact isAuthorityByte_of rfl rfl rfl
          (List.all_eq_true.mp (isHostName_iff.mp hname).2 c hc)
      · exact isAuthorityByte_of rfl rfl rfl
          (List.all_eq_true.mp (letters_of_readIpv6 haddress).1 c hc)
    unfold hostInUrl at hb
    split_ifs at hb
    · rcases List.mem_append.mp hb with hb | hb
      · rcases List.mem_append.mp hb with hb | hb
        · rw [List.mem_singleton.mp hb]
          rfl
        · exact hhost b hb
      · rw [List.mem_singleton.mp hb]
        rfl
    · exact hhost b hb
  · rcases List.mem_cons.mp hb with rfl | hb
    · rfl
    · exact isAuthorityByte_of rfl rfl rfl (isDigitByte_of_mem_decimal hb)

/-- **A URL that is put together is read back exactly when its path holds path letters only.** -/
theorem parseHttpUrl_compose_iff (hhost : isHost host = true)
    (hpath : path = [] ∨ path.head? = some 47) :
    parseHttpUrl (composeHttpUrl (hostInUrl host) port path) =
      some { host, port := some port, path } ↔ encodedText isPathByte path = true := by
  have hfront : ([104, 116, 116, 112, 58, 47, 47] : Bytes).isPrefixOf
      (composeHttpUrl (hostInUrl host) port path) = true := by
    rw [List.isPrefixOf_iff_prefix]
    exact ⟨hostInUrl host ++ [58] ++ decimal port ++ path, by simp [composeHttpUrl]⟩
  have hrest : (composeHttpUrl (hostInUrl host) port path).drop 7 =
      (hostInUrl host ++ 58 :: decimal port) ++ path := by simp [composeHttpUrl]
  have hbytes := authority_bytes hhost port
  have hslash : path.takeWhile isAuthorityByte = [] ∧ path.dropWhile isAuthorityByte = path := by
    rcases hpath with rfl | hhead
    · exact ⟨rfl, rfl⟩
    · obtain ⟨more, rfl⟩ := List.head?_eq_some_iff.mp hhead
      exact ⟨rfl, rfl⟩
  have htake : ((hostInUrl host ++ 58 :: decimal port) ++ path).takeWhile isAuthorityByte =
      hostInUrl host ++ 58 :: decimal port := by
    rw [List.takeWhile_append_of_pos hbytes, hslash.1, List.append_nil]
  have hdrop : ((hostInUrl host ++ 58 :: decimal port) ++ path).dropWhile isAuthorityByte =
      path := by rw [List.dropWhile_append_of_pos hbytes, hslash.2]
  rw [parseHttpUrl, if_pos hfront]
  dsimp only
  rw [hrest, htake, hdrop, readAuthority_hostInUrl hhost]
  dsimp only
  constructor
  · intro h
    obtain ⟨hvalid, hurl⟩ := Option.ite_none_right_eq_some.mp h
    have hsame := congrArg HttpUrl.path (Option.some.inj hurl)
    dsimp only at hsame
    rw [hsame, Bool.and_eq_true, Bool.and_eq_true] at hvalid
    exact hvalid.1.1
  · intro hvalid
    have hquestion : 63 ∉ path := not_mem_of_encodedText hvalid rfl rfl (by decide)
    have hnumber : 35 ∉ path := not_mem_of_encodedText hvalid rfl rfl (by decide)
    have hall : ∀ b ∈ path, (decide (b ≠ 63) && decide (b ≠ 35)) = true := by
      intro b hb
      rw [Bool.and_eq_true, decide_eq_true_iff, decide_eq_true_iff]
      exact ⟨fun h => hquestion (h ▸ hb), fun h => hnumber (h ▸ hb)⟩
    have htakePath := List.takeWhile_eq_self_iff.mpr hall
    have hdropPath := List.dropWhile_eq_nil_iff.mpr hall
    rw [htakePath, hdropPath, hvalid]
    rfl

end Reading

end Foundation
end MasterControl
