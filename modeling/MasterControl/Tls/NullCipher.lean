import MasterControl.Tls.SecurityProvider

/-!
# Records without a cipher

The record layer before keys are agreed on, as a security provider: a record is its type, a
version, the length of its content in two bytes, and the content (`splitRecord_record`).  The
handshake ends with the message that finishes it, and a session at the first record that is
neither data nor anything that this provider can renegotiate.
-/

namespace MasterControl
namespace Tls

open Foundation

namespace NullCipher

/-! ## Records -/

def handshakeType : UInt8 := 22

def applicationDataType : UInt8 := 23

def alertType : UInt8 := 21

/-- The first byte of the message that ends a handshake. -/
def finishedType : UInt8 := 20

def maximumMessage : ℕ := 16384

/-- A record: its type, the version, the length, the content. -/
def record (type : UInt8) (content : Bytes) : Bytes :=
  [type, 3, 3, UInt8.ofNat (content.length / 256), UInt8.ofNat (content.length % 256)] ++ content

/-- The first record, if there is a whole one, and what stands behind it. -/
def splitRecord : Bytes → Option (UInt8 × Bytes × Bytes)
  | type :: _ :: _ :: high :: low :: rest =>
    let length := 256 * high.toNat + low.toNat
    if length ≤ rest.length then some (type, rest.take length, rest.drop length) else none
  | _ => none

section Records

variable {type : UInt8} {stream content rest : Bytes}

theorem splitRecord_append (h : splitRecord stream = some (type, content, rest)) (more : Bytes) :
    splitRecord (stream ++ more) = some (type, content, rest ++ more) := by
  match stream with
  | t :: _ :: _ :: high :: low :: tail =>
    simp only [splitRecord, List.cons_append] at h ⊢
    split_ifs at h with hlength
    cases h
    have hle : 256 * high.toNat + low.toNat ≤ (tail ++ more).length := by
      rw [List.length_append]
      omega
    rw [if_pos hle, List.take_append_of_le_length hlength, List.drop_append_of_le_length hlength]
  | [] | [_] | [_, _] | [_, _, _] | [_, _, _, _] => cases h

theorem exists_front_of_splitRecord (h : splitRecord stream = some (type, content, rest)) :
    ∃ front, front ≠ [] ∧ stream = front ++ rest := by
  match stream with
  | t :: v :: w :: high :: low :: tail =>
    simp only [splitRecord] at h
    split_ifs at h
    cases h
    refine ⟨type :: v :: w :: high :: low :: tail.take (256 * high.toNat + low.toNat),
      List.cons_ne_nil _ _, ?_⟩
    simp only [List.cons_append, List.take_append_drop]
  | [] | [_] | [_, _] | [_, _, _] | [_, _, _, _] => cases h

theorem splitRecord_length_lt (h : splitRecord stream = some (type, content, rest)) :
    rest.length < stream.length := by
  obtain ⟨front, hfront, rfl⟩ := exists_front_of_splitRecord h
  have hpos := List.length_pos_iff.mpr hfront
  rw [List.length_append]
  omega

/-- A record is read back. -/
theorem splitRecord_record (type : UInt8) (hcontent : content.length ≤ maximumMessage)
    (rest : Bytes) : splitRecord (record type content ++ rest) = some (type, content, rest) := by
  have hhigh : (UInt8.ofNat (content.length / 256)).toNat = content.length / 256 := by
    rw [UInt8.toNat_ofNat']
    unfold maximumMessage at hcontent
    omega
  have hlow : (UInt8.ofNat (content.length % 256)).toNat = content.length % 256 := by
    rw [UInt8.toNat_ofNat']
    omega
  simp only [record, List.cons_append, List.nil_append, splitRecord, hhigh, hlow,
    Nat.div_add_mod, List.length_append, Nat.le_add_right, if_true, List.take_left,
    List.drop_left]

end Records

/-! ## The provider -/

/-- A buffer of the type `SECBUFFER_EXTRA`, if something is left. -/
def extraLength (rest : Bytes) : Option ℕ := if rest = [] then none else some rest.length

def accept (inbound : Bytes) : Accepted Unit :=
  match splitRecord inbound with
  | none => { status := .incompleteMessage, context := () }
  | some (type, content, rest) =>
    if type = handshakeType then
      { status := if content.head? = some finishedType then .ok else .continueNeeded
        context := ()
        token := some (record handshakeType content)
        extra := extraLength rest }
    else { status := .other, context := () }

def decrypt (encrypted : Bytes) : Decrypted Unit :=
  match splitRecord encrypted with
  | none => { status := .incompleteMessage, context := () }
  | some (type, content, rest) =>
    if type = applicationDataType then
      { status := .ok
        context := ()
        buffers := [(.other, encrypted.take 5), (.data, content), (.extra, rest)] }
    else if type = alertType then { status := .contextExpired, context := () }
    else if type = handshakeType then { status := .renegotiate, context := () }
    else { status := .other, context := () }

def encrypt (data : Bytes) : Option (Encrypted Unit) :=
  if data.length ≤ maximumMessage then
    some {
      context := ()
      message := record applicationDataType data
      cbHeader := 5
      cbData := data.length
      cbTrailer := 0 }
  else none

/-- What is left over is what stands behind the record. -/
theorem leftover_extraLength (front rest : Bytes) :
    leftover (front ++ rest) (extraLength rest) = rest := by
  rw [extraLength]
  split_ifs with hnil
  · rw [hnil, leftover]
  · have hpos := List.length_pos_iff.mpr hnil
    rw [leftover, List.length_append, if_pos ⟨hpos, by omega⟩, Nat.add_sub_cancel, List.drop_left]

section Laws

variable {stream content rest : Bytes} {type : UInt8}

theorem leftover_accept (h : splitRecord stream = some (type, content, rest))
    (htype : type = handshakeType) : leftover stream (accept stream).extra = rest := by
  obtain ⟨front, -, rfl⟩ := exists_front_of_splitRecord h
  rw [accept, h]
  dsimp only
  rw [if_pos htype]
  exact leftover_extraLength front rest

theorem status_accept (h : splitRecord stream = some (type, content, rest)) :
    (accept stream).status = if type = handshakeType then
      (if content.head? = some finishedType then .ok else .continueNeeded) else .other := by
  rw [accept, h]
  dsimp only
  split_ifs <;> rfl

theorem splitRecord_of_accept (h : (accept stream).status ≠ .incompleteMessage) :
    ∃ type content rest, splitRecord stream = some (type, content, rest) := by
  cases hsplit : splitRecord stream with
  | none =>
    rw [accept, hsplit] at h
    exact absurd rfl h
  | some found => exact ⟨_, _, _, rfl⟩

theorem splitRecord_of_decrypt (h : (decrypt stream).status ≠ .incompleteMessage) :
    ∃ type content rest, splitRecord stream = some (type, content, rest) := by
  cases hsplit : splitRecord stream with
  | none =>
    rw [decrypt, hsplit] at h
    exact absurd rfl h
  | some found => exact ⟨_, _, _, rfl⟩

theorem status_decrypt (h : splitRecord stream = some (type, content, rest)) :
    (decrypt stream).status = if type = applicationDataType then .ok
      else if type = alertType then .contextExpired
      else if type = handshakeType then .renegotiate else .other := by
  rw [decrypt, h]
  dsimp only
  split_ifs <;> rfl

theorem applicationData_of_ok (h : splitRecord stream = some (type, content, rest))
    (hok : (decrypt stream).status = .ok) : type = applicationDataType := by
  rw [status_decrypt h] at hok
  split_ifs at hok with htype
  exact htype

theorem buffers_decrypt (h : splitRecord stream = some (type, content, rest))
    (htype : type = applicationDataType) :
    (decrypt stream).plain = content ∧ (decrypt stream).extra = rest := by
  rw [decrypt, h]
  dsimp only
  rw [if_pos htype]
  constructor
  · simp [Decrypted.plain, collect]
  · simp [Decrypted.extra, collect]

end Laws

end NullCipher

open NullCipher in
/-- The record layer without a cipher. -/
def nullCipher : SecurityProvider where
  Context := Unit
  accept _ := accept
  decrypt _ := decrypt
  encrypt _ := encrypt
  streamSizes _ := some { cbHeader := 5, cbMaximumMessage := maximumMessage, cbTrailer := 0 }
  accept_append _ inbound more h := by
    obtain ⟨type, content, rest, hsplit⟩ := splitRecord_of_accept h
    have happend := splitRecord_append hsplit more
    refine ⟨by rw [status_accept hsplit, status_accept happend], fun hother => ⟨rfl, ?_⟩⟩
    rw [status_accept hsplit] at hother
    have htype : type = handshakeType := by
      by_contra htype
      exact hother (if_neg htype)
    rw [leftover_accept hsplit htype, leftover_accept happend htype]
  accept_length_lt _ inbound h := by
    obtain ⟨type, content, rest, hsplit⟩ := splitRecord_of_accept (by rw [h]; decide)
    rw [status_accept hsplit] at h
    have htype : type = handshakeType := by
      by_contra htype
      rw [if_neg htype] at h
      cases h
    rw [leftover_accept hsplit htype]
    exact splitRecord_length_lt hsplit
  decrypt_append _ encrypted more h := by
    obtain ⟨type, content, rest, hsplit⟩ := splitRecord_of_decrypt h
    have happend := splitRecord_append hsplit more
    refine ⟨by rw [status_decrypt hsplit, status_decrypt happend], fun hok => ⟨rfl, ?_⟩⟩
    have htype := applicationData_of_ok hsplit hok
    rw [(buffers_decrypt hsplit htype).1, (buffers_decrypt happend htype).1,
      (buffers_decrypt hsplit htype).2, (buffers_decrypt happend htype).2]
    exact ⟨rfl, rfl⟩
  decrypt_length_lt _ encrypted hok := by
    obtain ⟨type, content, rest, hsplit⟩ := splitRecord_of_decrypt (by rw [hok]; decide)
    rw [(buffers_decrypt hsplit (applicationData_of_ok hsplit hok)).2]
    exact splitRecord_length_lt hsplit

end Tls
end MasterControl
