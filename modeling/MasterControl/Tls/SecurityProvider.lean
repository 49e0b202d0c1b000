import MasterControl.Foundation.Json
import MasterControl.Foundation.RecordStream

/-!
# The security provider

`SchannelStreamAdapter` leaves the cryptography to the system.  A `SecurityProvider` is what it
relies on: the functions that it calls, with what their documentation says of them.  A call sees
the bytes that have come in and says whether they hold a whole message of the handshake, or a whole
record.  What it says of them stands, whatever follows, and it leaves untouched what stands behind
(`accept_append`, `decrypt_append`).

So a handshake on a stream ends, if it does, at one place of the stream (`established`), and what
is said behind it is one text (`plaintext`).
-/

namespace MasterControl
namespace Tls

open Foundation

/-! ## What the functions return -/

/-- `SECBUFFER_DATA`, `SECBUFFER_EXTRA` and the types that nobody asks for. -/
inductive BufferType where
  | data
  | extra
  | other
  deriving DecidableEq

/-- What `AcceptSecurityContext` returns. -/
inductive AcceptStatus where
  | incompleteMessage
  | continueNeeded
  | ok
  | other
  deriving DecidableEq

/-- What `AcceptSecurityContext` leaves: the context, the token to be sent, and the length of the
buffer for what it has not consumed, if it is of the type `SECBUFFER_EXTRA`. -/
structure Accepted (C : Type) where
  status : AcceptStatus
  context : C
  token : Option Bytes := none
  extra : Option ℕ := none

/-- What `DecryptMessage` returns. -/
inductive DecryptStatus where
  | ok
  | incompleteMessage
  | contextExpired
  | renegotiate
  | other
  deriving DecidableEq

/-- What `DecryptMessage` leaves in the context and in the buffers. -/
structure Decrypted (C : Type) where
  status : DecryptStatus
  context : C
  buffers : List (BufferType × Bytes) := []

/-- What is appended of the buffers of one type. -/
def collect (type : BufferType) (buffers : List (BufferType × Bytes)) : Bytes :=
  buffers.flatMap fun buffer => if buffer.1 = type then buffer.2 else []

def Decrypted.plain {C : Type} (decrypted : Decrypted C) : Bytes :=
  collect .data decrypted.buffers

def Decrypted.extra {C : Type} (decrypted : Decrypted C) : Bytes :=
  collect .extra decrypted.buffers

/-- The tail of what has been handed in that has not been consumed. -/
def leftover (inbound : Bytes) (extra : Option ℕ) : Bytes :=
  match extra with
  | none => []
  | some length =>
    if 0 < length ∧ length ≤ inbound.length then inbound.drop (inbound.length - length) else []

structure StreamSizes where
  cbHeader : ℕ
  cbMaximumMessage : ℕ
  cbTrailer : ℕ
  deriving DecidableEq

/-- What `EncryptMessage` leaves: the context, the memory of the message, and how much of it are
header, data and trailer. -/
structure Encrypted (C : Type) where
  context : C
  message : Bytes
  cbHeader : ℕ
  cbData : ℕ
  cbTrailer : ℕ

/-- What is sent of an encrypted message. -/
def Encrypted.wire {C : Type} (encrypted : Encrypted C) : Bytes :=
  encrypted.message.take (encrypted.cbHeader + encrypted.cbData + encrypted.cbTrailer)

/-! ## The provider -/

/-- The functions of the system, with what is documented of them. -/
structure SecurityProvider where
  Context : Type
  /-- `AcceptSecurityContext`, for a context or for none. -/
  accept : Option Context → Bytes → Accepted Context
  /-- `DecryptMessage`. -/
  decrypt : Context → Bytes → Decrypted Context
  /-- `EncryptMessage`; `none` is any status but `SEC_E_OK`. -/
  encrypt : Context → Bytes → Option (Encrypted Context)
  /-- `SECPKG_ATTR_STREAM_SIZES`; `none` is any status but `SEC_E_OK`. -/
  streamSizes : Context → Option StreamSizes
  /-- What is said of a whole message stands, and what follows is not consumed. -/
  accept_append : ∀ context inbound more,
    (accept context inbound).status ≠ .incompleteMessage →
      (accept context (inbound ++ more)).status = (accept context inbound).status ∧
      ((accept context inbound).status ≠ .other →
        (accept context (inbound ++ more)).context = (accept context inbound).context ∧
        leftover (inbound ++ more) (accept context (inbound ++ more)).extra =
          leftover inbound (accept context inbound).extra ++ more)
  /-- A message that has been accepted has been consumed. -/
  accept_length_lt : ∀ context inbound,
    (accept context inbound).status = .continueNeeded →
      (leftover inbound (accept context inbound).extra).length < inbound.length
  /-- What is said of a whole record stands, and what follows is returned as it is. -/
  decrypt_append : ∀ context encrypted more,
    (decrypt context encrypted).status ≠ .incompleteMessage →
      (decrypt context (encrypted ++ more)).status = (decrypt context encrypted).status ∧
      ((decrypt context encrypted).status = .ok →
        (decrypt context (encrypted ++ more)).context = (decrypt context encrypted).context ∧
        (decrypt context (encrypted ++ more)).plain = (decrypt context encrypted).plain ∧
        (decrypt context (encrypted ++ more)).extra =
          (decrypt context encrypted).extra ++ more)
  /-- A record that has been decrypted has been consumed. -/
  decrypt_length_lt : ∀ context encrypted, (decrypt context encrypted).status = .ok →
    (decrypt context encrypted).extra.length < encrypted.length

namespace SecurityProvider

variable (P : SecurityProvider)

/-! ## What a stream says -/

/-- The context with which the handshake ends, and what stands behind it in the stream. -/
def established (context : Option P.Context) (stream : Bytes) : Option (P.Context × Bytes) :=
  if stream = [] then none
  else
    let accepted := P.accept context stream
    match h : accepted.status with
    | .incompleteMessage => none
    | .continueNeeded =>
      have := P.accept_length_lt context stream h
      established (some accepted.context) (leftover stream accepted.extra)
    | .ok => some (accepted.context, leftover stream accepted.extra)
    | .other => none
termination_by stream.length

/-- A record, if there is a whole one. -/
def front (context : P.Context) (stream : Bytes) : Front P.Context UInt8 Bytes :=
  if stream = [] then .unfinished
  else
    let decrypted := P.decrypt context stream
    match decrypted.status with
    | .ok => .record decrypted.context decrypted.plain decrypted.extra
    | .incompleteMessage => .unfinished
    | .contextExpired => .last
    | .renegotiate => .last
    | .other => .last

/-- The records of a session. -/
def records : RecordReader P.Context UInt8 Bytes where
  front := P.front
  record_append {s t stream rest content} more h := by
    unfold front at h ⊢
    split_ifs at h with hnil
    rw [if_neg (List.append_ne_nil_of_left_ne_nil hnil more)]
    dsimp only at h ⊢
    cases hstatus : (P.decrypt s stream).status with
    | ok =>
      obtain ⟨hsame, hok⟩ := P.decrypt_append s stream more (by simp [hstatus])
      obtain ⟨hcontext, hplain, hextra⟩ := hok hstatus
      rw [hstatus] at h hsame
      cases h
      rw [hsame, hcontext, hplain, hextra]
    | incompleteMessage | contextExpired | renegotiate | other =>
      rw [hstatus] at h
      cases h
  last_append {s stream} more h := by
    unfold front at h ⊢
    split_ifs at h with hnil
    rw [if_neg (List.append_ne_nil_of_left_ne_nil hnil more)]
    dsimp only at h ⊢
    cases hstatus : (P.decrypt s stream).status with
    | ok | incompleteMessage =>
      rw [hstatus] at h
      cases h
    | contextExpired | renegotiate | other =>
      obtain ⟨hsame, -⟩ := P.decrypt_append s stream more (by simp [hstatus])
      rw [hsame, hstatus]
  length_lt {s t stream rest content} h := by
    unfold front at h
    split_ifs at h with hnil
    dsimp only at h
    cases hstatus : (P.decrypt s stream).status with
    | ok =>
      rw [hstatus] at h
      cases h
      exact P.decrypt_length_lt s stream hstatus
    | incompleteMessage | contextExpired | renegotiate | other =>
      rw [hstatus] at h
      cases h

/-- What a stream says, record for record. -/
def plaintext (context : P.Context) (stream : Bytes) : Bytes :=
  (P.records.records context stream).flatten

section Plaintext

variable {P} {context : P.Context} {stream : Bytes}

theorem front_of_ne_nil (h : stream ≠ []) : P.front context stream =
    match (P.decrypt context stream).status with
    | .ok => .record (P.decrypt context stream).context (P.decrypt context stream).plain
        (P.decrypt context stream).extra
    | .incompleteMessage => .unfinished
    | .contextExpired => .last
    | .renegotiate => .last
    | .other => .last := if_neg h

@[simp] theorem plaintext_nil (context : P.Context) : P.plaintext context [] = [] := by
  rw [plaintext, P.records.records_of_unfinished (if_pos rfl), List.flatten_nil]

/-- A record that is complete is said first, whatever follows. -/
theorem plaintext_of_ok (h : stream ≠ []) (hok : (P.decrypt context stream).status = .ok)
    (more : Bytes) : P.plaintext context (stream ++ more) = (P.decrypt context stream).plain ++
      P.plaintext (P.decrypt context stream).context ((P.decrypt context stream).extra ++ more) := by
  have hfront : P.records.front context stream = .record (P.decrypt context stream).context
      (P.decrypt context stream).plain (P.decrypt context stream).extra := by
    show P.front context stream = _
    rw [front_of_ne_nil h, hok]
  rw [plaintext, P.records.records_of_record (P.records.record_append more hfront),
    List.flatten_cons]
  rfl

theorem plaintext_of_incomplete (h : stream ≠ [])
    (hincomplete : (P.decrypt context stream).status = .incompleteMessage) :
    P.plaintext context stream = [] := by
  have hfront : P.records.front context stream = .unfinished := by
    show P.front context stream = _
    rw [front_of_ne_nil h, hincomplete]
  rw [plaintext, P.records.records_of_unfinished hfront, List.flatten_nil]

/-- The end of a session: nothing is said behind it. -/
theorem plaintext_of_last (h : stream ≠ [])
    (hlast : (P.decrypt context stream).status ∈ [.contextExpired, .renegotiate, .other])
    (more : Bytes) : P.plaintext context (stream ++ more) = [] := by
  have hfront : P.records.front context stream = .last := by
    show P.front context stream = _
    rw [front_of_ne_nil h]
    cases hstatus : (P.decrypt context stream).status <;> simp_all
  rw [plaintext, P.records.records_of_last (P.records.last_append more hfront), List.flatten_nil]

end Plaintext

section Established

variable {P} {context : Option P.Context} {stream : Bytes}

theorem established_of_incomplete
    (h : (P.accept context stream).status = .incompleteMessage) :
    P.established context stream = none := by
  rw [established]
  split_ifs
  · rfl
  · dsimp only
    split <;> first | rfl | (rename_i h'; rw [h] at h'; cases h')

/-- A message that is complete is accepted first, whatever follows. -/
theorem established_of_continue (hnil : stream ≠ [])
    (h : (P.accept context stream).status = .continueNeeded) (more : Bytes) :
    P.established context (stream ++ more) = P.established (some (P.accept context stream).context)
      (leftover stream (P.accept context stream).extra ++ more) := by
  obtain ⟨hsame, hrest⟩ := P.accept_append context stream more (by simp [h])
  obtain ⟨hcontext, hleft⟩ := hrest (by simp [h])
  rw [established, if_neg (List.append_ne_nil_of_left_ne_nil hnil more)]
  dsimp only
  rw [h] at hsame
  split <;> rename_i h' <;> rw [hsame] at h'
  · cases h'
  · rw [hcontext, hleft]
  · cases h'
  · cases h'

/-- The handshake ends where it ends, whatever follows. -/
theorem established_of_ok (hnil : stream ≠ [])
    (h : (P.accept context stream).status = .ok) (more : Bytes) :
    P.established context (stream ++ more) = some ((P.accept context stream).context,
      leftover stream (P.accept context stream).extra ++ more) := by
  obtain ⟨hsame, hrest⟩ := P.accept_append context stream more (by simp [h])
  obtain ⟨hcontext, hleft⟩ := hrest (by simp [h])
  rw [established, if_neg (List.append_ne_nil_of_left_ne_nil hnil more)]
  dsimp only
  rw [h] at hsame
  split <;> rename_i h' <;> rw [hsame] at h'
  · cases h'
  · cases h'
  · rw [hcontext, hleft]
  · cases h'

theorem established_of_other (hnil : stream ≠ [])
    (h : (P.accept context stream).status = .other) (more : Bytes) :
    P.established context (stream ++ more) = none := by
  obtain ⟨hsame, -⟩ := P.accept_append context stream more (by simp [h])
  rw [established, if_neg (List.append_ne_nil_of_left_ne_nil hnil more)]
  dsimp only
  rw [h] at hsame
  split <;> rename_i h' <;> rw [hsame] at h' <;> cases h'

end Established

end SecurityProvider

end Tls
end MasterControl
