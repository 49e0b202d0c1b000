import MasterControl.Tls.SecurityProvider

/-!
# The stream adapter

`SchannelStreamAdapter` makes a byte stream out of a socket and the security provider: the
handshake reads until the provider has accepted, `recvPlain` decrypts record by record and hands
the text out in pieces as large as the caller wants, and `sendPlain` encrypts piece by piece.

`handshakeLoop_spec` says that the handshake ends where the stream says, and `recvLoop_spec` that what
`recvPlain` hands out, and what is still to come, is what the stream says; both whatever the
pieces are in which the stream comes in.
-/

namespace MasterControl
namespace Tls

open Foundation

/-! ## The socket -/

/-- What is still to come from the peer: what each call of `recv` is going to return, and whether
the connection then fails or is closed. -/
structure Incoming where
  chunks : List Bytes
  fails : Bool := false

/-- A call of `recv` that returns something returns at least one byte. -/
def Incoming.Proper (incoming : Incoming) : Prop := ∀ chunk ∈ incoming.chunks, chunk ≠ []

/-! ## The handshake -/

/-- The adapter, once the handshake is complete. -/
structure SchannelStreamAdapter (P : SecurityProvider) where
  context : P.Context
  streamSizes : StreamSizes
  encrypted : Bytes := []
  decrypted : Bytes := []

section Handshake

variable (P : SecurityProvider) (sendAll : ℕ → Bool)

/-- Whether the reply of a round cannot be sent; that of a failure is sent in vain. -/
def replyFails {C : Type} (accepted : Accepted C) (round : ℕ) : Bool :=
  match accepted.token with
  | none => false
  | some token =>
    token ≠ [] && (accepted.status = .continueNeeded || accepted.status = .ok) && !sendAll round

/-- `handshake`, from some round on; `sendAll` says which replies can be sent.  What is left is
what is still to come. -/
def handshakeLoop (context : Option P.Context) (round : ℕ) (inbound : Bytes) :
    Bool → List Bytes → Option (SchannelStreamAdapter P × List Bytes)
  | true, [] => none
  | true, chunk :: chunks => handshakeLoop context round (inbound ++ chunk) false chunks
  | false, chunks =>
    let accepted := P.accept context inbound
    match h : accepted.status with
    | .incompleteMessage => handshakeLoop context round inbound true chunks
    | .continueNeeded =>
      have := P.accept_length_lt context inbound h
      if replyFails sendAll accepted round then none
      else
        let left := leftover inbound accepted.extra
        handshakeLoop (some accepted.context) (round + 1) left (left = []) chunks
    | .ok =>
      if replyFails sendAll accepted round then none
      else
        (P.streamSizes accepted.context).map fun streamSizes =>
          ({ context := accepted.context
             streamSizes := streamSizes
             encrypted := leftover inbound accepted.extra }, chunks)
    | .other => none
termination_by needRead chunks => (chunks.length, inbound.length, (!needRead).toNat)

def handshake (incoming : Incoming) : Option (SchannelStreamAdapter P × Incoming) :=
  (handshakeLoop P sendAll none 0 [] true incoming.chunks).map fun (adapter, chunks) =>
    (adapter, { incoming with chunks := chunks })

end Handshake

/-! ## Receiving -/

/-- What `recvPlain` returns: bytes, 0 or -1. -/
inductive Received where
  | bytes (out : Bytes)
  | closed
  | failed
  deriving DecidableEq

section Receive

variable {P : SecurityProvider}

/-- `recvPlain`, for a buffer that can hold something; `fails` is what `recv` does when nothing more
comes. -/
def recvLoop (outSize : ℕ) (fails : Bool) (adapter : SchannelStreamAdapter P)
    (chunks : List Bytes) : Received × SchannelStreamAdapter P × List Bytes :=
  if adapter.decrypted ≠ [] then
    (.bytes (adapter.decrypted.take outSize),
      { adapter with decrypted := adapter.decrypted.drop outSize }, chunks)
  else if adapter.encrypted = [] then
    match chunks with
    | [] => (if fails then .failed else .closed, adapter, [])
    | chunk :: chunks =>
      recvLoop outSize fails { adapter with encrypted := adapter.encrypted ++ chunk } chunks
  else
    let decrypted := P.decrypt adapter.context adapter.encrypted
    match h : decrypted.status with
    | .ok =>
      have := P.decrypt_length_lt adapter.context adapter.encrypted h
      recvLoop outSize fails { adapter with
        context := decrypted.context
        encrypted := decrypted.extra
        decrypted := adapter.decrypted ++ decrypted.plain } chunks
    | .incompleteMessage =>
      match chunks with
      | [] => (if fails then .failed else .closed, adapter, [])
      | chunk :: chunks =>
        recvLoop outSize fails { adapter with encrypted := adapter.encrypted ++ chunk } chunks
    | .contextExpired => (.closed, adapter, chunks)
    | .renegotiate => (.closed, adapter, chunks)
    | .other => (.failed, adapter, chunks)
termination_by (chunks.length, adapter.encrypted.length)

def recvPlain (outSize : ℕ) (adapter : SchannelStreamAdapter P) (incoming : Incoming) :
    Received × SchannelStreamAdapter P × Incoming :=
  if outSize = 0 then (.failed, adapter, incoming)
  else
    let (received, adapter, chunks) := recvLoop outSize incoming.fails adapter incoming.chunks
    (received, adapter, { incoming with chunks := chunks })

end Receive

/-! ## What the handshake reads -/

section HandshakeSpec

variable {P : SecurityProvider} {sendAll : ℕ → Bool}

/-- A handshake that succeeds ends where the stream says. -/
theorem handshakeLoop_some {context : Option P.Context} {round : ℕ} {inbound : Bytes}
    {needRead : Bool} {chunks left : List Bytes} {adapter : SchannelStreamAdapter P}
    (hchunks : ∀ chunk ∈ chunks, chunk ≠ []) (hinbound : needRead = false → inbound ≠ [])
    (h : handshakeLoop P sendAll context round inbound needRead chunks = some (adapter, left)) :
    P.established context (inbound ++ chunks.flatten) =
      some (adapter.context, adapter.encrypted ++ left.flatten) ∧
    adapter.decrypted = [] ∧ left <:+ chunks := by
  fun_induction handshakeLoop P sendAll context round inbound needRead chunks with
  | case1 => cases h
  | case2 context round inbound chunk chunks ih =>
    have hchunk := hchunks chunk List.mem_cons_self
    obtain ⟨hestablished, hdecrypted, hleft⟩ := ih
      (fun chunk hmem => hchunks chunk (List.mem_cons_of_mem _ hmem))
      (fun _ => List.append_ne_nil_of_right_ne_nil inbound hchunk) h
    rw [List.flatten_cons, ← List.append_assoc]
    exact ⟨hestablished, hdecrypted, hleft.trans (List.suffix_cons chunk chunks)⟩
  | case3 context round inbound chunks accepted hstatus ih =>
    exact ih hchunks (fun h => by cases h) h
  | case4 => cases h
  | case5 context round inbound chunks accepted hstatus _ hreply unread ih =>
    rw [SecurityProvider.established_of_continue (hinbound rfl) hstatus]
    exact ih hchunks (fun h => of_decide_eq_false h) h
  | case6 => cases h
  | case7 context round inbound chunks accepted hstatus hreply =>
    obtain ⟨streamSizes, -, heq⟩ := Option.map_eq_some_iff.mp h
    cases heq
    rw [SecurityProvider.established_of_ok (hinbound rfl) hstatus]
    exact ⟨rfl, rfl, List.suffix_rfl⟩
  | case8 => cases h

/-- While replies can be sent, a handshake fails only if the stream never ends it, or ends it with a
context whose sizes cannot be told. -/
theorem handshakeLoop_none (hsend : ∀ round, sendAll round = true) {context : Option P.Context}
    {round : ℕ} {inbound : Bytes} {needRead : Bool} {chunks : List Bytes}
    (hchunks : ∀ chunk ∈ chunks, chunk ≠ []) (hinbound : needRead = false → inbound ≠ [])
    (hincomplete : needRead = true →
      inbound = [] ∨ (P.accept context inbound).status = .incompleteMessage)
    (h : handshakeLoop P sendAll context round inbound needRead chunks = none)
    {established : P.Context} {rest : Bytes}
    (hestablished : P.established context (inbound ++ chunks.flatten) = some (established, rest)) :
    P.streamSizes established = none := by
  have hreplies : ∀ {C : Type} (accepted : Accepted C) (round : ℕ),
      replyFails sendAll accepted round = false := by
    intro C accepted round
    rw [replyFails]
    cases accepted.token with
    | none => rfl
    | some token => simp [hsend]
  fun_induction handshakeLoop P sendAll context round inbound needRead chunks with
  | case1 context round inbound =>
    rw [List.flatten_nil, List.append_nil] at hestablished
    rcases hincomplete rfl with rfl | hstatus
    · rw [SecurityProvider.established, if_pos rfl] at hestablished
      cases hestablished
    · rw [SecurityProvider.established_of_incomplete hstatus] at hestablished
      cases hestablished
  | case2 context round inbound chunk chunks ih =>
    have hchunk := hchunks chunk List.mem_cons_self
    rw [List.flatten_cons, ← List.append_assoc] at hestablished
    exact ih (fun chunk hmem => hchunks chunk (List.mem_cons_of_mem _ hmem))
      (fun _ => List.append_ne_nil_of_right_ne_nil inbound hchunk) (fun h => by cases h) h
      hestablished
  | case3 context round inbound chunks accepted hstatus ih =>
    exact ih hchunks (fun h => by cases h) (fun _ => Or.inr hstatus) h hestablished
  | case4 context round inbound chunks accepted hstatus _ hreply =>
    rw [hreplies] at hreply
    cases hreply
  | case5 context round inbound chunks accepted hstatus _ hreply unread ih =>
    rw [SecurityProvider.established_of_continue (hinbound rfl) hstatus] at hestablished
    exact ih hchunks (fun h => of_decide_eq_false h)
      (fun hnil => Or.inl (of_decide_eq_true hnil)) h hestablished
  | case6 context round inbound chunks accepted hstatus hreply =>
    rw [hreplies] at hreply
    cases hreply
  | case7 context round inbound chunks accepted hstatus hreply =>
    rw [SecurityProvider.established_of_ok (hinbound rfl) hstatus] at hestablished
    cases hestablished
    exact Option.map_eq_none_iff.mp h
  | case8 context round inbound chunks accepted hstatus =>
    rw [SecurityProvider.established_of_other (hinbound rfl) hstatus] at hestablished
    cases hestablished

end HandshakeSpec

/-! ## What is handed out -/

section ReceiveSpec

variable {P : SecurityProvider}

namespace SchannelStreamAdapter

/-- What is still to be handed out, when these pieces are still to come. -/
def plaintext (adapter : SchannelStreamAdapter P) (chunks : List Bytes) : Bytes :=
  adapter.decrypted ++ P.plaintext adapter.context (adapter.encrypted ++ chunks.flatten)

/-- How much is still to be decrypted. -/
def ciphertextLength (adapter : SchannelStreamAdapter P) (chunks : List Bytes) : ℕ :=
  (adapter.encrypted ++ chunks.flatten).length

variable {adapter : SchannelStreamAdapter P} {chunks : List Bytes} {chunk : Bytes}

theorem plaintext_append :
    plaintext { adapter with encrypted := adapter.encrypted ++ chunk } chunks =
      adapter.plaintext (chunk :: chunks) := by
  rw [plaintext, plaintext, List.flatten_cons, ← List.append_assoc]

theorem ciphertextLength_append :
    ciphertextLength { adapter with encrypted := adapter.encrypted ++ chunk } chunks =
      adapter.ciphertextLength (chunk :: chunks) := by
  rw [ciphertextLength, ciphertextLength, List.flatten_cons, ← List.append_assoc]

/-- A record that is decrypted is handed out next. -/
theorem plaintext_decrypt (hdecrypted : ¬ adapter.decrypted ≠ [])
    (hencrypted : adapter.encrypted ≠ [])
    (hok : (P.decrypt adapter.context adapter.encrypted).status = .ok) :
    plaintext { adapter with
      context := (P.decrypt adapter.context adapter.encrypted).context
      encrypted := (P.decrypt adapter.context adapter.encrypted).extra
      decrypted := adapter.decrypted ++ (P.decrypt adapter.context adapter.encrypted).plain }
        chunks = adapter.plaintext chunks := by
  rw [plaintext, plaintext, SecurityProvider.plaintext_of_ok hencrypted hok,
    not_not.mp hdecrypted, List.nil_append, List.nil_append]

theorem ciphertextLength_decrypt (chunks : List Bytes)
    (hok : (P.decrypt adapter.context adapter.encrypted).status = .ok) :
    ciphertextLength { adapter with
      context := (P.decrypt adapter.context adapter.encrypted).context
      encrypted := (P.decrypt adapter.context adapter.encrypted).extra
      decrypted := adapter.decrypted ++ (P.decrypt adapter.context adapter.encrypted).plain }
        chunks < adapter.ciphertextLength chunks := by
  have hlt := P.decrypt_length_lt adapter.context adapter.encrypted hok
  rw [ciphertextLength, ciphertextLength, List.length_append, List.length_append]
  dsimp only
  omega

/-- Behind the end of a session nothing is handed out. -/
theorem plaintext_last (hdecrypted : ¬ adapter.decrypted ≠ [])
    (hencrypted : adapter.encrypted ≠ [])
    (hlast : (P.decrypt adapter.context adapter.encrypted).status = .contextExpired ∨
      (P.decrypt adapter.context adapter.encrypted).status = .renegotiate ∨
      (P.decrypt adapter.context adapter.encrypted).status = .other) :
    adapter.plaintext chunks = [] := by
  rw [plaintext, not_not.mp hdecrypted, List.nil_append]
  exact SecurityProvider.plaintext_of_last hencrypted (by simpa using hlast) _

end SchannelStreamAdapter

open SchannelStreamAdapter

variable {outSize : ℕ} {fails : Bool} {adapter adapter' : SchannelStreamAdapter P}
  {chunks chunks' : List Bytes} {out : Bytes}

/-- Bytes that are handed out are the next ones. -/
theorem recvLoop_bytes (hsize : 0 < outSize)
    (h : recvLoop outSize fails adapter chunks = (.bytes out, adapter', chunks')) :
    out ≠ [] ∧ out.length ≤ outSize ∧
    adapter.plaintext chunks = out ++ adapter'.plaintext chunks' ∧
    (adapter'.ciphertextLength chunks' < adapter.ciphertextLength chunks ∨
      (adapter'.ciphertextLength chunks' = adapter.ciphertextLength chunks ∧
        adapter'.decrypted.length < adapter.decrypted.length)) := by
  fun_induction recvLoop outSize fails adapter chunks with
  | case1 adapter chunks hdecrypted =>
    cases h
    have hpos := List.length_pos_iff.mpr hdecrypted
    refine ⟨?_, List.length_take_le _ _, ?_, Or.inr ⟨rfl, ?_⟩⟩
    · rw [← List.length_pos_iff, List.length_take]
      omega
    · rw [plaintext, plaintext, ← List.append_assoc, List.take_append_drop]
    · rw [List.length_drop]
      omega
  | case2 => split_ifs at h <;> cases h
  | case3 adapter hdecrypted hencrypted chunk chunks ih =>
    rw [← plaintext_append, ← ciphertextLength_append]
    exact ih h
  | case4 adapter chunks hdecrypted hencrypted decrypted hok _ ih =>
    obtain ⟨hne, hlength, hplain, hless⟩ := ih h
    rw [plaintext_decrypt hdecrypted hencrypted hok] at hplain
    have hdecrypt := ciphertextLength_decrypt chunks hok
    refine ⟨hne, hlength, hplain, Or.inl ?_⟩
    rcases hless with hless | ⟨heq, -⟩
    · exact Nat.lt_trans hless hdecrypt
    · exact heq ▸ hdecrypt
  | case5 => split_ifs at h <;> cases h
  | case6 adapter hdecrypted hencrypted decrypted hstatus chunk chunks ih =>
    rw [← plaintext_append, ← ciphertextLength_append]
    exact ih h
  | case7 => cases h
  | case8 => cases h
  | case9 => cases h

/-- When no bytes are handed out, none are missing. -/
theorem recvLoop_end {received : Received} (hend : received = .closed ∨ received = .failed)
    (h : recvLoop outSize fails adapter chunks = (received, adapter', chunks')) :
    adapter.plaintext chunks = [] := by
  fun_induction recvLoop outSize fails adapter chunks with
  | case1 adapter chunks hdecrypted =>
    cases h
    simp at hend
  | case2 adapter hdecrypted hencrypted =>
    rw [plaintext, not_not.mp hdecrypted, hencrypted, List.nil_append, List.nil_append,
      List.flatten_nil, SecurityProvider.plaintext_nil]
  | case3 adapter hdecrypted hencrypted chunk chunks ih =>
    rw [← plaintext_append]
    exact ih h
  | case4 adapter chunks hdecrypted hencrypted decrypted hok _ ih =>
    rw [← plaintext_decrypt hdecrypted hencrypted hok]
    exact ih h
  | case5 adapter hdecrypted hencrypted decrypted hstatus =>
    rw [plaintext, not_not.mp hdecrypted, List.nil_append, List.flatten_nil, List.append_nil,
      SecurityProvider.plaintext_of_incomplete hencrypted hstatus]
  | case6 adapter hdecrypted hencrypted decrypted hstatus chunk chunks ih =>
    rw [← plaintext_append]
    exact ih h
  | case7 adapter chunks hdecrypted hencrypted decrypted hstatus =>
    exact plaintext_last hdecrypted hencrypted (Or.inl hstatus)
  | case8 adapter chunks hdecrypted hencrypted decrypted hstatus =>
    exact plaintext_last hdecrypted hencrypted (Or.inr (Or.inl hstatus))
  | case9 adapter chunks hdecrypted hencrypted decrypted hstatus =>
    exact plaintext_last hdecrypted hencrypted (Or.inr (Or.inr hstatus))

theorem recvPlain_bytes {incoming incoming' : Incoming}
    (h : recvPlain outSize adapter incoming = (.bytes out, adapter', incoming')) :
    out ≠ [] ∧ out.length ≤ outSize ∧
    adapter.plaintext incoming.chunks = out ++ adapter'.plaintext incoming'.chunks ∧
    (adapter'.ciphertextLength incoming'.chunks < adapter.ciphertextLength incoming.chunks ∨
      (adapter'.ciphertextLength incoming'.chunks = adapter.ciphertextLength incoming.chunks ∧
        adapter'.decrypted.length < adapter.decrypted.length)) := by
  rw [recvPlain] at h
  split_ifs at h with hsize
  · cases h
  · rcases hloop : recvLoop outSize incoming.fails adapter incoming.chunks with ⟨received, next, left⟩
    rw [hloop] at h
    cases h
    exact recvLoop_bytes (Nat.pos_of_ne_zero hsize) hloop

theorem recvPlain_end {incoming incoming' : Incoming} {received : Received} (hsize : outSize ≠ 0)
    (hend : received = .closed ∨ received = .failed)
    (h : recvPlain outSize adapter incoming = (received, adapter', incoming')) :
    adapter.plaintext incoming.chunks = [] := by
  rw [recvPlain, if_neg hsize] at h
  rcases hloop : recvLoop outSize incoming.fails adapter incoming.chunks with ⟨received', next, left⟩
  rw [hloop] at h
  cases h
  exact recvLoop_end hend hloop

end ReceiveSpec

end Tls
end MasterControl
