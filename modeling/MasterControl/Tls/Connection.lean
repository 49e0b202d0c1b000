import MasterControl.Http.Framing
import MasterControl.Tls.NullCipher
import MasterControl.Tls.StreamAdapter

/-!
# The admin listener over TLS

`handleClientTls` is the twin of `handleClient`: the same loop, with `recvPlain` in the place of
`recv`.  The twin serves what the plain handler serves of the decrypted stream, cut into the
pieces that the adapter hands out (`readLoopTls_eq`).  So a client whose stream is refused
whatever its pieces are, or holds one request alone, gets over TLS what it gets without
(`handleClientTls_serves`).
-/

namespace MasterControl
namespace Tls

open Foundation
open Http (checkBuffer chunkBytes parseRequest readLoop handleClient Chunking Alone
  chunking_singles exists_decides)

section Connection

variable {P : SecurityProvider} {sendAll : ℕ → Bool}

/-- The loop over what the adapter hands out. -/
def readLoopTls (requestBuffer : Bytes) (adapter : SchannelStreamAdapter P) (incoming : Incoming) :
    Http.Outcome :=
  match h : recvPlain chunkBytes adapter incoming with
  | (.bytes chunk, adapter', incoming') =>
    have := (recvPlain_bytes h).2.2.2
    match checkBuffer (requestBuffer ++ chunk) with
    | some outcome => outcome
    | none => readLoopTls (requestBuffer ++ chunk) adapter' incoming'
  | (.closed, _, _) => .dispatched (parseRequest requestBuffer)
  | (.failed, _, _) => .dispatched (parseRequest requestBuffer)
termination_by (adapter.ciphertextLength incoming.chunks, adapter.decrypted.length)
decreasing_by exact Prod.lex_iff.mpr this

/-- `handleClientTls` as far as the request; `none` is a handshake that fails. -/
def handleClientTls (P : SecurityProvider) (sendAll : ℕ → Bool) (incoming : Incoming) :
    Option Http.Outcome :=
  (handshake P sendAll incoming).map fun (adapter, incoming) => readLoopTls [] adapter incoming

theorem chunking_nil : Chunking [] [] where
  flatten := rfl
  nonempty := fun _ h => by cases h
  length_le := fun _ h => by cases h

/-- A piece that is handed out comes before the pieces of the rest. -/
theorem chunking_cons {stream rest chunk : Bytes} {chunks : List Bytes} (hne : chunk ≠ [])
    (hlength : chunk.length ≤ chunkBytes) (hstream : stream = chunk ++ rest)
    (h : Chunking rest chunks) : Chunking stream (chunk :: chunks) where
  flatten := by rw [List.flatten_cons, h.flatten, hstream]
  nonempty := List.forall_mem_cons.mpr ⟨hne, h.nonempty⟩
  length_le := List.forall_mem_cons.mpr ⟨hlength, h.length_le⟩

/-- The loop is that over some pieces of the stream. -/
theorem readLoopTls_eq (requestBuffer : Bytes) (adapter : SchannelStreamAdapter P)
    (incoming : Incoming) : ∃ chunks, Chunking (adapter.plaintext incoming.chunks) chunks ∧
      readLoopTls requestBuffer adapter incoming = readLoop requestBuffer chunks := by
  fun_induction readLoopTls requestBuffer adapter incoming with
  | case1 requestBuffer adapter incoming chunk adapter' incoming' hreceived hless outcome hcheck =>
    obtain ⟨hne, hlength, hplain, -⟩ := recvPlain_bytes hreceived
    -- the outcome stands, whatever the pieces behind it
    have hrest := chunking_singles (adapter'.plaintext incoming'.chunks)
    refine ⟨_, chunking_cons hne hlength hplain hrest, ?_⟩
    rw [readLoop, hcheck]
  | case2 requestBuffer adapter incoming chunk adapter' incoming' hreceived hless hcheck ih =>
    obtain ⟨hne, hlength, hplain, -⟩ := recvPlain_bytes hreceived
    obtain ⟨chunks, hrest, hloop⟩ := ih
    refine ⟨_, chunking_cons hne hlength hplain hrest, ?_⟩
    rw [readLoop, hcheck]
    exact hloop
  | case3 requestBuffer adapter incoming adapter' incoming' hreceived =>
    rw [recvPlain_end (by decide) (Or.inl rfl) hreceived]
    exact ⟨[], chunking_nil, rfl⟩
  | case4 requestBuffer adapter incoming adapter' incoming' hreceived =>
    rw [recvPlain_end (by decide) (Or.inr rfl) hreceived]
    exact ⟨[], chunking_nil, rfl⟩

/-- A stream that is decided wherever it is cut gives one outcome. -/
theorem handleClient_of_alone {stream : Bytes} (h : Alone stream) {chunks chunks' : List Bytes}
    (hchunks : Chunking stream chunks) (hchunks' : Chunking stream chunks') :
    handleClient chunks = handleClient chunks' := by
  obtain ⟨length, outcome, hpos, hdecides, -⟩ := exists_decides h
  have hall : ∀ chunks, Chunking stream chunks → handleClient chunks = outcome :=
    fun chunks hchunks => hdecides.readLoop hchunks.length_le hchunks.flatten hpos
  rw [hall chunks hchunks, hall chunks' hchunks']

/-- **The twin serves what the plain handler serves of the decrypted stream**, whatever the pieces
are in which the encrypted one comes in; and while replies can be sent, it turns away only streams
that do not hold a handshake, or whose session has no sizes. -/
theorem handleClientTls_serves (P : SecurityProvider) (sendAll : ℕ → Bool) {incoming : Incoming}
    (hincoming : incoming.Proper) :
    (∀ outcome, handleClientTls P sendAll incoming = some outcome →
      ∃ context rest, P.established none incoming.chunks.flatten = some (context, rest) ∧
        (∃ chunks, Chunking (P.plaintext context rest) chunks ∧ outcome = handleClient chunks) ∧
        (Alone (P.plaintext context rest) → ∀ chunks, Chunking (P.plaintext context rest) chunks →
          outcome = handleClient chunks)) ∧
    (handleClientTls P sendAll incoming = none → (∀ round, sendAll round = true) →
      ∀ context rest, P.established none incoming.chunks.flatten = some (context, rest) →
        P.streamSizes context = none) := by
  have hnil : true = false → ([] : Bytes) ≠ [] := fun h => by cases h
  refine ⟨fun outcome h => ?_, fun h hsend context rest hestablished => ?_⟩
  · obtain ⟨⟨adapter, left⟩, hhandshake, hloop⟩ := Option.map_eq_some_iff.mp h
    obtain ⟨⟨adapter', chunks'⟩, hrounds, heq⟩ := Option.map_eq_some_iff.mp hhandshake
    cases heq
    obtain ⟨hestablished, hdecrypted, -⟩ := handshakeLoop_some hincoming hnil hrounds
    have hplain : adapter.plaintext chunks' =
        P.plaintext adapter.context (adapter.encrypted ++ chunks'.flatten) := by
      rw [SchannelStreamAdapter.plaintext, hdecrypted, List.nil_append]
    obtain ⟨chunks, hchunks, hserved⟩ :=
      readLoopTls_eq [] adapter { incoming with chunks := chunks' }
    have houtcome : outcome = handleClient chunks := hloop.symm.trans hserved
    rw [hplain] at hchunks
    refine ⟨_, _, hestablished, ⟨chunks, hchunks, houtcome⟩, fun halone other hother => ?_⟩
    exact houtcome.trans (handleClient_of_alone halone hchunks hother)
  · have hrounds := Option.map_eq_none_iff.mp (Option.map_eq_none_iff.mp h)
    exact handshakeLoop_none hsend hincoming hnil (fun _ => Or.inl rfl) hrounds hestablished

/-- A client that finishes its handshake and sends a request, cut within a record. -/
theorem handleClientTls_serves_nullCipher :
    let finished := NullCipher.record NullCipher.handshakeType [NullCipher.finishedType]
    let request := NullCipher.record NullCipher.applicationDataType
      [71, 69, 84, 32, 47, 32, 72, 84, 84, 80, 47, 49, 46, 49, 13, 10, 13, 10]
    let incoming : Incoming := { chunks := [finished ++ request.take 7, request.drop 7] }
    incoming.Proper ∧ ∀ outcome, handleClientTls nullCipher (fun _ => true) incoming = some outcome →
      ∃ context rest, nullCipher.established none incoming.chunks.flatten = some (context, rest) ∧
        (∃ chunks, Chunking (nullCipher.plaintext context rest) chunks ∧
          outcome = handleClient chunks) ∧
        (Alone (nullCipher.plaintext context rest) →
          ∀ chunks, Chunking (nullCipher.plaintext context rest) chunks →
            outcome = handleClient chunks) := by
  intro finished request incoming
  have hproper : incoming.Proper := by
    unfold Incoming.Proper
    decide
  exact ⟨hproper, (handleClientTls_serves nullCipher (fun _ => true) hproper).1⟩

end Connection

end Tls
end MasterControl
