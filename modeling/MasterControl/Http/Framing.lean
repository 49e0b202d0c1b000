import MasterControl.Http.Request

/-!
# Where a request ends

`handleClient` receives chunks until the buffer holds a request, and parses the whole buffer.
`readLoop` is the loop with its exits: the size limit, a header block without a length, an
invalid length, a length above the limit, a complete body, and the end of the connection,
where whatever arrived is parsed.  From here on `OPTIONS` is answered on the spot, and `HEAD`
is handed on as `GET`.

The law of framing (`FramingLaw`) is about one stream and every way to cut it into chunks:
the outcome is the same for all of them, and what is dispatched is complete and ends where
the body ends.  `framingLaw_iff` says for which streams it holds: those that are refused
whatever the chunks are, and those that hold one request and nothing behind it.

A stream is decided from some length on (`Decides`): a shorter buffer gives no outcome, and
every buffer that the chunk at that place can leave gives the same one.
-/

namespace MasterControl
namespace Http

open Foundation

def kMaxAdminRequestBytes : Nat := 10 * 1024 * 1024

/-- `sizeof(chunk)`. -/
def chunkBytes : Nat := 4096

inductive Outcome where
  | rejected (statusCode : Nat)
  | dispatched (request : HttpRequest)
deriving DecidableEq

/-- The exits of the loop for a buffer; `none` is `continue`, or the end of the body. -/
def checkBuffer (requestBuffer : Bytes) : Option Outcome :=
  if kMaxAdminRequestBytes < requestBuffer.length then some (.rejected 413)
  else
    match cut headerEndMark requestBuffer with
    | none => none
    | some (block, _) =>
      let contentLength := parseContentLengthHeader requestBuffer
      if !contentLength.present then some (.dispatched (parseRequest requestBuffer))
      else if !contentLength.valid then some (.rejected 400)
      else if kMaxAdminRequestBytes < contentLength.value then some (.rejected 413)
      else if block.length + 4 + contentLength.value ≤ requestBuffer.length then
        some (.dispatched (parseRequest requestBuffer))
      else none

/-- The loop over the chunks that arrive until the connection ends. -/
def readLoop (requestBuffer : Bytes) : List Bytes → Outcome
  | [] => .dispatched (parseRequest requestBuffer)
  | chunk :: chunks =>
    match checkBuffer (requestBuffer ++ chunk) with
    | some outcome => outcome
    | none => readLoop (requestBuffer ++ chunk) chunks

/-- `handleClient` as far as the request. -/
def handleClient (chunks : List Bytes) : Outcome := readLoop [] chunks

/-! ## The law -/

/-- The chunks in which a stream can arrive. -/
structure Chunking (stream : Bytes) (chunks : List Bytes) : Prop where
  flatten : chunks.flatten = stream
  nonempty : ∀ chunk ∈ chunks, chunk ≠ []
  length_le : ∀ chunk ∈ chunks, chunk.length ≤ chunkBytes

/-- The stream holds a header block and as many bytes behind it as it says, none where it says
nothing, and they are the body. -/
def Complete (stream : Bytes) (request : HttpRequest) : Prop :=
  ∃ block rest, cut headerEndMark stream = some (block, rest) ∧
    (parseContentLengthHeader stream).value ≤ rest.length ∧
    request.body = rest.take (parseContentLengthHeader stream).value

structure FramingLaw (stream : Bytes) : Prop where
  agree : ∀ chunks chunks', Chunking stream chunks → Chunking stream chunks' →
    handleClient chunks = handleClient chunks'
  complete : ∀ chunks request, Chunking stream chunks →
    handleClient chunks = .dispatched request → Complete stream request

/-- A stream that is refused whatever the chunks are, or holds one request alone whose body
is found where the header block ends. -/
def Alone (stream : Bytes) : Prop :=
  match cut headerEndMark stream with
  | none => kMaxAdminRequestBytes < stream.length
  | some (block, rest) =>
    let contentLength := parseContentLengthHeader stream
    if kMaxAdminRequestBytes < block.length + 4 then True
    else if contentLength.present && !contentLength.valid then
      -- no chunk may run past the limit before the header block is looked at
      stream.length ≤ kMaxAdminRequestBytes ∨
        block.length + 4 + chunkBytes ≤ kMaxAdminRequestBytes + 1
    else if kMaxAdminRequestBytes < block.length + 4 + contentLength.value then
      kMaxAdminRequestBytes < stream.length ∨ kMaxAdminRequestBytes < contentLength.value
    else rest.length = contentLength.value ∧ blankLineInside block = false

instance (stream : Bytes) : Decidable (Alone stream) := by
  unfold Alone
  split
  · infer_instance
  · dsimp only
    infer_instance

/-! ## Streams that are decided at one length -/

/-- Buffers shorter than some length give no outcome, and those that a chunk can leave which
reaches that length give the same one. -/
structure Decides (stream : Bytes) (length : Nat) (outcome : Outcome) : Prop where
  length_le : length ≤ stream.length
  early : ∀ n, n < length → checkBuffer (stream.take n) = none
  late : ∀ n, length ≤ n → n + 1 ≤ length + chunkBytes → n ≤ stream.length →
    checkBuffer (stream.take n) = some outcome

section Chunks

variable {stream buffer : Bytes} {chunks : List Bytes} {outcome : Outcome} {length n : Nat}

/-- The loop goes on over chunks that give no outcome. -/
theorem readLoop_append (buffer : Bytes) (chunks more : List Bytes)
    (h : ∀ chunk ∈ chunks, chunk.length = 1) (hnone : ∀ k, k ≤ chunks.length →
      checkBuffer ((buffer ++ chunks.flatten).take (buffer.length + k)) = none) :
    readLoop buffer (chunks ++ more) = readLoop (buffer ++ chunks.flatten) more := by
  induction chunks generalizing buffer with
  | nil => rw [List.nil_append, List.flatten_nil, List.append_nil]
  | cons chunk chunks ih =>
    have hchunk : chunk.length = 1 := h chunk List.mem_cons_self
    have hfront : (buffer ++ (chunk :: chunks).flatten).take (buffer.length + 1) =
        buffer ++ chunk := by
      rw [List.flatten_cons, ← List.append_assoc]
      refine List.take_left' ?_
      rw [List.length_append, hchunk]
    have hcheck := hnone 1 (by rw [List.length_cons]; omega)
    rw [hfront] at hcheck
    rw [List.cons_append, readLoop, hcheck, List.flatten_cons, ← List.append_assoc]
    refine ih (buffer ++ chunk) (fun c hc => h c (List.mem_cons_of_mem chunk hc)) fun k hk => ?_
    have hlater := hnone (k + 1) (by rw [List.length_cons]; omega)
    rw [List.flatten_cons, ← List.append_assoc] at hlater
    rw [List.length_append, hchunk, Nat.add_assoc, Nat.add_comm 1 k]
    exact hlater

/-- **A stream that is decided at a length has one outcome**, by induction on the chunks: as
long as the buffer is shorter, the loop goes on. -/
theorem Decides.readLoop (h : Decides stream length outcome) (hchunks :
    ∀ chunk ∈ chunks, chunk.length ≤ chunkBytes) (hstream : buffer ++ chunks.flatten = stream)
    (hbuffer : buffer.length < length) : readLoop buffer chunks = outcome := by
  induction chunks generalizing buffer with
  | nil =>
    have hlength := h.length_le
    rw [← hstream, List.flatten_nil, List.append_nil] at hlength
    omega
  | cons chunk chunks ih =>
    rw [List.flatten_cons, ← List.append_assoc] at hstream
    have hfront : stream.take (buffer ++ chunk).length = buffer ++ chunk := by
      rw [← hstream, List.take_left]
    have hle : (buffer ++ chunk).length ≤ stream.length := by
      rw [← hstream]
      exact (List.prefix_append (buffer ++ chunk) chunks.flatten).length_le
    have hchunk : chunk.length ≤ chunkBytes := hchunks chunk List.mem_cons_self
    rw [Http.readLoop]
    rcases Nat.lt_or_ge (buffer ++ chunk).length length with hshort | hlong
    · have hcheck := h.early _ hshort
      rw [hfront] at hcheck
      rw [hcheck]
      exact ih (fun c hc => hchunks c (List.mem_cons_of_mem chunk hc)) hstream hshort
    · have hcheck := h.late _ hlong (by rw [List.length_append]; omega) hle
      rw [hfront] at hcheck
      rw [hcheck]

/-- A stream byte by byte. -/
def singles (stream : Bytes) : List Bytes := stream.map fun b => [b]

/-- A stream byte by byte, but for one chunk. -/
def cutAfter (n m : Nat) (stream : Bytes) : List Bytes :=
  singles (stream.take n) ++ (stream.drop n).take m :: singles (stream.drop (n + m))

@[simp] theorem flatten_singles (stream : Bytes) : (singles stream).flatten = stream := by
  induction stream with
  | nil => rfl
  | cons b stream ih => exact congrArg (List.cons b) ih

theorem length_of_mem_singles {chunk : Bytes} (h : chunk ∈ singles stream) :
    chunk.length = 1 := by
  obtain ⟨b, -, rfl⟩ := List.mem_map.mp h
  rfl

theorem chunking_singles (stream : Bytes) : Chunking stream (singles stream) where
  flatten := flatten_singles stream
  nonempty := by
    rintro chunk hchunk rfl
    cases length_of_mem_singles hchunk
  length_le := fun chunk hchunk => by
    rw [length_of_mem_singles hchunk]
    decide

theorem chunking_cutAfter {m : Nat} (hn : n < stream.length) (hm : 0 < m) (hle : m ≤ chunkBytes) :
    Chunking stream (cutAfter n m stream) := by
  have hmem : ∀ chunk ∈ cutAfter n m stream,
      chunk.length = 1 ∨ chunk = (stream.drop n).take m := by
    intro chunk hchunk
    rcases List.mem_append.mp hchunk with h | h
    · exact Or.inl (length_of_mem_singles h)
    · rcases List.mem_cons.mp h with rfl | h
      · exact Or.inr rfl
      · exact Or.inl (length_of_mem_singles h)
  refine ⟨?_, ?_, ?_⟩
  · rw [cutAfter, List.flatten_append, List.flatten_cons, flatten_singles, flatten_singles,
      ← List.drop_drop, List.take_append_drop, List.take_append_drop]
  · rintro chunk hchunk rfl
    rcases hmem [] hchunk with h | h
    · cases h
    · have hlength := congrArg List.length h
      rw [List.length_take, List.length_drop, List.length_nil] at hlength
      omega
  · intro chunk hchunk
    rcases hmem chunk hchunk with h | rfl
    · rw [h]
      decide
    · exact (List.length_take_le m _).trans hle

/-- Byte by byte, and no outcome on the way: the end of the connection dispatches. -/
theorem handleClient_singles
    (hnone : ∀ k, k ≤ stream.length → checkBuffer (stream.take k) = none) :
    handleClient (singles stream) = .dispatched (parseRequest stream) := by
  have hloop := readLoop_append [] (singles stream) []
    (fun chunk hchunk => length_of_mem_singles hchunk) fun k hk => by
      rw [flatten_singles, List.nil_append, List.length_nil, Nat.zero_add]
      refine hnone k ?_
      rwa [singles, List.length_map] at hk
  rw [List.append_nil, flatten_singles, List.nil_append] at hloop
  exact hloop

/-- Byte by byte up to the chunk that gives an outcome. -/
theorem handleClient_cutAfter {m : Nat} (hn : n ≤ stream.length)
    (hnone : ∀ k, k ≤ n → checkBuffer (stream.take k) = none)
    (hsome : checkBuffer (stream.take (n + m)) = some outcome) :
    handleClient (cutAfter n m stream) = outcome := by
  have hlength : (stream.take n).length = n := by
    rw [List.length_take, Nat.min_eq_left hn]
  have hloop := readLoop_append [] (singles (stream.take n))
    ((stream.drop n).take m :: singles (stream.drop (n + m)))
    (fun chunk hchunk => length_of_mem_singles hchunk) fun k hk => by
      rw [flatten_singles, List.nil_append, List.length_nil, Nat.zero_add]
      rw [singles, List.length_map, hlength] at hk
      rw [List.take_take, Nat.min_eq_left hk]
      exact hnone k hk
  rw [flatten_singles, List.nil_append] at hloop
  rw [handleClient, cutAfter, hloop, readLoop, ← List.take_add, hsome]

end Chunks

/-! ## What a front of a stream gives -/

section Fronts

variable {stream block rest : Bytes} {n : Nat}

theorem checkBuffer_tooLong (hlong : kMaxAdminRequestBytes < n) (hn : n ≤ stream.length) :
    checkBuffer (stream.take n) = some (.rejected 413) := by
  rw [checkBuffer, List.length_take, Nat.min_eq_left hn, if_pos hlong]

/-- Before the header block is there. -/
theorem checkBuffer_early (hshort : n ≤ kMaxAdminRequestBytes)
    (hcut : cut headerEndMark (stream.take n) = none) :
    checkBuffer (stream.take n) = none := by
  have hle : (stream.take n).length ≤ kMaxAdminRequestBytes :=
    (List.length_take_le n stream).trans hshort
  rw [checkBuffer, if_neg (Nat.not_lt.mpr hle), hcut]

/-- What is decided when the header block is there. -/
theorem checkBuffer_take (h : cut headerEndMark stream = some (block, rest))
    (hblock : block.length + 4 ≤ n) (hshort : n ≤ kMaxAdminRequestBytes)
    (hn : n ≤ stream.length) :
    checkBuffer (stream.take n) =
      if (parseContentLengthHeader stream).present &&
          !(parseContentLengthHeader stream).valid then some (.rejected 400)
      else if kMaxAdminRequestBytes < (parseContentLengthHeader stream).value then
        some (.rejected 413)
      else if block.length + 4 + (parseContentLengthHeader stream).value ≤ n then
        some (.dispatched (parseRequest (stream.take n)))
      else none := by
  have hlength : (stream.take n).length = n := by rw [List.length_take, Nat.min_eq_left hn]
  rw [checkBuffer, hlength, if_neg (Nat.not_lt.mpr hshort), cut_take_of_le h hblock,
    parseContentLength_take h hblock]
  dsimp only
  cases hpresent : (parseContentLengthHeader stream).present with
  | true => cases (parseContentLengthHeader stream).valid <;> rfl
  | false =>
    rw [value_of_absent hpresent]
    simp only [Bool.not_false, if_true, Bool.false_and, Bool.false_eq_true, if_false,
      Nat.not_lt_zero, Nat.add_zero, hblock]

theorem length_of_cut (h : cut headerEndMark stream = some (block, rest)) :
    stream.length = block.length + 4 + rest.length := by
  have hlength := congrArg List.length (eq_of_cut h)
  rwa [List.length_append, List.length_append] at hlength

theorem checkBuffer_before (h : cut headerEndMark stream = some (block, rest))
    (hblock : n < block.length + 4) (hshort : n ≤ kMaxAdminRequestBytes) :
    checkBuffer (stream.take n) = none :=
  checkBuffer_early hshort (cut_take_of_lt h hblock)

/-- Before the body is there. -/
theorem checkBuffer_incomplete (h : cut headerEndMark stream = some (block, rest))
    (hvalid : ((parseContentLengthHeader stream).present &&
      !(parseContentLengthHeader stream).valid) = false)
    (hvalue : (parseContentLengthHeader stream).value ≤ kMaxAdminRequestBytes)
    (hbody : n < block.length + 4 + (parseContentLengthHeader stream).value)
    (hshort : n ≤ kMaxAdminRequestBytes) (hn : n ≤ stream.length) :
    checkBuffer (stream.take n) = none := by
  rcases Nat.lt_or_ge n (block.length + 4) with hblock | hblock
  · exact checkBuffer_before h hblock hshort
  · rw [checkBuffer_take h hblock hshort hn, hvalid, if_neg Bool.false_ne_true,
      if_neg (Nat.not_lt.mpr hvalue), if_neg (Nat.not_le.mpr hbody)]

/-- When the body is there. -/
theorem checkBuffer_whole (h : cut headerEndMark stream = some (block, rest))
    (hvalid : ((parseContentLengthHeader stream).present &&
      !(parseContentLengthHeader stream).valid) = false)
    (hbody : block.length + 4 + (parseContentLengthHeader stream).value ≤ n)
    (hshort : n ≤ kMaxAdminRequestBytes) (hn : n ≤ stream.length) :
    checkBuffer (stream.take n) = some (.dispatched (parseRequest (stream.take n))) := by
  have hvalue : (parseContentLengthHeader stream).value ≤ kMaxAdminRequestBytes := by omega
  rw [checkBuffer_take h (by omega) hshort hn, hvalid, if_neg Bool.false_ne_true,
    if_neg (Nat.not_lt.mpr hvalue), if_pos hbody]

theorem checkBuffer_invalid (h : cut headerEndMark stream = some (block, rest))
    (hinvalid : ((parseContentLengthHeader stream).present &&
      !(parseContentLengthHeader stream).valid) = true)
    (hblock : block.length + 4 ≤ n) (hshort : n ≤ kMaxAdminRequestBytes)
    (hn : n ≤ stream.length) : checkBuffer (stream.take n) = some (.rejected 400) := by
  rw [checkBuffer_take h hblock hshort hn, hinvalid, if_pos rfl]

/-- A stream with no outcome within the limit runs into it. -/
theorem decides_tooLong (hlong : kMaxAdminRequestBytes < stream.length)
    (hnone : ∀ n, n ≤ kMaxAdminRequestBytes → checkBuffer (stream.take n) = none) :
    Decides stream (kMaxAdminRequestBytes + 1) (.rejected 413) where
  length_le := hlong
  early := fun n hn => hnone n (Nat.lt_succ_iff.mp hn)
  late := fun _ hlate _ hn => checkBuffer_tooLong hlate hn

end Fronts

/-! ## When the law holds -/

section Law

variable {stream block rest : Bytes}

/-- One request alone is decided where it ends. -/
theorem decides_alone (h : cut headerEndMark stream = some (block, rest))
    (hvalid : ((parseContentLengthHeader stream).present &&
      !(parseContentLengthHeader stream).valid) = false)
    (hrest : rest.length = (parseContentLengthHeader stream).value)
    (hshort : stream.length ≤ kMaxAdminRequestBytes) :
    Decides stream stream.length (.dispatched (parseRequest stream)) where
  length_le := le_rfl
  early := fun n hn => by
    have hlength := length_of_cut h
    exact checkBuffer_incomplete h hvalid (by omega) (by omega) (by omega) hn.le
  late := fun n hlate _ hn => by
    have hlength := length_of_cut h
    have hwhole : stream.take n = stream := List.take_of_length_le hlate
    have hcheck := checkBuffer_whole h hvalid (by omega) (hn.trans hshort) hn
    rwa [hwhole] at hcheck ⊢

/-- **A stream that is refused or alone is decided at one length**, and what is dispatched is
complete. -/
theorem exists_decides (h : Alone stream) : ∃ length outcome, 0 < length ∧
    Decides stream length outcome ∧
    ∀ request, outcome = .dispatched request → Complete stream request := by
  unfold Alone at h
  cases hcut : cut headerEndMark stream with
  | none =>
    rw [hcut] at h
    exact ⟨_, _, Nat.succ_pos _,
      decides_tooLong h fun n hn => checkBuffer_early hn (cut_take_of_none hcut), nofun⟩
  | some found =>
    obtain ⟨block, rest⟩ := found
    have hlength := length_of_cut hcut
    rw [hcut] at h
    dsimp only at h
    split_ifs at h with hblock hinvalid hlong
    · exact ⟨_, _, Nat.succ_pos _, decides_tooLong (by omega) fun n hn =>
        checkBuffer_before hcut (by omega) hn, nofun⟩
    · refine ⟨block.length + 4, .rejected 400, by omega, ⟨by omega, fun n hn => ?_,
        fun n hlate hchunk hn => ?_⟩, nofun⟩
      · exact checkBuffer_before hcut hn (by omega)
      · exact checkBuffer_invalid hcut hinvalid hlate (by omega) hn
    · rw [Bool.not_eq_true] at hinvalid
      rcases Nat.lt_or_ge kMaxAdminRequestBytes (parseContentLengthHeader stream).value
        with hvalue | hvalue
      · refine ⟨block.length + 4, .rejected 413, by omega, ⟨by omega, fun n hn => ?_,
          fun n hlate _ hn => ?_⟩, nofun⟩
        · exact checkBuffer_before hcut hn (by omega)
        · rcases Nat.lt_or_ge kMaxAdminRequestBytes n with hn' | hn'
          · exact checkBuffer_tooLong hn' hn
          · rw [checkBuffer_take hcut hlate hn' hn, hinvalid, if_neg Bool.false_ne_true,
              if_pos hvalue]
      · have hstream : kMaxAdminRequestBytes < stream.length := by omega
        exact ⟨_, _, Nat.succ_pos _, decides_tooLong hstream fun n hn =>
          checkBuffer_incomplete hcut hinvalid hvalue (by omega) hn (by omega), nofun⟩
    · rw [Bool.not_eq_true] at hinvalid
      refine ⟨_, _, by omega, decides_alone hcut hinvalid h.1 (by omega), ?_⟩
      rintro request hrequest
      obtain rfl : parseRequest stream = request := by injection hrequest
      refine ⟨block, rest, hcut, h.1.ge, ?_⟩
      rw [(body_parseRequest_iff hcut).mpr h.2, ← h.1, List.take_length]

/-- A connection that ends before the request is complete breaks the law. -/
theorem complete_of_law (h : FramingLaw stream)
    (hnone : ∀ k, k ≤ stream.length → checkBuffer (stream.take k) = none) :
    Complete stream (parseRequest stream) :=
  h.complete _ _ (chunking_singles stream) (handleClient_singles hnone)

/-- Under the law nothing stands behind the body. -/
theorem alone_of_law (h : FramingLaw stream) (hcut : cut headerEndMark stream = some (block, rest))
    (hvalid : ((parseContentLengthHeader stream).present &&
      !(parseContentLengthHeader stream).valid) = false)
    (hshort : block.length + 4 + (parseContentLengthHeader stream).value ≤
      kMaxAdminRequestBytes) :
    rest.length = (parseContentLengthHeader stream).value ∧ blankLineInside block = false := by
  have hlength := length_of_cut hcut
  have hbefore : ∀ k, k < block.length + 4 + (parseContentLengthHeader stream).value →
      k ≤ stream.length → checkBuffer (stream.take k) = none := fun k hk hn =>
    checkBuffer_incomplete hcut hvalid (by omega) hk (by omega) hn
  have hle : (parseContentLengthHeader stream).value ≤ rest.length := by
    by_contra hgt
    obtain ⟨block', rest', hcut', hle, -⟩ := complete_of_law h fun k hk =>
      hbefore k (by omega) hk
    obtain ⟨rfl, rfl⟩ := Prod.mk.injEq .. ▸ Option.some.inj (hcut.symm.trans hcut')
    exact hgt hle
  obtain ⟨n, hn⟩ : ∃ n, n + 1 = block.length + 4 + (parseContentLengthHeader stream).value :=
    ⟨block.length + 3 + (parseContentLengthHeader stream).value, by omega⟩
  have hexact : handleClient (cutAfter n 1 stream) =
      .dispatched (parseRequest (stream.take (n + 1))) :=
    handleClient_cutAfter (by omega) (fun k hk => hbefore k (by omega) (by omega))
      (checkBuffer_whole hcut hvalid hn.ge (by omega) (by omega))
  have hchunking : Chunking stream (cutAfter n 1 stream) :=
    chunking_cutAfter (by omega) Nat.one_pos (by decide)
  have heq : rest.length = (parseContentLengthHeader stream).value := by
    by_contra hne
    have hchunking' : Chunking stream (cutAfter n 2 stream) :=
      chunking_cutAfter (by omega) Nat.two_pos (by decide)
    have hnone : ∀ k, k ≤ n → checkBuffer (stream.take k) = none := fun k hk =>
      hbefore k (by omega) (by omega)
    rcases Nat.lt_or_ge kMaxAdminRequestBytes (n + 2) with hover | hover
    · -- the chunk that brings one byte more runs over the limit
      have hrejected : handleClient (cutAfter n 2 stream) = .rejected 413 :=
        handleClient_cutAfter (by omega) hnone (checkBuffer_tooLong hover (by omega))
      have hagree := h.agree _ _ hchunking hchunking'
      rw [hexact, hrejected] at hagree
      cases hagree
    · -- or it ends up in the body
      have hlonger : handleClient (cutAfter n 2 stream) =
          .dispatched (parseRequest (stream.take (n + 2))) :=
        handleClient_cutAfter (by omega) hnone
          (checkBuffer_whole hcut hvalid (by omega) hover (by omega))
      obtain ⟨block', rest', hcut', -, hbody⟩ := h.complete _ _ hchunking' hlonger
      obtain ⟨rfl, rfl⟩ := Prod.mk.injEq .. ▸ Option.some.inj (hcut.symm.trans hcut')
      have hmark : block.length + headerEndMark.length ≤ n + 2 := by
        have : headerEndMark.length = 4 := rfl
        omega
      have hsuffix := (suffix_body_of_cut (cut_take_of_le hcut hmark)).length_le
      have hmarkLength : headerEndMark.length = 4 := rfl
      rw [hbody, List.length_take, List.length_take, hmarkLength] at hsuffix
      omega
  refine ⟨heq, ?_⟩
  obtain ⟨block', rest', hcut', -, hbody⟩ := h.complete _ _ hchunking hexact
  obtain ⟨rfl, rfl⟩ := Prod.mk.injEq .. ▸ Option.some.inj (hcut.symm.trans hcut')
  have hwhole : stream.take (n + 1) = stream := List.take_of_length_le (by omega)
  rw [hwhole, ← heq, List.take_length] at hbody
  exact (body_parseRequest_iff hcut).mp hbody

end Law

/-- **The framing of requests.**  The outcome depends on the stream alone, and what is
dispatched is complete and ends with its body, exactly for the streams that are refused
whatever the chunks are, or hold one request with nothing behind it. -/
theorem framingLaw_iff (stream : Bytes) : FramingLaw stream ↔ Alone stream := by
  constructor
  · intro h
    unfold Alone
    cases hcut : cut headerEndMark stream with
    | none =>
      dsimp only
      by_contra hlong
      obtain ⟨block, rest, hcut', -⟩ := complete_of_law h fun k hk =>
        checkBuffer_early (by omega) (cut_take_of_none hcut)
      rw [hcut] at hcut'
      cases hcut'
    | some found =>
      obtain ⟨block, rest⟩ := found
      have hlength := length_of_cut hcut
      dsimp only
      split_ifs with hblock hinvalid hlong
      · by_contra hover
        rw [not_or, Nat.not_le, Nat.not_le] at hover
        have hnone : ∀ k, k ≤ block.length + 3 → checkBuffer (stream.take k) = none :=
          fun k hk => checkBuffer_before hcut (by omega) (by omega)
        -- up to the header block byte by byte, or with a chunk that runs over the limit
        have hrefused : handleClient (cutAfter (block.length + 3) 1 stream) = .rejected 400 :=
          handleClient_cutAfter (by omega) hnone
            (checkBuffer_invalid hcut hinvalid le_rfl (by omega) (by omega))
        have hlonger : block.length + 3 + (kMaxAdminRequestBytes - block.length - 2) =
            kMaxAdminRequestBytes + 1 := by omega
        have htooLong : handleClient (cutAfter (block.length + 3)
            (kMaxAdminRequestBytes - block.length - 2) stream) = .rejected 413 := by
          refine handleClient_cutAfter (by omega) hnone ?_
          rw [hlonger]
          exact checkBuffer_tooLong (by omega) (by omega)
        have hchunking : Chunking stream (cutAfter (block.length + 3) 1 stream) :=
          chunking_cutAfter (by omega) Nat.one_pos (by decide)
        have hchunking' : Chunking stream (cutAfter (block.length + 3)
            (kMaxAdminRequestBytes - block.length - 2) stream) :=
          chunking_cutAfter (by omega) (by omega) (by omega)
        have hagree := h.agree _ _ hchunking hchunking'
        rw [hrefused, htooLong] at hagree
        cases hagree
      · by_contra hover
        rw [not_or, Nat.not_lt, Nat.not_lt] at hover
        rw [Bool.not_eq_true] at hinvalid
        obtain ⟨block', rest', hcut', hle, -⟩ := complete_of_law h fun k hk =>
          checkBuffer_incomplete hcut hinvalid hover.2 (by omega) (by omega) hk
        obtain ⟨rfl, rfl⟩ := Prod.mk.injEq .. ▸ Option.some.inj (hcut.symm.trans hcut')
        omega
      · rw [Bool.not_eq_true] at hinvalid
        exact alone_of_law h hcut hinvalid (by omega)
  · intro h
    obtain ⟨length, outcome, hpos, hdecides, hcomplete⟩ := exists_decides h
    have houtcome : ∀ chunks, Chunking stream chunks → handleClient chunks = outcome :=
      fun chunks hchunks => hdecides.readLoop hchunks.length_le hchunks.flatten hpos
    refine ⟨fun chunks chunks' hc hc' => ?_, fun chunks request hc hrequest => ?_⟩
    · rw [houtcome chunks hc, houtcome chunks' hc']
    · exact hcomplete request ((houtcome chunks hc).symm.trans hrequest)

/-- The front of a request, cut off in its body. -/
def cutOffRequest : Bytes :=
  asciiBytes "POST /api/config HTTP/1.1\r\nContent-Length: 9\r\n\r\n\x7b\x22a\x22"

/-- **A connection that ends early dispatches what arrived.** -/
theorem cut_off_request_dispatched : ¬ FramingLaw cutOffRequest := by
  intro h
  have hchunking : Chunking cutOffRequest [cutOffRequest] := by
    refine ⟨List.flatten_singleton, ?_, ?_⟩ <;> intro chunk hchunk <;>
      obtain rfl := List.mem_singleton.mp hchunk <;> decide +kernel
  have hdispatched : handleClient [cutOffRequest] = .dispatched (parseRequest cutOffRequest) := by
    decide +kernel
  obtain ⟨block, rest, hcut, hle, -⟩ := h.complete _ _ hchunking hdispatched
  have hlength := length_of_cut hcut
  have hblock : headerBlock cutOffRequest = block := by rw [headerBlock, hcut]
  have hsizes : cutOffRequest.length = (headerBlock cutOffRequest).length + 4 + 4 ∧
      (parseContentLengthHeader cutOffRequest).value = 9 := by decide +kernel
  rw [hblock] at hsizes
  omega

end Http
end MasterControl
