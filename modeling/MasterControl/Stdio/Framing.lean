import MasterControl.Stdio.Bridge

/-!
# What a caller of the bridge receives

The bytes that no call has used yet are those in the buffer and those still in the pipe,
in this order (`Leaves`).  One call that succeeds takes complete lines off their front, and
returns the last of them: the first one that answers its request, after the handshake's
answer if the handshake came first (`sendStdioJsonRpc_succeeded`).  Any call takes only
complete lines (`sendStdioJsonRpc_takes`), so over a whole run each line is used once and
the responses stand in the stream in the order of the calls.

A line answers a request if it is an object with the request's id.  Nothing else of it is
looked at, so a request of the child with that id is returned as well.  And what a call
that timed out has dropped depends on how much it had read.
-/

namespace MasterControl
namespace Stdio

open Foundation

variable {json : JsonLibrary} {instanceId targetId : String} {timeoutMs : Nat}
  {polls : List Poll} {i i' : StdioInstance} {child : StdioChild} {stream rest line : Bytes}
  {call : BridgeCall}

/-- What is left for the next reader, as long as the instance is there. -/
def Leaves (i : StdioInstance) (rest : Bytes) : Prop :=
  ∀ child, i.child = some child → child.stdioReadBuffer ++ i.unread = rest

theorem leaves_of_gone (h : i.child = none) (rest : Bytes) : Leaves i rest := by
  intro child hchild
  rw [h] at hchild
  cases hchild

theorem leaves_setBuffer (child : StdioChild) (buffer : Bytes) (i : StdioInstance) :
    Leaves (setBuffer child buffer i) (buffer ++ i.unread) := by
  intro child' hchild
  cases hchild
  rfl

/-- How a reader leaves the stream: it took the first line that passes, or skipped lines
that fail. -/
def ReadOutcome (p : Bytes → Bool) (stream : Bytes) (found : Option Bytes) (i' : StdioInstance) :
    Prop :=
  ∃ rest, Leaves i' rest ∧
    match found with
    | some line => FirstMatch newline p stream line rest
    | none => Skips newline p stream rest

variable {p : Bytes → Bool} {found : Option Bytes}

/-- A reader that gives up leaves the stream as it finds it. -/
theorem readOutcome_none (h : Leaves i stream) : ReadOutcome p stream none i :=
  ⟨stream, h, skips_refl newline p stream⟩

/-- Lines skipped before do not change how the reader ends. -/
theorem ReadOutcome.behind {stream' : Bytes} (hskips : Skips newline p stream stream')
    (h : ReadOutcome p stream' found i) : ReadOutcome p stream found i := by
  obtain ⟨rest, hleaves, hfound⟩ := h
  refine ⟨rest, hleaves, ?_⟩
  cases found with
  | none => exact hskips.trans hfound
  | some line => exact hskips.firstMatch hfound

/-- Reading a chunk moves it from the pipe to the end of the buffer. -/
theorem readChunk_append (bytesAvailable : Nat) (i : StdioInstance) :
    (readChunk bytesAvailable i).1 ++ (readChunk bytesAvailable i).2.unread = i.unread :=
  List.take_append_drop _ _

theorem lookedUp_child (gone : Bool) (i : StdioInstance) :
    (i.lookedUp gone).child = none ∨ i.lookedUp gone = i := by
  cases gone with
  | false => exact Or.inr rfl
  | true => exact Or.inl rfl

/-- A scan of the buffer, with the rest of the stream behind. -/
theorem readOutcome_of_scan (p : Bytes → Bool) (buffer unread : Bytes)
    (hleaves : Leaves i (buffer.drop (scanLines newline p buffer).1 ++ unread)) :
    ReadOutcome p (buffer ++ unread) (scanLines newline p buffer).2 i := by
  refine ⟨_, hleaves, ?_⟩
  cases hscan : scanLines newline p buffer with
  | mk count matched =>
    cases matched with
    | none => exact (scanLines_none hscan).append unread
    | some line => exact (scanLines_some hscan).append unread

/-- Scanning and setting the buffer at once. -/
theorem readOutcome_setBuffer (p : Bytes → Bool) (child : StdioChild) (buffer : Bytes)
    (i : StdioInstance) :
    ReadOutcome p (buffer ++ i.unread) (scanLines newline p buffer).2
      (setBuffer child (buffer.drop (scanLines newline p buffer).1) i) :=
  readOutcome_of_scan p buffer i.unread (leaves_setBuffer child _ i)

/-- Scanning a copy, and trimming the buffer if it is still there. -/
theorem readOutcome_trimBuffer (p : Bytes → Bool) (gone : Bool) (hchild : i.child = some child) :
    ReadOutcome p (child.stdioReadBuffer ++ i.unread)
      (scanLines newline p child.stdioReadBuffer).2
      (trimBuffer (scanLines newline p child.stdioReadBuffer).1 (i.lookedUp gone)) := by
  refine readOutcome_of_scan p _ _ ?_
  rcases lookedUp_child gone i with hnone | heq
  · refine leaves_of_gone ?_ _
    rw [trimBuffer, hnone]
    rfl
  · rw [heq]
    intro child' hchild'
    rw [trimBuffer, hchild] at hchild'
    cases hchild'
    rfl

/-- What a chunk and a scan make of the stream, if the instance is there to append to. -/
theorem stream_of_append (h : Leaves i stream) (bytesAvailable : Nat) (gone : Bool)
    (hchild : ((readChunk bytesAvailable i).2.lookedUp gone).child = some child) :
    stream = child.stdioReadBuffer ++ (readChunk bytesAvailable i).1 ++
      ((readChunk bytesAvailable i).2.lookedUp gone).unread := by
  rcases lookedUp_child gone (readChunk bytesAvailable i).2 with hnone | heq
  · rw [hnone] at hchild
    cases hchild
  · rw [heq] at hchild ⊢
    rw [List.append_assoc, readChunk_append]
    exact (h child hchild).symm

/-- **How the handshake leaves the stream.** -/
theorem handshakeLoop_outcome (json : JsonLibrary) (instanceId : String) (polls : List Poll)
    (h : Leaves i stream) :
    ∃ found, ((handshakeLoop json instanceId polls i).1 = .ok () ↔ found.isSome = true) ∧
      ReadOutcome (isHandshakeReply json instanceId) stream found
        (handshakeLoop json instanceId polls i).2 := by
  induction polls generalizing i stream with
  | nil => exact ⟨none, by simp [handshakeLoop], readOutcome_none h⟩
  | cons poll polls ih =>
    cases poll with
    | peekFailed lastError => exact ⟨none, by simp [handshakeLoop], readOutcome_none h⟩
    | available bytesAvailable gone goneAtScan goneAtTrim =>
      unfold handshakeLoop
      by_cases hnone : bytesAvailable = 0
      · rw [if_pos hnone]
        exact ih h
      · rw [if_neg hnone]
        dsimp only
        by_cases hchunk : (readChunk bytesAvailable i).1 = []
        · rw [if_pos hchunk]
          exact ⟨none, by simp, readOutcome_none h⟩
        · rw [if_neg hchunk]
          cases hchild : ((readChunk bytesAvailable i).2.lookedUp gone).child with
          | none => exact ⟨none, by simp, readOutcome_none (leaves_of_gone hchild stream)⟩
          | some child =>
            dsimp only
            have hstream := stream_of_append h bytesAvailable gone hchild
            have hscan := readOutcome_setBuffer (isHandshakeReply json instanceId) child
              (child.stdioReadBuffer ++ (readChunk bytesAvailable i).1)
              ((readChunk bytesAvailable i).2.lookedUp gone)
            rw [← hstream] at hscan
            cases hfound : (scanLines newline (isHandshakeReply json instanceId)
                (child.stdioReadBuffer ++ (readChunk bytesAvailable i).1)).2 with
            | some line =>
              rw [hfound] at hscan
              exact ⟨some line, by simp, hscan⟩
            | none =>
              rw [hfound] at hscan
              obtain ⟨rest, hleaves, hskips⟩ := hscan
              obtain ⟨found, hiff, hrest⟩ := ih hleaves
              exact ⟨found, hiff, hrest.behind hskips⟩

/-- What a call returns as its answer. -/
def StdioBridgeResult.answer (result : StdioBridgeResult) : Option Bytes :=
  if result.succeeded then some result.responseBody else none

/-- **How the read loop leaves the stream.** -/
theorem readLoop_outcome (json : JsonLibrary) (targetId : String) (timeoutMs : ℕ)
    (polls : List Poll) (h : Leaves i stream) :
    ReadOutcome (isReply json targetId) stream
      (readLoop json targetId timeoutMs polls i).1.answer
      (readLoop json targetId timeoutMs polls i).2 := by
  induction polls generalizing i stream with
  | nil => exact readOutcome_none h
  | cons poll polls ih =>
    cases poll with
    | peekFailed lastError => exact readOutcome_none h
    | available bytesAvailable goneAtAppend goneAtScan goneAtTrim =>
      unfold readLoop
      by_cases hnone : bytesAvailable = 0
      · rw [if_pos hnone]
        exact ih h
      · rw [if_neg hnone]
        dsimp only
        by_cases hchunk : (readChunk bytesAvailable i).1 = []
        · rw [if_pos hchunk]
          exact readOutcome_none h
        · rw [if_neg hchunk]
          cases hchild : ((readChunk bytesAvailable i).2.lookedUp goneAtAppend).child with
          | none => exact readOutcome_none (leaves_of_gone hchild stream)
          | some child =>
            have hstream := stream_of_append h bytesAvailable goneAtAppend hchild
            dsimp only
            rcases lookedUp_child goneAtScan (setBuffer child
                (child.stdioReadBuffer ++ (readChunk bytesAvailable i).1)
                ((readChunk bytesAvailable i).2.lookedUp goneAtAppend)) with hgone | hthere
            · rw [hgone]
              exact readOutcome_none (leaves_of_gone hgone stream)
            · rw [hthere]
              have hscan := readOutcome_trimBuffer (isReply json targetId) goneAtTrim
                (i := setBuffer child (child.stdioReadBuffer ++ (readChunk bytesAvailable i).1)
                  ((readChunk bytesAvailable i).2.lookedUp goneAtAppend)) rfl
              dsimp only [setBuffer] at hscan ⊢
              rw [← hstream] at hscan
              cases hfound : (scanLines newline (isReply json targetId)
                  (child.stdioReadBuffer ++ (readChunk bytesAvailable i).1)).2 with
              | some line =>
                rw [hfound] at hscan
                exact hscan
              | none =>
                rw [hfound] at hscan
                obtain ⟨rest, hleaves, hskips⟩ := hscan
                exact (ih hleaves).behind hskips

/-! ## The handshake has been made -/

/-- The instance has answered the handshake, as long as it is there. -/
def Initialized (i : StdioInstance) : Prop :=
  ∀ child, i.child = some child → child.mcpInitialized = true

theorem Initialized.lookedUp (h : Initialized i) (gone : Bool) :
    Initialized (i.lookedUp gone) := by
  intro child hchild
  rcases lookedUp_child gone i with hnone | heq
  · rw [hnone] at hchild
    cases hchild
  · rw [heq] at hchild
    exact h child hchild

theorem Initialized.setBuffer (h : Initialized i) (hchild : i.child = some child)
    (buffer : Bytes) : Initialized (setBuffer child buffer i) := by
  intro child' hchild'
  cases hchild'
  exact h child hchild

theorem Initialized.trimBuffer (h : Initialized i) (n : ℕ) : Initialized (trimBuffer n i) := by
  intro child' hchild'
  obtain ⟨child, hchild, rfl⟩ := Option.map_eq_some_iff.mp hchild'
  exact h child hchild

/-- Reading does not undo the handshake. -/
theorem Initialized.readLoop (h : Initialized i) :
    Initialized (readLoop json targetId timeoutMs polls i).2 := by
  induction polls generalizing i with
  | nil => exact h
  | cons poll polls ih =>
    cases poll with
    | peekFailed lastError => exact h
    | available bytesAvailable goneAtAppend goneAtScan goneAtTrim =>
      unfold Stdio.readLoop
      by_cases hnone : bytesAvailable = 0
      · rw [if_pos hnone]
        exact ih h
      · rw [if_neg hnone]
        dsimp only
        by_cases hchunk : (readChunk bytesAvailable i).1 = []
        · rw [if_pos hchunk]
          exact h
        · rw [if_neg hchunk]
          have hread : Initialized (readChunk bytesAvailable i).2 := h
          have hlook := hread.lookedUp goneAtAppend
          split
          · exact hlook
          · rename_i child hchild
            have hscan := (hlook.setBuffer hchild
              (child.stdioReadBuffer ++ (readChunk bytesAvailable i).1)).lookedUp goneAtScan
            split
            · exact hscan
            · have htrim := (hscan.lookedUp goneAtTrim).trimBuffer
              split
              · exact htrim _
              · exact ih (htrim _)

theorem Leaves.lookedUp (h : Leaves i stream) (gone : Bool) : Leaves (i.lookedUp gone) stream := by
  rcases lookedUp_child gone i with hnone | heq
  · exact leaves_of_gone hnone stream
  · rwa [heq]

theorem ReadOutcome.lookedUp (h : ReadOutcome p stream found i) (gone : Bool) :
    ReadOutcome p stream found (i.lookedUp gone) := by
  obtain ⟨rest, hleaves, hfound⟩ := h
  exact ⟨rest, hleaves.lookedUp gone, hfound⟩

theorem ReadOutcome.markInitialized (h : ReadOutcome p stream found i) :
    ReadOutcome p stream found (markInitialized i) := by
  obtain ⟨rest, hleaves, hfound⟩ := h
  refine ⟨rest, fun child hchild => ?_, hfound⟩
  obtain ⟨child', hchild', rfl⟩ := Option.map_eq_some_iff.mp hchild
  exact hleaves child' hchild'

theorem initialized_markInitialized (i : StdioInstance) : Initialized (markInitialized i) := by
  intro child hchild
  obtain ⟨child', -, rfl⟩ := Option.map_eq_some_iff.mp hchild
  rfl

/-- **The whole handshake**: if it succeeds, its answer is off the stream. -/
theorem performHandshake_outcome (json : JsonLibrary) (instanceId : String) (call : BridgeCall)
    (h : Leaves i stream) :
    ∃ found, ReadOutcome (isHandshakeReply json instanceId) stream found
        (performHandshake json instanceId call i).2 ∧
      ((performHandshake json instanceId call i).1 = .ok () →
        found.isSome = true ∧ Initialized (performHandshake json instanceId call i).2) := by
  have hlook := h.lookedUp call.goneBeforeHandshake
  unfold performHandshake
  dsimp only
  by_cases hgone : (i.lookedUp call.goneBeforeHandshake).child = none
  · rw [if_pos hgone]
    exact ⟨none, readOutcome_none hlook, fun herror => (by cases herror)⟩
  rw [if_neg hgone]
  by_cases hwritten : (!call.initializeWritten) = true
  · rw [if_pos hwritten]
    exact ⟨none, readOutcome_none hlook, fun herror => (by cases herror)⟩
  rw [if_neg hwritten]
  obtain ⟨found, hiff, hout⟩ := handshakeLoop_outcome json instanceId call.handshakePolls hlook
  refine ⟨found, ?_⟩
  cases hshaken : (handshakeLoop json instanceId call.handshakePolls
      (i.lookedUp call.goneBeforeHandshake)).1 with
  | error message => exact ⟨hout, fun herror => (by cases herror)⟩
  | ok done =>
    dsimp only
    by_cases hnotified : (!call.notificationWritten) = true
    · rw [if_pos hnotified]
      exact ⟨hout, fun herror => (by cases herror)⟩
    · rw [if_neg hnotified]
      exact ⟨(hout.lookedUp _).markInitialized,
        fun _ => ⟨hiff.mp hshaken, initialized_markInitialized _⟩⟩

/-! ## One call -/

/-- Where a call starts to wait for its answer: behind the handshake's answer, if that is
still to come. -/
def AfterHandshake (json : JsonLibrary) (instanceId : String) (child : StdioChild)
    (stream start : Bytes) : Prop :=
  (child.mcpInitialized = true ∧ start = stream) ∨
    (child.mcpInitialized = false ∧
      ∃ line, FirstMatch newline (isHandshakeReply json instanceId) stream line start)

theorem AfterHandshake.unique {child' : StdioChild} {start start' : Bytes}
    (h : AfterHandshake json instanceId child stream start)
    (h' : AfterHandshake json instanceId child' stream start')
    (hsame : child.mcpInitialized = child'.mcpInitialized) : start = start' := by
  rcases h with ⟨hflag, rfl⟩ | ⟨hflag, line, hmatch⟩
  · rcases h' with ⟨-, rfl⟩ | ⟨hflag', -⟩
    · rfl
    · rw [hflag, hflag'] at hsame
      cases hsame
  · rcases h' with ⟨hflag', -⟩ | ⟨-, line', hmatch'⟩
    · rw [hflag, hflag'] at hsame
      cases hsame
    · exact (hmatch.unique hmatch').2

/-- Where the handshake leaves the stream, if there is one. -/
theorem ensureHandshake_outcome (json : JsonLibrary) (instanceId : String) (call : BridgeCall)
    (h : Leaves i stream) (hchild : i.child = some child) :
    ∃ start, Takes newline stream [] start ∧
      Leaves (ensureHandshake json instanceId call child i).2 start ∧
      ((ensureHandshake json instanceId call child i).1 = .ok () →
        AfterHandshake json instanceId child stream start ∧
        Initialized (ensureHandshake json instanceId call child i).2) := by
  unfold ensureHandshake
  cases hflag : child.mcpInitialized with
  | true =>
    refine ⟨stream, takes_nil newline stream, h, fun _ => ⟨Or.inl ⟨hflag, rfl⟩, ?_⟩⟩
    intro child' hchild'
    rw [if_pos rfl, hchild] at hchild'
    cases hchild'
    exact hflag
  | false =>
    rw [if_neg Bool.false_ne_true]
    obtain ⟨found, ⟨start, hleaves, hfound⟩, hok⟩ :=
      performHandshake_outcome json instanceId call h
    cases found with
    | none =>
      refine ⟨start, hfound.takes, hleaves, fun hdone => ?_⟩
      cases (hok hdone).1
    | some line =>
      exact ⟨start, hfound.takes.drop, hleaves,
        fun hdone => ⟨Or.inr ⟨hflag, line, hfound⟩, (hok hdone).2⟩⟩

/-- **A call fails before it reads for its answer, or it reads behind the handshake.** -/
theorem sendStdioJsonRpc_cases (json : JsonLibrary) (instanceId : String) (call : BridgeCall)
    (h : Leaves i stream) (htarget : targetIdOf json call.request = .ok (some targetId)) :
    (∃ rest, Takes newline stream [] rest ∧
      Leaves (sendStdioJsonRpc json instanceId call i).2 rest ∧
      (sendStdioJsonRpc json instanceId call i).1.succeeded = false) ∨
    ∃ child start j, i.child = some child ∧ Takes newline stream [] start ∧
      AfterHandshake json instanceId child stream start ∧ Leaves j start ∧ Initialized j ∧
      sendStdioJsonRpc json instanceId call i =
        readLoop json targetId call.timeoutMs call.polls j := by
  unfold sendStdioJsonRpc
  cases hchild : i.child with
  | none => exact Or.inl ⟨stream, takes_nil newline stream, h, rfl⟩
  | some child =>
    dsimp only
    by_cases hactive : (!child.active || !child.hasProcess) = true
    · rw [if_pos hactive]
      exact Or.inl ⟨stream, takes_nil newline stream, h, rfl⟩
    rw [if_neg hactive]
    by_cases hpipes : (!child.hasPipes) = true
    · rw [if_pos hpipes]
      exact Or.inl ⟨stream, takes_nil newline stream, h, rfl⟩
    rw [if_neg hpipes]
    by_cases hmutex : (!child.hasStdioMutex) = true
    · rw [if_pos hmutex]
      exact Or.inl ⟨stream, takes_nil newline stream, h, rfl⟩
    rw [if_neg hmutex]
    obtain ⟨start, htakes, hleaves, hok⟩ :=
      ensureHandshake_outcome json instanceId call h hchild
    cases hshaken : (ensureHandshake json instanceId call child i).1 with
    | error message => exact Or.inl ⟨start, htakes, hleaves, rfl⟩
    | ok done =>
      dsimp only
      by_cases hwritten : (!call.requestWritten) = true
      · rw [if_pos hwritten]
        exact Or.inl ⟨start, htakes, leaves_of_gone rfl start, rfl⟩
      · rw [if_neg hwritten, htarget]
        obtain ⟨hafter, hinitialized⟩ := hok hshaken
        exact Or.inr ⟨child, start, _, rfl, htakes, hafter, hleaves, hinitialized, rfl⟩

/-- The line that answers a call, and what it leaves of the stream. -/
structure Answered (json : JsonLibrary) (instanceId targetId : String) (child : StdioChild)
    (unread line : Bytes) (i' : StdioInstance) : Prop where
  /-- It is an object that carries the call's id. -/
  matched : ∃ members id, json.parse line = .ok (.object members) ∧
    Json.lookup "id" members = some id ∧ id ≠ .null ∧ json.dump id = targetId
  /-- It is the first such line behind the handshake, and what is behind it stays. -/
  framed : ∃ start rest,
    AfterHandshake json instanceId child (child.stdioReadBuffer ++ unread) start ∧
    FirstMatch newline (isReply json targetId) start line rest ∧ Leaves i' rest
  initialized : Initialized i'

theorem matched_of_isReply (h : isReply json targetId line = true) :
    ∃ members id, json.parse line = .ok (.object members) ∧
      Json.lookup "id" members = some id ∧ id ≠ .null ∧ json.dump id = targetId := by
  unfold isReply at h
  rw [Bool.and_eq_true] at h
  obtain ⟨-, h⟩ := h
  split at h
  · rename_i members hparse
    split at h
    · cases h
    · cases h
    · rename_i id hnull hid
      exact ⟨members, id, hparse, hid, hnull, of_decide_eq_true h⟩
  · cases h

/-- **A call that succeeds returns its answer.** -/
theorem sendStdioJsonRpc_succeeded (htarget : targetIdOf json call.request = .ok (some targetId))
    (hsucceeded : (sendStdioJsonRpc json instanceId call i).1.succeeded = true) :
    ∃ child, i.child = some child ∧
      Answered json instanceId targetId child i.unread
        (sendStdioJsonRpc json instanceId call i).1.responseBody
        (sendStdioJsonRpc json instanceId call i).2 := by
  cases hchild : i.child with
  | none =>
    rw [sendStdioJsonRpc, hchild] at hsucceeded
    cases hsucceeded
  | some child =>
    have hleaves : Leaves i (child.stdioReadBuffer ++ i.unread) := by
      intro child' hchild'
      rw [hchild] at hchild'
      cases hchild'
      rfl
    rcases sendStdioJsonRpc_cases json instanceId call hleaves htarget with
      ⟨rest, -, -, hfailed⟩ | ⟨child', start, j, hchild', -, hafter, hj, hinitialized, heq⟩
    · rw [hsucceeded] at hfailed
      cases hfailed
    · rw [hchild] at hchild'
      cases hchild'
      rw [heq] at hsucceeded ⊢
      obtain ⟨rest, hrest, hfound⟩ := readLoop_outcome json targetId call.timeoutMs call.polls hj
      rw [StdioBridgeResult.answer, if_pos hsucceeded] at hfound
      exact ⟨child, rfl, matched_of_isReply hfound.passes, ⟨start, rest, hafter, hfound, hrest⟩,
        hinitialized.readLoop⟩

/-- **Any call takes complete lines off the stream, among them its answer.** -/
theorem sendStdioJsonRpc_takes (instanceId : String) (h : Leaves i stream)
    (htarget : targetIdOf json call.request = .ok (some targetId)) :
    ∃ rest, Takes newline stream (sendStdioJsonRpc json instanceId call i).1.answer.toList rest ∧
      Leaves (sendStdioJsonRpc json instanceId call i).2 rest := by
  rcases sendStdioJsonRpc_cases json instanceId call h htarget with
    ⟨rest, htakes, hrest, hfailed⟩ | ⟨child, start, j, -, htakes, -, hj, -, heq⟩
  · refine ⟨rest, ?_, hrest⟩
    rw [StdioBridgeResult.answer, hfailed]
    exact htakes
  · obtain ⟨rest, hrest, hfound⟩ := readLoop_outcome json targetId call.timeoutMs call.polls hj
    rw [heq]
    refine ⟨rest, ?_, hrest⟩
    cases hanswer : (readLoop json targetId call.timeoutMs call.polls j).1.answer with
    | none =>
      rw [hanswer] at hfound
      exact htakes.trans hfound.takes
    | some line =>
      rw [hanswer] at hfound
      exact htakes.trans hfound.takes

/-! ## A run of calls -/

/-- The call expects an answer. -/
def Asks (json : JsonLibrary) (call : BridgeCall) : Prop :=
  ∃ targetId, targetIdOf json call.request = .ok (some targetId)

/-- The answers among the results of a run. -/
def answers (results : List StdioBridgeResult) : List Bytes :=
  results.filterMap StdioBridgeResult.answer

/-- **Over a run, each line is used once**, and the answers stand in the stream in the
order of the calls. -/
theorem performCalls_takes (calls : List BridgeCall) (hcalls : ∀ call ∈ calls, Asks json call)
    (h : Leaves i stream) :
    ∃ rest, Takes newline stream (answers (performCalls json instanceId calls i).1) rest ∧
      Leaves (performCalls json instanceId calls i).2 rest := by
  induction calls generalizing i stream with
  | nil => exact ⟨stream, takes_nil newline stream, h⟩
  | cons call calls ih =>
    obtain ⟨targetId, htarget⟩ := hcalls call List.mem_cons_self
    obtain ⟨behind, htakes, hbehind⟩ := sendStdioJsonRpc_takes instanceId h htarget
    obtain ⟨rest, hrest, hleaves⟩ :=
      ih (fun call' hcall' => hcalls call' (List.mem_cons_of_mem _ hcall')) hbehind
    refine ⟨rest, ?_, hleaves⟩
    have hanswers : answers (performCalls json instanceId (call :: calls) i).1 =
        (sendStdioJsonRpc json instanceId call i).1.answer.toList ++
          answers (performCalls json instanceId calls
            (sendStdioJsonRpc json instanceId call i).2).1 := by
      unfold answers
      rw [performCalls, List.filterMap_cons]
      cases (sendStdioJsonRpc json instanceId call i).1.answer <;> rfl
    rw [hanswers]
    exact htakes.trans hrest

/-- Two instances with the same stream left and the same need of a handshake. -/
def Agree (i j : StdioInstance) : Prop :=
  ∀ child child', i.child = some child → j.child = some child' →
    child.stdioReadBuffer ++ i.unread = child'.stdioReadBuffer ++ j.unread ∧
    child.mcpInitialized = child'.mcpInitialized

/-- Two calls with one request that both succeed return the same line, and leave the same. -/
theorem sendStdioJsonRpc_independent {call' : BridgeCall} {j : StdioInstance} (h : Agree i j)
    (hcall : Asks json call) (hsame : call.request = call'.request)
    (hsucceeded : (sendStdioJsonRpc json instanceId call i).1.succeeded = true)
    (hsucceeded' : (sendStdioJsonRpc json instanceId call' j).1.succeeded = true) :
    (sendStdioJsonRpc json instanceId call i).1.responseBody =
        (sendStdioJsonRpc json instanceId call' j).1.responseBody ∧
      Agree (sendStdioJsonRpc json instanceId call i).2
        (sendStdioJsonRpc json instanceId call' j).2 := by
  obtain ⟨targetId, htarget⟩ := hcall
  obtain ⟨child, hchild, -, ⟨start, rest, hafter, hmatch, hleaves⟩, hinitialized⟩ :=
    sendStdioJsonRpc_succeeded htarget hsucceeded
  obtain ⟨child', hchild', -, ⟨start', rest', hafter', hmatch', hleaves'⟩, hinitialized'⟩ :=
    sendStdioJsonRpc_succeeded (hsame ▸ htarget) hsucceeded'
  obtain ⟨hstream, hflag⟩ := h child child' hchild hchild'
  rw [hstream] at hafter
  obtain rfl := hafter.unique hafter' hflag
  obtain ⟨hline, rfl⟩ := hmatch.unique hmatch'
  refine ⟨hline, fun left left' hleft hleft' => ⟨?_, ?_⟩⟩
  · rw [hleaves left hleft, hleaves' left' hleft']
  · rw [hinitialized left hleft, hinitialized' left' hleft']

/-- All calls of a run succeed. -/
def AllSucceed (results : List StdioBridgeResult) : Prop :=
  ∀ result ∈ results, result.succeeded = true

/-- **Where all calls succeed, the lines they return are the same** however the stream was
cut. -/
theorem performCalls_independent {calls calls' : List BridgeCall}
    (hsame : List.Forall₂ (fun call call' => call.request = call'.request) calls calls')
    (hcalls : ∀ call ∈ calls, Asks json call) {j : StdioInstance} (h : Agree i j)
    (hsucceed : AllSucceed (performCalls json instanceId calls i).1)
    (hsucceed' : AllSucceed (performCalls json instanceId calls' j).1) :
    answers (performCalls json instanceId calls i).1 =
      answers (performCalls json instanceId calls' j).1 := by
  induction hsame generalizing i j with
  | nil => rfl
  | @cons call call' calls calls' hrequest hsame ih =>
    have hfirst := hsucceed _ List.mem_cons_self
    have hfirst' := hsucceed' _ List.mem_cons_self
    obtain ⟨hline, hagree⟩ := sendStdioJsonRpc_independent h
      (hcalls call List.mem_cons_self) hrequest hfirst hfirst'
    have hrest := ih (fun c hc => hcalls c (List.mem_cons_of_mem _ hc)) hagree
      (fun r hr => hsucceed r (List.mem_cons_of_mem _ hr))
      (fun r hr => hsucceed' r (List.mem_cons_of_mem _ hr))
    unfold answers at hrest ⊢
    rw [performCalls, performCalls, List.filterMap_cons, List.filterMap_cons,
      StdioBridgeResult.answer, StdioBridgeResult.answer, if_pos hfirst, if_pos hfirst', hline]
    dsimp only
    rw [hrest]

/-- What a caller of the bridge may rely on. -/
structure FramedBridge (json : JsonLibrary) (instanceId : String) : Prop where
  /-- A call that succeeds returns its answer. -/
  answered : ∀ call i targetId, targetIdOf json call.request = .ok (some targetId) →
    (sendStdioJsonRpc json instanceId call i).1.succeeded = true →
    ∃ child, i.child = some child ∧
      Answered json instanceId targetId child i.unread
        (sendStdioJsonRpc json instanceId call i).1.responseBody
        (sendStdioJsonRpc json instanceId call i).2
  /-- Where all calls succeed, what they return does not depend on how the stream was cut. -/
  independent : ∀ calls calls' i,
    List.Forall₂ (fun call call' => call.request = call'.request) calls calls' →
    (∀ call ∈ calls, Asks json call) → AllSucceed (performCalls json instanceId calls i).1 →
    AllSucceed (performCalls json instanceId calls' i).1 →
    answers (performCalls json instanceId calls i).1 =
      answers (performCalls json instanceId calls' i).1
  /-- Complete lines go off the stream, the answers among them, and the rest stays. -/
  accounted : ∀ calls i child, i.child = some child → (∀ call ∈ calls, Asks json call) →
    ∃ rest, Takes newline (child.stdioReadBuffer ++ i.unread)
        (answers (performCalls json instanceId calls i).1) rest ∧
      Leaves (performCalls json instanceId calls i).2 rest

/-- **The bridge frames and correlates**, for every stream, every way of cutting it and
every list of calls. -/
theorem stdio_bridge_framing (json : JsonLibrary) (instanceId : String) :
    FramedBridge json instanceId where
  answered _ _ _ htarget hsucceeded := sendStdioJsonRpc_succeeded htarget hsucceeded
  independent _ _ i hsame hcalls hsucceed hsucceed' := by
    refine performCalls_independent hsame hcalls (fun child child' hchild hchild' => ?_)
      hsucceed hsucceed'
    rw [hchild] at hchild'
    cases hchild'
    exact ⟨rfl, rfl⟩
  accounted calls i child hchild hcalls := by
    refine performCalls_takes calls hcalls fun child' hchild' => ?_
    rw [hchild] at hchild'
    cases hchild'
    rfl

/-! ### An answer, a request of the child, and a line dropped by an earlier call -/

/-- Some envelopes, as text and as objects. -/
def sampleEnvelopes : List (String × List (String × Json)) :=
  [("\x7b\"id\":1,\"method\":\"tools/call\"\x7d",
      [("id", .integer 1), ("method", .string "tools/call")]),
    ("\x7b\"id\":2,\"method\":\"tools/call\"\x7d",
      [("id", .integer 2), ("method", .string "tools/call")]),
    ("\x7b\"id\":1,\"method\":\"sampling/createMessage\"\x7d",
      [("id", .integer 1), ("method", .string "sampling/createMessage")]),
    ("\x7b\"id\":1,\"result\":1\x7d", [("id", .integer 1), ("result", .integer 1)]),
    ("\x7b\"id\":2,\"result\":1\x7d", [("id", .integer 2), ("result", .integer 1)]),
    ("\x7b\"id\":2,\"result\":2\x7d", [("id", .integer 2), ("result", .integer 2)])]

/-- The JSON library on these envelopes. -/
def sampleJson : JsonLibrary where
  parse text :=
    match sampleEnvelopes.find? fun envelope => asciiBytes envelope.1 = text with
    | some envelope => .ok (.object envelope.2)
    | none => .error "[json.exception.parse_error.101] parse error"
  dump := Json.dumpScalar
  stringExpected _ := "[json.exception.type_error.302] type must be string, but is number"

/-- The request with the id 1 or 2. -/
def toolsCall (second : Bool) (polls : List Poll) : BridgeCall where
  request :=
    asciiBytes (if second then "\x7b\"id\":2,\"method\":\"tools/call\"\x7d"
      else "\x7b\"id\":1,\"method\":\"tools/call\"\x7d")
  polls := polls

/-- A child that has answered its handshake, and what it writes from then on. -/
def talkingChild (text : String) : StdioInstance :=
  { child := some { mcpInitialized := true }, unread := asciiBytes text }

theorem stdio_bridge_framing_answer :
    Answered sampleJson "p#1" "1" { mcpInitialized := true }
      (asciiBytes "ready\n\x7b\"id\":1,\"result\":1\x7d\n")
      (asciiBytes "\x7b\"id\":1,\"result\":1\x7d")
      (sendStdioJsonRpc sampleJson "p#1" (toolsCall false
          [.available 9 false false false, .available 40 false false false])
        (talkingChild "ready\n\x7b\"id\":1,\"result\":1\x7d\n")).2 := by
  obtain ⟨child, hchild, hanswered⟩ := (stdio_bridge_framing sampleJson "p#1").answered
    (toolsCall false [.available 9 false false false, .available 40 false false false])
    (talkingChild "ready\n\x7b\"id\":1,\"result\":1\x7d\n") "1" (by rfl) (by decide)
  cases hchild
  exact hanswered

/-- A request of the child with the call's id is returned as its answer, and a line may be
dropped by an earlier call or be left for the next one. -/
theorem stdio_bridge_misreads :
    (¬ ∀ json instanceId call i targetId, targetIdOf json call.request = .ok (some targetId) →
      (sendStdioJsonRpc json instanceId call i).1.succeeded = true →
      ∃ members, json.parse (sendStdioJsonRpc json instanceId call i).1.responseBody =
          .ok (.object members) ∧
        ((Json.lookup "result" members).isSome ∨ (Json.lookup "error" members).isSome)) ∧
    ¬ ∀ json instanceId calls calls' i,
      List.Forall₂ (fun call call' => call.request = call'.request) calls calls' →
      (∀ call ∈ calls, Asks json call) → ∀ (k : ℕ) line line',
      ((performCalls json instanceId calls i).1[k]?.bind StdioBridgeResult.answer) = some line →
      ((performCalls json instanceId calls' i).1[k]?.bind StdioBridgeResult.answer) =
        some line' → line = line' := by
  refine ⟨fun h => ?_, fun h => ?_⟩
  · obtain ⟨members, hparse, hreply⟩ := h sampleJson "p#1"
      (toolsCall false [.available 4096 false false false])
      (talkingChild "\x7b\"id\":1,\"method\":\"sampling/createMessage\"\x7d\n") "1"
      (by rfl) (by decide)
    have hchild : sampleJson.parse (sendStdioJsonRpc sampleJson "p#1"
        (toolsCall false [.available 4096 false false false])
        (talkingChild "\x7b\"id\":1,\"method\":\"sampling/createMessage\"\x7d\n")).1.responseBody =
        .ok (.object [("id", .integer 1), ("method", .string "sampling/createMessage")]) := by rfl
    rw [hchild] at hparse
    cases hparse
    revert hreply
    decide
  · have hlines := h sampleJson "p#1"
      [toolsCall false [.available 20 false false false],
        toolsCall true [.available 4096 false false false]]
      [toolsCall false [], toolsCall true [.available 4096 false false false]]
      (talkingChild "\x7b\"id\":2,\"result\":1\x7d\n\x7b\"id\":2,\"result\":2\x7d\n")
      (.cons rfl (.cons rfl .nil))
      (by
        intro call hcall
        rcases List.mem_pair.mp hcall with rfl | rfl
        · exact ⟨"1", rfl⟩
        · exact ⟨"2", rfl⟩)
      1 (asciiBytes "\x7b\"id\":2,\"result\":2\x7d") (asciiBytes "\x7b\"id\":2,\"result\":1\x7d")
      (by decide) (by decide)
    exact absurd hlines (by decide)

end Stdio
end MasterControl
