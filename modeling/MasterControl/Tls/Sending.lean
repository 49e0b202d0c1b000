import MasterControl.Tls.NullCipher

/-!
# Sending

`sendPlain` cuts the text into pieces that the provider can encrypt, encrypts one after the other,
and writes each to the socket in as many calls of `send` as it takes.  A peer that has the other
end of the session reads the whole text if `sendPlain` returns true, and otherwise the pieces
before the one that could not be sent (`sendPlain_delivers`): a piece that is sent in part is not a
record yet.
-/

namespace MasterControl
namespace Tls

open Foundation

/-! ## The socket -/

/-- `sendAll`: whether all was written, what was written, and what later calls of `send` are going
to return.  A call that returns 0 or less has failed, and so has one that never returns. -/
def sendAll : Bytes → List ℕ → Bool × Bytes × List ℕ
  | [], writes => (true, [], writes)
  | _ :: _, [] => (false, [], [])
  | _ :: _, 0 :: writes => (false, [], writes)
  | b :: data, (n + 1) :: writes =>
    let (sent, wire, writes) := sendAll (data.drop n) writes
    (sent, b :: data.take n ++ wire, writes)
termination_by data => data.length

/-- What is written is the front, and all of it is written if and only if `sendAll` says so. -/
theorem sendAll_spec (data : Bytes) (writes : List ℕ) :
    (sendAll data writes).2.1 <+: data ∧
    ((sendAll data writes).1 = true ↔ (sendAll data writes).2.1 = data) := by
  fun_induction sendAll data writes with
  | case1 writes => exact ⟨List.prefix_rfl, iff_of_true rfl rfl⟩
  | case2 b data =>
    exact ⟨List.nil_prefix, iff_of_false Bool.false_ne_true (List.cons_ne_nil b data).symm⟩
  | case3 b data writes =>
    exact ⟨List.nil_prefix, iff_of_false Bool.false_ne_true (List.cons_ne_nil b data).symm⟩
  | case4 b data n writes sent wire writes' hsend ih =>
    rw [hsend] at ih
    have hcut : b :: data = (b :: data.take n) ++ data.drop n := by
      rw [List.cons_append, List.take_append_drop]
    refine ⟨?_, ?_⟩
    · conv_rhs => rw [hcut]
      exact (List.prefix_append_right_inj _).mpr ih.1
    · rw [ih.2]
      conv_rhs => rw [hcut]
      exact (List.append_cancel_left_eq _ _ _).symm.to_iff

/-! ## The adapter -/

/-- What a call of `sendPlain` returns and leaves. -/
structure Sent (C : Type) where
  ok : Bool
  wire : Bytes
  context : C
  writes : List ℕ

section Send

variable {P Q : SecurityProvider}

/-- The loop of `sendPlain`. -/
def sendLoop {maxChunk : ℕ} (hmax : 0 < maxChunk) (context : P.Context) (data : Bytes)
    (writes : List ℕ) : Sent P.Context :=
  if data = [] then { ok := true, wire := [], context := context, writes := writes }
  else
    match P.encrypt context (data.take maxChunk) with
    | none => { ok := false, wire := [], context := context, writes := writes }
    | some encrypted =>
      match sendAll encrypted.wire writes with
      | (false, wire, writes) =>
        { ok := false, wire := wire, context := encrypted.context, writes := writes }
      | (true, wire, writes) =>
        let sent := sendLoop hmax encrypted.context (data.drop maxChunk) writes
        { sent with wire := wire ++ sent.wire }
termination_by data.length
decreasing_by
  have hpos := List.length_pos_iff.mpr ‹data ≠ []›
  rw [List.length_drop]
  omega

def sendPlain (streamSizes : StreamSizes) (context : P.Context) (data : Bytes)
    (writes : List ℕ) : Sent P.Context :=
  if h : streamSizes.cbMaximumMessage = 0 then
    { ok := false, wire := [], context := context, writes := writes }
  else sendLoop (Nat.pos_of_ne_zero h) context data writes

end Send

/-! ## The peer -/

/-- The contexts of two ends of a session: what the one encrypts is a record for the other. -/
structure Session (P Q : SecurityProvider) where
  Matched : P.Context → Q.Context → Prop
  decrypt_wire : ∀ {context peer data encrypted}, Matched context peer →
    P.encrypt context data = some encrypted →
      (Q.decrypt peer encrypted.wire).status = .ok ∧
      (Q.decrypt peer encrypted.wire).plain = data ∧
      (Q.decrypt peer encrypted.wire).extra = [] ∧
      Matched encrypted.context (Q.decrypt peer encrypted.wire).context

section Delivery

variable {P Q : SecurityProvider} (S : Session P Q) {context : P.Context} {peer : Q.Context}
  {data : Bytes} {encrypted : Encrypted P.Context}

theorem Session.wire_ne_nil (hmatched : S.Matched context peer)
    (h : P.encrypt context data = some encrypted) : encrypted.wire ≠ [] := by
  obtain ⟨hok, -⟩ := S.decrypt_wire hmatched h
  have hlt := Q.decrypt_length_lt peer encrypted.wire hok
  exact List.length_pos_iff.mp (Nat.zero_lt_of_lt hlt)

/-- A record that has come in whole is read. -/
theorem Session.plaintext_wire (hmatched : S.Matched context peer)
    (h : P.encrypt context data = some encrypted) (more : Bytes) :
    Q.plaintext peer (encrypted.wire ++ more) =
      data ++ Q.plaintext (Q.decrypt peer encrypted.wire).context more := by
  obtain ⟨hok, hplain, hextra, -⟩ := S.decrypt_wire hmatched h
  rw [SecurityProvider.plaintext_of_ok (S.wire_ne_nil hmatched h) hok, hplain, hextra,
    List.nil_append]

/-- A record that has come in in part is not read. -/
theorem Session.plaintext_part (hmatched : S.Matched context peer)
    (h : P.encrypt context data = some encrypted) {wire : Bytes} (hpart : wire <+: encrypted.wire)
    (hne : wire ≠ encrypted.wire) : Q.plaintext peer wire = [] := by
  obtain ⟨rest, hrest⟩ := hpart
  obtain ⟨hok, hplain, hextra, -⟩ := S.decrypt_wire hmatched h
  have hfront : Q.records.front peer (wire ++ rest) =
      .record (Q.decrypt peer encrypted.wire).context data [] := by
    show Q.front peer (wire ++ rest) = _
    rw [hrest, SecurityProvider.front_of_ne_nil (S.wire_ne_nil hmatched h), hok, hplain, hextra]
  have hnil : rest ≠ [] := by
    rintro rfl
    exact hne ((List.append_nil wire).symm.trans hrest)
  rw [SecurityProvider.plaintext,
    Q.records.records_of_unfinished (Q.records.front_unfinished hfront hnil), List.flatten_nil]

/-- What one call of the loop delivers: all of the text, and the session goes on, or the pieces
before the one that fails. -/
theorem sendLoop_delivers {maxChunk : ℕ} (hmax : 0 < maxChunk) (data : Bytes)
    (writes : List ℕ) (hmatched : S.Matched context peer) :
    ((sendLoop hmax context data writes).ok = true →
      ∃ peer', S.Matched (sendLoop hmax context data writes).context peer' ∧
        ∀ more, Q.plaintext peer ((sendLoop hmax context data writes).wire ++ more) =
          data ++ Q.plaintext peer' more) ∧
    ((sendLoop hmax context data writes).ok = false →
      ∃ n, n * maxChunk < data.length ∧
        Q.plaintext peer (sendLoop hmax context data writes).wire = data.take (n * maxChunk)) := by
  fun_induction sendLoop hmax context data writes generalizing peer with
  | case1 context writes =>
    exact ⟨fun _ => ⟨peer, hmatched, fun _ => rfl⟩, fun h => by cases h⟩
  | case2 context data writes hdata hencrypt =>
    refine ⟨fun h => (by cases h), fun _ => ⟨0, ?_, ?_⟩⟩
    · rw [Nat.zero_mul]
      exact List.length_pos_iff.mpr hdata
    · rw [Nat.zero_mul, List.take_zero, SecurityProvider.plaintext_nil]
  | case3 context data writes hdata encrypted hencrypt wire writes' hsend =>
    obtain ⟨hpart, hall⟩ := sendAll_spec encrypted.wire writes
    rw [hsend] at hpart hall
    refine ⟨fun h => (by cases h), fun _ => ⟨0, ?_, ?_⟩⟩
    · rw [Nat.zero_mul]
      exact List.length_pos_iff.mpr hdata
    · rw [Nat.zero_mul, List.take_zero]
      exact S.plaintext_part hmatched hencrypt hpart fun h => by cases hall.mpr h
  | case4 context data writes hdata encrypted hencrypt wire writes' hsend sent =>
    rename_i ih
    obtain ⟨-, hall⟩ := sendAll_spec encrypted.wire writes
    rw [hsend] at hall
    obtain rfl : wire = encrypted.wire := hall.mp rfl
    obtain ⟨hok, hfailed⟩ := ih (S.decrypt_wire hmatched hencrypt).2.2.2
    refine ⟨fun h => ?_, fun h => ?_⟩
    · obtain ⟨peer', hmatched', hmore⟩ := hok h
      refine ⟨peer', hmatched', fun more => ?_⟩
      rw [List.append_assoc, S.plaintext_wire hmatched hencrypt, hmore, ← List.append_assoc,
        List.take_append_drop]
    · obtain ⟨n, hn, hfront⟩ := hfailed h
      rw [List.length_drop] at hn
      refine ⟨n + 1, ?_, ?_⟩
      · rw [Nat.add_mul]
        omega
      · rw [S.plaintext_wire hmatched hencrypt, hfront, Nat.add_mul, Nat.one_mul, Nat.add_comm,
          List.take_add]

/-- **A peer reads the whole text if `sendPlain` returns true**, and then what is sent next;
otherwise it reads some of the pieces, and not all of them unless no piece can be encrypted. -/
theorem sendPlain_delivers (streamSizes : StreamSizes) (data : Bytes) (writes : List ℕ)
    (hmatched : S.Matched context peer) :
    ((sendPlain streamSizes context data writes).ok = true →
      ∃ peer', S.Matched (sendPlain streamSizes context data writes).context peer' ∧
        ∀ more, Q.plaintext peer ((sendPlain streamSizes context data writes).wire ++ more) =
          data ++ Q.plaintext peer' more) ∧
    ((sendPlain streamSizes context data writes).ok = false →
      ∃ n, (n * streamSizes.cbMaximumMessage < data.length ∨ streamSizes.cbMaximumMessage = 0) ∧
        Q.plaintext peer (sendPlain streamSizes context data writes).wire =
          data.take (n * streamSizes.cbMaximumMessage)) := by
  by_cases hmax : streamSizes.cbMaximumMessage = 0
  · rw [sendPlain, dif_pos hmax]
    refine ⟨fun h => (by cases h), fun _ => ⟨0, Or.inr hmax, ?_⟩⟩
    rw [Nat.zero_mul, List.take_zero, SecurityProvider.plaintext_nil]
  · rw [sendPlain, dif_neg hmax]
    obtain ⟨hok, hfailed⟩ :=
      sendLoop_delivers S (Nat.pos_of_ne_zero hmax) data writes hmatched
    refine ⟨hok, fun h => ?_⟩
    obtain ⟨n, hn, hfront⟩ := hfailed h
    exact ⟨n, Or.inl hn, hfront⟩

end Delivery

open NullCipher in
/-- Two ends without a cipher are matched. -/
def nullSession : Session nullCipher nullCipher where
  Matched _ _ := True
  decrypt_wire {context peer data encrypted} _ h := by
    have hencrypt : NullCipher.encrypt data = some encrypted := h
    rw [NullCipher.encrypt] at hencrypt
    split_ifs at hencrypt with hlength
    cases hencrypt
    have hwire : (record applicationDataType data).take (5 + data.length + 0) =
        record applicationDataType data :=
      List.take_of_length_le (by simp [record]; omega)
    have hsplit := splitRecord_record applicationDataType hlength []
    rw [List.append_nil] at hsplit
    show (NullCipher.decrypt ((record applicationDataType data).take _)).status = _ ∧
      (NullCipher.decrypt ((record applicationDataType data).take _)).plain = _ ∧
      (NullCipher.decrypt ((record applicationDataType data).take _)).extra = _ ∧ True
    rw [hwire, status_decrypt hsplit, if_pos rfl, (buffers_decrypt hsplit rfl).1,
      (buffers_decrypt hsplit rfl).2]
    exact ⟨rfl, rfl, rfl, trivial⟩

/-- A response in three pieces, of which the socket takes the second in two calls. -/
theorem sendPlain_delivers_nullSession :
    let streamSizes : StreamSizes := { cbHeader := 5, cbMaximumMessage := 2, cbTrailer := 0 }
    let sent := sendPlain (P := nullCipher) streamSizes () [79, 75, 13, 10, 33] [7, 3, 4, 6]
    nullSession.Matched () () ∧ sent.ok = true ∧
    ∃ peer', nullSession.Matched sent.context peer' ∧
      ∀ more, nullCipher.plaintext () (sent.wire ++ more) =
        [79, 75, 13, 10, 33] ++ nullCipher.plaintext peer' more := by
  intro streamSizes sent
  have hok : sent.ok = true := by
    simp [sent, streamSizes, sendPlain, sendLoop, sendAll, nullCipher, NullCipher.encrypt,
      NullCipher.record, NullCipher.maximumMessage, Encrypted.wire]
  exact ⟨trivial, hok, (sendPlain_delivers nullSession streamSizes [79, 75, 13, 10, 33]
    [7, 3, 4, 6] trivial).1 hok⟩

end Tls
end MasterControl
