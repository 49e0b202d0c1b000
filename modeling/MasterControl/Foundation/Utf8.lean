import MasterControl.Foundation.Json
import Mathlib.Data.List.Infix
import Mathlib.Data.String.Basic

/-!
# Texts and their UTF-8

`utf8Bytes` writes the characters of a text as bytes, and `fromUtf8?` reads bytes back if they are
the UTF-8 of a text.  Characters do not begin with one another, so what can be read from the
beginning of a text's bytes is a beginning of the text (`prefix_of_fromUtf8?_take`), and bytes can
be cut off where a character ends, and nowhere else (`isSome_fromUtf8?_take_iff`).
-/

namespace MasterControl
namespace Foundation

/-- The UTF-8 of a text. -/
def utf8Bytes (text : List Char) : Bytes := text.flatMap String.utf8EncodeChar

/-- The text whose UTF-8 this is. -/
def fromUtf8? (bytes : Bytes) : Option String := String.fromUTF8? bytes.toByteArray

section

variable {text front : List Char} {bytes rest : Bytes} {s : String} {n : ℕ}

@[simp] theorem utf8Bytes_nil : utf8Bytes [] = [] := rfl

theorem utf8Bytes_cons (c : Char) (text : List Char) :
    utf8Bytes (c :: text) = String.utf8EncodeChar c ++ utf8Bytes text := List.flatMap_cons

theorem utf8Bytes_append (text text' : List Char) :
    utf8Bytes (text ++ text') = utf8Bytes text ++ utf8Bytes text' := List.flatMap_append

theorem toByteArray_utf8Bytes (text : List Char) :
    (utf8Bytes text).toByteArray = text.utf8Encode := rfl

/-- What is read back is what was written. -/
theorem fromUtf8?_utf8Bytes (text : List Char) :
    fromUtf8? (utf8Bytes text) = some (String.ofList text) := by
  have hvalid : text.utf8Encode.IsValidUTF8 := ByteArray.isValidUTF8_utf8Encode
  rw [fromUtf8?, toByteArray_utf8Bytes, String.fromUTF8?, dif_pos hvalid]
  exact congrArg some <| String.toByteArray_inj.mp String.toByteArray_ofList.symm

theorem utf8Bytes_of_fromUtf8? (h : fromUtf8? bytes = some s) : utf8Bytes s.toList = bytes := by
  obtain ⟨hvalid, hs⟩ := Option.dite_none_right_eq_some.mp h
  have hbytes : s.toByteArray = bytes.toByteArray := by
    rw [← Option.some.inj hs]
    rfl
  exact List.toByteArray_inj.mp <| String.utf8Encode_toList.trans hbytes

/-- The bytes of a text begin with those of its beginnings only. -/
theorem prefix_of_utf8Bytes_prefix (h : utf8Bytes front <+: utf8Bytes text) : front <+: text := by
  induction front generalizing text with
  | nil => exact List.nil_prefix
  | cons c front ih =>
    obtain ⟨rest, hrest⟩ := h
    have hfirst : (utf8Bytes text).toByteArray.utf8DecodeChar? 0 = some c := by
      rw [← hrest, utf8Bytes_cons, List.append_assoc, List.toByteArray_append]
      exact ByteArray.utf8DecodeChar?_utf8EncodeChar_append
    cases text with
    | nil =>
      have hnil := (List.append_eq_nil_iff.mp hrest).1
      rw [utf8Bytes_cons] at hnil
      exact absurd (List.append_eq_nil_iff.mp hnil).1 String.utf8EncodeChar_ne_nil
    | cons d text =>
      obtain rfl : d = c :=
        Option.some.inj <| List.utf8DecodeChar?_utf8Encode_cons.symm.trans hfirst
      rw [utf8Bytes_cons, utf8Bytes_cons, List.append_assoc] at hrest
      exact List.prefix_cons_inj d |>.mpr <| ih ⟨rest, List.append_cancel_left hrest⟩

/-- What is read from the beginning of a text's bytes is a beginning of the text. -/
theorem prefix_of_fromUtf8?_take (h : fromUtf8? ((utf8Bytes text).take n) = some s) :
    s.toList <+: text := by
  apply prefix_of_utf8Bytes_prefix
  rw [utf8Bytes_of_fromUtf8? h]
  exact List.take_prefix n _

/-- A place behind a character. -/
def AtCharacterEnd (text : List Char) (n : ℕ) : Prop :=
  ∃ front, front <+: text ∧ (utf8Bytes front).length = n

theorem isSome_fromUtf8?_take_iff : (fromUtf8? ((utf8Bytes text).take n)).isSome = true ↔
    (utf8Bytes text).length ≤ n ∨ AtCharacterEnd text n := by
  constructor
  · intro h
    obtain ⟨s, hs⟩ := Option.isSome_iff_exists.mp h
    rcases Nat.lt_or_ge n (utf8Bytes text).length with hlt | hle
    · right
      refine ⟨s.toList, prefix_of_fromUtf8?_take hs, ?_⟩
      rw [utf8Bytes_of_fromUtf8? hs, List.length_take, Nat.min_eq_left hlt.le]
    · exact .inl hle
  · rintro (hle | ⟨front, ⟨rest, rfl⟩, hlength⟩)
    · rw [List.take_of_length_le hle, fromUtf8?_utf8Bytes]
      rfl
    · rw [utf8Bytes_append, ← hlength, List.take_left, fromUtf8?_utf8Bytes]
      rfl

end

/-! ## Characters below 128 -/

section

variable {text : List Char} {c d : Char} {b : UInt8}

theorem utf8EncodeChar_ascii (h : c.toNat < 128) : String.utf8EncodeChar c = [c.toNat.toUInt8] := by
  have hle : c.val.toNat ≤ 127 := Nat.le_of_lt_succ h
  rw [String.utf8EncodeChar]
  exact if_pos hle

/-- Bytes below 128 encode themselves only. -/
theorem toNat_of_mem_utf8EncodeChar (hb : b.toNat < 128) (h : b ∈ String.utf8EncodeChar c) :
    c.toNat = b.toNat := by
  have hof : ∀ n, n < 256 → (UInt8.ofNat n).toNat = n := fun n hn =>
    UInt8.toNat_ofNat_of_lt hn
  rw [String.utf8EncodeChar] at h
  split_ifs at h with h1 h2 h3
  · rw [List.mem_singleton.mp h, hof _ (by omega)]
    rfl
  · simp only [List.mem_cons, List.not_mem_nil, or_false] at h
    rcases h with rfl | rfl <;> rw [hof _ (by omega)] at hb <;> omega
  · simp only [List.mem_cons, List.not_mem_nil, or_false] at h
    rcases h with rfl | rfl | rfl <;> rw [hof _ (by omega)] at hb <;> omega
  · simp only [List.mem_cons, List.not_mem_nil, or_false] at h
    rcases h with rfl | rfl | rfl | rfl <;> rw [hof _ (by omega)] at hb <;> omega

theorem toNat_toUInt8 (h : d.toNat < 128) : d.toNat.toUInt8.toNat = d.toNat :=
  UInt8.toNat_ofNat_of_lt (Nat.lt_trans h (by decide))

/-- A character below 128 is found by its byte. -/
theorem eq_of_mem_utf8EncodeChar (hd : d.toNat < 128)
    (h : d.toNat.toUInt8 ∈ String.utf8EncodeChar c) : c = d := by
  have hb := toNat_toUInt8 hd
  have hc := toNat_of_mem_utf8EncodeChar (by rw [hb]; exact hd) h
  exact Char.toNat_inj.mp (hc.trans hb)

theorem mem_utf8Bytes_iff (hd : d.toNat < 128) : d.toNat.toUInt8 ∈ utf8Bytes text ↔ d ∈ text := by
  rw [utf8Bytes, List.mem_flatMap]
  constructor
  · rintro ⟨c, hc, hmem⟩
    rwa [← eq_of_mem_utf8EncodeChar hd hmem]
  · intro h
    refine ⟨d, h, ?_⟩
    rw [utf8EncodeChar_ascii hd]
    exact List.mem_singleton_self _

theorem head?_utf8Bytes_iff (hd : d.toNat < 128) :
    (utf8Bytes text).head? = some d.toNat.toUInt8 ↔ text.head? = some d := by
  cases text with
  | nil => exact iff_of_false (fun h => by cases h) fun h => by cases h
  | cons c text =>
    obtain ⟨b, rest, hbytes⟩ := List.exists_cons_of_ne_nil (String.utf8EncodeChar_ne_nil (c := c))
    rw [utf8Bytes_cons, hbytes, List.cons_append, List.head?_cons, List.head?_cons]
    constructor
    · intro h
      have hmem : d.toNat.toUInt8 ∈ String.utf8EncodeChar c := by
        rw [hbytes, Option.some.inj h]
        exact List.mem_cons_self
      rw [eq_of_mem_utf8EncodeChar hd hmem]
    · intro h
      obtain rfl := Option.some.inj h
      rw [utf8EncodeChar_ascii hd] at hbytes
      rw [(List.cons.inj hbytes).1]

theorem getLast?_utf8Bytes_iff (hd : d.toNat < 128) :
    (utf8Bytes text).getLast? = some d.toNat.toUInt8 ↔ text.getLast? = some d := by
  rcases List.eq_nil_or_concat text with rfl | ⟨text, c, rfl⟩
  · exact iff_of_false (fun h => by cases h) fun h => by cases h
  · obtain ⟨front, b, hbytes⟩ :=
      (List.eq_nil_or_concat (String.utf8EncodeChar c)).resolve_left String.utf8EncodeChar_ne_nil
    rw [List.concat_eq_append] at hbytes
    rw [List.concat_eq_append, utf8Bytes_append, utf8Bytes_cons, utf8Bytes_nil, List.append_nil,
      hbytes, ← List.append_assoc, List.getLast?_concat, List.getLast?_concat]
    constructor
    · intro h
      have hmem : d.toNat.toUInt8 ∈ String.utf8EncodeChar c := by
        rw [hbytes, Option.some.inj h]
        exact List.mem_concat_self
      rw [eq_of_mem_utf8EncodeChar hd hmem]
    · intro h
      obtain rfl := Option.some.inj h
      rw [utf8EncodeChar_ascii hd] at hbytes
      have hlast := congrArg List.getLast? hbytes
      rwa [List.getLast?_concat, List.getLast?_singleton, eq_comm] at hlast

theorem utf8Bytes_of_ascii (h : ∀ c ∈ text, c.toNat < 128) :
    utf8Bytes text = text.map fun c => c.toNat.toUInt8 := by
  induction text with
  | nil => rfl
  | cons c text ih =>
    rw [utf8Bytes_cons, utf8EncodeChar_ascii (h c List.mem_cons_self),
      ih fun d hd => h d (List.mem_cons_of_mem c hd)]
    rfl

end

end Foundation
end MasterControl
