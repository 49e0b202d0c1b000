import MasterControl.Foundation.Separators
import Mathlib.Data.List.Induction
import Mathlib.Data.Nat.Basic

/-!
# Patterns over the segments of a path

A pattern is a path in which one segment may be a star, which stands for any segment that is not
empty.  Where a pattern has one star, it matches exactly the paths that have a segment between
the two texts around the star (`segmentsMatch_splitOn_iff`).

Texts are also told apart by how they start: two starts of one text are comparable.
-/

namespace MasterControl
namespace Foundation

universe u

variable {α : Type u} [DecidableEq α] {star id : List α} {segments lead trail : List (List α)}

/-! ## Segments against segments -/

/-- Whether a segment is what one of a pattern asks for. -/
def segmentMatches (star segment pattern : List α) : Bool :=
  if pattern = star then segment ≠ [] else segment = pattern

/-- As many segments as the pattern has, each as it asks for. -/
def segmentsMatch (star : List α) : List (List α) → List (List α) → Bool
  | [], [] => true
  | segment :: segments, pattern :: patterns =>
    segmentMatches star segment pattern && segmentsMatch star segments patterns
  | [], _ :: _ => false
  | _ :: _, [] => false

theorem segmentsMatch_literal (h : star ∉ trail) :
    segmentsMatch star segments trail = true ↔ segments = trail := by
  induction trail generalizing segments with
  | nil =>
    cases segments with
    | nil => exact ⟨fun _ => rfl, fun _ => rfl⟩
    | cons segment segments => exact ⟨nofun, nofun⟩
  | cons pattern trail ih =>
    rw [List.mem_cons, not_or] at h
    cases segments with
    | nil => exact ⟨nofun, nofun⟩
    | cons segment segments =>
      have hne : ¬ pattern = star := fun heq => h.1 heq.symm
      rw [segmentsMatch, segmentMatches, if_neg hne, Bool.and_eq_true, ih h.2, decide_eq_true_iff,
        List.cons.injEq]

theorem segmentsMatch_star (hlead : star ∉ lead) (htrail : star ∉ trail) :
    segmentsMatch star segments (lead ++ star :: trail) = true ↔
      ∃ id, id ≠ [] ∧ segments = lead ++ id :: trail := by
  induction lead generalizing segments with
  | nil =>
    cases segments with
    | nil => exact ⟨nofun, fun ⟨_, _, h⟩ => by cases h⟩
    | cons segment segments =>
      rw [List.nil_append, segmentsMatch, segmentMatches, if_pos rfl, Bool.and_eq_true,
        segmentsMatch_literal htrail, decide_eq_true_iff]
      constructor
      · rintro ⟨hne, rfl⟩
        exact ⟨segment, hne, rfl⟩
      · rintro ⟨id, hne, h⟩
        obtain ⟨rfl, rfl⟩ := List.cons.inj h
        exact ⟨hne, rfl⟩
  | cons pattern lead ih =>
    rw [List.mem_cons, not_or] at hlead
    cases segments with
    | nil => exact ⟨nofun, fun ⟨_, _, h⟩ => by cases h⟩
    | cons segment segments =>
      have hne : ¬ pattern = star := fun heq => hlead.1 heq.symm
      rw [List.cons_append, segmentsMatch, segmentMatches, if_neg hne, Bool.and_eq_true,
        ih hlead.2, decide_eq_true_iff]
      constructor
      · rintro ⟨rfl, id, hid, rfl⟩
        exact ⟨id, hid, rfl⟩
      · rintro ⟨id, hid, h⟩
        obtain ⟨rfl, rfl⟩ := List.cons.inj h
        exact ⟨rfl, id, hid, rfl⟩

/-! ## Texts with a separator -/

variable {sep : α} {path pattern : List α}

theorem notMem_of_mem_splitOn (h : id ∈ path.splitOn sep) : sep ∉ id := by
  induction path generalizing id with
  | nil =>
    rw [List.splitOn_nil, List.mem_singleton] at h
    rw [h]
    exact List.not_mem_nil
  | cons a path ih =>
    rw [List.splitOn_cons_eq_if_modifyHead] at h
    split at h
    · rcases List.mem_cons.mp h with rfl | hmem
      · exact List.not_mem_nil
      · exact ih hmem
    · next hne =>
      obtain ⟨first, rest, hsplit⟩ := List.exists_cons_of_ne_nil (List.splitOn_ne_nil sep path)
      rw [hsplit] at h ih
      rcases List.mem_cons.mp h with rfl | hmem
      · have hfirst := ih (List.mem_cons_self (l := rest))
        intro hin
        rcases List.mem_cons.mp hin with rfl | hin
        · exact hne (beq_self_eq_true sep)
        · exact hfirst hin
      · exact ih (List.mem_cons_of_mem _ hmem)

omit [DecidableEq α] in
/-- What stands before a segment, and what behind it. -/
theorem intercalate_around (sep : α) (lead : List (List α)) (id : List α)
    (trail : List (List α)) :
    [sep].intercalate (lead ++ id :: trail) =
      lead.flatMap (· ++ [sep]) ++ id ++ trail.flatMap (sep :: ·) := by
  induction lead with
  | nil =>
    rw [List.nil_append, List.flatMap_nil, List.nil_append]
    induction trail generalizing id with
    | nil => rw [List.intercalate_singleton, List.flatMap_nil, List.append_nil]
    | cons segment trail ih =>
      rw [List.intercalate_cons_cons, ih, List.flatMap_cons, List.append_assoc]
      rfl
  | cons segment lead ih =>
    obtain ⟨first, rest, hrest⟩ := List.exists_cons_of_ne_nil
      (List.append_ne_nil_of_right_ne_nil lead (List.cons_ne_nil id trail))
    rw [List.cons_append, hrest, List.intercalate_cons_cons, ← hrest, ih, List.flatMap_cons]
    simp only [List.append_assoc]

/-- **A pattern with one star** matches the paths with a segment between the two texts around
it. -/
theorem segmentsMatch_splitOn_iff (hpattern : pattern.splitOn sep = lead ++ star :: trail)
    (hlead : star ∉ lead) (htrail : star ∉ trail) :
    segmentsMatch star (path.splitOn sep) (pattern.splitOn sep) = true ↔
      ∃ id, id ≠ [] ∧ sep ∉ id ∧
        path = lead.flatMap (· ++ [sep]) ++ id ++ trail.flatMap (sep :: ·) := by
  rw [hpattern, segmentsMatch_star hlead htrail]
  constructor
  · rintro ⟨id, hid, hsegments⟩
    have hmem : id ∈ path.splitOn sep := by
      rw [hsegments]
      exact List.mem_append_right _ List.mem_cons_self
    refine ⟨id, hid, notMem_of_mem_splitOn hmem, ?_⟩
    rw [← intercalate_around, ← hsegments, List.intercalate_splitOn]
  · rintro ⟨id, hid, hsep, rfl⟩
    refine ⟨id, hid, ?_⟩
    rw [← intercalate_around]
    refine List.splitOn_intercalate sep (fun l hl => ?_)
      (List.append_ne_nil_of_right_ne_nil lead (List.cons_ne_nil id trail))
    have hsegment : ∀ l ∈ lead ++ star :: trail, sep ∉ l := fun l hl =>
      notMem_of_mem_splitOn (hpattern ▸ hl)
    rcases List.mem_append.mp hl with hlead | htail
    · exact hsegment l (List.mem_append_left _ hlead)
    · rcases List.mem_cons.mp htail with rfl | htrail
      · exact hsep
      · exact hsegment l (List.mem_append_right _ (List.mem_cons_of_mem _ htrail))

/-! ## Starts -/

/-- One of two texts starts with the other. -/
def comparable (s t : List α) : Bool := s.isPrefixOf t || t.isPrefixOf s

theorem comparable_of_prefixes {s t : List α} (hs : s <+: path) (ht : t <+: path) :
    comparable s t = true := by
  rw [comparable, Bool.or_eq_true, List.isPrefixOf_iff_prefix, List.isPrefixOf_iff_prefix]
  exact List.prefix_or_prefix_of_prefix hs ht

omit [DecidableEq α] in
/-- A start that ends in the separator and an ending that begins with it, but has no other, share
at most this one letter. -/
theorem eq_tail_of_overlap {start ending rest : List α} (hstart : start.getLast? = some sep)
    (hending : ending.head? = some sep) (htail : sep ∉ ending.tail)
    (hsuffix : ending <:+ start ++ rest) (hshort : rest.length < ending.length) :
    rest = ending.tail := by
  obtain ⟨shared, hshared⟩ := List.suffix_of_suffix_length_le (List.suffix_append start rest)
    hsuffix hshort.le
  obtain ⟨before, hbefore⟩ := hsuffix
  have hlast : before ++ shared = start := by
    rw [← hshared, ← List.append_assoc] at hbefore
    exact List.append_cancel_right hbefore
  cases shared with
  | nil =>
    rw [← hshared] at hshort
    exact absurd hshort (lt_irrefl _)
  | cons a shared =>
    obtain rfl : a = sep := by
      rw [← hshared] at hending
      exact Option.some.inj hending
    rw [← hshared, List.cons_append, List.tail_cons] at htail ⊢
    cases shared using List.reverseRecOn with
    | nil => rfl
    | append_singleton shared b _ =>
      -- the last letter that they share is the separator once more
      have hb : b = a := by
        rw [← hlast, ← List.cons_append, ← List.append_assoc, List.getLast?_concat] at hstart
        exact Option.some.inj hstart
      rw [hb] at htail
      exact absurd (List.mem_append_left _ (List.mem_append_right _ List.mem_cons_self)) htail

/-! ## Texts as numbers -/

/-- A text as a number, by which long lists of texts are compared. -/
def number (text : List UInt8) : ℕ := text.foldr (fun b n => b.toNat + 256 * n) 1

theorem number_pos (text : List UInt8) : 0 < number text := by
  cases text with
  | nil => exact Nat.one_pos
  | cons b text =>
    have hpos := number_pos text
    exact Nat.add_pos_right _ (Nat.mul_pos (by decide) hpos)

theorem number_injective : Function.Injective number := by
  intro text
  induction text with
  | nil =>
    intro other h
    cases other with
    | nil => rfl
    | cons b other =>
      have hpos := number_pos other
      have hone : 1 = b.toNat + 256 * number other := h
      omega
  | cons a text ih =>
    intro other h
    cases other with
    | nil =>
      have hpos := number_pos text
      have hone : a.toNat + 256 * number text = 1 := h
      omega
    | cons b other =>
      have hsum : a.toNat + 256 * number text = b.toNat + 256 * number other := h
      have ha := a.toNat_lt
      have hb := b.toNat_lt
      obtain rfl : a = b := UInt8.toNat_inj.mp (by omega)
      exact congrArg (a :: ·) (ih (by omega))

def numbered {β : Type} (entry : List UInt8 × β) : ℕ × β := (number entry.1, entry.2)

theorem numbered_injective {β : Type} : Function.Injective (numbered (β := β)) := by
  rintro ⟨p, b⟩ ⟨q, c⟩ h
  obtain ⟨hnumber, hsame⟩ := Prod.mk.inj h
  exact Prod.ext (number_injective hnumber) hsame

end Foundation
end MasterControl
