import MasterControl.Foundation.Separators
import Mathlib.Data.List.Basic

/-!
# The first line that passes a test

A stream is a list of letters, and a line of it is what stands before a newline.  A reader
that looks for the first line that passes a test takes it, and every line before it, off
the front of the stream (`FirstMatch`), or takes lines that fail the test and keeps the
rest (`Skips`).  What is taken is determined by the stream alone (`FirstMatch.unique`), so
it does not matter in which pieces the stream arrived: `FirstMatch.append` puts later
pieces behind, `Skips.firstMatch` puts lines that were skipped before in front.

`scanLines` is such a reader over a buffer: it counts the letters to drop.
-/

namespace MasterControl
namespace Foundation

universe u

variable {α : Type u} {nl : α} {p : List α → Bool} {s t line rest : List α}

/-! ## Streams of lines -/

/-- Lines, each with its newline. -/
def joinLines (nl : α) : List (List α) → List α
  | [] => []
  | line :: lines => line ++ nl :: joinLines nl lines

theorem joinLines_append (nl : α) (as bs : List (List α)) :
    joinLines nl (as ++ bs) = joinLines nl as ++ joinLines nl bs := by
  induction as with
  | nil => rfl
  | cons line lines ih => simp [joinLines, ih]

/-- Complete lines that fail a test. -/
def Fails (nl : α) (p : List α → Bool) (lines : List (List α)) : Prop :=
  ∀ line ∈ lines, nl ∉ line ∧ p line = false

/-- The first line that passes the test, and what stands behind it. -/
def FirstMatch (nl : α) (p : List α → Bool) (s line rest : List α) : Prop :=
  ∃ skipped, Fails nl p skipped ∧ nl ∉ line ∧ p line = true ∧
    s = joinLines nl skipped ++ (line ++ nl :: rest)

/-- The lines in front of the rest all fail the test. -/
def Skips (nl : α) (p : List α → Bool) (s rest : List α) : Prop :=
  ∃ skipped, Fails nl p skipped ∧ s = joinLines nl skipped ++ rest

theorem fails_nil (nl : α) (p : List α → Bool) : Fails nl p [] := fun _ h => (by cases h)

theorem Fails.append {as bs : List (List α)} (ha : Fails nl p as) (hb : Fails nl p bs) :
    Fails nl p (as ++ bs) := by
  intro line hline
  rcases List.mem_append.mp hline with h | h
  · exact ha line h
  · exact hb line h

theorem skips_refl (nl : α) (p : List α → Bool) (s : List α) : Skips nl p s s :=
  ⟨[], fails_nil nl p, rfl⟩

theorem Skips.trans (hst : Skips nl p s t) (htr : Skips nl p t rest) : Skips nl p s rest := by
  obtain ⟨as, has, rfl⟩ := hst
  obtain ⟨bs, hbs, rfl⟩ := htr
  exact ⟨as ++ bs, has.append hbs, by rw [joinLines_append, List.append_assoc]⟩

/-- Lines skipped before do not change the first match. -/
theorem Skips.firstMatch (hst : Skips nl p s t) (h : FirstMatch nl p t line rest) :
    FirstMatch nl p s line rest := by
  obtain ⟨as, has, rfl⟩ := hst
  obtain ⟨bs, hbs, hline, hp, rfl⟩ := h
  exact ⟨as ++ bs, has.append hbs, hline, hp, by rw [joinLines_append, List.append_assoc]⟩

theorem Skips.append (h : Skips nl p s rest) (u : List α) : Skips nl p (s ++ u) (rest ++ u) := by
  obtain ⟨as, has, rfl⟩ := h
  exact ⟨as, has, by rw [List.append_assoc]⟩

theorem FirstMatch.passes (h : FirstMatch nl p s line rest) : p line = true := by
  obtain ⟨-, -, -, hp, -⟩ := h
  exact hp

/-- What arrives later does not change the first match. -/
theorem FirstMatch.append (h : FirstMatch nl p s line rest) (u : List α) :
    FirstMatch nl p (s ++ u) line (rest ++ u) := by
  obtain ⟨as, has, hline, hp, rfl⟩ := h
  exact ⟨as, has, hline, hp, by simp⟩

/-- **The stream determines the first match**, and what is left of it. -/
theorem FirstMatch.unique {line' rest' : List α} (h : FirstMatch nl p s line rest)
    (h' : FirstMatch nl p s line' rest') : line = line' ∧ rest = rest' := by
  obtain ⟨as, has, hline, hp, rfl⟩ := h
  obtain ⟨bs, hbs, hline', hp', heq⟩ := h'
  induction as generalizing bs with
  | nil =>
    cases bs with
    | nil => exact append_cons_inj_left hline hline' heq
    | cons b bs =>
      -- the second reader skipped the line that the first one took
      simp only [joinLines, List.nil_append, List.append_assoc, List.cons_append] at heq
      obtain ⟨hnl, hfails⟩ := hbs b List.mem_cons_self
      obtain ⟨rfl, -⟩ := append_cons_inj_left hline hnl heq
      rw [hp] at hfails
      cases hfails
  | cons a as ih =>
    obtain ⟨hnl, hfails⟩ := has a List.mem_cons_self
    cases bs with
    | nil =>
      simp only [joinLines, List.nil_append, List.append_assoc, List.cons_append] at heq
      obtain ⟨rfl, -⟩ := append_cons_inj_left hnl hline' heq
      rw [hp'] at hfails
      cases hfails
    | cons b bs =>
      simp only [joinLines, List.append_assoc, List.cons_append] at heq
      obtain ⟨-, htail⟩ := append_cons_inj_left hnl (hbs b List.mem_cons_self).1 heq
      exact ih (fun l hl => has l (List.mem_cons_of_mem _ hl)) bs
        (fun l hl => hbs l (List.mem_cons_of_mem _ hl)) htail

/-! ## Scanning a buffer -/

/-- Complete lines go off the front of the stream, among them the given ones, in order. -/
def Takes (nl : α) (s : List α) (lines : List (List α)) (rest : List α) : Prop :=
  ∃ taken, (∀ line ∈ taken, nl ∉ line) ∧ lines.Sublist taken ∧ s = joinLines nl taken ++ rest

theorem takes_nil (nl : α) (s : List α) : Takes nl s [] s :=
  ⟨[], fun _ h => (by cases h), List.Sublist.slnil, rfl⟩

/-- Fewer of the lines that go may be named. -/
theorem Takes.drop {lines : List (List α)} (h : Takes nl s lines rest) : Takes nl s [] rest := by
  obtain ⟨taken, htaken, -, hs⟩ := h
  exact ⟨taken, htaken, List.nil_sublist taken, hs⟩

theorem Takes.trans {as bs : List (List α)} (hst : Takes nl s as t) (htr : Takes nl t bs rest) :
    Takes nl s (as ++ bs) rest := by
  obtain ⟨xs, hxs, has, rfl⟩ := hst
  obtain ⟨ys, hys, hbs, rfl⟩ := htr
  refine ⟨xs ++ ys, fun line hline => ?_, has.append hbs, ?_⟩
  · rcases List.mem_append.mp hline with h | h
    · exact hxs line h
    · exact hys line h
  · rw [joinLines_append, List.append_assoc]

theorem Skips.takes (h : Skips nl p s rest) : Takes nl s [] rest := by
  obtain ⟨as, has, rfl⟩ := h
  exact ⟨as, fun line hline => (has line hline).1, List.nil_sublist as, rfl⟩

theorem FirstMatch.takes (h : FirstMatch nl p s line rest) : Takes nl s [line] rest := by
  obtain ⟨as, has, hline, -, rfl⟩ := h
  refine ⟨as ++ [line], fun l hl => ?_, List.sublist_append_right as [line], ?_⟩
  · rcases List.mem_append.mp hl with hl | hl
    · exact (has l hl).1
    · obtain rfl := List.mem_singleton.mp hl
      exact hline
  · simp [joinLines_append, joinLines]

/-- What a scan of `s` finds that has dropped `k` letters before. -/
def ScanResult (nl : α) (p : List α → Bool) (k : ℕ) (s : List α) (found : ℕ × Option (List α)) :
    Prop :=
  ∃ taken rest, s = taken ++ rest ∧ found.1 = k + taken.length ∧
    match found.2 with
    | some line => FirstMatch nl p s line rest
    | none => Skips nl p s rest

/-- A scan goes on behind a line that fails. -/
theorem ScanResult.behind {k : ℕ} {found : ℕ × Option (List α)} (hline : nl ∉ line)
    (hfails : p line = false) (h : ScanResult nl p (k + line.length + 1) s found) :
    ScanResult nl p k (line ++ nl :: s) found := by
  obtain ⟨taken, rest, hs, hcount, hfound⟩ := h
  have hskips : Skips nl p (line ++ nl :: s) s := by
    refine ⟨[line], fun l hl => ?_, by simp [joinLines]⟩
    obtain rfl := List.mem_singleton.mp hl
    exact ⟨hline, hfails⟩
  refine ⟨line ++ nl :: taken, rest, by simp [hs], ?_, ?_⟩
  · rw [hcount, List.length_append, List.length_cons]
    omega
  · obtain ⟨count, matched⟩ := found
    cases matched with
    | none => exact hskips.trans hfound
    | some l => exact hskips.firstMatch hfound

section Scan

variable [DecidableEq α]

/-- The scan, with the letters of the current line, the position, and how many letters may
be dropped so far. -/
def scanFrom (nl : α) (p : List α → Bool) (line : List α) (pos consumedThrough : ℕ) :
    List α → ℕ × Option (List α)
  | [] => (consumedThrough, none)
  | a :: s =>
    if a = nl then
      if p line then (pos + 1, some line) else scanFrom nl p [] (pos + 1) (pos + 1) s
    else scanFrom nl p (line ++ [a]) (pos + 1) consumedThrough s

/-- How many letters of the buffer may be dropped, and the first line that passes. -/
def scanLines (nl : α) (p : List α → Bool) (s : List α) : ℕ × Option (List α) :=
  scanFrom nl p [] 0 0 s

/-- **What a scan finds**, by induction on the letters to come. -/
theorem scanFrom_result {k : ℕ} (hline : nl ∉ line) :
    ScanResult nl p k (line ++ s) (scanFrom nl p line (k + line.length) k s) := by
  induction s generalizing line k with
  | nil =>
    rw [List.append_nil]
    exact ⟨[], line, rfl, rfl, skips_refl nl p line⟩
  | cons a s ih =>
    unfold scanFrom
    split_ifs with ha hp
    · subst ha
      refine ⟨line ++ [a], s, by simp, ?_, [], fails_nil a p, hline, hp, rfl⟩
      rw [List.length_append]
      rfl
    · subst ha
      exact ScanResult.behind hline (by simpa using hp) (ih (k := k + line.length + 1)
        List.not_mem_nil)
    · have hlonger : nl ∉ line ++ [a] := by
        simp [hline, Ne.symm ha]
      have hrest := ih (k := k) hlonger
      rw [List.length_append, List.append_assoc] at hrest
      exact hrest

theorem scanLines_some {n : ℕ} (h : scanLines nl p s = (n, some line)) :
    FirstMatch nl p s line (s.drop n) := by
  have hresult : ScanResult nl p 0 s (scanLines nl p s) := scanFrom_result List.not_mem_nil
  rw [h] at hresult
  obtain ⟨taken, rest, rfl, hcount, hfound⟩ := hresult
  rw [Nat.zero_add] at hcount
  rwa [show n = taken.length from hcount, List.drop_left]

theorem scanLines_none {n : ℕ} (h : scanLines nl p s = (n, none)) : Skips nl p s (s.drop n) := by
  have hresult : ScanResult nl p 0 s (scanLines nl p s) := scanFrom_result List.not_mem_nil
  rw [h] at hresult
  obtain ⟨taken, rest, rfl, hcount, hfound⟩ := hresult
  rw [Nat.zero_add] at hcount
  rwa [show n = taken.length from hcount, List.drop_left]

end Scan

/-! ## The lines of a file -/

section Files

/-- A file that is empty or ends with a newline. -/
def Terminated (nl : α) (s : List α) : Prop := s = [] ∨ s.getLast? = some nl

theorem terminated_line (line : List α) : Terminated nl (line ++ [nl]) :=
  Or.inr List.getLast?_concat

theorem Terminated.append (hs : Terminated nl s) (ht : Terminated nl t) :
    Terminated nl (s ++ t) := by
  rcases ht with rfl | ht
  · rwa [List.append_nil]
  · refine Or.inr ?_
    rw [List.getLast?_append, ht]
    rfl

variable [DecidableEq α]

/-- The lines of a file that are not empty; the last one may lack its newline. -/
def nonemptyLines (nl : α) (s : List α) : List (List α) := (s.splitOn nl).filter (· ≠ [])

instance (nl : α) (s : List α) : Decidable (Terminated nl s) :=
  inferInstanceAs (Decidable (_ ∨ _))

@[simp] theorem nonemptyLines_nil (nl : α) : nonemptyLines nl [] = [] := by
  rw [nonemptyLines, List.splitOn_nil]
  rfl

theorem nonemptyLines_concat (nl : α) (s : List α) :
    nonemptyLines nl (s ++ [nl]) = nonemptyLines nl s := by
  rw [nonemptyLines, List.splitOn_append_cons_self, List.filter_append, List.splitOn_nil]
  exact List.append_nil _

theorem nonemptyLines_append (h : Terminated nl s) (t : List α) :
    nonemptyLines nl (s ++ t) = nonemptyLines nl s ++ nonemptyLines nl t := by
  rcases h with rfl | h
  · rw [List.nil_append, nonemptyLines_nil, List.nil_append]
  · obtain ⟨front, rfl⟩ := List.getLast?_eq_some_iff.mp h
    rw [nonemptyLines_concat, List.append_assoc, List.singleton_append, nonemptyLines,
      List.splitOn_append_cons_self, List.filter_append]
    rfl

omit [DecidableEq α] in
theorem infix_intercalate {lines : List (List α)} (nl : α) (h : line ∈ lines) :
    line <:+: [nl].intercalate lines := by
  induction lines with
  | nil => cases h
  | cons first lines ih =>
    cases lines with
    | nil =>
      obtain rfl := List.mem_singleton.mp h
      exact ⟨[], [], by simp⟩
    | cons second lines =>
      rw [List.intercalate_cons_cons]
      rcases List.mem_cons.mp h with rfl | hmem
      · exact ⟨[], [nl] ++ [nl].intercalate (second :: lines), by simp⟩
      · exact (ih hmem).trans (List.suffix_append _ _).isInfix

/-- A line stands in the text it is from. -/
theorem infix_of_mem_nonemptyLines (h : line ∈ nonemptyLines nl s) : line <:+: s := by
  have hmem : line ∈ s.splitOn nl := List.mem_of_mem_filter h
  have hinfix := infix_intercalate nl hmem
  rwa [List.intercalate_splitOn] at hinfix

/-- A file of one line without a newline. -/
theorem nonemptyLines_of_not_mem (hline : nl ∉ line) (hne : line ≠ []) :
    nonemptyLines nl line = [line] := by
  rw [nonemptyLines, List.splitOn_eq_singleton hline]
  exact List.filter_cons_of_pos (decide_eq_true hne)

theorem nonemptyLines_line (hline : nl ∉ line) (hne : line ≠ []) :
    nonemptyLines nl (line ++ [nl]) = [line] := by
  rw [nonemptyLines, List.splitOn_append_cons_self, List.splitOn_nil,
    List.splitOn_eq_singleton hline]
  simp [hne]

end Files

end Foundation
end MasterControl
