import MasterControl.Foundation.MachineIntegers
import Mathlib.Data.List.TakeWhile
import Mathlib.Data.Prod.Lex
import Mathlib.Order.Compare
import Mathlib.Data.String.Basic
import Mathlib.Order.WithBot

/-!
# Versions of modules

`SemVer` is three `int`s and a prerelease text.  `operator<=>` is the order of a lexicographic
product in which a missing prerelease text stands above all others (`compare_eq`), so it is a
total order of versions.  `fromString` reads numbers as an input stream does, with blanks and
signs; it reads back what `toString` has written exactly when no component is negative
(`fromString_toString_iff`).
-/

namespace MasterControl
namespace Modules

open Foundation

/-! ## Versions -/

/-- A value of the type `int`. -/
abbrev CInt : Type := {n : ℤ // IntRange.int32.Holds n}

structure SemVer where
  major : CInt
  minor : CInt
  patch : CInt
  prerelease : Option String := none
  deriving DecidableEq

/-- `operator<=>`. -/
def SemVer.compare (self other : SemVer) : Ordering :=
  if self.major ≠ other.major then Ord.compare self.major other.major
  else if self.minor ≠ other.minor then Ord.compare self.minor other.minor
  else if self.patch ≠ other.patch then Ord.compare self.patch other.patch
  else
    match self.prerelease, other.prerelease with
    | none, none => .eq
    | none, some _ => .gt
    | some _, none => .lt
    | some mine, some theirs =>
      if mine < theirs then .lt
      else if theirs < mine then .gt
      else .eq

/-- A missing prerelease text is above every text. -/
def rankPrerelease : Option String → WithTop String
  | none => ⊤
  | some prerelease => prerelease

/-- The components in the order of their weight. -/
def SemVer.rank (version : SemVer) : CInt ×ₗ CInt ×ₗ CInt ×ₗ WithTop String :=
  toLex (version.major, toLex (version.minor, toLex
    (version.patch, rankPrerelease version.prerelease)))

theorem rankPrerelease_inj {mine theirs : Option String}
    (h : rankPrerelease mine = rankPrerelease theirs) : mine = theirs := by
  cases mine with
  | none =>
    cases theirs with
    | none => rfl
    | some theirs => exact absurd h.symm (WithTop.coe_ne_top (a := theirs))
  | some mine =>
    cases theirs with
    | none => exact absurd h (WithTop.coe_ne_top (a := mine))
    | some theirs => rw [WithTop.coe_inj.mp h]

theorem SemVer.rank_inj {a b : SemVer} (h : a.rank = b.rank) : a = b := by
  obtain ⟨major, minor, patch, prerelease⟩ := a
  obtain ⟨major', minor', patch', prerelease'⟩ := b
  have hpair : major = major' ∧ _ = _ := Prod.mk.inj (toLex_inj.mp h)
  have hpair₂ : minor = minor' ∧ _ = _ := Prod.mk.inj (toLex_inj.mp hpair.2)
  have hpair₃ : patch = patch' ∧ rankPrerelease prerelease = rankPrerelease prerelease' :=
    Prod.mk.inj (toLex_inj.mp hpair₂.2)
  rw [hpair.1, hpair₂.1, hpair₃.1, rankPrerelease_inj hpair₃.2]

section Lexicographic

variable {α β : Type*} [LinearOrder α] [LinearOrder β]

/-- One component decides, or the rest does. -/
theorem compare_toLex (a a' : α) (b b' : β) :
    compare (toLex (a, b)) (toLex (a', b')) = if a ≠ a' then compare a a' else compare b b' := by
  by_cases h : a = a'
  · subst h
    rw [if_neg (not_not.mpr rfl)]
    rcases lt_trichotomy b b' with hb | rfl | hb
    · rw [compare_lt_iff_lt.mpr hb, compare_lt_iff_lt]
      exact Prod.Lex.toLex_lt_toLex.mpr (Or.inr ⟨rfl, hb⟩)
    · rw [compare_eq_iff_eq.mpr rfl, compare_eq_iff_eq.mpr rfl]
    · rw [compare_gt_iff_gt.mpr hb, compare_gt_iff_gt]
      exact Prod.Lex.toLex_lt_toLex.mpr (Or.inr ⟨rfl, hb⟩)
  · rw [if_pos h]
    rcases lt_or_gt_of_ne h with ha | ha
    · rw [compare_lt_iff_lt.mpr ha, compare_lt_iff_lt]
      exact Prod.Lex.toLex_lt_toLex.mpr (Or.inl ha)
    · rw [compare_gt_iff_gt.mpr ha, compare_gt_iff_gt]
      exact Prod.Lex.toLex_lt_toLex.mpr (Or.inl ha)

end Lexicographic

theorem compare_rankPrerelease (mine theirs : Option String) :
    compare (rankPrerelease mine) (rankPrerelease theirs) =
      match mine, theirs with
      | none, none => .eq
      | none, some _ => .gt
      | some _, none => .lt
      | some mine, some theirs =>
        if mine < theirs then .lt else if theirs < mine then .gt else .eq := by
  cases mine with
  | none =>
    cases theirs with
    | none => exact compare_eq_iff_eq.mpr rfl
    | some theirs => exact compare_gt_iff_gt.mpr (WithTop.coe_lt_top theirs)
  | some mine =>
    cases theirs with
    | none => exact compare_lt_iff_lt.mpr (WithTop.coe_lt_top mine)
    | some theirs =>
      dsimp only
      split_ifs with hlt hgt
      · exact compare_lt_iff_lt.mpr (WithTop.coe_lt_coe.mpr hlt)
      · exact compare_gt_iff_gt.mpr (WithTop.coe_lt_coe.mpr hgt)
      · have heq : mine = theirs := le_antisymm (not_lt.mp hgt) (not_lt.mp hlt)
        rw [heq]
        exact compare_eq_iff_eq.mpr rfl

/-- **The order of versions** compares component by component. -/
theorem SemVer.compare_eq (a b : SemVer) : a.compare b = Ord.compare a.rank b.rank := by
  rw [SemVer.rank, SemVer.rank, compare_toLex, compare_toLex, compare_toLex, compare_rankPrerelease]
  rfl

instance : LinearOrder SemVer := LinearOrder.lift' SemVer.rank fun _ _ => SemVer.rank_inj

theorem SemVer.compare_eq_lt_iff {a b : SemVer} : a.compare b = .lt ↔ a < b := by
  rw [SemVer.compare_eq, compare_lt_iff_lt]
  exact Iff.rfl

/-- **Versions are totally ordered**: only equal versions compare equal, the comparison can be
turned around, it is transitive, and a release is above its prereleases and below nothing with the
same numbers. -/
theorem SemVer.compare_laws (a b c : SemVer) :
    (a.compare b = .eq ↔ a = b) ∧
    b.compare a = (a.compare b).swap ∧
    (a.compare b ≠ .gt → b.compare c ≠ .gt → a.compare c ≠ .gt) ∧
    (a.major = b.major → a.minor = b.minor → a.patch = b.patch → a.prerelease = none →
      (a.compare b = .gt ↔ b.prerelease ≠ none)) := by
  simp only [SemVer.compare_eq]
  refine ⟨?_, ?_, ?_, ?_⟩
  · rw [compare_eq_iff_eq]
    exact ⟨SemVer.rank_inj, fun h => h ▸ rfl⟩
  · exact Std.OrientedOrd.eq_swap
  · intro hab hbc hac
    rw [compare_gt_iff_gt] at hac
    have hle : a.rank ≤ b.rank := not_lt.mp (mt compare_gt_iff_gt.mpr hab)
    have hle' : b.rank ≤ c.rank := not_lt.mp (mt compare_gt_iff_gt.mpr hbc)
    exact absurd hac (not_lt.mpr (hle.trans hle'))
  · intro hmajor hminor hpatch hrelease
    rw [SemVer.rank, SemVer.rank, compare_toLex, compare_toLex, compare_toLex, hmajor, hminor,
      hpatch, hrelease, compare_rankPrerelease]
    cases b.prerelease <;> simp

/-! ## Texts -/

/-- What a stream skips. -/
def isSpaceChar (c : Char) : Bool := c = ' ' || ('\t' ≤ c && c ≤ '\r')

/-- `std::to_string`, for an `int`. -/
def toStringInt (n : CInt) : List Char :=
  if n.1 < 0 then '-' :: Nat.toDigits 10 n.1.natAbs else Nat.toDigits 10 n.1.natAbs

/-- What stands in front of the prerelease text. -/
def SemVer.core (version : SemVer) : List Char :=
  toStringInt version.major ++ '.' :: (toStringInt version.minor ++ '.' ::
    toStringInt version.patch)

def SemVer.toString (version : SemVer) : String :=
  String.ofList (version.core ++
    match version.prerelease with
    | none => []
    | some prerelease => '-' :: prerelease.toList)

/-- `stream >> n` for an `int`: the number and what is left in the stream, unless it fails. -/
def readInt (stream : List Char) : Option (CInt × List Char) :=
  let text := stream.dropWhile isSpaceChar
  let negative := text.head? = some '-'
  let text := if negative || text.head? = some '+' then text.tail else text
  let digits := text.takeWhile Char.isDigit
  let size := Nat.ofDigitChars 10 digits 0
  let value : ℤ := if negative then -size else size
  if digits = [] then none
  else if h : IntRange.int32.Holds value then some (⟨value, h⟩, text.dropWhile Char.isDigit)
  else none

/-- `stream >> c`, and `c` is a dot: what is left in the stream. -/
def readDot (stream : List Char) : Option (List Char) :=
  match stream.dropWhile isSpaceChar with
  | [] => none
  | c :: stream => if c = '.' then some stream else none

/-- The numbers with their dots, and nothing behind them. -/
def readNumbers (working : List Char) : Option (CInt × CInt × CInt) := do
  let (major, stream) ← readInt working
  let stream ← readDot stream
  let (minor, stream) ← readInt stream
  let stream ← readDot stream
  let (patch, stream) ← readInt stream
  if stream.dropWhile isSpaceChar = [] then some (major, minor, patch) else none

/-- The first hyphen splits off the prerelease text. -/
def SemVer.fromString (versionString : String) : Option SemVer :=
  if versionString = "" then none
  else
    let text := versionString.toList
    (readNumbers (text.takeWhile fun c => c ≠ '-')).map fun (major, minor, patch) =>
      ⟨major, minor, patch, (text.dropWhile fun c => c ≠ '-').tail?.map String.ofList⟩

/-! ## What is written is read back -/

section RoundTrip

variable {n : CInt} {stream working rest : List Char}

/-- A digit is neither a blank nor a sign. -/
theorem not_space_of_isDigit {c : Char} (h : c.isDigit = true) :
    isSpaceChar c = false ∧ c ≠ '-' ∧ c ≠ '+' := by
  have hlow : '0' ≤ c := by
    simp only [Char.isDigit, Bool.and_eq_true, decide_eq_true_eq] at h
    exact h.1
  have hnot : ∀ d : Char, d < '0' → c ≠ d := fun d hd heq => absurd hlow (not_le.mpr (heq ▸ hd))
  refine ⟨?_, hnot '-' (by decide), hnot '+' (by decide)⟩
  have hblank : ¬ c ≤ '\r' := fun hle => absurd (hlow.trans hle) (by decide)
  simp [isSpaceChar, hnot ' ' (by decide), hblank]

theorem isDigit_of_mem {n : ℕ} {c : Char} (h : c ∈ Nat.toDigits 10 n) : c.isDigit = true :=
  Nat.isDigit_of_mem_toDigits (by decide) le_rfl h

theorem toStringInt_of_nonneg (hn : 0 ≤ n.1) : toStringInt n = Nat.toDigits 10 n.1.natAbs :=
  if_neg (not_lt.mpr hn)

/-- The number in front of something that is no digit. -/
theorem readInt_toStringInt (hn : 0 ≤ n.1) {rest : List Char}
    (hrest : ∀ b ∈ rest.head?, b.isDigit = false) :
    readInt (toStringInt n ++ rest) = some (n, rest) := by
  rw [toStringInt_of_nonneg hn]
  have hall : ∀ b ∈ Nat.toDigits 10 n.1.natAbs, b.isDigit = true :=
    fun b hb => isDigit_of_mem hb
  obtain ⟨b, front, heq⟩ := List.exists_cons_of_ne_nil (Nat.toDigits_ne_nil (b := 10) (n := n.1.natAbs))
  have hvalue : ((Nat.ofDigitChars 10 (b :: front) 0 : ℕ) : ℤ) = n.1 := by
    rw [← heq, Nat.ofDigitChars_ten_toDigits, Int.natAbs_of_nonneg hn]
  rw [heq] at hall ⊢
  obtain ⟨hspace, hminus, hplus⟩ := not_space_of_isDigit (hall b List.mem_cons_self)
  have hskip : ((b :: front) ++ rest).dropWhile isSpaceChar = (b :: front) ++ rest := by
    rw [List.cons_append, List.dropWhile_cons_of_neg (by simp [hspace])]
  have hhead : ∀ c, b ≠ c → ((b :: front) ++ rest).head? ≠ some c := fun c hc hsome =>
    hc (Option.some.inj hsome)
  have htake : ((b :: front) ++ rest).takeWhile Char.isDigit = b :: front := by
    rw [List.takeWhile_append_of_pos hall]
    cases rest with
    | nil => exact List.append_nil _
    | cons c rest => rw [List.takeWhile_cons_of_neg (by simp [hrest c rfl]), List.append_nil]
  have hdrop : ((b :: front) ++ rest).dropWhile Char.isDigit = rest := by
    rw [List.dropWhile_append_of_pos hall]
    cases rest with
    | nil => rfl
    | cons c rest => rw [List.dropWhile_cons_of_neg (by simp [hrest c rfl])]
  simp only [readInt, hskip, hhead '-' hminus, hhead '+' hplus, decide_false, Bool.or_self,
    Bool.false_eq_true, if_false, htake, hdrop, hvalue, n.2, dif_pos]
  rfl

/-- Without a sign in the text the number is not negative. -/
theorem nonneg_of_readInt (h : readInt stream = some (n, rest)) (hsign : '-' ∉ stream) :
    0 ≤ n.1 ∧ '-' ∉ rest := by
  have hskip : '-' ∉ stream.dropWhile isSpaceChar := fun hmem =>
    hsign ((List.dropWhile_sublist _).subset hmem)
  have hhead : (stream.dropWhile isSpaceChar).head? ≠ some '-' := fun hsome =>
    hskip (List.mem_of_mem_head? hsome)
  simp only [readInt, hhead, decide_false, Bool.false_or, if_false] at h
  split_ifs at h <;> try cases h
  · refine ⟨Int.natCast_nonneg _, fun hmem => hskip ?_⟩
    exact List.mem_of_mem_tail ((List.dropWhile_sublist _).subset hmem)
  · exact ⟨Int.natCast_nonneg _, fun hmem => hskip ((List.dropWhile_sublist _).subset hmem)⟩

@[simp] theorem readDot_cons (stream : List Char) : readDot ('.' :: stream) = some stream := rfl

theorem notMem_of_readDot (h : readDot stream = some rest) (hsign : '-' ∉ stream) :
    '-' ∉ rest := by
  intro hmem
  rw [readDot] at h
  split at h
  · cases h
  · rename_i c text htext
    split_ifs at h with hc
    cases h
    refine hsign ((List.dropWhile_sublist isSpaceChar).subset ?_)
    rw [htext]
    exact List.mem_cons_of_mem _ hmem

theorem readNumbers_eq_some {major minor patch : CInt}
    (h : readNumbers working = some (major, minor, patch)) (hsign : '-' ∉ working) :
    0 ≤ major.1 ∧ 0 ≤ minor.1 ∧ 0 ≤ patch.1 := by
  obtain ⟨⟨major', stream₁⟩, hmajor, h⟩ := Option.bind_eq_some_iff.mp h
  obtain ⟨stream₂, hdot, h⟩ := Option.bind_eq_some_iff.mp h
  obtain ⟨⟨minor', stream₃⟩, hminor, h⟩ := Option.bind_eq_some_iff.mp h
  obtain ⟨stream₄, hdot', h⟩ := Option.bind_eq_some_iff.mp h
  obtain ⟨⟨patch', stream₅⟩, hpatch, h⟩ := Option.bind_eq_some_iff.mp h
  dsimp only at h hdot hminor hdot' hpatch
  split_ifs at h
  cases h
  have h₁ := nonneg_of_readInt hmajor hsign
  have h₂ := nonneg_of_readInt hminor (notMem_of_readDot hdot h₁.2)
  have h₃ := nonneg_of_readInt hpatch (notMem_of_readDot hdot' h₂.2)
  exact ⟨h₁.1, h₂.1, h₃.1⟩

theorem SemVer.nonneg_of_fromString {text : String} {version : SemVer}
    (h : SemVer.fromString text = some version) :
    0 ≤ version.major.1 ∧ 0 ≤ version.minor.1 ∧ 0 ≤ version.patch.1 := by
  rw [SemVer.fromString] at h
  split_ifs at h
  obtain ⟨⟨major, minor, patch⟩, hnumbers, rfl⟩ := Option.map_eq_some_iff.mp h
  refine readNumbers_eq_some hnumbers fun hmem => ?_
  simpa using List.mem_takeWhile_imp hmem

theorem readNumbers_core {version : SemVer} (hmajor : 0 ≤ version.major.1)
    (hminor : 0 ≤ version.minor.1) (hpatch : 0 ≤ version.patch.1) :
    readNumbers version.core = some (version.major, version.minor, version.patch) := by
  have hdot : ∀ rest : List Char, ∀ b ∈ ('.' :: rest).head?, b.isDigit = false := by
    rintro rest b hb
    cases hb
    rfl
  have hlast : readInt (toStringInt version.patch) = some (version.patch, []) := by
    have h : readInt (toStringInt version.patch ++ []) = some (version.patch, []) :=
      readInt_toStringInt hpatch (by simp)
    rwa [List.append_nil] at h
  rw [readNumbers, SemVer.core, readInt_toStringInt hmajor (hdot _)]
  dsimp only [Option.bind_eq_bind, Option.bind_some]
  rw [readDot_cons]
  dsimp only [Option.bind_some]
  rw [readInt_toStringInt hminor (hdot _)]
  dsimp only [Option.bind_some]
  rw [readDot_cons]
  dsimp only [Option.bind_some]
  rw [hlast]
  rfl

theorem notMem_core {version : SemVer} (hmajor : 0 ≤ version.major.1)
    (hminor : 0 ≤ version.minor.1) (hpatch : 0 ≤ version.patch.1) :
    '-' ∉ version.core := by
  have hnumber : ∀ n : CInt, 0 ≤ n.1 → '-' ∉ toStringInt n := by
    intro n hn hmem
    rw [toStringInt_of_nonneg hn] at hmem
    have hdigit : Char.isDigit '-' = true := isDigit_of_mem hmem
    cases hdigit
  simp [SemVer.core, hnumber _ hmajor, hnumber _ hminor, hnumber _ hpatch]

theorem SemVer.fromString_toString {version : SemVer} (hmajor : 0 ≤ version.major.1)
    (hminor : 0 ≤ version.minor.1) (hpatch : 0 ≤ version.patch.1) :
    SemVer.fromString version.toString = some version := by
  have hcore : ∀ c ∈ version.core, decide (c ≠ '-') = true := fun c hc =>
    decide_eq_true fun heq => notMem_core hmajor hminor hpatch (heq ▸ hc)
  have hnumbers := readNumbers_core hmajor hminor hpatch
  have hne : version.toString ≠ "" := by
    rw [SemVer.toString, Ne, String.ofList_eq_empty_iff]
    simp [SemVer.core]
  rw [SemVer.fromString, if_neg hne, SemVer.toString, String.toList_ofList]
  dsimp only
  rw [List.takeWhile_append_of_pos hcore, List.dropWhile_append_of_pos hcore]
  obtain ⟨major, minor, patch, prerelease⟩ := version
  cases prerelease with
  | none =>
    dsimp only
    rw [List.takeWhile_nil, List.append_nil, hnumbers]
    rfl
  | some prerelease =>
    dsimp only
    rw [List.takeWhile_cons_of_neg (by simp), List.append_nil, hnumbers,
      List.dropWhile_cons_of_neg (by simp), List.tail?_cons, Option.map_some, Option.map_some,
      String.ofList_toList]

end RoundTrip

/-- **Versions as texts.** A version is read from some text exactly when no component is negative,
and then from the one that `toString` writes. -/
theorem SemVer.fromString_toString_iff (version : SemVer) :
    (SemVer.fromString version.toString = some version ↔
      ∃ text, SemVer.fromString text = some version) ∧
    (SemVer.fromString version.toString = some version ↔
      0 ≤ version.major.1 ∧ 0 ≤ version.minor.1 ∧ 0 ≤ version.patch.1) := by
  have hback : 0 ≤ version.major.1 ∧ 0 ≤ version.minor.1 ∧ 0 ≤ version.patch.1 →
      SemVer.fromString version.toString = some version := fun h =>
    SemVer.fromString_toString h.1 h.2.1 h.2.2
  refine ⟨⟨fun h => ⟨_, h⟩, ?_⟩, SemVer.nonneg_of_fromString, hback⟩
  rintro ⟨text, h⟩
  exact hback (SemVer.nonneg_of_fromString h)

end Modules
end MasterControl
