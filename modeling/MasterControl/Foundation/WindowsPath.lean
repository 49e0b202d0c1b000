import MasterControl.Foundation.Lines
import MasterControl.Foundation.Uri
import Mathlib.Data.List.Infix

/-!
# Paths on Windows

A path is a text; both slashes separate its parts.  It may start with a root name: a drive
letter and a colon, `\\?`, `\\.` or `\??`, or two separators and a server.  `join` is
`operator/`, and `lexicallyNormal` resolves `.` and `..` without looking at the disk.

`Confined t` says that a text names no root and never climbs above where it starts.  Such a
text stays inside every directory it is joined to (`inside_join`), and any other one leaves
some directory: a root of its own wins over the directory (`join_of_rooted`,
`rootName_join_of_drive`), and one that climbs drops a name of the directory
(`not_mem_walk`).
-/

namespace MasterControl
namespace Foundation

/-! ## Parts of a path -/

def isSlash (b : UInt8) : Bool := b = 47 || b = 92

def startsWithSlash : Bytes → Bool
  | [] => false
  | b :: _ => isSlash b

/-- `X:`. -/
def hasDriveLetter : Bytes → Bool
  | a :: b :: _ => isAlphaByte a && b = 58
  | _ => false

/-- `\\?\`, `\\.\` or `\??\`, with no further separator behind. -/
def hasDeviceRoot : Bytes → Bool
  | a :: b :: c :: d :: rest =>
    isSlash a && isSlash d && !startsWithSlash rest &&
      ((isSlash b && (c = 63 || c = 46)) || (b = 63 && c = 63))
  | _ => false

/-- `\\server`. -/
def hasServerRoot : Bytes → Bool
  | a :: b :: c :: _ => isSlash a && isSlash b && !isSlash c
  | _ => false

/-- Where the root name ends. -/
def rootNameEnd (p : Bytes) : Nat :=
  if hasDriveLetter p then 2
  else if hasDeviceRoot p then 3
  else if hasServerRoot p then 3 + ((p.drop 3).takeWhile fun b => !isSlash b).length
  else 0

def rootName (p : Bytes) : Bytes := p.take (rootNameEnd p)

/-- `is_absolute`. -/
def isAbsolute (p : Bytes) : Bool :=
  if hasDriveLetter p then startsWithSlash (p.drop 2) else 0 < rootNameEnd p

/-- `operator/`. -/
def join (left right : Bytes) : Bytes :=
  if isAbsolute right || (rootName right ≠ [] && rootName right ≠ rootName left) then right
  else
    let relative := right.drop (rootNameEnd right)
    if startsWithSlash relative then rootName left ++ relative
    else if rootNameEnd left = left.length then
      (if 3 ≤ left.length then left ++ [92] else left) ++ relative
    else if left.getLast?.any isSlash then left ++ relative
    else left ++ 92 :: relative

/-! ## Resolving -/

/-- With the separator of the system. -/
def preferred (p : Bytes) : Bytes := p.map fun b => if isSlash b then 92 else b

/-- The parts between separators. -/
def segments (p : Bytes) : List Bytes := nonemptyLines 92 (preferred p)

/-- Resolve `.` and `..` behind some names; at a root `..` stays there. -/
def walk (names : List Bytes) : List Bytes → List Bytes
  | [] => names
  | segment :: rest =>
    if segment = [46] then walk names rest
    else if segment = [46, 46] then walk names.dropLast rest
    else walk (names ++ [segment]) rest

theorem walk_cons (names : List Bytes) (segment : Bytes) (rest : List Bytes) :
    walk names (segment :: rest) =
      if segment = [46] then walk names rest
      else if segment = [46, 46] then walk names.dropLast rest
      else walk (names ++ [segment]) rest := rfl

/-- An absolute path that is resolved. -/
structure NormalPath where
  rootName : Bytes
  names : List Bytes
deriving DecidableEq

/-- `lexically_normal` of a path with a root directory; none of another one. -/
def lexicallyNormal (p : Bytes) : Option NormalPath :=
  if startsWithSlash (p.drop (rootNameEnd p)) then
    some ⟨preferred (rootName p), walk [] (segments (p.drop (rootNameEnd p)))⟩
  else none

/-- The resolved path is a directory's or lies in it. -/
def Inside (directory p : Bytes) : Prop :=
  ∃ normal, lexicallyNormal p = some normal ∧
    normal.rootName = preferred (rootName directory) ∧
    walk [] (segments (directory.drop (rootNameEnd directory))) <+: normal.names

/-! ## Texts that stay inside -/

/-- Whether the segments never climb more than some levels. -/
def staysWithin : Nat → List Bytes → Bool
  | _, [] => true
  | depth, segment :: rest =>
    if segment = [46] then staysWithin depth rest
    else if segment = [46, 46] then 0 < depth && staysWithin (depth - 1) rest
    else staysWithin (depth + 1) rest

/-- No root name, no root directory, and no step above where it starts. -/
def Confined (p : Bytes) : Prop :=
  rootNameEnd p = 0 ∧ startsWithSlash p = false ∧ staysWithin 0 (segments p) = true

instance (p : Bytes) : Decidable (Confined p) := inferInstanceAs (Decidable (_ ∧ _ ∧ _))

section Walk

variable {base names segs : List Bytes} {fresh : Bytes}

/-- Segments that do not climb out leave the names below them alone. -/
theorem walk_append (base : List Bytes) (h : staysWithin names.length segs = true) :
    walk (base ++ names) segs = base ++ walk names segs := by
  induction segs generalizing names with
  | nil => rfl
  | cons segment rest ih =>
    rw [staysWithin] at h
    rw [walk_cons, walk_cons]
    split_ifs at h ⊢ with hdot hdots
    · exact ih h
    · rcases List.eq_nil_or_concat names with rfl | ⟨front, last, rfl⟩
      · cases h
      · rw [List.concat_eq_append] at h ⊢
        rw [List.length_append, List.length_singleton, Bool.and_eq_true] at h
        rw [← List.append_assoc, List.dropLast_concat, List.dropLast_concat]
        exact ih h.2
    · rw [List.append_assoc]
      refine ih ?_
      rwa [List.length_append, List.length_singleton]

theorem not_mem_walk_of_not_mem (hnames : fresh ∉ names) (hsegs : fresh ∉ segs) :
    fresh ∉ walk names segs := by
  induction segs generalizing names with
  | nil => exact hnames
  | cons segment rest ih =>
    rw [List.mem_cons, not_or] at hsegs
    rw [walk_cons]
    split_ifs
    · exact ih hnames hsegs.2
    · exact ih (fun h => hnames (List.mem_of_mem_dropLast h)) hsegs.2
    · refine ih (fun h => ?_) hsegs.2
      rcases List.mem_append.mp h with h | h
      · exact hnames h
      · exact hsegs.1 (List.mem_singleton.mp h)

/-- **Segments that climb out drop the name they started from.** -/
theorem not_mem_walk (hclimbs : staysWithin names.length segs = false) (hnames : fresh ∉ names)
    (hsegs : fresh ∉ segs) : fresh ∉ walk (fresh :: names) segs := by
  induction segs generalizing names with
  | nil => cases hclimbs
  | cons segment rest ih =>
    rw [List.mem_cons, not_or] at hsegs
    rw [staysWithin] at hclimbs
    rw [walk_cons]
    split_ifs at hclimbs ⊢ with hdot hdots
    · exact ih hclimbs hnames hsegs.2
    · rcases List.eq_nil_or_concat names with rfl | ⟨front, last, rfl⟩
      · -- here the step goes above the start
        exact not_mem_walk_of_not_mem List.not_mem_nil hsegs.2
      · rw [List.concat_eq_append] at hclimbs hnames ⊢
        rw [List.length_append, List.length_singleton, decide_eq_true (Nat.succ_pos _),
          Bool.true_and] at hclimbs
        rw [← List.cons_append, List.dropLast_concat]
        exact ih hclimbs (fun h => hnames (List.mem_append_left _ h)) hsegs.2
    · rw [List.cons_append]
      refine ih ?_ (fun h => ?_) hsegs.2
      · rwa [List.length_append, List.length_singleton]
      · rcases List.mem_append.mp h with h | h
        · exact hnames h
        · exact hsegs.1 (List.mem_singleton.mp h)

theorem walk_segments (names : List Bytes) (a b : List Bytes) :
    walk names (a ++ b) = walk (walk names a) b := by
  induction a generalizing names with
  | nil => rfl
  | cons segment a ih =>
    rw [List.cons_append, walk, walk]
    split_ifs <;> exact ih _

end Walk

/-! ## Joining -/

section Join

variable {p t x : Bytes}

theorem hasDriveLetter_append (h : 2 ≤ p.length) :
    hasDriveLetter (p ++ x) = hasDriveLetter p := by
  rcases p with _ | ⟨a, _ | ⟨b, rest⟩⟩
  · cases h
  · exact absurd h (Nat.lt_irrefl 1)
  · rfl

theorem hasServerRoot_append (h : 3 ≤ p.length) : hasServerRoot (p ++ x) = hasServerRoot p := by
  rcases p with _ | ⟨a, _ | ⟨b, _ | ⟨c, rest⟩⟩⟩
  · cases h
  · exact absurd h (show ¬ 3 ≤ 1 by decide)
  · exact absurd h (show ¬ 3 ≤ 2 by decide)
  · rfl

/-- A device stays a device when the separator behind it stays the only one. -/
theorem hasDeviceRoot_append (h : hasDeviceRoot p = true)
    (hx : p.length = 4 → startsWithSlash x = false) : hasDeviceRoot (p ++ x) = true := by
  rcases p with _ | ⟨a, _ | ⟨b, _ | ⟨c, _ | ⟨d, _ | ⟨e, rest⟩⟩⟩⟩⟩
  · cases h
  · cases h
  · cases h
  · cases h
  · have hnone := hx rfl
    simp only [hasDeviceRoot, List.cons_append, List.nil_append, hnone] at h ⊢
    exact h
  · exact h

/-- Behind a device stands a separator. -/
theorem takeWhile_of_hasDeviceRoot (h : hasDeviceRoot (p ++ x) = true) (hp : 3 ≤ p.length) :
    (p.drop 3).takeWhile (fun b => !isSlash b) = [] := by
  rcases p with _ | ⟨a, _ | ⟨b, _ | ⟨c, _ | ⟨d, rest⟩⟩⟩⟩
  · cases hp
  · exact absurd hp (show ¬ 3 ≤ 1 by decide)
  · exact absurd hp (show ¬ 3 ≤ 2 by decide)
  · rfl
  · simp only [hasDeviceRoot, List.cons_append, Bool.and_eq_true] at h
    refine List.takeWhile_cons_of_neg ?_
    rw [h.1.1.2]
    exact Bool.false_ne_true

/-- An absolute path has three letters at least. -/
theorem three_le_length (h : isAbsolute p = true) : 3 ≤ p.length := by
  rcases p with _ | ⟨a, _ | ⟨b, _ | ⟨c, rest⟩⟩⟩
  · cases h
  · cases h
  · exfalso
    revert h
    rw [isAbsolute]
    split_ifs with hdrive
    · exact nofun
    · rw [rootNameEnd, if_neg hdrive]
      exact nofun
  · simp only [List.length_cons]
    omega

/-- The separator that `join` puts between a directory and a name, unless there is one. -/
def directoryText (p : Bytes) : Bytes :=
  if rootNameEnd p ≠ p.length ∧ p.getLast?.any isSlash = true then p else p ++ [92]

theorem join_confined (hp : isAbsolute p = true) (hroot : rootNameEnd t = 0)
    (hslash : startsWithSlash t = false) : join p t = directoryText p ++ t := by
  have hdrive : hasDriveLetter t = false := by
    rw [Bool.eq_false_iff]
    intro hdrive
    rw [rootNameEnd, if_pos hdrive] at hroot
    cases hroot
  have habsolute : isAbsolute t = false := by
    rw [isAbsolute, hdrive, if_neg Bool.false_ne_true, hroot]
    rfl
  have hname : rootName t = [] := by rw [rootName, hroot, List.take_zero]
  have hlength := three_le_length hp
  rw [join, habsolute, hname, hroot, List.drop_zero, directoryText]
  simp only [ne_eq, not_true_eq_false, decide_false, Bool.false_and, Bool.or_false,
    Bool.false_eq_true, if_false, hslash]
  by_cases hend : rootNameEnd p = p.length
  · rw [if_pos hend, if_pos hlength, if_neg fun h => h.1 hend]
  · rw [if_neg hend]
    by_cases hlast : p.getLast?.any isSlash = true
    · rw [if_pos hlast, if_pos ⟨hend, hlast⟩]
    · rw [if_neg hlast, if_neg fun h => hlast h.2, List.append_assoc]
      rfl

/-- A path that ends with a separator behind its root name keeps that name. -/
theorem rootNameEnd_append (hp : isAbsolute p = true) (hx : startsWithSlash x = false) :
    rootNameEnd (directoryText p ++ x) = rootNameEnd p := by
  obtain ⟨y, hy, hback⟩ : ∃ y, directoryText p ++ x = p ++ y ∧
      ((rootNameEnd p ≠ p.length ∧ p.getLast?.any isSlash = true ∧ startsWithSlash y = false) ∨
        (startsWithSlash y = true ∧
          (rootNameEnd p = p.length ∨ p.getLast?.any isSlash = false))) := by
    rw [directoryText]
    split_ifs with h
    · exact ⟨x, rfl, Or.inl ⟨h.1, h.2, hx⟩⟩
    · refine ⟨92 :: x, by rw [List.append_assoc]; rfl, Or.inr ⟨rfl, ?_⟩⟩
      by_cases hend : rootNameEnd p = p.length
      · exact Or.inl hend
      · exact Or.inr (Bool.eq_false_iff.mpr fun hlast => h ⟨hend, hlast⟩)
  have hlength := three_le_length hp
  have hdrive : hasDriveLetter (p ++ y) = hasDriveLetter p := hasDriveLetter_append (by omega)
  have hserver : hasServerRoot (p ++ y) = hasServerRoot p := hasServerRoot_append hlength
  rw [hy, rootNameEnd, hdrive, hserver]
  by_cases hd : hasDriveLetter p = true
  · rw [if_pos hd, rootNameEnd, if_pos hd]
  by_cases hdevice : hasDeviceRoot p = true
  · have hend : rootNameEnd p = 3 := by rw [rootNameEnd, if_neg hd, if_pos hdevice]
    have hstays : hasDeviceRoot (p ++ y) = true := by
      refine hasDeviceRoot_append hdevice fun hfour => ?_
      rcases hback with ⟨-, -, hnone⟩ | ⟨-, hfull | hlast⟩
      · exact hnone
      · omega
      · -- the fourth letter of a device is a separator
        exfalso
        rcases p with _ | ⟨a, _ | ⟨b, _ | ⟨c, _ | ⟨d, _ | ⟨e, rest⟩⟩⟩⟩⟩ <;> cases hfour
        simp only [hasDeviceRoot, Bool.and_eq_true] at hdevice
        simp [hdevice.1.1.2] at hlast
    rw [if_neg hd, if_pos hstays, hend]
  · have hserverRoot : hasServerRoot p = true := by
      by_contra hnone
      rw [isAbsolute, if_neg hd, rootNameEnd, if_neg hd, if_neg hdevice, if_neg hnone] at hp
      cases hp
    have hend : rootNameEnd p = 3 + ((p.drop 3).takeWhile fun b => !isSlash b).length := by
      rw [rootNameEnd, if_neg hd, if_neg hdevice, if_pos hserverRoot]
    rw [if_neg hd, hend, if_pos hserverRoot]
    by_cases hdevice' : hasDeviceRoot (p ++ y) = true
    · rw [if_pos hdevice', takeWhile_of_hasDeviceRoot hdevice' hlength]
      rfl
    · rw [if_neg hdevice', List.drop_append_of_le_length hlength, List.takeWhile_append]
      split_ifs with hfull
      · -- the server's name is the whole path, so a separator was put behind it
        rcases hback with ⟨hne, -, -⟩ | ⟨hy, -⟩
        · rw [hend, hfull, List.length_drop] at hne
          omega
        · rcases y with _ | ⟨b, y⟩
          · cases hy
          · have hstop : (b :: y).takeWhile (fun b => !isSlash b) = [] := by
              simp [show isSlash b = true from hy]
            rw [hstop, List.append_nil, hfull]
      · rfl

/-- Behind the root name of an absolute path stands a separator, if anything does. -/
theorem startsWithSlash_drop (hp : isAbsolute p = true) : rootNameEnd p ≤ p.length ∧
    (p.drop (rootNameEnd p) = [] ∨ startsWithSlash (p.drop (rootNameEnd p)) = true) := by
  have hlength := three_le_length hp
  rw [isAbsolute] at hp
  rw [rootNameEnd] at hp ⊢
  split_ifs at hp ⊢ with hdrive hdevice hserver
  · exact ⟨by omega, Or.inr hp⟩
  · refine ⟨by omega, Or.inr ?_⟩
    rcases p with _ | ⟨a, _ | ⟨b, _ | ⟨c, _ | ⟨d, rest⟩⟩⟩⟩
    · cases hdevice
    · cases hdevice
    · cases hdevice
    · cases hdevice
    · simp only [hasDeviceRoot, Bool.and_eq_true] at hdevice
      exact hdevice.1.1.2
  · have hle : ((p.drop 3).takeWhile fun b => !isSlash b).length ≤ (p.drop 3).length :=
      List.IsPrefix.length_le <| List.takeWhile_prefix _
    rw [List.length_drop] at hle
    refine ⟨by omega, ?_⟩
    have hdrop : p.drop (3 + ((p.drop 3).takeWhile fun b => !isSlash b).length) =
        (p.drop 3).dropWhile fun b => !isSlash b := by
      have hsplit := List.takeWhile_append_dropWhile (p := fun b => !isSlash b) (l := p.drop 3)
      rw [← List.drop_drop]
      conv_lhs => rw [← hsplit]
      exact List.drop_left' (by rw [hsplit])
    rw [hdrop]
    cases hback : (p.drop 3).dropWhile fun b => !isSlash b with
    | nil => exact Or.inl rfl
    | cons b back =>
      have hhead := List.head_dropWhile_not (fun b => !isSlash b)
        (l := p.drop 3) (by rw [hback]; exact List.cons_ne_nil b back)
      right
      show isSlash b = true
      simpa [hback] using hhead
  · cases hp

@[simp] theorem preferred_append (p t : Bytes) : preferred (p ++ t) = preferred p ++ preferred t :=
  List.map_append

/-- The text behind the root name of a directory, ready for a name. -/
theorem drop_directoryText (hp : isAbsolute p = true) :
    startsWithSlash ((directoryText p).drop (rootNameEnd p)) = true ∧
      Terminated 92 (preferred ((directoryText p).drop (rootNameEnd p))) ∧
      segments ((directoryText p).drop (rootNameEnd p)) =
        segments (p.drop (rootNameEnd p)) := by
  obtain ⟨hle, hback⟩ := startsWithSlash_drop hp
  rw [directoryText]
  split_ifs with h
  · have hne : p.drop (rootNameEnd p) ≠ [] := by
      intro hnil
      exact h.1 (le_antisymm hle (List.drop_eq_nil_iff.mp hnil))
    refine ⟨hback.resolve_left hne, Or.inr ?_, rfl⟩
    obtain ⟨last, hlast, hslash⟩ := (Option.any_eq_true _ _).mp h.2
    rw [preferred, List.getLast?_map, List.getLast?_drop, if_neg (by omega), hlast,
      Option.map_some, if_pos hslash]
  · rw [List.drop_append_of_le_length hle]
    refine ⟨?_, ?_, ?_⟩
    · rcases hback with hnil | hslash
      · rw [hnil]
        rfl
      · cases hdrop : p.drop (rootNameEnd p) with
        | nil => rfl
        | cons b back =>
          rw [hdrop] at hslash
          exact hslash
    · rw [preferred_append]
      exact terminated_line _
    · rw [segments, preferred_append]
      exact nonemptyLines_concat 92 _

theorem rootNameEnd_pos (hp : isAbsolute p = true) : 0 < rootNameEnd p := by
  rw [isAbsolute] at hp
  split_ifs at hp with hdrive
  · rw [rootNameEnd, if_pos hdrive]
    exact Nat.two_pos
  · exact of_decide_eq_true hp

theorem isAbsolute_of_separated (hpos : 0 < rootNameEnd p)
    (hslash : startsWithSlash (p.drop (rootNameEnd p)) = true) : isAbsolute p = true := by
  rw [isAbsolute]
  split_ifs with hdrive
  · rwa [rootNameEnd, if_pos hdrive] at hslash
  · exact decide_eq_true hpos

/-- A directory with a name behind it, part by part. -/
structure JoinParts (p t joined : Bytes) : Prop where
  rootNameEnd_eq : rootNameEnd joined = rootNameEnd p
  rootName_eq : rootName joined = rootName p
  separated : startsWithSlash (joined.drop (rootNameEnd p)) = true
  segments_eq : segments (joined.drop (rootNameEnd p)) =
    segments (p.drop (rootNameEnd p)) ++ segments t

theorem joinParts (hp : isAbsolute p = true) (hroot : rootNameEnd t = 0)
    (hslash : startsWithSlash t = false) : JoinParts p t (join p t) := by
  obtain ⟨hstart, hterminated, hsegments⟩ := drop_directoryText hp
  have hp' : rootNameEnd p ≤ p.length := (startsWithSlash_drop hp).1
  have hle : rootNameEnd p ≤ (directoryText p).length := by
    refine hp'.trans ?_
    rw [directoryText]
    split_ifs
    · exact le_rfl
    · rw [List.length_append]
      exact Nat.le_add_right _ _
  have hend : rootNameEnd (join p t) = rootNameEnd p := by
    rw [join_confined hp hroot hslash, rootNameEnd_append hp hslash]
  have hdrop : (join p t).drop (rootNameEnd p) =
      (directoryText p).drop (rootNameEnd p) ++ t := by
    rw [join_confined hp hroot hslash, List.drop_append_of_le_length hle]
  refine ⟨hend, ?_, ?_, ?_⟩
  · rw [rootName, hend, join_confined hp hroot hslash, List.take_append_of_le_length hle,
      rootName, directoryText]
    split_ifs
    · rfl
    · exact List.take_append_of_le_length hp'
  · rw [hdrop]
    cases hback : (directoryText p).drop (rootNameEnd p) with
    | nil =>
      rw [hback] at hstart
      cases hstart
    | cons b back =>
      rw [hback] at hstart
      exact hstart
  · rw [hdrop, segments, preferred_append, nonemptyLines_append hterminated]
    exact congrArg (· ++ segments t) hsegments

theorem isAbsolute_join (hp : isAbsolute p = true) (hroot : rootNameEnd t = 0)
    (hslash : startsWithSlash t = false) : isAbsolute (join p t) = true := by
  have hparts := joinParts hp hroot hslash
  have hpos : 0 < rootNameEnd (join p t) := by
    rw [hparts.rootNameEnd_eq]
    exact rootNameEnd_pos hp
  refine isAbsolute_of_separated hpos ?_
  rw [hparts.rootNameEnd_eq]
  exact hparts.separated

/-- How a joined path is resolved. -/
theorem lexicallyNormal_join (hp : isAbsolute p = true) (hroot : rootNameEnd t = 0)
    (hslash : startsWithSlash t = false) : lexicallyNormal (join p t) =
      some ⟨preferred (rootName p),
        walk (walk [] (segments (p.drop (rootNameEnd p)))) (segments t)⟩ := by
  have hparts := joinParts hp hroot hslash
  rw [lexicallyNormal, hparts.rootNameEnd_eq, if_pos hparts.separated, hparts.rootName_eq,
    hparts.segments_eq, walk_segments]

/-- **A confined text stays inside every directory.** -/
theorem inside_join (hp : isAbsolute p = true) (ht : Confined t) : Inside p (join p t) := by
  obtain ⟨hroot, hslash, hstays⟩ := ht
  refine ⟨_, lexicallyNormal_join hp hroot hslash, rfl, ?_⟩
  have hwalk := walk_append (walk [] (segments (p.drop (rootNameEnd p))))
    (show staysWithin ([] : List Bytes).length (segments t) = true from hstays)
  rw [List.append_nil] at hwalk
  rw [hwalk]
  exact List.prefix_append _ _

end Join

/-! ## Texts that leave a directory -/

/-- A name that occurs in no path as short as this one. -/
def freshName (t : Bytes) : Bytes := List.replicate (t.length + 1) 97

/-- A drive that is not the root name of the text. -/
def otherDrive (t : Bytes) : UInt8 := if preferred (rootName t) = [67, 58] then 68 else 67

/-- A directory far from the text: another drive, and a name that the text does not have. -/
def awayFrom (t : Bytes) : Bytes := otherDrive t :: 58 :: 92 :: freshName t

/-- A directory on another drive than the text, below a name that the text does not have. -/
structure Away (t p : Bytes) : Prop where
  isAbsolute : isAbsolute p = true
  rootName_eq : rootName p = [otherDrive t, 58]
  mem : freshName t ∈ walk [] (segments (p.drop (rootNameEnd p)))

section Leaving

variable {p t : Bytes}

theorem isAlphaByte_otherDrive (t : Bytes) : isAlphaByte (otherDrive t) = true := by
  rw [otherDrive]
  split_ifs <;> rfl

theorem otherDrive_ne (t : Bytes) : preferred (rootName t) ≠ [otherDrive t, 58] := by
  rw [otherDrive]
  split_ifs with h
  · rw [h]
    decide
  · exact h

theorem preferred_drive (t : Bytes) : preferred [otherDrive t, 58] = [otherDrive t, 58] := by
  rw [otherDrive]
  split_ifs <;> rfl

theorem rootNameEnd_drive (t rest : Bytes) : rootNameEnd (otherDrive t :: 58 :: rest) = 2 := by
  rw [rootNameEnd, if_pos]
  rw [hasDriveLetter, isAlphaByte_otherDrive]
  rfl

theorem freshName_notMem (t : Bytes) : freshName t ∉ segments t := by
  intro h
  have hle := (infix_of_mem_nonemptyLines h).length_le
  rw [freshName, List.length_replicate, preferred, List.length_map] at hle
  omega

theorem segments_freshName (t : Bytes) : segments (92 :: freshName t) = [freshName t] := by
  have hpreferred : preferred (92 :: freshName t) = [92] ++ freshName t := by
    rw [preferred, List.map_cons, freshName, List.map_replicate]
    rfl
  have hmem : (92 : UInt8) ∉ freshName t := fun h => by
    cases List.eq_of_mem_replicate h
  have hne : freshName t ≠ [] := List.cons_ne_nil _ _
  rw [segments, hpreferred, nonemptyLines_append (Or.inr rfl), nonemptyLines_of_not_mem hmem hne]
  rfl

theorem freshName_ne (t : Bytes) : freshName t ≠ [46] ∧ freshName t ≠ [46, 46] := by
  constructor <;> intro h <;> have hhead := congrArg List.head? h <;> cases hhead

theorem walk_freshName (t : Bytes) :
    walk [] (segments ((awayFrom t).drop (rootNameEnd (awayFrom t)))) = [freshName t] := by
  rw [awayFrom, rootNameEnd_drive, List.drop_succ_cons, List.drop_succ_cons, List.drop_zero,
    segments_freshName, walk, if_neg (freshName_ne t).1, if_neg (freshName_ne t).2]
  rfl

theorem away_awayFrom (t : Bytes) : Away t (awayFrom t) where
  isAbsolute := by
    refine isAbsolute_of_separated ?_ ?_ <;> rw [awayFrom, rootNameEnd_drive]
    · exact Nat.two_pos
    · rfl
  rootName_eq := by
    rw [rootName, awayFrom, rootNameEnd_drive]
    rfl
  mem := by
    rw [walk_freshName]
    exact List.mem_singleton_self _

/-- What lies in such a directory is such a directory. -/
theorem Away.join {name : Bytes} (h : Away t p) (hname : Confined name) :
    Away t (join p name) := by
  have hparts := joinParts h.isAbsolute hname.1 hname.2.1
  refine ⟨isAbsolute_join h.isAbsolute hname.1 hname.2.1, ?_, ?_⟩
  · rw [hparts.rootName_eq, h.rootName_eq]
  · obtain ⟨normal, hnormal, -, hnames⟩ := inside_join h.isAbsolute hname
    rw [lexicallyNormal_join h.isAbsolute hname.1 hname.2.1] at hnormal
    obtain rfl := Option.some.inj hnormal
    rw [hparts.rootNameEnd_eq, hparts.segments_eq, walk_segments]
    exact hnames.subset h.mem

/-- **A text with a root of its own leaves the directory.** -/
theorem Away.not_inside_of_rooted (h : Away t p)
    (ht : rootNameEnd t ≠ 0 ∨ startsWithSlash t = true) : ¬ Inside p (Foundation.join p t) := by
  rintro ⟨normal, hnormal, hname, hnames⟩
  by_cases hroot : rootNameEnd t = 0
  · -- the root directory of the drive, and behind it the names of the text
    have hslash : startsWithSlash t = true := ht.resolve_left fun hne => hne hroot
    have hdrive : hasDriveLetter t = false := by
      rw [Bool.eq_false_iff]
      intro hdrive
      rw [rootNameEnd, if_pos hdrive] at hroot
      cases hroot
    have habsolute : Foundation.isAbsolute t = false := by
      rw [Foundation.isAbsolute, hdrive, if_neg Bool.false_ne_true, hroot]
      rfl
    have hempty : rootName t = [] := by rw [rootName, hroot, List.take_zero]
    have hjoin : Foundation.join p t = otherDrive t :: 58 :: t := by
      rw [Foundation.join, habsolute, hempty, hroot, List.drop_zero, if_neg (by simp),
        if_pos hslash, h.rootName_eq]
      rfl
    rw [hjoin, lexicallyNormal, rootNameEnd_drive, List.drop_succ_cons, List.drop_succ_cons,
      List.drop_zero, if_pos hslash] at hnormal
    obtain rfl := Option.some.inj hnormal
    exact not_mem_walk_of_not_mem List.not_mem_nil (freshName_notMem t) (hnames.subset h.mem)
  · have hne : rootName t ≠ [] := by
      intro hempty
      have hlength := congrArg List.length hempty
      rw [rootName, List.length_take, List.length_nil] at hlength
      rcases (by omega : rootNameEnd t = 0 ∨ t.length = 0) with hzero | hzero
      · exact hroot hzero
      · rw [List.length_eq_zero_iff] at hzero
        rw [hzero] at hroot
        exact hroot rfl
    have hother : rootName t ≠ rootName p := by
      intro heq
      refine otherDrive_ne t ?_
      rw [heq, h.rootName_eq, preferred_drive]
    have hjoin : Foundation.join p t = t := by
      rw [Foundation.join, if_pos]
      simp [hne, hother]
    rw [hjoin, lexicallyNormal] at hnormal
    split_ifs at hnormal
    obtain rfl := Option.some.inj hnormal
    rw [h.rootName_eq, preferred_drive] at hname
    exact otherDrive_ne t hname

/-- **A text that climbs leaves the directory.** -/
theorem not_inside_of_climbs (hroot : rootNameEnd t = 0) (hslash : startsWithSlash t = false)
    (hclimbs : staysWithin 0 (segments t) = false) :
    ¬ Inside (awayFrom t) (Foundation.join (awayFrom t) t) := by
  rintro ⟨normal, hnormal, -, hnames⟩
  rw [lexicallyNormal_join (away_awayFrom t).isAbsolute hroot hslash, walk_freshName] at hnormal
  obtain rfl := Option.some.inj hnormal
  rw [walk_freshName] at hnames
  have hclimbs' : staysWithin ([] : List Bytes).length (segments t) = false := hclimbs
  exact not_mem_walk hclimbs' List.not_mem_nil (freshName_notMem t)
    (hnames.subset (List.mem_singleton_self _))

end Leaving

end Foundation
end MasterControl
