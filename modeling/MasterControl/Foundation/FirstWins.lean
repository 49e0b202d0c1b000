import Mathlib.Data.List.Basic
import Mathlib.Data.List.Pairwise
import Mathlib.Data.List.Sort
import Mathlib.Order.Defs.LinearOrder
import Mathlib.Tactic.Common

/-!
# The first of each key

`firstsBy key l` keeps of each key the first element of a list; it is what a loop collects that
offers each element to a set of keys that have been seen (`items_foldl_offer`).

In a list that is sorted by a rank the first of a key has the least rank of it.  Such an element
*leads*, and of several that tie the order of the list decides.  What is collected does not depend
on the order that a sort leaves among ties exactly when leading elements that tie give the same
entry (`forall_arrangement_iff`).  Whether a name that goes with the rank is given twice does not
depend on that order at all (`nodup_map_firstsBy_iff`).
-/

namespace MasterControl
namespace Foundation

universe u v w

variable {α : Type u} {κ : Type v} {ε : Type w}

/-- Of each key the first element. -/
def firstsBy [DecidableEq κ] (key : α → κ) : List α → List α
  | [] => []
  | x :: l => x :: (firstsBy key l).filter fun y => key y ≠ key x

/-- A set of keys that have been seen, and what has been collected under them. -/
structure Collected (κ : Type v) (ε : Type w) where
  seen : List κ
  items : List ε

/-- What is collected where `insert` says that the key is new. -/
def Collected.offer [DecidableEq κ] (collected : Collected κ ε) (key : κ) (item : ε) :
    Collected κ ε :=
  if key ∈ collected.seen then collected else ⟨key :: collected.seen, collected.items ++ [item]⟩

section Firsts

variable [DecidableEq κ] {key : α → κ} {entry : α → ε} {l more : List α} {x y : α}

theorem sublist_firstsBy (key : α → κ) (l : List α) : (firstsBy key l).Sublist l := by
  induction l with
  | nil => exact List.Sublist.slnil
  | cons x l ih => exact (List.filter_sublist.trans ih).cons_cons x

theorem pairwise_firstsBy (key : α → κ) (l : List α) :
    (firstsBy key l).Pairwise fun x y => key x ≠ key y := by
  induction l with
  | nil => exact List.Pairwise.nil
  | cons x l ih =>
    refine List.pairwise_cons.mpr ⟨fun y hy => ?_, ih.sublist List.filter_sublist⟩
    exact (of_decide_eq_true (List.mem_filter.mp hy).2).symm

theorem exists_mem_firstsBy (key : α → κ) (hx : x ∈ l) : ∃ y ∈ firstsBy key l, key y = key x := by
  induction l with
  | nil => cases hx
  | cons z l ih =>
    by_cases hkey : key z = key x
    · exact ⟨z, List.mem_cons_self, hkey⟩
    · rcases List.mem_cons.mp hx with rfl | hx
      · exact absurd rfl hkey
      · obtain ⟨y, hy, hyx⟩ := ih hx
        refine ⟨y, List.mem_cons_of_mem z (List.mem_filter.mpr ⟨hy, decide_eq_true ?_⟩), hyx⟩
        rw [hyx]
        exact Ne.symm hkey

/-- In front of the first of a key no other one has it. -/
theorem split_of_mem_firstsBy (hx : x ∈ firstsBy key l) :
    ∃ front back, l = front ++ x :: back ∧ ∀ y ∈ front, key y ≠ key x := by
  induction l with
  | nil => cases hx
  | cons z l ih =>
    rcases List.mem_cons.mp hx with rfl | hx
    · exact ⟨[], l, rfl, fun y hy => by cases hy⟩
    · obtain ⟨hx, hkey⟩ := List.mem_filter.mp hx
      obtain ⟨front, back, rfl, hfront⟩ := ih hx
      refine ⟨z :: front, back, rfl, fun y hy => ?_⟩
      rcases List.mem_cons.mp hy with rfl | hy
      · exact (of_decide_eq_true hkey).symm
      · exact hfront y hy

/-- A new key is added behind those in front. -/
theorem firstsBy_append_cons (hx : ∀ y ∈ l, key y ≠ key x) (more : List α) :
    ∃ rest, firstsBy key (l ++ x :: more) = firstsBy key l ++ x :: rest := by
  induction l with
  | nil => exact ⟨_, rfl⟩
  | cons z l ih =>
    obtain ⟨rest, hrest⟩ := ih fun y hy => hx y (List.mem_cons_of_mem z hy)
    have hkeep : key x ≠ key z := Ne.symm (hx z List.mem_cons_self)
    refine ⟨rest.filter fun y => key y ≠ key z, ?_⟩
    rw [List.cons_append, firstsBy, hrest, List.filter_append,
      List.filter_cons_of_pos (p := fun y => decide (key y ≠ key z)) (decide_eq_true hkeep)]
    rfl

/-- **What the loop collects are the entries of the first of each key that was not seen before.** -/
theorem items_foldl_offer (l : List α) (collected : Collected κ ε) :
    (l.foldl (fun collected x => collected.offer (key x) (entry x)) collected).items =
      collected.items ++
        ((firstsBy key l).filter fun x => key x ∉ collected.seen).map entry := by
  induction l generalizing collected with
  | nil => exact (List.append_nil _).symm
  | cons x l ih =>
    rw [List.foldl_cons, ih, firstsBy, Collected.offer]
    by_cases hseen : key x ∈ collected.seen
    · have hfilter : (firstsBy key l).filter (fun y => key y ∉ collected.seen) =
          ((firstsBy key l).filter fun y => key y ≠ key x).filter
            fun y => key y ∉ collected.seen := by
        rw [List.filter_filter]
        refine List.filter_congr fun y _ => ?_
        by_cases hy : key y ∈ collected.seen
        · rw [decide_eq_false (not_not.mpr hy)]
          rfl
        · have hne : key y ≠ key x := fun h => hy (h ▸ hseen)
          rw [decide_eq_true hy, decide_eq_true hne]
          rfl
      rw [if_pos hseen, List.filter_cons_of_neg, hfilter]
      rw [decide_eq_false (not_not.mpr hseen)]
      exact Bool.false_ne_true
    · have hfilter : (firstsBy key l).filter (fun y => key y ∉ key x :: collected.seen) =
          ((firstsBy key l).filter fun y => key y ≠ key x).filter
            fun y => key y ∉ collected.seen := by
        rw [List.filter_filter]
        refine List.filter_congr fun y _ => ?_
        rw [Bool.eq_iff_iff, decide_eq_true_iff, Bool.and_eq_true, decide_eq_true_iff,
          decide_eq_true_iff, List.mem_cons, not_or, and_comm]
      rw [if_neg hseen, hfilter, List.append_assoc,
        List.filter_cons_of_pos (p := fun y => decide (key y ∉ collected.seen))
          (decide_eq_true hseen)]
      rfl

end Firsts

/-! ## Sorted lists -/

section Ranks

variable {ρ : Type*} [LinearOrder ρ] {rank : α → ρ} {key : α → κ} {entry : α → ε}
  {asks : α → Bool} {l r r' : List α} {x y : α}

/-- An element whose key no element of a lesser rank has. -/
def Leads (rank : α → ρ) (key : α → κ) (l : List α) (x : α) : Prop :=
  x ∈ l ∧ ∀ y ∈ l, key y = key x → rank x ≤ rank y

/-- What a sort may make of a list: elements of one rank may stand in any order. -/
structure Arrangement (rank : α → ρ) (l r : List α) : Prop where
  perm : r.Perm l
  sorted : r.Pairwise fun x y => rank x ≤ rank y

theorem Arrangement.filter (h : Arrangement rank l r) (asks : α → Bool) :
    Arrangement rank (l.filter asks) (r.filter asks) :=
  ⟨h.perm.filter asks, h.sorted.sublist List.filter_sublist⟩

theorem Leads.of_perm (h : r.Perm l) (hx : Leads rank key r x) : Leads rank key l x :=
  ⟨h.mem_iff.mp hx.1, fun y hy => hx.2 y (h.mem_iff.mpr hy)⟩

/-- Elements that lead under one key tie. -/
theorem Leads.rank_eq (hx : Leads rank key l x) (hy : Leads rank key l y) (h : key x = key y) :
    rank x = rank y :=
  le_antisymm (hx.2 y hy.1 h.symm) (hy.2 x hx.1 h)

variable [DecidableEq κ]

theorem leads_of_mem_firstsBy (hsorted : l.Pairwise fun x y => rank x ≤ rank y)
    (hx : x ∈ firstsBy key l) : Leads rank key l x := by
  obtain ⟨front, back, rfl, hfront⟩ := split_of_mem_firstsBy hx
  refine ⟨List.mem_append_right _ List.mem_cons_self, fun y hy hkey => ?_⟩
  rcases List.mem_append.mp hy with hy | hy
  · exact absurd hkey (hfront y hy)
  · rcases List.mem_cons.mp hy with rfl | hy
    · exact le_rfl
    · exact (List.pairwise_cons.mp (List.pairwise_append.mp hsorted).2.1).1 y hy

/-- One that leads is represented by one of its rank. -/
theorem exists_firstsBy_of_leads (hsorted : l.Pairwise fun x y => rank x ≤ rank y)
    (hx : Leads rank key l x) : ∃ y ∈ firstsBy key l, key y = key x ∧ rank y = rank x := by
  obtain ⟨y, hy, hkey⟩ := exists_mem_firstsBy key hx.1
  exact ⟨y, hy, hkey, (leads_of_mem_firstsBy hsorted hy).rank_eq hx hkey⟩

/-- **A name that goes with the rank is given once exactly when what leads under different keys has
different names.** -/
theorem nodup_map_firstsBy_iff {ι : Type*} (id : α → ι)
    (hid : ∀ x y, rank x = rank y → id x = id y)
    (hsorted : l.Pairwise fun x y => rank x ≤ rank y) :
    ((firstsBy key l).map id).Nodup ↔
      ∀ x y, Leads rank key l x → Leads rank key l y → id x = id y → key x = key y := by
  rw [List.Nodup, List.pairwise_map]
  constructor
  · intro h x y hx hy hname
    obtain ⟨x', hx', hkeyx, hrankx⟩ := exists_firstsBy_of_leads hsorted hx
    obtain ⟨y', hy', hkeyy, hranky⟩ := exists_firstsBy_of_leads hsorted hy
    by_contra hne
    have hne' : x' ≠ y' := by
      rintro rfl
      exact hne (hkeyx.symm.trans hkeyy)
    have hnames : id x' = id y' := by rw [hid x' x hrankx, hid y' y hranky, hname]
    have hsymm : Std.Symm fun x y : α => id x ≠ id y := ⟨fun _ _ h => h.symm⟩
    exact h.forall hx' hy' hne' hnames
  · intro h
    refine (pairwise_firstsBy key l).imp_of_mem fun {x y} hx hy hkey hname => ?_
    exact hkey (h x y (leads_of_mem_firstsBy hsorted hx) (leads_of_mem_firstsBy hsorted hy) hname)

/-- What is collected of a list for the elements that ask for it. -/
def collect (asks : α → Bool) (key : α → κ) (entry : α → ε) (r : List α) : List ε :=
  (firstsBy key (r.filter asks)).map entry

/-- A list, taken apart by comparing with a rank. -/
theorem perm_compare (rank : α → ρ) (bound : ρ) (l : List α) :
    (l.filter (fun y => rank y < bound) ++
      (l.filter (fun y => rank y = bound) ++ l.filter fun y => bound < rank y)).Perm l := by
  induction l with
  | nil => exact List.Perm.nil
  | cons y l ih =>
    rcases lt_trichotomy (rank y) bound with h | h | h
    · simpa [h, h.ne, h.not_gt] using ih
    · simpa [h] using List.perm_middle.trans (ih.cons y)
    · have hmiddle : (l.filter (fun y => rank y < bound) ++ (l.filter (fun y => rank y = bound) ++
          y :: l.filter fun y => bound < rank y)).Perm
        (y :: (l.filter (fun y => rank y < bound) ++ (l.filter (fun y => rank y = bound) ++
          l.filter fun y => bound < rank y))) := by
        rw [← List.append_assoc, ← List.append_assoc]
        exact List.perm_middle
      simpa [h, h.ne', h.not_gt] using hmiddle.trans (ih.cons y)

/-- Elements that lead under some key and tie give the same entry. -/
def TiesAgree (rank : α → ρ) (key : α → κ) (entry : α → ε) (l : List α) : Prop :=
  ∀ x y, Leads rank key l x → Leads rank key l y → rank x = rank y → entry x = entry y

theorem arrangement_mergeSort (rank : α → ρ) (l : List α) :
    Arrangement rank l (l.mergeSort fun x y => rank x ≤ rank y) := by
  have h : (l.mergeSort fun x y => rank x ≤ rank y).Pairwise
      fun x y => decide (rank x ≤ rank y) = true :=
    List.pairwise_mergeSort (fun a b c => by simpa using le_trans)
      (fun a b => by simpa using le_total _ _) l
  exact ⟨List.mergeSort_perm l _, h.imp fun h => of_decide_eq_true h⟩

/-- A stable sort leaves an arrangement as it is. -/
theorem Arrangement.mergeSort_eq (h : Arrangement rank l r) :
    (r.mergeSort fun x y => rank x ≤ rank y) = r :=
  List.mergeSort_of_pairwise (h.sorted.imp fun h => decide_eq_true h)

/-- An arrangement in which an element stands before those that it ties with; what stands before
it depends on its rank only. -/
theorem exists_arrangement (rank : α → ρ) (hx : x ∈ l) : ∃ back,
    Arrangement rank l ((l.mergeSort fun x y => rank x ≤ rank y).filter
      (fun y => rank y < rank x) ++ x :: back) := by
  obtain ⟨hperm, hsorted⟩ := arrangement_mergeSort rank l
  generalize (l.mergeSort fun x y => rank x ≤ rank y) = m at hperm hsorted
  -- those of the same rank, with the element itself taken to the front
  obtain ⟨before, after, hties⟩ := List.append_of_mem
    (List.mem_filter.mpr ⟨hperm.mem_iff.mpr hx, decide_eq_true (rfl : rank x = rank x)⟩ :
      x ∈ m.filter fun y => rank y = rank x)
  have hmiddle : (x :: (before ++ after)).Perm (m.filter fun y => rank y = rank x) := by
    rw [hties]
    exact List.perm_middle.symm
  have hrank : ∀ y ∈ x :: (before ++ after), rank y = rank x := fun y hy =>
    of_decide_eq_true (List.mem_filter.mp (hmiddle.mem_iff.mp hy)).2
  refine ⟨before ++ after ++ m.filter fun y => rank x < rank y, ?_, ?_⟩
  · refine List.Perm.trans (List.Perm.append_left _ ?_) ((perm_compare rank (rank x) m).trans hperm)
    exact hmiddle.append_right _
  · have hlower : ∀ y ∈ m.filter fun y => rank y < rank x, rank y < rank x := fun y hy =>
      of_decide_eq_true (List.mem_filter.mp hy).2
    have hgreater : ∀ y ∈ m.filter fun y => rank x < rank y, rank x < rank y := fun y hy =>
      of_decide_eq_true (List.mem_filter.mp hy).2
    have hties : (x :: (before ++ after)).Pairwise fun x y => rank x ≤ rank y :=
      List.pairwise_of_forall_mem_list fun y hy z hz => ((hrank y hy).trans (hrank z hz).symm).le
    have hupper : (x :: (before ++ after) ++ m.filter fun y => rank x < rank y).Pairwise
        fun x y => rank x ≤ rank y :=
      List.pairwise_append.mpr ⟨hties, hsorted.sublist List.filter_sublist,
        fun y hy z hz => ((hrank y hy).trans_lt (hgreater z hz)).le⟩
    refine List.pairwise_append.mpr
      ⟨hsorted.sublist List.filter_sublist, hupper, fun y hy z hz => ?_⟩
    rw [← List.cons_append] at hz
    rcases List.mem_append.mp hz with hz | hz
    · exact ((hlower y hy).trans_eq (hrank z hz).symm).le
    · exact ((hlower y hy).trans (hgreater z hz)).le

theorem exists_mem_collect (key : α → κ) (entry : α → ε) (hx : x ∈ l) (hasks : asks x = true) :
    ∃ y ∈ l, asks y = true ∧ key y = key x ∧ entry y ∈ collect asks key entry l := by
  obtain ⟨y, hy, hkey⟩ := exists_mem_firstsBy key (List.mem_filter.mpr ⟨hx, hasks⟩)
  obtain ⟨hyl, hyasks⟩ := List.mem_filter.mp ((sublist_firstsBy key _).subset hy)
  exact ⟨y, hyl, hyasks, hkey, List.mem_map_of_mem hy⟩

theorem exists_of_mem_collect {e : ε} (he : e ∈ collect asks key entry l) :
    ∃ x ∈ l, asks x = true ∧ entry x = e := by
  obtain ⟨x, hx, rfl⟩ := List.mem_map.mp he
  obtain ⟨hxl, hasks⟩ := List.mem_filter.mp ((sublist_firstsBy key _).subset hx)
  exact ⟨x, hxl, hasks, rfl⟩

/-- The names of what is collected are distinct where they are the keys. -/
theorem nodup_map_collect {name : ε → κ} (hname : ∀ x, name (entry x) = key x) (l : List α) :
    ((collect asks key entry l).map name).Nodup := by
  rw [collect, List.map_map, List.Nodup, List.pairwise_map]
  refine (pairwise_firstsBy key (l.filter asks)).imp fun {x y} h => ?_
  rwa [Function.comp_apply, Function.comp_apply, hname, hname]

/-- The names of what is collected are distinct exactly when what leads under different keys has
different names, if a name goes with the rank. -/
theorem nodup_map_collect_iff {ι : Type*} {name : ε → ι}
    (hname : ∀ x y, rank x = rank y → name (entry x) = name (entry y))
    (h : Arrangement rank l r) : ((collect asks key entry r).map name).Nodup ↔
      ∀ x y, Leads rank key (l.filter asks) x → Leads rank key (l.filter asks) y →
        name (entry x) = name (entry y) → key x = key y := by
  have hleads : ∀ x, Leads rank key (r.filter asks) x ↔ Leads rank key (l.filter asks) x := fun x =>
    ⟨fun hx => hx.of_perm (h.filter asks).perm, fun hx => hx.of_perm (h.filter asks).perm.symm⟩
  rw [collect, List.map_map,
    nodup_map_firstsBy_iff (name ∘ entry) hname (h.filter asks).sorted]
  simp only [hleads, Function.comp_apply]

/-- What leads is collected, in whatever order ties stand, where they agree. -/
theorem mem_collect_of_leads (hties : TiesAgree rank key entry (l.filter asks))
    (h : Arrangement rank l r) (hx : Leads rank key (l.filter asks) x) :
    entry x ∈ collect asks key entry r := by
  obtain ⟨y, hy, hkey, hrank⟩ := exists_firstsBy_of_leads (h.filter asks).sorted
    (hx.of_perm (h.filter asks).perm.symm)
  have hylead := (leads_of_mem_firstsBy (h.filter asks).sorted hy).of_perm (h.filter asks).perm
  rw [hties x y hx hylead hrank.symm]
  exact List.mem_map_of_mem hy

/-- What is collected is the entry of one that leads. -/
theorem exists_leads_of_mem_collect {e : ε} (h : Arrangement rank l r)
    (he : e ∈ collect asks key entry r) : ∃ x, Leads rank key (l.filter asks) x ∧ entry x = e := by
  obtain ⟨x, hx, rfl⟩ := List.mem_map.mp he
  exact ⟨x, (leads_of_mem_firstsBy (h.filter asks).sorted hx).of_perm (h.filter asks).perm, rfl⟩

theorem collect_append_cons (entry : α → ε) {front : List α} (back : List α)
    (hasks : asks x = true)
    (hfront : ∀ y ∈ front, asks y = true → key y ≠ key x) :
    ∃ rest, collect asks key entry (front ++ x :: back) =
      collect asks key entry front ++ entry x :: rest := by
  have hnew : ∀ y ∈ front.filter asks, key y ≠ key x := fun y hy =>
    hfront y (List.mem_filter.mp hy).1 (List.mem_filter.mp hy).2
  obtain ⟨rest, hrest⟩ := firstsBy_append_cons hnew (back.filter asks)
  refine ⟨rest.map entry, ?_⟩
  rw [collect, List.filter_append, List.filter_cons_of_pos hasks, hrest, List.map_append,
    List.map_cons, collect]

/-- Where leading elements that tie give the same entry, the ranks of what is collected increase. -/
theorem pairwise_collect (hentry : ∀ x y, entry x = entry y → key x = key y)
    (hties : TiesAgree rank key entry l) (hsorted : l.Pairwise fun x y => rank x ≤ rank y) :
    ((firstsBy key l).map fun x => (rank x, entry x)).Pairwise fun x y => x.1 < y.1 := by
  rw [List.pairwise_map]
  have hkeys := pairwise_firstsBy key l
  have hranks := hsorted.sublist (sublist_firstsBy key l)
  refine (hkeys.and hranks).imp_of_mem fun {x y} hx hy h => lt_of_le_of_ne h.2 fun hrank => ?_
  have hlead := hties x y (leads_of_mem_firstsBy hsorted hx)
    (leads_of_mem_firstsBy hsorted hy) hrank
  exact h.1 (hentry x y hlead)

/-- **What is collected does not depend on the order among ties exactly when leading elements that
tie give the same entry.** -/
theorem forall_arrangement_iff (rank : α → ρ) (key : α → κ) (entry : α → ε)
    (hentry : ∀ x y, entry x = entry y → key x = key y)
    (asks : α → Bool) (l : List α) :
    (∀ r r', Arrangement rank l r → Arrangement rank l r' →
      collect asks key entry r = collect asks key entry r') ↔
    TiesAgree rank key entry (l.filter asks) := by
  constructor
  · intro h x y hx hy hrank
    obtain ⟨hxl, hxasks⟩ := List.mem_filter.mp hx.1
    obtain ⟨hyl, hyasks⟩ := List.mem_filter.mp hy.1
    obtain ⟨backx, hr⟩ := exists_arrangement rank hxl
    obtain ⟨backy, hr'⟩ := exists_arrangement rank hyl
    have hnew : ∀ z, Leads rank key (l.filter asks) z → ∀ w ∈ (l.mergeSort fun x y =>
        rank x ≤ rank y).filter (fun w => rank w < rank z), asks w = true → key w ≠ key z := by
      intro z hz w hw hwasks hkey
      obtain ⟨hwl, hlt⟩ := List.mem_filter.mp hw
      have hmem : w ∈ l.filter asks := List.mem_filter.mpr ⟨List.mem_mergeSort.mp hwl, hwasks⟩
      exact absurd (of_decide_eq_true hlt) (not_lt_of_ge (hz.2 w hmem hkey))
    obtain ⟨restx, hcollectx⟩ := collect_append_cons entry backx hxasks (hnew x hx)
    obtain ⟨resty, hcollecty⟩ := collect_append_cons entry backy hyasks (hnew y hy)
    have heq := h _ _ hr hr'
    rw [hcollectx, hcollecty, hrank] at heq
    exact (List.cons.inj (List.append_cancel_left heq)).1
  · intro hties
    -- the lists of ranks and entries increase, and have the same members
    have hmem : ∀ r r', Arrangement rank l r → Arrangement rank l r' → ∀ p,
        p ∈ (firstsBy key (r.filter asks)).map (fun x => (rank x, entry x)) →
          p ∈ (firstsBy key (r'.filter asks)).map fun x => (rank x, entry x) := by
      intro r r' hr hr' p hp
      obtain ⟨x, hx, rfl⟩ := List.mem_map.mp hp
      have hlead := (leads_of_mem_firstsBy (hr.filter asks).sorted hx).of_perm (hr.filter asks).perm
      obtain ⟨y, hy, hkey, hrank⟩ := exists_firstsBy_of_leads (hr'.filter asks).sorted
        (hlead.of_perm (hr'.filter asks).perm.symm)
      have hylead := (leads_of_mem_firstsBy (hr'.filter asks).sorted hy).of_perm
        (hr'.filter asks).perm
      refine List.mem_map.mpr ⟨y, hy, Prod.ext hrank (hties y x hylead hlead hrank)⟩
    intro r r' hr hr'
    have hpairwise : ∀ r, Arrangement rank l r →
        ((firstsBy key (r.filter asks)).map fun x => (rank x, entry x)).Pairwise
          fun x y => x.1 < y.1 := fun r hr =>
      pairwise_collect hentry (fun x y hx hy => hties x y (hx.of_perm (hr.filter asks).perm)
        (hy.of_perm (hr.filter asks).perm)) (hr.filter asks).sorted
    have heq := List.Pairwise.eq_of_mem_iff (hpairwise r hr) (hpairwise r' hr')
      fun p => ⟨hmem r r' hr hr' p, hmem r' r hr' hr p⟩
    have hentries := congrArg (List.map Prod.snd) heq
    rw [List.map_map, List.map_map] at hentries
    exact hentries

end Ranks

end Foundation
end MasterControl
