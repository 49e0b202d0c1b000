import Mathlib.Data.List.Forall2
import Mathlib.Data.List.Nodup
import Mathlib.Data.List.Sort
import Mathlib.Data.Multiset.ZeroCons
import Mathlib.Tactic.Common

/-!
# Lists that are searched by a key

A `std::vector` of records that is searched with `find_if` and written through the
iterator: `updateFirst` rewrites the first record that passes a test, `upsertFirst` replaces
it or appends a new one.  Where the keys are distinct, the record with a key is the only one
(`mem_updateFirst`, `mem_upsertFirst`), and keys stay distinct.
-/

namespace MasterControl
namespace Foundation

universe u v

variable {α : Type u} {κ : Type v} {p : α → Bool} {f : α → α} {l : List α}

/-- Rewrite the first record that passes the test. -/
def updateFirst (p : α → Bool) (f : α → α) : List α → List α
  | [] => []
  | a :: l => if p a then f a :: l else a :: updateFirst p f l

/-- Replace the first record that passes the test, or append the new one. -/
def upsertFirst (p : α → Bool) (a : α) (l : List α) : List α :=
  if (l.find? p).isSome then updateFirst p (fun _ => a) l else l ++ [a]

theorem updateFirst_cons (p : α → Bool) (f : α → α) (a : α) (l : List α) :
    updateFirst p f (a :: l) = if p a then f a :: l else a :: updateFirst p f l := rfl

theorem updateFirst_of_find?_none (h : l.find? p = none) : updateFirst p f l = l := by
  induction l with
  | nil => rfl
  | cons a l ih =>
    rw [List.find?_cons] at h
    cases hp : p a with
    | true => rw [hp] at h; cases h
    | false =>
      rw [hp] at h
      rw [updateFirst_cons, hp, if_neg Bool.false_ne_true, ih h]

/-- A rewriting that keeps the keys keeps the list of keys. -/
theorem map_updateFirst {key : α → κ} (hf : ∀ a, p a = true → key (f a) = key a) (l : List α) :
    (updateFirst p f l).map key = l.map key := by
  induction l with
  | nil => rfl
  | cons a l ih =>
    rw [updateFirst_cons]
    split_ifs with hp
    · rw [List.map_cons, List.map_cons, hf a hp]
    · rw [List.map_cons, List.map_cons, ih]

/-- A rewriting that keeps something of the record it finds keeps it throughout. -/
theorem map_updateFirst_of_find? {g : α → κ} (hf : ∀ a, l.find? p = some a → g (f a) = g a) :
    (updateFirst p f l).map g = l.map g := by
  induction l with
  | nil => rfl
  | cons a l ih =>
    rw [updateFirst_cons]
    split_ifs with hp
    · rw [List.map_cons, List.map_cons, hf a (by rw [List.find?_cons, hp])]
    · rw [List.map_cons, List.map_cons, ih fun b hb => hf b ?_]
      rw [List.find?_cons, Bool.eq_false_iff.mpr hp, hb]

/-- The list before and after, record by record. -/
theorem forall₂_updateFirst {R : α → α → Prop} (hrefl : ∀ a ∈ l, R a a)
    (hf : ∀ a, l.find? p = some a → R a (f a)) : List.Forall₂ R l (updateFirst p f l) := by
  induction l with
  | nil => exact List.Forall₂.nil
  | cons a l ih =>
    have hl : ∀ b ∈ l, R b b := fun b hb => hrefl b (List.mem_cons_of_mem a hb)
    rw [updateFirst_cons]
    split_ifs with hp
    · exact List.Forall₂.cons (hf a (by rw [List.find?_cons, hp])) (List.forall₂_same.mpr hl)
    · refine List.Forall₂.cons (hrefl a List.mem_cons_self) (ih hl fun b hb => hf b ?_)
      rw [List.find?_cons, Bool.eq_false_iff.mpr hp, hb]

/-- Searching again finds the rewritten record. -/
theorem find?_updateFirst (hf : ∀ a, p a = true → p (f a) = true) (l : List α) :
    (updateFirst p f l).find? p = (l.find? p).map f := by
  induction l with
  | nil => rfl
  | cons a l ih =>
    rw [updateFirst_cons]
    split_ifs with hp
    · rw [List.find?_cons, List.find?_cons, hf a hp, hp, Option.map_some]
    · rw [List.find?_cons, List.find?_cons, Bool.eq_false_iff.mpr hp, ih]

/-- A rewriting that is seen by no other test leaves their searches alone. -/
theorem find?_updateFirst_of_disjoint {q : α → Bool} (hp : ∀ a, p a = true → q a = false)
    (hf : ∀ a, p a = true → q (f a) = false) (l : List α) :
    (updateFirst p f l).find? q = l.find? q := by
  induction l with
  | nil => rfl
  | cons a l ih =>
    rw [updateFirst_cons]
    split_ifs with ha
    · rw [List.find?_cons, List.find?_cons, hf a ha, hp a ha]
    · rw [List.find?_cons, List.find?_cons, ih]

/-- Two rewritings of one record are one. -/
theorem updateFirst_updateFirst {g : α → α} (hf : ∀ a, p a = true → p (f a) = true)
    (l : List α) : updateFirst p g (updateFirst p f l) = updateFirst p (fun a => g (f a)) l := by
  induction l with
  | nil => rfl
  | cons a l ih =>
    cases hp : p a with
    | true => rw [updateFirst_cons, updateFirst_cons, hp, if_pos rfl, if_pos rfl,
        updateFirst_cons, hf a hp, if_pos rfl]
    | false => rw [updateFirst_cons, updateFirst_cons, hp, if_neg Bool.false_ne_true,
        if_neg Bool.false_ne_true, updateFirst_cons, hp, if_neg Bool.false_ne_true, ih]

/-- A rewriting of the record that is found is the replacement of it. -/
theorem upsertFirst_of_find?_some {a : α} (h : l.find? p = some a) :
    upsertFirst p (f a) l = updateFirst p f l := by
  unfold upsertFirst
  rw [h, Option.isSome_some, if_pos rfl]
  induction l with
  | nil => rfl
  | cons b l ih =>
    rw [updateFirst_cons, updateFirst_cons]
    by_cases hb : p b = true
    · rw [List.find?_cons_of_pos hb, Option.some_inj] at h
      rw [if_pos hb, if_pos hb, h]
    · rw [List.find?_cons_of_neg hb] at h
      rw [if_neg hb, if_neg hb, ih h]

/-- An upsert leaves the records that fail the test alone. -/
theorem filter_upsertFirst_of_not {a : α} (ha : p a = true) (l : List α) :
    (upsertFirst p a l).filter (fun b => !p b) = l.filter fun b => !p b := by
  have hupdate : ∀ l : List α, (updateFirst p (fun _ => a) l).filter (fun b => !p b) =
      l.filter fun b => !p b := by
    intro l
    induction l with
    | nil => rfl
    | cons b l ih =>
      rw [updateFirst_cons]
      by_cases hb : p b = true
      · rw [if_pos hb, List.filter_cons_of_neg (by rw [ha]; exact Bool.false_ne_true),
          List.filter_cons_of_neg (by rw [hb]; exact Bool.false_ne_true)]
      · have hkeep : (!p b) = true := by rw [Bool.eq_false_iff.mpr hb]; rfl
        rw [if_neg hb, List.filter_cons_of_pos (p := fun b => !p b) hkeep,
          List.filter_cons_of_pos (p := fun b => !p b) hkeep, ih]
  unfold upsertFirst
  split
  · exact hupdate l
  · rw [List.filter_append, List.filter_cons_of_neg (by rw [ha]; exact Bool.false_ne_true),
      List.filter_nil, List.append_nil]

/-- Where every match of `p` is one of `q`, and the first one of `q` is one of `p`, they agree. -/
theorem find?_eq_some_of_imp {q : α → Bool} {a : α}
    (himp : ∀ b, p b = true → q b = true) (h : l.find? q = some a) (ha : p a = true) :
    l.find? p = some a := by
  rw [List.find?_eq_some_iff_append] at h ⊢
  obtain ⟨-, before, after, rfl, hbefore⟩ := h
  refine ⟨ha, before, after, rfl, fun b hb => ?_⟩
  rw [Bool.not_eq_true']
  have hb' := hbefore b hb
  rw [Bool.not_eq_true'] at hb'
  exact Bool.eq_false_iff.mpr fun hp => Bool.false_ne_true (hb'.symm.trans (himp b hp))

section Keys

variable [DecidableEq κ] {key : α → κ} {k : κ} {a b : α}

omit [DecidableEq κ] in
/-- Records with one key are one record. -/
theorem eq_of_key_eq (hl : (l.map key).Nodup) (ha : a ∈ l) (hb : b ∈ l) (h : key a = key b) :
    a = b :=
  List.inj_on_of_nodup_map hl ha hb h

/-- A search by key finds the record with that key. -/
theorem find?_key_eq_some_iff (hl : (l.map key).Nodup) :
    l.find? (fun b => key b = k) = some a ↔ a ∈ l ∧ key a = k := by
  constructor
  · intro h
    have hkey := List.find?_some h
    exact ⟨List.mem_of_find?_eq_some h, of_decide_eq_true hkey⟩
  · rintro ⟨ha, rfl⟩
    have hsome : (l.find? fun b => key b = key a).isSome := by
      rw [List.find?_isSome]
      exact ⟨a, ha, decide_eq_true rfl⟩
    obtain ⟨b, hb⟩ := Option.isSome_iff_exists.mp hsome
    have hkey := List.find?_some hb
    rw [hb, eq_of_key_eq hl (List.mem_of_find?_eq_some hb) ha (of_decide_eq_true hkey)]

theorem find?_key_eq_none_iff :
    l.find? (fun b => key b = k) = none ↔ k ∉ l.map key := by
  rw [List.find?_eq_none, List.mem_map]
  constructor
  · rintro h ⟨b, hb, hk⟩
    exact h b hb (decide_eq_true hk)
  · intro h b hb hk
    exact h ⟨b, hb, of_decide_eq_true hk⟩

/-- What is listed after the record with a key was rewritten. -/
theorem mem_updateFirst (hl : (l.map key).Nodup) (ha : a ∈ l) (hk : key a = k) :
    b ∈ updateFirst (fun b => key b = k) f l ↔ b = f a ∨ (b ∈ l ∧ key b ≠ k) := by
  induction l with
  | nil => cases ha
  | cons c l ih =>
    rw [List.map_cons, List.nodup_cons] at hl
    rw [updateFirst_cons]
    by_cases hc : key c = k
    · rw [if_pos (decide_eq_true hc), List.mem_cons]
      have hac : a = c := by
        rcases List.mem_cons.mp ha with hac | ha
        · exact hac
        · exact absurd (List.mem_map.mpr ⟨a, ha, hk.trans hc.symm⟩) hl.1
      subst hac
      refine or_congr_right ⟨fun hb => ⟨List.mem_cons_of_mem _ hb, ?_⟩, fun hb => ?_⟩
      · rintro rfl
        exact hl.1 (List.mem_map.mpr ⟨b, hb, hk.symm ▸ rfl⟩)
      · rcases List.mem_cons.mp hb.1 with rfl | h
        · exact absurd hk hb.2
        · exact h
    · rw [if_neg (by rwa [decide_eq_true_iff]), List.mem_cons,
        ih hl.2 ((List.mem_cons.mp ha).resolve_left fun hac => hc (hac.symm ▸ hk)),
        List.mem_cons]
      constructor
      · rintro (rfl | rfl | ⟨hb, hne⟩)
        · exact Or.inr ⟨Or.inl rfl, hc⟩
        · exact Or.inl rfl
        · exact Or.inr ⟨Or.inr hb, hne⟩
      · rintro (rfl | ⟨rfl | hb, hne⟩)
        · exact Or.inr (Or.inl rfl)
        · exact Or.inl rfl
        · exact Or.inr (Or.inr ⟨hb, hne⟩)

/-- What is listed after an upsert: the new record, and every record with another key. -/
theorem mem_upsertFirst (hl : (l.map key).Nodup) (hk : key a = k) :
    b ∈ upsertFirst (fun b => key b = k) a l ↔ b = a ∨ (b ∈ l ∧ key b ≠ k) := by
  unfold upsertFirst
  split_ifs with hsome
  · obtain ⟨c, hc⟩ := Option.isSome_iff_exists.mp hsome
    obtain ⟨hmem, hkey⟩ := (find?_key_eq_some_iff hl).mp hc
    exact mem_updateFirst hl hmem hkey
  · have hnone := find?_key_eq_none_iff.mp (Option.not_isSome_iff_eq_none.mp hsome)
    rw [List.mem_append, List.mem_singleton, or_comm]
    refine or_congr_right ⟨fun hb => ⟨hb, ?_⟩, And.left⟩
    rintro rfl
    exact hnone (List.mem_map_of_mem hb)

/-- An upsert keeps keys distinct. -/
theorem nodup_map_upsertFirst (hl : (l.map key).Nodup) (hk : key a = k) :
    ((upsertFirst (fun b => key b = k) a l).map key).Nodup := by
  unfold upsertFirst
  split_ifs with hsome
  · rwa [map_updateFirst fun b hb => hk.trans (of_decide_eq_true hb).symm]
  · have hnone := find?_key_eq_none_iff.mp (Option.not_isSome_iff_eq_none.mp hsome)
    rw [List.map_append, List.map_singleton, List.nodup_append]
    refine ⟨hl, List.nodup_singleton _, fun x hx y hy => ?_⟩
    rintro rfl
    rw [List.mem_singleton.mp hy, hk] at hx
    exact hnone hx

omit [DecidableEq κ] in
/-- A search after an upsert: the new record under its own test. -/
theorem find?_upsertFirst_self (ha : p a = true) : (upsertFirst p a l).find? p = some a := by
  unfold upsertFirst
  split_ifs with hsome
  · obtain ⟨b, hb⟩ := Option.isSome_iff_exists.mp hsome
    rw [find?_updateFirst fun _ _ => ha, hb, Option.map_some]
  · rw [List.find?_append, Option.not_isSome_iff_eq_none.mp hsome, Option.none_or,
      List.find?_cons, ha]

/-- A search after an upsert of a record with another key. -/
theorem find?_upsertFirst_of_ne {k' : κ} (ha : key a = k) (hne : k' ≠ k) :
    (upsertFirst (fun b => key b = k) a l).find? (fun b => key b = k') =
      l.find? fun b => key b = k' := by
  have hother : ∀ b, key b = k → decide (key b = k') = false :=
    fun b hb => decide_eq_false fun h => hne (h.symm.trans hb)
  unfold upsertFirst
  split_ifs with hsome
  · exact find?_updateFirst_of_disjoint (fun b hb => hother b (of_decide_eq_true hb))
      (fun _ _ => hother a ha) l
  · rw [List.find?_append, List.find?_cons, hother a ha, List.find?_nil, Option.or_none]

theorem map_key_upsertFirst (hk : key a = k) :
    (upsertFirst (fun b => key b = k) a l).map key =
      if k ∈ l.map key then l.map key else l.map key ++ [k] := by
  unfold upsertFirst
  split_ifs with hsome hmem hmem
  · exact map_updateFirst (fun b hb => hk.trans (of_decide_eq_true hb).symm) l
  · rw [Option.isSome_iff_ne_none] at hsome
    exact absurd (find?_key_eq_none_iff.mpr hmem) hsome
  · exact absurd hmem (find?_key_eq_none_iff.mp (Option.not_isSome_iff_eq_none.mp hsome))
  · rw [List.map_append, List.map_singleton, hk]

/-! ## Upserting several records -/

/-- Upsert records one after the other. -/
def upsertAll (key : α → κ) (new l : List α) : List α :=
  new.foldl (fun l a => upsertFirst (fun b => key b = key a) a l) l

/-- **What is found after several upserts**: the last of the new records with a key, else the old
one. -/
theorem find?_upsertAll (new l : List α) (k : κ) :
    (upsertAll key new l).find? (fun b => key b = k) =
      (new.reverse.find? fun b => key b = k).or (l.find? fun b => key b = k) := by
  induction new generalizing l with
  | nil => rfl
  | cons a new ih =>
    rw [upsertAll, List.foldl_cons, ← upsertAll, ih, List.reverse_cons, List.find?_append,
      Option.or_assoc]
    congr 1
    by_cases hk : key a = k
    · subst hk
      rw [find?_upsertFirst_self (p := fun b => key b = key a) (decide_eq_true rfl),
        List.find?_cons, decide_eq_true rfl, Option.some_or]
    · rw [find?_upsertFirst_of_ne rfl (Ne.symm hk), List.find?_cons, decide_eq_false hk,
        List.find?_nil, Option.none_or]

/-- Several upserts keep keys distinct, and do not make them so. -/
theorem nodup_map_upsertAll_iff (new l : List α) :
    ((upsertAll key new l).map key).Nodup ↔ (l.map key).Nodup := by
  induction new generalizing l with
  | nil => exact Iff.rfl
  | cons a new ih =>
    rw [upsertAll, List.foldl_cons, ← upsertAll, ih, map_key_upsertFirst rfl]
    split_ifs with hmem
    · exact Iff.rfl
    · exact ⟨fun h => (List.nodup_append.mp h).1, fun h => List.Nodup.append h
        (List.nodup_singleton _) (List.disjoint_singleton.mpr hmem)⟩

/-- Several upserts leave the records that fail the test of every new one. -/
theorem filter_upsertAll {q : α → Bool} {new : List α}
    (hq : ∀ a ∈ new, ∀ b, key b = key a → q b = false) (l : List α) :
    (upsertAll key new l).filter q = l.filter q := by
  induction new generalizing l with
  | nil => rfl
  | cons a new ih =>
    have hnot : ∀ b, q b = true → (!decide (key b = key a)) = true := by
      intro b hb
      rw [Bool.not_eq_true', decide_eq_false_iff_not]
      intro hkey
      rw [hq a List.mem_cons_self b hkey] at hb
      cases hb
    have hrest : ∀ l : List α, l.filter q =
        (l.filter fun b => !decide (key b = key a)).filter q := by
      intro l
      rw [List.filter_filter]
      refine List.filter_congr fun b _ => ?_
      cases hb : q b with
      | true => rw [hnot b hb, Bool.and_true]
      | false => rw [Bool.false_and]
    rw [upsertAll, List.foldl_cons, ← upsertAll,
      ih fun b hb => hq b (List.mem_cons_of_mem a hb), hrest,
      filter_upsertFirst_of_not (p := fun b => key b = key a) (decide_eq_true rfl), ← hrest]

/-! ## Erasing by key -/

theorem map_eraseP_key (l : List α) (k : κ) :
    (l.eraseP fun b => key b = k).map key = (l.map key).erase k := by
  rw [List.erase_eq_eraseP', List.eraseP_map]
  rfl

/-- Erasing the record with a key leaves no record with that key. -/
theorem key_notMem_eraseP (hl : (l.map key).Nodup) (k : κ) :
    k ∉ (l.eraseP fun b => key b = k).map key := by
  rw [map_eraseP_key]
  exact hl.not_mem_erase

end Keys

/-! ## Entries of a map -/

section Entries

variable {β : Type u} [DecidableEq κ]

/-- What is kept of each value of a map is found under the same key. -/
theorem lookup_filterMap_keep {entries : List (κ × β)} (hl : (entries.map Prod.fst).Nodup)
    (keep : κ → β → Option α) (k : κ) :
    (entries.filterMap fun entry => (keep entry.1 entry.2).map (entry.1, ·)).lookup k =
      (entries.lookup k).bind (keep k) := by
  induction entries with
  | nil => rfl
  | cons entry entries ih =>
    obtain ⟨key, value⟩ := entry
    rw [List.map_cons, List.nodup_cons] at hl
    have hrest := ih hl.2
    rw [List.filterMap_cons, List.lookup_cons]
    dsimp only
    by_cases hk : k = key
    · subst hk
      rw [beq_self_eq_true]
      dsimp only
      rw [Option.bind_some]
      cases hkeep : keep k value with
      | none =>
        -- no later entry has the key
        have habsent : entries.lookup k = none := by
          rw [List.lookup_eq_none_iff]
          intro entry hentry
          rw [bne_iff_ne]
          exact fun hkey => hl.1 (List.mem_map.mpr ⟨entry, hentry, hkey.symm⟩)
        rw [Option.map_none, hrest, habsent]
        rfl
      | some kept =>
        rw [Option.map_some, List.lookup_cons, beq_self_eq_true]
    · rw [beq_false_of_ne hk]
      cases hkeep : keep key value with
      | none => exact hrest
      | some kept =>
        rw [Option.map_some, List.lookup_cons, beq_false_of_ne hk]
        exact hrest

end Entries

/-! ## What changes nothing -/

/-- A relation to another list, record by record, is kept if the rewriting keeps it. -/
theorem forall₂_updateFirst_right {β : Type u} {R : β → α → Prop} {l' : List β}
    (h : List.Forall₂ R l' l) (hf : ∀ b a, R b a → p a = true → R b (f a)) :
    List.Forall₂ R l' (updateFirst p f l) := by
  induction h with
  | nil => exact List.Forall₂.nil
  | cons hba hrest ih =>
    rw [updateFirst_cons]
    split_ifs with hp
    · exact List.Forall₂.cons (hf _ _ hba hp) hrest
    · exact List.Forall₂.cons hba ih

theorem updateFirst_append {before after : List α} {b : α} (hbefore : ∀ c ∈ before, p c = false)
    (hb : p b = true) :
    updateFirst p f (before ++ b :: after) = before ++ f b :: after := by
  induction before with
  | nil => exact if_pos hb
  | cons c before ih =>
    rw [List.cons_append, updateFirst_cons, hbefore c List.mem_cons_self,
      if_neg Bool.false_ne_true, ih fun d hd => hbefore d (List.mem_cons_of_mem c hd),
      List.cons_append]

/-- Only what is found already is put without a change. -/
theorem find?_of_perm_upsertFirst {a : α} (h : l.Perm (upsertFirst p a l)) :
    l.find? p = some a := by
  cases hfind : l.find? p with
  | none =>
    have hlength := h.length_eq
    rw [upsertFirst, hfind, Option.isSome_none, if_neg Bool.false_ne_true, List.length_append,
      List.length_singleton] at hlength
    omega
  | some b =>
    obtain ⟨hb, before, after, rfl, hbefore⟩ := List.find?_eq_some_iff_append.mp hfind
    rw [upsertFirst, hfind, Option.isSome_some, if_pos rfl,
      updateFirst_append (fun c hc => Bool.not_eq_true' (p c) |>.mp (hbefore c hc)) hb,
      List.perm_append_left_iff] at h
    have hcons : (b ::ₘ (after : Multiset α)) = a ::ₘ (after : Multiset α) :=
      Multiset.coe_eq_coe.mpr h
    rw [(Multiset.cons_inj_left _).mp hcons]

theorem upsertFirst_eq_self_iff {a : α} (ha : p a = true) :
    upsertFirst p a l = l ↔ l.find? p = some a := by
  constructor
  · intro h
    have hfind := find?_upsertFirst_self (l := l) ha
    rwa [h] at hfind
  · intro h
    have hsame := map_updateFirst_of_find? (p := p) (f := id) (g := id) (l := l) fun _ _ => rfl
    rw [List.map_id, List.map_id] at hsame
    exact (upsertFirst_of_find?_some (f := id) h).trans hsame

/-- The same with the list put in order afterwards. -/
theorem insertionSort_upsertFirst_eq_self_iff {a : α} (r : α → α → Prop) [DecidableRel r]
    [Std.Total r] [IsTrans α r] (ha : p a = true) :
    (upsertFirst p a l).insertionSort r = l ↔ l.find? p = some a ∧ l.Pairwise r := by
  constructor
  · intro h
    have hperm := List.perm_insertionSort r (upsertFirst p a l)
    have hsorted := List.pairwise_insertionSort r (upsertFirst p a l)
    rw [h] at hperm hsorted
    exact ⟨find?_of_perm_upsertFirst hperm, hsorted⟩
  · rintro ⟨hfind, hsorted⟩
    rw [(upsertFirst_eq_self_iff ha).mpr hfind]
    exact hsorted.insertionSort_eq

end Foundation
end MasterControl
