import MasterControl.Foundation.Json
import MasterControl.Foundation.Search
import Mathlib.Data.List.TakeWhile

/-!
# Parameters of a query

`extractQueryParam` finds a parameter by searching for its name and an equals sign, at the start of
the query or behind an `&`.  `extractQueryParamAny` does the same for one name after the other.

The reference splits the query at every `&` and each segment at its first `=`.  For a name without
either letter both give the same (`readsQuery`), since a needle that starts with the separator
is found where a segment starts.  An empty candidate is skipped, also where a segment has the empty
name; and a candidate with an `=` in it may be found although no segment has that name.
-/

namespace MasterControl
namespace Http

open Foundation

/-! ## The search -/

/-- What stands behind `name=` at the start of the query or behind an `&`. -/
def valueStart (query name : Bytes) : Option Bytes :=
  let needle := name ++ [61]
  if needle.isPrefixOf query then some (query.drop needle.length)
  else (cut (38 :: needle) query).map Prod.snd

def extractQueryParam (query name : Bytes) : Bytes :=
  if query = [] ∨ name = [] then []
  else
    match valueStart query name with
    | none => []
    | some value => value.takeWhile (· ≠ 38)

/-- The loop over the candidates; the source has the search in it a second time. -/
def firstPresent (query : Bytes) : List Bytes → Bytes
  | [] => []
  | name :: candidates =>
    if name = [] then firstPresent query candidates
    else
      match valueStart query name with
      | none => firstPresent query candidates
      | some value => value.takeWhile (· ≠ 38)

def extractQueryParamAny (query : Bytes) (candidates : List Bytes) : Bytes :=
  if query = [] then [] else firstPresent query candidates

/-! ## The reference -/

/-- What stands before the first equals sign of a segment. -/
def nameOf (segment : Bytes) : Bytes := segment.takeWhile (· ≠ 61)

/-- What stands behind the first equals sign of a segment. -/
def valueOf (segment : Bytes) : Bytes := (segment.dropWhile (· ≠ 61)).tail

def hasName (name segment : Bytes) : Bool := segment.contains 61 && nameOf segment = name

/-- The leftmost segment with a name. -/
def segmentOf (query name : Bytes) : Option Bytes := (query.splitOn 38).find? (hasName name)

def referenceParam (query name : Bytes) : Bytes := ((segmentOf query name).map valueOf).getD []

/-- The parameter of the first candidate that occurs as the name of a segment. -/
def referenceParamAny (query : Bytes) (candidates : List Bytes) : Bytes :=
  ((candidates.find? fun name => (segmentOf query name).isSome).map
    (extractQueryParam query)).getD []

/-- A name that can stand in a query. -/
structure IsName (name : Bytes) : Prop where
  nonempty : name ≠ []
  noSeparator : 38 ∉ name
  noEquals : 61 ∉ name

/-- What the search takes for the presence of a candidate. -/
def Present (query name : Bytes) : Prop :=
  name ≠ [] ∧ (name ++ [61] <+: query ∨ 38 :: (name ++ [61]) <:+: query)

/-- What the two functions give of a query. -/
structure ReadsQuery (query : Bytes) : Prop where
  param : ∀ name, IsName name → extractQueryParam query name = referenceParam query name
  any : ∀ candidates, (∀ name ∈ candidates, IsName name) →
    extractQueryParamAny query candidates = referenceParamAny query candidates
  present_iff : ∀ name, IsName name →
    (Present query name ↔ (segmentOf query name).isSome = true)
  first : ∀ before name after, (∀ other ∈ before, ¬ Present query other) → Present query name →
    extractQueryParamAny query (before ++ name :: after) = extractQueryParam query name
  absent : ∀ candidates, (∀ name ∈ candidates, ¬ Present query name) →
    extractQueryParamAny query candidates = []

/-! ## Segments -/

section Segments

variable {query name segment rest : Bytes} {candidates : List Bytes}

/-- A segment whose first equals sign stands behind the name. -/
theorem nameOf_append (hname : 61 ∉ name) (value : Bytes) : nameOf (name ++ 61 :: value) = name ∧
    valueOf (name ++ 61 :: value) = value := by
  have hall : ∀ b ∈ name, decide (b ≠ 61) = true := by
    intro b hb
    refine decide_eq_true ?_
    rintro rfl
    exact hname hb
  rw [nameOf, valueOf, List.takeWhile_append_of_pos hall, List.dropWhile_append_of_pos hall]
  exact ⟨List.append_nil name, rfl⟩

theorem hasName_iff (hname : 61 ∉ name) :
    hasName name segment = true ↔ name ++ [61] <+: segment := by
  rw [hasName, Bool.and_eq_true, List.contains_iff_mem, decide_eq_true_iff]
  constructor
  · rintro ⟨hmem, rfl⟩
    obtain ⟨front, value, rfl, hfront⟩ := List.eq_append_cons_of_mem hmem
    rw [(nameOf_append hfront value).1]
    exact ⟨value, by rw [List.append_assoc]; rfl⟩
  · rintro ⟨value, rfl⟩
    rw [List.append_assoc]
    exact ⟨List.mem_append_right _ List.mem_cons_self, (nameOf_append hname value).1⟩

theorem drop_of_hasName (hname : 61 ∉ name) (h : hasName name segment = true) :
    segment.drop (name ++ [61]).length = valueOf segment := by
  obtain ⟨value, rfl⟩ := (hasName_iff hname).mp h
  rw [List.drop_left, List.append_assoc]
  exact (nameOf_append hname value).2.symm

/-- A needle without the separator is a prefix of the first segment, if of the query. -/
theorem prefix_append_cons {needle : Bytes} (hneedle : 38 ∉ needle) (segment rest : Bytes) :
    needle <+: segment ++ 38 :: rest ↔ needle <+: segment := by
  constructor
  · intro h
    have hsegment : segment ++ [38] <+: segment ++ 38 :: rest :=
      ⟨rest, by rw [List.append_assoc]; rfl⟩
    rcases List.prefix_or_prefix_of_prefix h hsegment with hfront | hfront
    · rcases List.prefix_concat_iff.mp hfront with rfl | hfront
      · exact absurd List.mem_concat_self hneedle
      · exact hfront
    · exact absurd (hfront.subset List.mem_concat_self) hneedle
  · intro h
    exact h.trans (List.prefix_append _ _)

theorem takeWhile_separator (hsegment : 38 ∉ segment) (rest : Bytes) :
    segment.takeWhile (· ≠ 38) = segment ∧
      (segment ++ 38 :: rest).takeWhile (· ≠ 38) = segment := by
  have hall : ∀ b ∈ segment, decide (b ≠ 38) = true := by
    intro b hb
    refine decide_eq_true ?_
    rintro rfl
    exact hsegment hb
  refine ⟨List.takeWhile_eq_self_iff.mpr hall, ?_⟩
  rw [List.takeWhile_append_of_pos hall]
  exact List.append_nil segment

/-- The search in a query of one segment. -/
theorem valueStart_segment (hsegment : 38 ∉ segment) (hequals : 61 ∉ name) :
    (valueStart segment name).map (List.takeWhile (· ≠ 38)) =
      if hasName name segment then some (valueOf segment) else none := by
  rw [valueStart]
  by_cases hfound : hasName name segment = true
  · have hdrop := drop_of_hasName hequals hfound
    have hrest : 38 ∉ valueOf segment := fun hmem => hsegment (hdrop ▸ List.mem_of_mem_drop <| hmem)
    rw [if_pos (List.isPrefixOf_iff_prefix.mpr ((hasName_iff hequals).mp hfound)), if_pos hfound,
      hdrop, Option.map_some, (takeWhile_separator hrest []).1]
  · have hprefix : ¬ (name ++ [61]).isPrefixOf segment = true := fun h =>
      hfound ((hasName_iff hequals).mpr (List.isPrefixOf_iff_prefix.mp h))
    rw [if_neg hprefix, if_neg hfound, cut_cons_of_not_mem hsegment]
    rfl

/-- The search in a query with a first segment and others. -/
theorem valueStart_append (hsegment : 38 ∉ segment) (hseparator : 38 ∉ name) (hequals : 61 ∉ name)
    (rest : Bytes) : (valueStart (segment ++ 38 :: rest) name).map (List.takeWhile (· ≠ 38)) =
      if hasName name segment then some (valueOf segment)
      else (valueStart rest name).map (List.takeWhile (· ≠ 38)) := by
  have hneedle : 38 ∉ name ++ [61] := by
    intro hmem
    rcases List.mem_append.mp hmem with hmem | hmem
    · exact hseparator hmem
    · exact absurd (List.mem_singleton.mp hmem) (by decide)
  have hfront : (name ++ [61]).isPrefixOf (segment ++ 38 :: rest) = hasName name segment := by
    rw [Bool.eq_iff_iff, List.isPrefixOf_iff_prefix, prefix_append_cons hneedle,
      hasName_iff hequals]
  rw [valueStart]
  rw [hfront]
  by_cases hfound : hasName name segment = true
  · have hlength := ((hasName_iff hequals).mp hfound).length_le
    have hdrop := drop_of_hasName hequals hfound
    have hrest : 38 ∉ valueOf segment := fun hmem => hsegment (hdrop ▸ List.mem_of_mem_drop <| hmem)
    rw [if_pos hfound, if_pos hfound, List.drop_append_of_le_length hlength, hdrop,
      Option.map_some, (takeWhile_separator hrest rest).2]
  · rw [if_neg hfound, if_neg hfound, cut_cons_append_cons hsegment, valueStart]
    split_ifs
    · rfl
    · rw [Option.map_map, Option.map_map, Option.map_map]
      rfl

/-- **The search finds the value of the leftmost segment with the name.** -/
theorem valueStart_eq (hseparator : 38 ∉ name) (hequals : 61 ∉ name) (query : Bytes) :
    (valueStart query name).map (List.takeWhile (· ≠ 38)) =
      (segmentOf query name).map valueOf := by
  by_cases hmem : 38 ∈ query
  · obtain ⟨segment, rest, hquery, hsegment⟩ := List.eq_append_cons_of_mem hmem
    rw [hquery, valueStart_append hsegment hseparator hequals, segmentOf,
      List.splitOn_append_cons_self_of_not_mem hsegment, List.find?_cons]
    cases hasName name segment with
    | true => rfl
    | false => exact valueStart_eq hseparator hequals rest
  · rw [valueStart_segment hmem hequals, segmentOf, List.splitOn_eq_singleton hmem,
      List.find?_singleton]
    split_ifs <;> rfl
termination_by query.length
decreasing_by
  rw [hquery, List.length_append, List.length_cons]
  omega

theorem isSome_valueStart (hseparator : 38 ∉ name) (hequals : 61 ∉ name) (query : Bytes) :
    (valueStart query name).isSome = (segmentOf query name).isSome := by
  have h := congrArg Option.isSome (valueStart_eq hseparator hequals query)
  rwa [Option.isSome_map, Option.isSome_map] at h

/-! ## Presence -/

theorem isSome_valueStart_iff : (valueStart query name).isSome = true ↔
    name ++ [61] <+: query ∨ 38 :: (name ++ [61]) <:+: query := by
  rw [valueStart]
  split_ifs with hfront
  · exact iff_of_true rfl (.inl (List.isPrefixOf_iff_prefix.mp hfront))
  · rw [Option.isSome_map, isSome_cut_iff]
    constructor
    · exact .inr
    · rintro (h | h)
      · exact absurd (List.isPrefixOf_iff_prefix.mpr h) hfront
      · exact h

theorem not_present_nil : ¬ Present [] name := by
  rintro ⟨-, h | h⟩
  · exact absurd (List.prefix_nil.mp h) (List.append_ne_nil_of_right_ne_nil _ (List.cons_ne_nil _ _))
  · exact absurd (List.infix_nil.mp h) (List.cons_ne_nil _ _)

/-- One turn of the loop. -/
theorem firstPresent_cons (query name : Bytes) (candidates : List Bytes) :
    (Present query name ∧ query ≠ [] ∧
        firstPresent query (name :: candidates) = extractQueryParam query name) ∨
      (¬ Present query name ∧
        firstPresent query (name :: candidates) = firstPresent query candidates) := by
  rw [firstPresent]
  by_cases hname : name = []
  · rw [if_pos hname]
    exact .inr ⟨fun h => h.1 hname, rfl⟩
  · rw [if_neg hname]
    cases hvalue : valueStart query name with
    | none =>
      refine .inr ⟨fun h => ?_, rfl⟩
      have hsome := isSome_valueStart_iff.mpr h.2
      rw [hvalue] at hsome
      cases hsome
    | some value =>
      have hpresent : Present query name :=
        ⟨hname, isSome_valueStart_iff.mp (by rw [hvalue]; rfl)⟩
      have hquery : query ≠ [] := by
        rintro rfl
        exact not_present_nil hpresent
      refine .inl ⟨hpresent, hquery, ?_⟩
      rw [extractQueryParam, if_neg (not_or.mpr ⟨hquery, hname⟩), hvalue]

theorem extractQueryParamAny_of_none (h : ∀ name ∈ candidates, ¬ Present query name) :
    extractQueryParamAny query candidates = [] := by
  rw [extractQueryParamAny]
  split_ifs
  · rfl
  · induction candidates with
    | nil => rfl
    | cons name candidates ih =>
      rcases firstPresent_cons query name candidates with ⟨hpresent, -, -⟩ | ⟨-, hnext⟩
      · exact absurd hpresent (h name List.mem_cons_self)
      · rw [hnext, ih fun other hother => h other (List.mem_cons_of_mem name hother)]

theorem extractQueryParamAny_of_first (h : ∀ other ∈ candidates, ¬ Present query other)
    (hname : Present query name) (after : List Bytes) :
    extractQueryParamAny query (candidates ++ name :: after) = extractQueryParam query name := by
  have hquery : query ≠ [] := by
    rintro rfl
    exact not_present_nil hname
  rw [extractQueryParamAny, if_neg hquery]
  induction candidates with
  | nil =>
    rcases firstPresent_cons query name after with ⟨-, -, hvalue⟩ | ⟨habsent, -⟩
    · exact hvalue
    · exact absurd hname habsent
  | cons other candidates ih =>
    rcases firstPresent_cons query other (candidates ++ name :: after) with
      ⟨hpresent, -, -⟩ | ⟨-, hnext⟩
    · exact absurd hpresent (h other List.mem_cons_self)
    · rw [List.cons_append, hnext, ih fun c hc => h c (List.mem_cons_of_mem other hc)]

theorem present_iff (h : IsName name) (query : Bytes) :
    Present query name ↔ (segmentOf query name).isSome = true := by
  rw [Present, ← isSome_valueStart_iff, isSome_valueStart h.noSeparator h.noEquals]
  exact and_iff_right h.nonempty

theorem extractQueryParam_eq (h : IsName name) (query : Bytes) :
    extractQueryParam query name = referenceParam query name := by
  have hvalue := valueStart_eq h.noSeparator h.noEquals query
  rw [referenceParam, ← hvalue, extractQueryParam]
  by_cases hquery : query = []
  · rw [if_pos (.inl hquery)]
    have hnone : valueStart query name = none := by
      rw [hquery]
      refine Option.not_isSome_iff_eq_none.mp fun hsome => ?_
      exact not_present_nil ⟨h.nonempty, isSome_valueStart_iff.mp hsome⟩
    rw [hnone]
    rfl
  · rw [if_neg (not_or.mpr ⟨hquery, h.nonempty⟩)]
    cases valueStart query name with
    | none => rfl
    | some value => rfl

theorem extractQueryParamAny_eq (h : ∀ name ∈ candidates, IsName name) (query : Bytes) :
    extractQueryParamAny query candidates = referenceParamAny query candidates := by
  rw [referenceParamAny]
  cases hfound : candidates.find? fun name => (segmentOf query name).isSome with
  | none =>
    refine extractQueryParamAny_of_none fun name hname hpresent => ?_
    exact List.find?_eq_none.mp hfound name hname ((present_iff (h name hname) query).mp hpresent)
  | some name =>
    obtain ⟨hsome, before, after, rfl, hbefore⟩ := List.find?_eq_some_iff_append.mp hfound
    have hname := h name (List.mem_append_right _ List.mem_cons_self)
    refine extractQueryParamAny_of_first (fun other hother hpresent => ?_)
      ((present_iff hname query).mpr hsome) after
    have hother' := (present_iff (h other (List.mem_append_left _ hother)) query).mp hpresent
    have hnot := hbefore other hother
    rw [hother'] at hnot
    cases hnot

end Segments

/-- **What is extracted is what the split gives, for names; any candidate but the empty one counts
as present where it stands before an equals sign at the start of a segment.** -/
theorem readsQuery (query : Bytes) : ReadsQuery query where
  param _ hname := extractQueryParam_eq hname query
  any _ hnames := extractQueryParamAny_eq hnames query
  present_iff _ hname := present_iff hname query
  first _ _ after hbefore hname := extractQueryParamAny_of_first hbefore hname after
  absent _ hcandidates := extractQueryParamAny_of_none hcandidates

/-- A segment with the empty name does not make the empty candidate win, and a candidate with an
equals sign wins without a segment of that name. -/
theorem referenceParamAny_ne :
    extractQueryParamAny (asciiBytes "=x&max=1") [[], asciiBytes "max"] = asciiBytes "1" ∧
      referenceParamAny (asciiBytes "=x&max=1") [[], asciiBytes "max"] = [] ∧
      extractQueryParamAny (asciiBytes "a=b=c") [asciiBytes "a=b"] = asciiBytes "c" ∧
      referenceParamAny (asciiBytes "a=b=c") [asciiBytes "a=b"] = [] ∧
      ¬ ∀ query candidates,
        extractQueryParamAny query candidates = referenceParamAny query candidates := by
  have hcode : extractQueryParamAny (asciiBytes "=x&max=1") [[], asciiBytes "max"] =
      asciiBytes "1" := by decide +kernel
  have hreference : referenceParamAny (asciiBytes "=x&max=1") [[], asciiBytes "max"] = [] := by
    decide +kernel
  refine ⟨hcode, hreference, by decide +kernel, by decide +kernel, fun h => ?_⟩
  have hsame := h (asciiBytes "=x&max=1") [[], asciiBytes "max"]
  rw [hcode, hreference] at hsame
  exact absurd hsame (by decide +kernel)

end Http
end MasterControl
