import MasterControl.Diagnostics.Events

/-!
# The newest events that match

`Answers` says what the route is asked for: of all the events of the history that match, the first
ones, newest first.  The route reads only so many before it looks at the filters, a value that is no
object makes the sort throw, and the number of what is read wraps.  `diagnosticsEvents_iff` says
exactly when the answer is right all the same.
-/

namespace MasterControl
namespace Diagnostics

open Foundation

/-! ## What is asked for -/

/-- The digits of the number in a text. -/
def givenDigits (text : Bytes) : Bytes :=
  let text := text.dropWhile isSpaceByte
  (if text.head? = some 45 || text.head? = some 43 then text.tail else text).takeWhile isDigitByte

/-- The number that is given, as `stoull` reads it, but of any size; 200 if it is zero or none. -/
def numberGiven (text : Bytes) : ℕ :=
  if decimalValue (givenDigits text) = 0 then 200
  else (stoull text).getD (decimalValue (givenDigits text))

def isObject : Json → Bool
  | .object _ => true
  | _ => false

/-- A member is the wanted text; any member will do if no text is wanted. -/
def matchesText (key : String) (wanted : Bytes) (event : Json) : Bool :=
  wanted = [] || (Json.valueString key "" event).any fun value => utf8Bytes value.toList = wanted

/-- The value is an event, and it matches both filters. -/
def matchesFilters (query : Bytes) (event : Json) : Bool :=
  isObject event && (matchesText "severity" (severityOf query) event &&
    matchesText "component" (sourceOf query) event)

section Events

variable (format : JsonText)

/-- The events of a store, newest first. -/
def storeEvents (store : SqliteDiagnosticsStore) : List Json :=
  store.rows.reverse.map fun row => (row.record format).toLegacyJson

/-- The values of all files. -/
def fileEvents (components : List ComponentLogs) : List Json :=
  (components.flatMap fun component => readJsonlLines format component.live) ++
    components.flatMap fun component => readJsonlLines format component.rotated

/-- The newest of the events that match. -/
def Answers (history : DiagnosticsHistory) (query : Bytes) (events : List Json) : Prop :=
  match history.usedStore with
  | some store => events =
      ((storeEvents format store).filter (matchesFilters query)).take
        (numberGiven (maxTextOf query))
  | none => IsNewest age (numberGiven (maxTextOf query))
      ((fileEvents format (history.logsRoot.getD [])).filter (matchesFilters query)) events

def Truthful (sorter : NewestSort) (history : DiagnosticsHistory) (query : Bytes) : Prop :=
  ∃ events, diagnosticsEvents format sorter history query = some (eventsBody events) ∧
    Answers format history query events

/-! ## What is read -/

/-- The rows that the query of the store gives. -/
def storeRead (softCap : ℕ) (store : SqliteDiagnosticsStore) : List Json :=
  (storeQuery softCap).limitRows (storeEvents format store)

def storeUnread (softCap : ℕ) (store : SqliteDiagnosticsStore) : List Json :=
  (storeEvents format store).drop (storeRead format softCap store).length

/-- What the second pass does not come to. -/
def rotatedUnread (softCap : ℕ) : List ComponentLogs → List Json → List Json
  | [], _ => []
  | component :: components, events =>
    let events := events ++ readJsonlLines format component.rotated
    if haveEnough softCap events then
      components.flatMap fun component => readJsonlLines format component.rotated
    else rotatedUnread softCap components events

def fileUnread (softCap : ℕ) (components : List ComponentLogs) : List Json :=
  let events := components.flatMap fun component => readJsonlLines format component.live
  if haveEnough softCap events then
    components.flatMap fun component => readJsonlLines format component.rotated
  else rotatedUnread format softCap components events

/-- Nothing that is read makes the route throw, and all of it are events. -/
structure Readable (query : Bytes) (read : List Json) : Prop where
  objects : ∀ event ∈ read, isObject event = true
  times : 2 ≤ read.length → ∀ event ∈ read, (capturedAtUtc event).isSome = true
  severities : severityOf query ≠ [] →
    ∀ event ∈ read, (Json.valueString "severity" "" event).isSome = true
  components : sourceOf query ≠ [] → ∀ event ∈ read,
    matchesText "severity" (severityOf query) event = true →
      (Json.valueString "component" "" event).isSome = true

/-- Enough is read: the number is one of 64 bits, unless it does not matter, and of the matching
events that are read, so many are at least as new as each that is not. -/
def EnoughRead (query : Bytes) (covers : ℕ → List Json → List Json → Prop)
    (read unread : List Json) : Prop :=
  (maxOf query = numberGiven (maxTextOf query) ∨
    ((read ++ unread).filter (matchesFilters query)).length ≤ maxOf query) ∧
  covers (numberGiven (maxTextOf query)) (read.filter (matchesFilters query))
    (unread.filter (matchesFilters query))

/-- When the route finds the newest events. -/
def FindsNewest (history : DiagnosticsHistory) (query : Bytes) : Prop :=
  match history.usedStore with
  | some store => EnoughRead query (fun n read unread => unread = [] ∨ n ≤ read.length)
      (storeRead format (maxOf query) store) (storeUnread format (maxOf query) store)
  | none =>
    let components := history.logsRoot.getD []
    Readable query (readEvents format (maxOf query) components) ∧
      EnoughRead query (Covers age) (readEvents format (maxOf query) components)
        (fileUnread format (maxOf query) components)

end Events

/-! ## The number -/

section Number

variable {text query : Bytes} {n : ℕ}

theorem stoull_eq (text : Bytes) :
    stoull text =
      if givenDigits text = [] then none
      else if 2 ^ 64 ≤ decimalValue (givenDigits text) then none
      else some (if (text.dropWhile isSpaceByte).head? = some 45 then
        (2 ^ 64 - decimalValue (givenDigits text)) % 2 ^ 64
      else decimalValue (givenDigits text)) := rfl

/-- What `stoull` reads is zero if the digits are. -/
theorem zero_iff_of_stoull (h : stoull text = some n) :
    n = 0 ↔ decimalValue (givenDigits text) = 0 := by
  rw [stoull_eq] at h
  split_ifs at h with hnil hlarge hminus
  · obtain rfl := Option.some.inj h
    omega
  · obtain rfl := Option.some.inj h
    exact Iff.rfl

/-- A number of digits that `stoull` refuses is zero or large. -/
theorem large_of_stoull (h : stoull text = none) (hzero : decimalValue (givenDigits text) ≠ 0) :
    2 ^ 64 ≤ decimalValue (givenDigits text) := by
  rw [stoull_eq] at h
  split_ifs at h with hnil hlarge
  · rw [hnil] at hzero
    exact absurd rfl hzero
  · exact hlarge

theorem maxOf_pos (query : Bytes) : 0 < maxOf query := by
  show 0 < ite _ _ _
  split_ifs with hzero
  · decide
  · exact Nat.pos_of_ne_zero hzero

theorem maxOf_le (query : Bytes) : maxOf query ≤ numberGiven (maxTextOf query) := by
  rw [maxOf, numberGiven]
  cases hread : stoull (maxTextOf query) with
  | none =>
    show 200 ≤ ite _ _ _
    split_ifs with hzero
    · exact Nat.le_refl 200
    · have hlarge := large_of_stoull hread hzero
      rw [Option.getD_none]
      omega
  | some n =>
    dsimp only [Option.getD_some]
    by_cases hn : n = 0
    · rw [if_pos hn, if_pos ((zero_iff_of_stoull hread).mp hn)]
    · rw [if_neg hn, if_neg (mt (zero_iff_of_stoull hread).mpr hn)]

end Number

/-! ## What is read and what is not -/

section Reading

variable {format : JsonText} {softCap : ℕ}

theorem read_append_unread_store (format : JsonText) (softCap : ℕ) (store : SqliteDiagnosticsStore) :
    storeRead format softCap store ++ storeUnread format softCap store =
      storeEvents format store := by
  rw [storeUnread, storeRead, DiagnosticsQuery.limitRows]
  split_ifs
  · rw [List.drop_length, List.append_nil]
  · rw [List.length_take]
    rcases Nat.le_total (storeQuery softCap).maxResults (storeEvents format store).length with
      hle | hle
    · rw [Nat.min_eq_left hle, List.take_append_drop]
    · rw [Nat.min_eq_right hle, List.take_of_length_le hle, List.drop_length, List.append_nil]

theorem readRotated_append (components : List ComponentLogs) (events : List Json) :
    readRotated format softCap components events ++
        rotatedUnread format softCap components events =
      events ++ components.flatMap fun component => readJsonlLines format component.rotated := by
  induction components generalizing events with
  | nil => rfl
  | cons component components ih =>
    rw [readRotated, rotatedUnread, List.flatMap_cons, ← List.append_assoc]
    split_ifs
    · rfl
    · exact ih _

theorem read_append_unread_files (format : JsonText) (softCap : ℕ)
    (components : List ComponentLogs) :
    readEvents format softCap components ++ fileUnread format softCap components =
      fileEvents format components := by
  rw [readEvents, fileUnread, fileEvents]
  split_ifs
  · rfl
  · exact readRotated_append components _

end Reading

/-! ## The filters -/

section Filters

variable {key : String} {wanted query : Bytes} {events : List Json} {event : Json}

theorem keepEqual_of_readable
    (h : wanted ≠ [] → ∀ event ∈ events, (Json.valueString key "" event).isSome = true) :
    keepEqual key wanted events = some (events.filter (matchesText key wanted)) := by
  rw [keepEqual]
  by_cases hwanted : wanted = []
  · rw [if_pos hwanted]
    exact congrArg some (List.filter_eq_self.mpr fun event _ => by simp [matchesText, hwanted]).symm
  · rw [if_neg hwanted, Json.filter?_of_isSome fun event hevent => by
      rw [Option.isSome_map]
      exact h hwanted event hevent]
    refine congrArg some (List.filter_congr fun event _ => ?_)
    rw [matchesText, decide_eq_false hwanted, Bool.false_or, Option.any_map]
    rfl

theorem keepEqual_eq_none (hwanted : wanted ≠ []) (hevent : event ∈ events)
    (h : Json.valueString key "" event = none) : keepEqual key wanted events = none := by
  rw [keepEqual, if_neg hwanted]
  exact Json.filter?_eq_none hevent (by rw [h]; rfl)

theorem valueString_of_not_isObject (h : isObject event = false) (key : String) :
    Json.valueString key "" event = none := by
  cases event with
  | object members => cases h
  | _ => rfl

/-- The filters, as the loop over the candidates runs also for an empty query. -/
theorem applyFilters_eq (query : Bytes) (events : List Json) :
    applyFilters query events =
      (keepEqual "severity" (severityOf query) events).bind
        (keepEqual "component" (sourceOf query)) := by
  rw [applyFilters]
  split_ifs with hquery
  · rw [hquery]
    rfl
  · rfl

/-- **What can be read is filtered.** -/
theorem applyFilters_of_readable {read : List Json} (h : Readable query read)
    (hperm : events.Perm read) :
    applyFilters query events = some (events.filter (matchesFilters query)) := by
  rw [applyFilters_eq, keepEqual_of_readable fun hsome event hevent =>
    h.severities hsome event (hperm.mem_iff.mp hevent), Option.bind_some, keepEqual_of_readable]
  · rw [List.filter_filter]
    refine congrArg some (List.filter_congr fun event hevent => ?_)
    rw [matchesFilters, h.objects event (hperm.mem_iff.mp hevent), Bool.true_and, Bool.and_comm]
  · intro hsome event hevent
    obtain ⟨hmem, hseverity⟩ := List.mem_filter.mp hevent
    exact h.components hsome event (hperm.mem_iff.mp hmem) hseverity

/-- Filters that do not throw have read their members. -/
theorem readable_of_applyFilters {kept : List Json} (h : applyFilters query events = some kept) :
    (severityOf query ≠ [] →
      ∀ event ∈ events, (Json.valueString "severity" "" event).isSome = true) ∧
    (sourceOf query ≠ [] → ∀ event ∈ events,
      matchesText "severity" (severityOf query) event = true →
        (Json.valueString "component" "" event).isSome = true) := by
  rw [applyFilters_eq] at h
  have hseverities : severityOf query ≠ [] →
      ∀ event ∈ events, (Json.valueString "severity" "" event).isSome = true := by
    intro hsome event hevent
    by_contra hnone
    rw [keepEqual_eq_none hsome hevent (by simpa using hnone)] at h
    cases h
  refine ⟨hseverities, fun hsome event hevent hmatches => ?_⟩
  rw [keepEqual_of_readable hseverities, Option.bind_some] at h
  by_contra hnone
  rw [keepEqual_eq_none hsome (List.mem_filter.mpr ⟨hevent, hmatches⟩) (by simpa using hnone)] at h
  cases h

end Filters

/-! ## The store -/

section Store

variable {format : JsonText} {sorter : NewestSort} {history : DiagnosticsHistory} {query : Bytes}
  {store : SqliteDiagnosticsStore}

theorem readable_store (format : JsonText) (store : SqliteDiagnosticsStore) {event : Json}
    (h : event ∈ storeEvents format store) :
    isObject event = true ∧ ∀ key, key = "severity" ∨ key = "component" →
      (Json.valueString key "" event).isSome = true := by
  obtain ⟨row, -, rfl⟩ := List.mem_map.mp h
  refine ⟨rfl, fun key hkey => ?_⟩
  rcases hkey with rfl | rfl <;> rfl

theorem eventsBody_injective : Function.Injective eventsBody := by
  intro events events' h
  injection h with hmembers
  injection hmembers with _ hrest
  injection hrest with hevents
  injection hevents with _ harray
  injection harray

/-- The first events among those read, and among all. -/
theorem take_filter_iff {α : Type} {matching read unread : List α} {m n : ℕ} (hm : m ≤ n)
    (hmatching : matching = read ++ unread) :
    read.take m = matching.take n ↔
      (m = n ∨ matching.length ≤ m) ∧ (unread = [] ∨ n ≤ read.length) := by
  subst hmatching
  constructor
  · intro h
    have hlength := congrArg List.length h
    rw [List.length_take, List.length_take, List.length_append] at hlength
    rw [List.length_append, ← List.length_eq_zero_iff]
    omega
  · rintro ⟨hbound, hrest⟩
    rw [List.length_append] at hbound
    rcases hrest with rfl | hrest
    · rw [List.append_nil]
      rcases hbound with rfl | hbound
      · rfl
      · rw [List.length_nil, Nat.add_zero] at hbound
        rw [List.take_of_length_le hbound, List.take_of_length_le (hbound.trans hm)]
    · obtain rfl : m = n := by omega
      rw [List.take_append_of_le_length hrest]

/-- The route reads the rows that the query gives. -/
theorem aggregateEvents_store (hstore : history.usedStore = some store) (softCap : ℕ) :
    aggregateEvents format sorter history softCap = some (storeRead format softCap store) := by
  have hopen : store.isOpen = true := by
    obtain ⟨-, hused⟩ := Option.filter_eq_some_iff.mp hstore
    exact (Bool.and_eq_true_iff.mp hused).1
  have hall : store.rows.reverse.filter (storeQuery softCap).selectsRow = store.rows.reverse :=
    List.filter_eq_self.mpr fun row _ => rfl
  rw [aggregateEvents, hstore]
  dsimp only
  rw [SqliteDiagnosticsStore.query, if_pos hopen, answerFrom, hall, storeRead, storeEvents,
    limitRows_map, List.map_map]
  rfl

/-- **A history in the store.** -/
theorem truthful_store_iff (hstore : history.usedStore = some store) :
    Truthful format sorter history query ↔
      EnoughRead query (fun n read unread => unread = [] ∨ n ≤ read.length)
        (storeRead format (maxOf query) store) (storeUnread format (maxOf query) store) := by
  have hreads := read_append_unread_store format (maxOf query) store
  have hread : ∀ event ∈ storeRead format (maxOf query) store,
      event ∈ storeEvents format store := fun event hevent => by
    rw [← hreads]
    exact List.mem_append_left _ hevent
  have hreadable (key : String) (hkey : key = "severity" ∨ key = "component") :
      ∀ event ∈ storeRead format (maxOf query) store,
        (Json.valueString key "" event).isSome = true := fun event hevent =>
    (readable_store format store (hread event hevent)).2 key hkey
  have hfiltered : applyFilters query (storeRead format (maxOf query) store) =
      some ((storeRead format (maxOf query) store).filter (matchesFilters query)) := by
    rw [applyFilters_eq, keepEqual_of_readable fun _ => hreadable _ (.inl rfl), Option.bind_some,
      keepEqual_of_readable fun _ event hevent =>
        hreadable _ (.inr rfl) event (List.mem_of_mem_filter hevent), List.filter_filter]
    refine congrArg some (List.filter_congr fun event hevent => ?_)
    rw [matchesFilters, (readable_store format store (hread event hevent)).1, Bool.true_and,
      Bool.and_comm]
  have hroute : diagnosticsEvents format sorter history query =
      some (eventsBody (((storeRead format (maxOf query) store).filter
        (matchesFilters query)).take (maxOf query))) := by
    rw [diagnosticsEvents, aggregateEvents_store hstore]
    show (applyFilters query _).bind _ = _
    rw [hfiltered]
    rfl
  have hall := congrArg (List.filter (matchesFilters query)) hreads
  rw [List.filter_append] at hall
  rw [EnoughRead, List.filter_append, hall]
  refine Iff.trans ?_ (take_filter_iff (maxOf_le query) hall.symm)
  rw [Truthful, hroute]
  simp only [Answers, hstore]
  constructor
  · rintro ⟨events, hbody, rfl⟩
    exact eventsBody_injective (Option.some.inj hbody)
  · intro h
    exact ⟨_, congrArg (fun events => some (eventsBody events)) h, rfl⟩

end Store

/-! ## The files -/

section Files

variable {format : JsonText} {sorter : NewestSort} {history : DiagnosticsHistory} {query : Bytes}

theorem sortEvents_of_readable {read : List Json} (h : Readable query read) :
    sorter.sortEvents read = some (sorter.sort read) := by
  rw [NewestSort.sortEvents, if_neg]
  rw [Bool.and_eq_true, decide_eq_true_eq, List.any_eq_true]
  rintro ⟨htwo, event, hevent, hnone⟩
  rw [Option.isNone_iff_eq_none] at hnone
  have hsome := h.times htwo event hevent
  rw [hnone] at hsome
  cases hsome

/-- The route sorts what it reads. -/
theorem aggregateEvents_files (hnone : history.usedStore = none) (softCap : ℕ) :
    aggregateEvents format sorter history softCap =
      sorter.sortEvents (readEvents format softCap (history.logsRoot.getD [])) := by
  rw [aggregateEvents, hnone]
  dsimp only
  cases history.logsRoot with
  | some components => rfl
  | none =>
    have hread : readEvents format softCap [] = [] := by
      rw [readEvents]
      split_ifs <;> rfl
    have hnil : sorter.sort [] = [] := (sorter.perm []).eq_nil
    show some [] = sorter.sortEvents (readEvents format softCap [])
    rw [hread, NewestSort.sortEvents, hnil]
    rfl

theorem diagnosticsEvents_files (format : JsonText) (sorter : NewestSort) (query : Bytes)
    (hnone : history.usedStore = none) :
    diagnosticsEvents format sorter history query =
      (sorter.sortEvents (readEvents format (maxOf query) (history.logsRoot.getD []))).bind
        fun events => (applyFilters query events).bind
          fun events => some (eventsBody (events.take (maxOf query))) := by
  rw [diagnosticsEvents, aggregateEvents_files hnone]
  rfl

/-- **A history in the files**, if nothing that is read makes the route throw. -/
theorem truthful_files_of_readable (hnone : history.usedStore = none)
    (hreadable : Readable query (readEvents format (maxOf query) (history.logsRoot.getD []))) :
    Truthful format sorter history query ↔
      EnoughRead query (Covers age) (readEvents format (maxOf query) (history.logsRoot.getD []))
        (fileUnread format (maxOf query) (history.logsRoot.getD [])) := by
  have hreads := read_append_unread_files format (maxOf query)
    (history.logsRoot.getD [])
  have hroute := diagnosticsEvents_files format sorter query hnone
  rw [sortEvents_of_readable hreadable, Option.bind_some,
    applyFilters_of_readable hreadable (sorter.perm _), Option.bind_some] at hroute
  have hfound := (sorter.newestFirst (readEvents format (maxOf query)
    (history.logsRoot.getD []))).filter (matchesFilters query)
  have hperm := (sorter.perm (readEvents format (maxOf query) (history.logsRoot.getD []))).filter
    (matchesFilters query)
  rw [EnoughRead, List.filter_append, ← isNewest_take_iff hfound hperm (maxOf_le query),
    ← List.filter_append, hreads, Truthful, hroute]
  simp only [Answers, hnone]
  constructor
  · rintro ⟨events, hbody, hnewest⟩
    rwa [eventsBody_injective (Option.some.inj hbody)]
  · intro h
    exact ⟨_, rfl, h⟩

/-- An answer has been read without an exception, and everything in it is an event. -/
theorem readable_of_truthful (hnone : history.usedStore = none)
    (h : Truthful format sorter history query) :
    Readable query (readEvents format (maxOf query) (history.logsRoot.getD [])) := by
  obtain ⟨events, hroute, hanswers⟩ := h
  rw [diagnosticsEvents_files format sorter query hnone] at hroute
  obtain ⟨sorted, hsorted, hroute⟩ := Option.bind_eq_some_iff.mp hroute
  obtain ⟨kept, hkept, hbody⟩ := Option.bind_eq_some_iff.mp hroute
  obtain rfl := eventsBody_injective (Option.some.inj hbody)
  generalize readEvents format (maxOf query) (history.logsRoot.getD []) = read at hsorted ⊢
  rw [NewestSort.sortEvents] at hsorted
  split_ifs at hsorted with hthrows
  obtain rfl := Option.some.inj hsorted
  have hmem (event : Json) : event ∈ sorter.sort read ↔ event ∈ read :=
    (sorter.perm read).mem_iff
  have hmembers := readable_of_applyFilters hkept
  simp only [hmem] at hmembers
  have htimes : 2 ≤ read.length → ∀ event ∈ read, (capturedAtUtc event).isSome = true := by
    intro htwo event hevent
    by_contra hunread
    refine hthrows (Bool.and_eq_true_iff.mpr ⟨decide_eq_true htwo, List.any_eq_true.mpr ?_⟩)
    exact ⟨event, hevent, by simpa using hunread⟩
  refine ⟨fun event hevent => ?_, htimes, hmembers.1, hmembers.2⟩
  by_contra hobject
  rw [Bool.not_eq_true] at hobject
  have hvalue := valueString_of_not_isObject hobject
  -- a value that throws is the only one, and no filter looks at it
  have hone : read = [event] := by
    have hshort : ¬ 2 ≤ read.length := fun htwo => by
      have htime := htimes htwo event hevent
      rw [capturedAtUtc, hvalue] at htime
      cases htime
    obtain ⟨other, hother⟩ := List.length_eq_one_iff.mp
      (show read.length = 1 by have := List.length_pos_of_mem hevent; omega)
    rw [hother, List.mem_singleton] at hevent
    rw [hother, hevent]
  have hseverity : severityOf query = [] := by
    by_contra hsome
    have hseverities := hmembers.1 hsome event hevent
    rw [hvalue] at hseverities
    cases hseverities
  have hsource : sourceOf query = [] := by
    by_contra hsome
    have hcomponents := hmembers.2 hsome event hevent (by rw [matchesText, hseverity]; rfl)
    rw [hvalue] at hcomponents
    cases hcomponents
  have hfound : event ∈ kept.take (maxOf query) := by
    rw [applyFilters_eq, hseverity, hsource] at hkept
    obtain rfl := Option.some.inj hkept
    have hsort : sorter.sort read = [event] := by
      have hperm := sorter.perm read
      rw [hone] at hperm ⊢
      exact List.perm_singleton.mp hperm
    have hlength : [event].length ≤ maxOf query := maxOf_pos query
    rw [hsort, List.take_of_length_le hlength]
    exact List.mem_singleton_self _
  simp only [Answers, hnone] at hanswers
  obtain ⟨ordered, hordered, -, htake⟩ := hanswers
  rw [htake] at hfound
  have hmatches := (List.mem_filter.mp (hordered.mem_iff.mp (List.mem_of_mem_take hfound))).2
  rw [matchesFilters, hobject] at hmatches
  cases hmatches

end Files

/-- **The route finds the newest events that match** exactly when enough is read, and nothing that
is read makes it throw. -/
theorem diagnosticsEvents_iff (format : JsonText) (sorter : NewestSort)
    (history : DiagnosticsHistory) (query : Bytes) :
    Truthful format sorter history query ↔ FindsNewest format history query := by
  cases hused : history.usedStore with
  | some store =>
    rw [truthful_store_iff hused]
    simp only [FindsNewest, hused]
  | none =>
    simp only [FindsNewest, hused]
    constructor
    · intro h
      have hreadable := readable_of_truthful hused h
      exact ⟨hreadable, (truthful_files_of_readable hused hreadable).mp h⟩
    · rintro ⟨hreadable, henough⟩
      exact (truthful_files_of_readable hused hreadable).mpr henough

/-! ## A rare severity -/

/-- A stable sort. -/
def stableSort : NewestSort where
  sort events := events.mergeSort fun event event' => decide (age event' ≤ age event)
  perm _ := List.mergeSort_perm _ _
  newestFirst events := newestFirst_mergeSort age events

def unreadFormat : JsonText where
  parse _ := none
  dump _ := []

def rowWith (id : ℕ) (severity : DiagnosticsSeverity) : Row where
  id := id
  capturedAtUtc := "2024-05-01T00:00:00Z"
  source := "runtime"
  severity := severity
  eventName := "sample"
  message := ""
  dataJson := []
  sessionId := "session"
  sequence := id

/-- An error, and then four events that are none. -/
def rareError : SqliteDiagnosticsStore where
  isOpen := true
  rows := [rowWith 1 .error, rowWith 2 .info, rowWith 3 .info, rowWith 4 .info, rowWith 5 .info]
  nextId := 6
  sorted := by decide
  below := by decide

def rareHistory : DiagnosticsHistory where
  diagnosticsService := some { store := some rareError, sessionId := "session" }
  logsRoot := none

def errorQuery : Bytes := asciiBytes "max=1&severity=error"

theorem rare_error_not_found :
    ¬ ∀ (format : JsonText) (sorter : NewestSort) (history : DiagnosticsHistory) (query : Bytes),
      Truthful format sorter history query := by
  intro hall
  have hstore : rareHistory.usedStore = some rareError := rfl
  obtain ⟨-, hcovers⟩ :=
    (truthful_store_iff hstore).mp (hall unreadFormat stableSort rareHistory errorQuery)
  have hmax : maxOf errorQuery = 1 := by decide
  have hgiven : numberGiven (maxTextOf errorQuery) = 1 := by decide
  rw [hmax, hgiven] at hcovers
  have hread : ((storeRead unreadFormat 1 rareError).filter (matchesFilters errorQuery)).length
      = 0 := by decide
  have hunread : ((storeUnread unreadFormat 1 rareError).filter
      (matchesFilters errorQuery)).length = 1 := by decide
  rcases hcovers with hnil | hle
  · rw [hnil] at hunread
    cases hunread
  · rw [hread] at hle
    cases hle

end Diagnostics
end MasterControl
