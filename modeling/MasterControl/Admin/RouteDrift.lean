import MasterControl.Admin.RouteFacts
import MasterControl.Foundation.KeyedList

/-!
# Where the table has drifted from the dispatch

Over all paths, the table, the `Allow` header and the identifiers agree with the dispatch exactly
where none of five kinds of path is met (`routeTableAgrees_iff`).

The conditions of the blocks and the rows of the tables are told apart by how they start.  Of a
path that is not one of the exact ones, only the blocks and rows matter whose start is comparable
with a start of the path, and these are few (`Below`).
-/

namespace MasterControl
namespace Admin

open Foundation

variable {path start : Bytes} {method : Verb} {block : RouteBlock}

/-! ## What should agree -/

/-- The verbs that an `Allow` header lists. -/
def listedVerbs (allow : Bytes) : List Bytes :=
  (allow.splitOn 44).map fun verb => verb.dropWhile (· = 32)

/-- The table and the dispatch agree on a path. -/
structure RouteTableAgrees (path : Bytes) : Prop where
  /-- Where a block answers, the table has no row or lists the method. -/
  supported : ∀ method ∈ requestMethods, (route method path).isSome = true →
    supportedMethodsForPath path = [] ∨ method ∈ supportedMethodsForPath path
  /-- An `Allow` header lists the verbs that have a handler, and no others. -/
  allow : ∀ method ∈ requestMethods, ∀ response,
    answerRequest method path = .methodNotAllowed response →
      ∀ verb, verb.text ∈ listedVerbs response.allow ↔ accepts path verb = true
  /-- The identifier is what stands between the start and the ending, and is not empty. -/
  identifier : ∀ method ∈ requestMethods, ∀ block ∈ route method path,
    ∀ id ∈ block.actsOn path, id ≠ [] ∧ path = block.around.1 ++ id ++ block.around.2

/-! ## Where they do not -/

/-- The paths of which the table, the header or an identifier is wrong. -/
def drifted (path : Bytes) : Bool :=
  -- a method of which the row does not know
  path = literal "/api/governance/profile" ||
  -- a block that answers every method
  (literal "/api/workflows/").isPrefixOf path ||
  -- two blocks that turn the path away themselves, with a status of their own
  clientPatterns.any (routePatternMatches path) ||
  -- an empty identifier, and a start and an ending that share their slash
  namedParts.any (fun parts => path = parts.1 ++ parts.2 || path = parts.1 ++ parts.2.tail) ||
  -- two rows that take a whole path for a start
  (validUtf8 path &&
    (((literal "/api/telemetry/events").isPrefixOf path &&
        path ≠ literal "/api/telemetry/events") ||
      ((literal "/api/activity").isPrefixOf path && path ≠ literal "/api/activity" &&
        path ≠ literal "/api/activity/health")))

/-! ## The header lists the supported methods -/

theorem mem_listedVerbs (methods : List Verb) (verb : Verb) :
    verb.text ∈ listedVerbs (buildAllowHeader methods) ↔ verb ∈ allowedVerbs methods := by
  have hall : ∀ verbs ∈ kOrder.sublists, ∀ verb ∈ kOrder,
      (verb.text ∈ listedVerbs ((literal ", ").intercalate (verbs.map Verb.text)) ↔
        verb ∈ verbs) := by
    decide +kernel
  refine hall _ (List.mem_sublists.mpr List.filter_sublist) verb ?_
  cases verb <;> decide

/-- Every row lists methods of requests only. -/
theorem mem_requestMethods_of_supported (h : method ∈ supportedMethodsForPath path) :
    method ∈ requestMethods := by
  have hall := routeFacts.row_methods
  simp only [List.mem_append] at hall
  unfold supportedMethodsForPath openMethods at h
  dsimp only at h
  split at h
  · next entry hentry => exact hall entry (.inl (.inl (List.mem_of_find?_eq_some hentry))) _ h
  · split at h
    · next entry hentry => exact hall entry (.inl (.inr (List.mem_of_find?_eq_some hentry))) _ h
    · split at h
      · next entry hentry => exact hall entry (.inr (List.mem_of_find?_eq_some hentry)) _ h
      · cases h

/-- Of a path with a row, the dispatch and the row know the same methods. -/
def MethodsAgree (path : Bytes) : Prop :=
  ∀ method ∈ requestMethods,
    (route method path).isSome = true ↔ method ∈ supportedMethodsForPath path

instance (path : Bytes) : Decidable (MethodsAgree path) :=
  inferInstanceAs (Decidable (∀ method ∈ requestMethods, _))

/-- The third part of the agreement. -/
def IdentifiersAgree (path : Bytes) : Prop :=
  ∀ method ∈ requestMethods, ∀ block ∈ route method path,
    ∀ id ∈ block.actsOn path, id ≠ [] ∧ path = block.around.1 ++ id ++ block.around.2

instance (path : Bytes) : Decidable (IdentifiersAgree path) :=
  inferInstanceAs (Decidable (∀ method ∈ requestMethods, ∀ block ∈ route method path, _))

theorem mem_allowedVerbs (methods : List Verb) (verb : Verb) :
    verb ∈ allowedVerbs methods ↔
      verb ∈ methods ∨ (verb = .head ∧ .get ∈ methods) ∨ verb = .options := by
  have hmem : verb ∈ kOrder := by cases verb <;> decide
  simp only [allowedVerbs, List.mem_filter, hmem, true_and, Bool.or_eq_true, Bool.and_eq_true,
    List.contains_iff_mem, decide_eq_true_iff, or_assoc]

theorem accepts_of_request (h : method ∈ requestMethods) :
    accepts path method = (route method path).isSome := by
  cases method with
  | head => exact absurd h (by decide)
  | options => exact absurd h (by decide)
  | _ => rfl

theorem accepts_iff_mem_allowed (h : MethodsAgree path) (verb : Verb) :
    verb ∈ allowedVerbs (supportedMethodsForPath path) ↔ accepts path verb = true := by
  rw [mem_allowedVerbs]
  cases verb with
  | options => exact ⟨fun _ => rfl, fun _ => Or.inr (Or.inr rfl)⟩
  | head =>
    constructor
    · rintro (hmem | ⟨-, hget⟩ | hoptions)
      · exact absurd (mem_requestMethods_of_supported hmem) (by decide)
      · exact (h .get (by decide)).mpr hget
      · cases hoptions
    · intro hget
      exact Or.inr (Or.inl ⟨rfl, (h .get (by decide)).mp hget⟩)
  | _ =>
    rw [accepts_of_request (by decide), h _ (by decide)]
    constructor
    · rintro (hmem | ⟨hhead, -⟩ | hoptions)
      · exact hmem
      · cases hhead
      · cases hoptions
    · exact Or.inl

theorem answerRequest_eq_methodNotAllowed {response : MethodNotAllowed} :
    answerRequest method path = .methodNotAllowed response ↔
      route method path = none ∧ supportedMethodsForPath path ≠ [] ∧ validUtf8 path = true ∧
        response = ⟨buildAllowHeader (supportedMethodsForPath path), path, method.text⟩ := by
  rw [answerRequest]
  cases route method path with
  | some block => exact ⟨nofun, nofun⟩
  | none =>
    dsimp only
    split
    · next hnone => exact ⟨nofun, fun h => absurd hnone h.2.1⟩
    · next hrow =>
      split
      · next hvalid =>
        constructor
        · intro h
          exact ⟨rfl, hrow, hvalid, (RouteAnswer.methodNotAllowed.inj h).symm⟩
        · rintro ⟨-, -, -, rfl⟩
          rfl
      · next hvalid => exact ⟨nofun, fun h => absurd h.2.2.1 hvalid⟩

theorem agrees_of_methodsAgree (h : supportedMethodsForPath path = [] ∨ MethodsAgree path)
    (hid : IdentifiersAgree path) : RouteTableAgrees path where
  supported method hmethod hroute := h.imp id fun hagree => (hagree method hmethod).mp hroute
  allow method hmethod response hanswer verb := by
    obtain ⟨-, hrow, -, rfl⟩ := answerRequest_eq_methodNotAllowed.mp hanswer
    rw [mem_listedVerbs]
    exact accepts_iff_mem_allowed (h.resolve_left hrow) verb
  identifier := hid

/-- A block answers a method that the row of the path does not list. -/
theorem not_agrees_of_missing (hmethod : method ∈ requestMethods)
    (hroute : (route method path).isSome = true) (hrow : supportedMethodsForPath path ≠ [])
    (hmissing : method ∉ supportedMethodsForPath path) : ¬ RouteTableAgrees path := by
  intro h
  rcases h.supported method hmethod hroute with hnone | hmem
  · exact hrow hnone
  · exact hmissing hmem

/-- The row of a path lists a method that no block answers. -/
theorem not_agrees_of_extra (hroute : route method path = none)
    (hextra : method ∈ supportedMethodsForPath path) (hvalid : validUtf8 path = true) :
    ¬ RouteTableAgrees path := by
  intro h
  have hmethod := mem_requestMethods_of_supported hextra
  have hanswer := answerRequest_eq_methodNotAllowed.mpr
    ⟨hroute, List.ne_nil_of_mem hextra, hvalid, rfl⟩
  have haccepts := (h.allow method hmethod _ hanswer method).mp
    ((mem_listedVerbs _ _).mpr ((mem_allowedVerbs _ _).mpr (Or.inl hextra)))
  rw [accepts_of_request hmethod, hroute] at haccepts
  cases haccepts

/-! ## Identifiers -/

/-- Where start and ending do not share their slash, and stand apart, the text between them is the
identifier. -/
theorem textBetween_eq {parts : Bytes × Bytes} (hparts : parts ∈ namedParts)
    (hjoint : path ∉ jointPaths) (hstart : parts.1 <+: path) (hending : parts.2 <:+ path) :
    textBetween path parts.1 parts.2 ≠ [] ∧
      path = parts.1 ++ textBetween path parts.1 parts.2 ++ parts.2 := by
  obtain ⟨-, hlast, hhead, htail⟩ := routeFacts.named_parts parts hparts
  have hjoints : ∀ joint ∈ [parts.1 ++ parts.2, parts.1 ++ parts.2.tail], path ≠ joint :=
    fun joint hmem heq => hjoint (List.mem_flatMap.mpr ⟨parts, hparts, heq ▸ hmem⟩)
  obtain ⟨rest, rfl⟩ := hstart
  by_cases hshort : rest.length < parts.2.length
  · have hoverlap := eq_tail_of_overlap hlast hhead htail hending hshort
    exact absurd (congrArg (parts.1 ++ ·) hoverlap) (hjoints _ (by simp))
  · obtain ⟨id, rfl⟩ := List.suffix_of_suffix_length_le hending (List.suffix_append parts.1 rest)
      (not_lt.mp hshort)
    have hbetween : textBetween (parts.1 ++ (id ++ parts.2)) parts.1 parts.2 = id := by
      have hfits : parts.1.length + parts.2.length ≤ (parts.1 ++ (id ++ parts.2)).length := by
        simp only [List.length_append]
        omega
      have hcount : (parts.1 ++ (id ++ parts.2)).length - parts.1.length - parts.2.length =
          id.length := by
        simp only [List.length_append]
        omega
      rw [textBetween, if_pos hfits, hcount, List.drop_left, List.take_left]
    rw [hbetween]
    refine ⟨?_, (List.append_assoc _ _ _).symm⟩
    rintro rfl
    exact hjoints _ (by simp) rfl

theorem identifiersAgree (hjoint : path ∉ jointPaths) : IdentifiersAgree path := by
  intro method _ block hblock id hid
  have hmem := List.mem_of_find?_eq_some hblock
  have hadmits := List.find?_some hblock
  rw [RouteBlock.admits, Bool.and_eq_true] at hadmits
  have hholds := hadmits.2
  rw [RouteBlock.actsOn] at hid
  split at hid
  · next hnamed =>
    have hparts := routeFacts.named block hmem hnamed
    rw [RouteBlock.around]
    cases hcondition : block.condition with
    | exact whole =>
      rw [hcondition] at hid
      cases hid
    | under start =>
      rw [hcondition] at hid hholds
      obtain ⟨suffix, rfl⟩ := List.isPrefixOf_iff_prefix.mp hholds
      dsimp only at hid ⊢
      rw [List.drop_left] at hid
      split at hid
      · cases hid
      · next hsuffix =>
        obtain rfl := Option.some.inj hid
        refine ⟨fun hnil => hsuffix ?_, (List.append_nil _).symm⟩
        rw [hnil]
        rfl
    | closing start ending =>
      rw [hcondition] at hid hholds hparts
      obtain rfl := Option.some.inj hid
      rw [RouteCondition.holds, Bool.and_eq_true, List.isPrefixOf_iff_prefix,
        List.isSuffixOf_iff_suffix] at hholds
      exact textBetween_eq (hparts _ rfl) hjoint hholds.1 hholds.2
  · cases hid

/-! ## What the dispatch and the rows say of a path -/

theorem route_isSome_iff : (route method path).isSome = true ↔
    ∃ block ∈ routeBlocks, (block.method = none ∨ block.method = some method) ∧
      block.condition.holds path = true := by
  rw [route, List.find?_isSome]
  simp only [RouteBlock.admits, Bool.and_eq_true, Bool.or_eq_true, decide_eq_true_iff]

theorem starts_of_holds (hopen : block.isOpen = true) (hholds : block.condition.holds path = true) :
    block.around.1 <+: path := by
  rw [RouteBlock.isOpen] at hopen
  rw [RouteBlock.around]
  cases hcondition : block.condition with
  | exact whole =>
    rw [hcondition] at hopen
    cases hopen
  | under start =>
    rw [hcondition] at hholds
    exact List.isPrefixOf_iff_prefix.mp hholds
  | closing start ending =>
    rw [hcondition, RouteCondition.holds, Bool.and_eq_true] at hholds
    exact List.isPrefixOf_iff_prefix.mp hholds.1

theorem routePatternMatches_iff {entry : Bytes × List Verb} (hentry : entry ∈ kPatterns) :
    routePatternMatches path entry.1 = true ↔ ∃ id, id ≠ [] ∧ slash ∉ id ∧
      path = (patternAround entry.1).1 ++ id ++ (patternAround entry.1).2 := by
  obtain ⟨hsegments, hlead, htrail⟩ := routeFacts.pattern_starred entry hentry
  exact segmentsMatch_splitOn_iff hsegments hlead htrail

/-- Where the supported methods of a path come from that is not an exact row. -/
theorem supported_cases (hquery : questionMark ∉ path) (hexact : path ∉ kExact.map Prod.fst) :
    (∃ entry ∈ kPatterns, routePatternMatches path entry.1 = true ∧
      supportedMethodsForPath path = entry.2) ∨
    (∀ entry ∈ kPatterns, ¬ routePatternMatches path entry.1 = true) ∧
      ((∃ entry ∈ kPrefix, entry.1 <+: path ∧ supportedMethodsForPath path = entry.2) ∨
        (∀ entry ∈ kPrefix, ¬ entry.1 <+: path) ∧ supportedMethodsForPath path = []) := by
  have hpath : path.takeWhile (· ≠ questionMark) = path := takeWhile_ne_eq_self_iff.mpr hquery
  have hopen : supportedMethodsForPath path = openMethods path := by
    rw [supportedMethodsForPath, hpath, find?_key_eq_none_iff.mpr hexact]
  rw [hopen, openMethods]
  cases hpattern : kPatterns.find? fun entry => routePatternMatches path entry.1 with
  | some entry =>
    have hmatches := List.find?_some hpattern
    exact Or.inl ⟨entry, List.mem_of_find?_eq_some hpattern, hmatches, rfl⟩
  | none =>
    refine Or.inr ⟨List.find?_eq_none.mp hpattern, ?_⟩
    cases hrow : kPrefix.find? fun entry => entry.1.isPrefixOf path with
    | some entry =>
      have hstarts := List.find?_some hrow
      exact Or.inl ⟨entry, List.mem_of_find?_eq_some hrow,
        List.isPrefixOf_iff_prefix.mp hstarts, rfl⟩
    | none =>
      refine Or.inr ⟨fun entry hentry hstarts => ?_, rfl⟩
      exact List.find?_eq_none.mp hrow entry hentry (List.isPrefixOf_iff_prefix.mpr hstarts)

/-! ## Exact paths -/

theorem mem_exactMethods : (path, method) ∈ exactMethods ↔
    ∃ block ∈ routeBlocks, block.method = some method ∧ block.condition = .exact path := by
  rw [exactMethods, List.mem_filterMap]
  constructor
  · rintro ⟨block, hblock, hpair⟩
    split at hpair
    · next hmethod hcondition =>
      obtain ⟨rfl, rfl⟩ := Prod.mk.inj (Option.some.inj hpair)
      exact ⟨block, hblock, hmethod, hcondition⟩
    · cases hpair
  · rintro ⟨block, hblock, hmethod, hcondition⟩
    exact ⟨block, hblock, by rw [hmethod, hcondition]⟩

theorem mem_rowMethods : (path, method) ∈ rowMethods ↔
    ∃ entry ∈ kExact, entry.1 = path ∧ method ∈ entry.2 := by
  rw [rowMethods, List.mem_flatMap]
  constructor
  · rintro ⟨entry, hentry, hpair⟩
    obtain ⟨_, hmethod, heq⟩ := List.mem_map.mp hpair
    obtain ⟨rfl, rfl⟩ := Prod.mk.inj heq
    exact ⟨entry, hentry, rfl, hmethod⟩
  · rintro ⟨entry, hentry, rfl, hmethod⟩
    exact ⟨entry, hentry, List.mem_map_of_mem hmethod⟩

theorem mem_exactMethods_iff : (path, method) ∈ exactMethods ↔
    (path, method) ∈ rowMethods ∨ (path, method) ∈ unlisted := by
  rw [← List.mem_append]
  have hmem {l : List (Bytes × Verb)} :
      (path, method) ∈ l ↔ numbered (path, method) ∈ l.map numbered :=
    (List.mem_map_of_injective numbered_injective).symm
  rw [hmem, hmem (l := rowMethods ++ unlisted)]
  exact ⟨routeFacts.exact_listed _, routeFacts.exact_served _⟩

theorem exists_exact_of_closed (h : block.isOpen = false) :
    ∃ whole, block.condition = .exact whole := by
  rw [RouteBlock.isOpen] at h
  cases hcondition : block.condition with
  | exact whole => exact ⟨whole, rfl⟩
  | under start => rw [hcondition] at h; cases h
  | closing start ending => rw [hcondition] at h; cases h

theorem mem_exactPaths_of_mem (h : (path, method) ∈ exactMethods) : path ∈ exactPaths := by
  rcases mem_exactMethods_iff.mp h with hrow | hunlisted
  · obtain ⟨entry, hentry, rfl, -⟩ := mem_rowMethods.mp hrow
    exact List.mem_cons_of_mem _ (List.mem_cons_of_mem _ (List.mem_map_of_mem hentry))
  · have hpath := List.mem_map_of_mem (f := Prod.fst) hunlisted
    rcases List.mem_cons.mp hpath with rfl | hpath
    · exact List.mem_cons_of_mem _ (List.mem_cons_of_mem _ routeFacts.special_rows.1)
    · rcases List.mem_cons.mp hpath with rfl | hpath
      · exact List.mem_cons_self
      · obtain rfl := List.mem_singleton.mp hpath
        exact List.mem_cons_of_mem _ List.mem_cons_self

/-- A block that is not open answers its own path. -/
theorem mem_exactMethods_of_closed (hblock : block ∈ routeBlocks) (hclosed : block.isOpen = false)
    (hmethod : block.method = none ∨ block.method = some method)
    (hholds : block.condition.holds path = true) : (path, method) ∈ exactMethods := by
  obtain ⟨whole, hcondition⟩ := exists_exact_of_closed hclosed
  rw [hcondition] at hholds
  obtain rfl : path = whole := of_decide_eq_true hholds
  exact mem_exactMethods.mpr ⟨block, hblock,
    hmethod.resolve_left (routeFacts.exact_method block hblock hclosed), hcondition⟩

/-- The dispatch of an exact path. -/
theorem route_exact (h : path ∈ exactPaths) :
    (route method path).isSome = true ↔ (path, method) ∈ exactMethods := by
  rw [route_isSome_iff]
  constructor
  · rintro ⟨block, hblock, hmethod, hholds⟩
    cases hopen : block.isOpen with
    | false => exact mem_exactMethods_of_closed hblock hopen hmethod hholds
    | true =>
      have hstart := List.isPrefixOf_iff_prefix.mpr (starts_of_holds hopen hholds)
      have hlisted := routeFacts.block_start block hblock hopen
      rw [(routeFacts.exact_not_under path h).1 _ hlisted] at hstart
      cases hstart
  · intro hmem
    obtain ⟨block, hblock, hmethod, hcondition⟩ := mem_exactMethods.mp hmem
    refine ⟨block, hblock, Or.inr hmethod, ?_⟩
    rw [hcondition]
    exact decide_eq_true rfl

/-- The row of an exact path. -/
theorem mem_supported_exact (hquery : questionMark ∉ path) (h : path ∈ kExact.map Prod.fst) :
    method ∈ supportedMethodsForPath path ↔ (path, method) ∈ rowMethods := by
  have hpath : path.takeWhile (· ≠ questionMark) = path := takeWhile_ne_eq_self_iff.mpr hquery
  have hnodup : (kExact.map Prod.fst).Nodup := by
    refine List.Nodup.of_map number ?_
    rw [List.map_map]
    exact routeFacts.exact_nodup
  obtain ⟨entry, hentry, rfl⟩ := List.mem_map.mp h
  have hfind := (find?_key_eq_some_iff hnodup).mpr ⟨hentry, rfl⟩
  rw [supportedMethodsForPath, hpath, hfind, mem_rowMethods]
  constructor
  · intro hmem
    exact ⟨entry, hentry, rfl, hmem⟩
  · rintro ⟨other, hother, hkey, hmem⟩
    rwa [← eq_of_key_eq hnodup hother hentry hkey]

theorem methodsAgree_exact (hquery : questionMark ∉ path) (h : path ∈ exactPaths)
    (hprofile : path ≠ profilePath) : MethodsAgree path := by
  intro method _
  rw [route_exact h, mem_exactMethods_iff]
  obtain ⟨-, -, hevents, hactivity⟩ := routeFacts.special_rows
  obtain ⟨-, hevents', hactivity'⟩ := routeFacts.special_methods
  have hunlisted : (path, method) ∈ unlisted ↔
      (path = eventsPath ∨ path = activityPath) ∧ method = .get := by
    simp only [unlisted, List.mem_cons, List.not_mem_nil, or_false, Prod.mk.injEq, hprofile,
      false_and, false_or, or_and_right]
  rw [hunlisted]
  have hnorow (hpath : path ∉ kExact.map Prod.fst) : (path, method) ∉ rowMethods := fun hrow => by
    obtain ⟨entry, hentry, rfl, -⟩ := mem_rowMethods.mp hrow
    exact hpath (List.mem_map_of_mem hentry)
  rcases List.mem_cons.mp h with rfl | hmem
  · rw [hevents', List.mem_singleton]
    simp only [hnorow hevents, false_or, true_or, true_and]
  rcases List.mem_cons.mp hmem with rfl | hkey
  · rw [hactivity', List.mem_singleton]
    simp only [hnorow hactivity, false_or, or_true, true_and]
  · rw [mem_supported_exact hquery hkey]
    refine or_iff_left ?_
    rintro ⟨rfl | rfl, -⟩
    · exact hevents hkey
    · exact hactivity hkey

/-! ## The drifted paths by their start -/

theorem exists_between_of_clientPattern {pattern : Bytes} (h : pattern ∈ clientPatterns)
    (hmatches : routePatternMatches path pattern = true) :
    ∃ id, path = clientsStart ++ id ∧ slash ∈ id := by
  obtain ⟨hslash, entry, hentry, rfl, haround⟩ := routeFacts.client_patterns pattern h
  obtain ⟨id, -, -, rfl⟩ := (routePatternMatches_iff hentry).mp hmatches
  refine ⟨id ++ (patternAround entry.1).2, ?_, List.mem_append_right _ hslash⟩
  rw [haround, List.append_assoc]

/-- A row that takes the path for one below its own. -/
def Overreached (path : Bytes) : Prop :=
  (eventsPath <+: path ∧ path ≠ eventsPath) ∨
    (activityPath <+: path ∧ path ≠ activityPath ∧ path ≠ activityHealthPath)

theorem drifted_iff : drifted path = true ↔
    path = profilePath ∨ workflowsStart <+: path ∨
      (∃ pattern ∈ clientPatterns, routePatternMatches path pattern = true) ∨
      path ∈ jointPaths ∨ (validUtf8 path = true ∧ Overreached path) := by
  have hjoint : path ∈ jointPaths ↔ namedParts.any (fun parts =>
      path = parts.1 ++ parts.2 || path = parts.1 ++ parts.2.tail) = true := by
    simp only [jointPaths, List.mem_flatMap, List.mem_cons, List.not_mem_nil, or_false,
      List.any_eq_true, Bool.or_eq_true, decide_eq_true_iff]
  rw [hjoint, drifted, Overreached]
  simp only [Bool.or_eq_true, Bool.and_eq_true, decide_eq_true_iff, List.any_eq_true,
    List.isPrefixOf_iff_prefix, or_assoc, and_assoc]
  rfl

theorem start_unique {other : Bytes} (hstart : start ∈ allStarts) (hother : other ∈ allStarts)
    (hpath : start <+: path) (hpath' : other <+: path) : start = other :=
  routeFacts.comparable_starts start hstart other hother (comparable_of_prefixes hpath hpath')

theorem joint_start (h : path ∈ jointPaths) : ∃ start ∈ blockStarts, start <+: path := by
  obtain ⟨parts, hparts, hmem⟩ := List.mem_flatMap.mp h
  refine ⟨parts.1, (routeFacts.named_parts parts hparts).1, ?_⟩
  rcases List.mem_cons.mp hmem with rfl | hmem
  · exact List.prefix_append _ _
  · obtain rfl := List.mem_singleton.mp hmem
    exact List.prefix_append _ _

theorem drifted_exact (h : path ∈ exactPaths) : drifted path = true ↔ path = profilePath := by
  obtain ⟨hstarts, hevents, hactivity⟩ := routeFacts.exact_not_under path h
  have hnot {start : Bytes} (hstart : start ∈ blockStarts) : ¬ start <+: path := fun hpath => by
    rw [← List.isPrefixOf_iff_prefix, hstarts start hstart] at hpath
    cases hpath
  rw [drifted_iff]
  refine or_iff_left ?_
  rintro (hworkflows | ⟨pattern, hpattern, hmatches⟩ | hjoint | ⟨-, ⟨hpath, hne⟩ | ⟨hpath, hne⟩⟩)
  · exact hnot (by simp [blockStarts]) hworkflows
  · obtain ⟨id, rfl, -⟩ := exists_between_of_clientPattern hpattern hmatches
    have hclients : clientsStart ∈ blockStarts := by simp [blockStarts]
    exact hnot hclients (List.prefix_append _ _)
  · obtain ⟨start, hstart, hpath⟩ := joint_start hjoint
    exact hnot hstart hpath
  · exact hne (hevents (List.isPrefixOf_iff_prefix.mpr hpath))
  · rcases hactivity (List.isPrefixOf_iff_prefix.mpr hpath) with heq | heq
    · exact hne.1 heq
    · exact hne.2 heq

theorem exists_driftStart (hexact : path ∉ exactPaths) (hjoint : path ∉ jointPaths)
    (h : drifted path = true) : ∃ start ∈ driftStarts, start <+: path := by
  rcases drifted_iff.mp h with
    rfl | hworkflows | ⟨pattern, hpattern, hmatches⟩ | hmem | ⟨-, ⟨hpath, -⟩ | ⟨hpath, -⟩⟩
  · exact absurd (List.mem_cons_of_mem _ (List.mem_cons_of_mem _ routeFacts.special_rows.1)) hexact
  · exact ⟨workflowsStart, by simp [driftStarts], hworkflows⟩
  · obtain ⟨id, rfl, -⟩ := exists_between_of_clientPattern hpattern hmatches
    exact ⟨clientsStart, by simp [driftStarts], List.prefix_append _ _⟩
  · exact absurd hmem hjoint
  · exact ⟨eventsPath, by simp [driftStarts], hpath⟩
  · exact ⟨activityPath, by simp [driftStarts], hpath⟩

/-! ## Paths below a start -/

/-- A path that is none of the exact ones, with a start of a block or row. -/
structure Below (start path : Bytes) : Prop where
  listed : start ∈ allStarts
  starts : start <+: path
  exact : path ∉ exactPaths
  joint : path ∉ jointPaths
  query : questionMark ∉ path

namespace Below

variable (h : Below start path)
include h

/-- Only the blocks with this start matter. -/
theorem route_isSome_iff : (route method path).isSome = true ↔
    ∃ block ∈ routeBlocks, (block.isOpen = true ∧ block.around.1 = start) ∧
      (block.method = none ∨ block.method = some method) ∧
        block.condition.holds path = true := by
  rw [Admin.route_isSome_iff]
  constructor
  · rintro ⟨block, hblock, hmethod, hholds⟩
    refine ⟨block, hblock, ?_, hmethod, hholds⟩
    cases hopen : block.isOpen with
    | false =>
      exact absurd (mem_exactPaths_of_mem
        (mem_exactMethods_of_closed hblock hopen hmethod hholds)) h.exact
    | true =>
      have hstart := List.mem_append_left [eventsPath, activityPath]
        (routeFacts.block_start block hblock hopen)
      exact ⟨rfl, start_unique hstart h.listed (starts_of_holds hopen hholds) h.starts⟩
  · rintro ⟨block, hblock, -, hmethod, hholds⟩
    exact ⟨block, hblock, hmethod, hholds⟩

theorem overreached (hstart : start ∈ [eventsPath, activityPath]) : Overreached path := by
  have hexact {other : Bytes} (hother : other ∈ exactPaths) : path ≠ other :=
    fun heq => h.exact (heq ▸ hother)
  rcases List.mem_cons.mp hstart with rfl | hstart
  · exact Or.inl ⟨h.starts, hexact List.mem_cons_self⟩
  · obtain rfl := List.mem_singleton.mp hstart
    refine Or.inr ⟨h.starts, hexact (List.mem_cons_of_mem _ List.mem_cons_self), hexact ?_⟩
    exact List.mem_cons_of_mem _ (List.mem_cons_of_mem _ routeFacts.special_rows.2.1)

/-- Only the rows with this start matter. -/
theorem supported_cases :
    (∃ entry ∈ kPatterns, (patternAround entry.1).1 = start ∧
      routePatternMatches path entry.1 = true ∧ supportedMethodsForPath path = entry.2) ∨
    (∀ entry ∈ kPatterns, ¬ routePatternMatches path entry.1 = true) ∧
      ((∃ entry ∈ kPrefix, entry.1 = start ∧ supportedMethodsForPath path = entry.2) ∨
        (∀ entry ∈ kPrefix, entry.1 ≠ start) ∧ supportedMethodsForPath path = []) := by
  have hexact : path ∉ kExact.map Prod.fst := fun hmem =>
    h.exact (List.mem_cons_of_mem _ (List.mem_cons_of_mem _ hmem))
  rcases Admin.supported_cases h.query hexact with
    ⟨entry, hentry, hmatches, hsupported⟩ |
      ⟨hnone, ⟨entry, hentry, hstarts, hsupported⟩ | ⟨hno, hsupported⟩⟩
  · have hlisted := List.mem_append_left [eventsPath, activityPath]
      (routeFacts.pattern_start entry hentry)
    obtain ⟨id, -, -, hpath⟩ := (routePatternMatches_iff hentry).mp hmatches
    rw [List.append_assoc] at hpath
    exact Or.inl ⟨entry, hentry, start_unique hlisted h.listed ⟨_, hpath.symm⟩ h.starts, hmatches,
      hsupported⟩
  · exact Or.inr ⟨hnone, Or.inl ⟨entry, hentry,
      start_unique (routeFacts.row_start entry hentry) h.listed hstarts h.starts, hsupported⟩⟩
  · refine Or.inr ⟨hnone, Or.inr ⟨fun entry hentry heq => hno entry hentry ?_, hsupported⟩⟩
    rw [heq]
    exact h.starts

theorem not_under {other : Bytes} (hother : other ∈ driftStarts) (hpath : other <+: path)
    (hne : start ≠ other) : False :=
  hne (start_unique h.listed (routeFacts.drift_start other hother) h.starts hpath)

theorem not_drifted (hstart : start ∉ driftStarts) : drifted path = false := by
  rw [Bool.eq_false_iff]
  intro hdrifted
  obtain ⟨other, hother, hpath⟩ := exists_driftStart h.exact h.joint hdrifted
  exact hstart (start_unique h.listed (routeFacts.drift_start other hother) h.starts hpath ▸ hother)

end Below

/-- Below a uniform start. -/
theorem agrees_uniform {family : Bytes × List Verb} (hfamily : family ∈ uniformStarts)
    (h : Below family.1 path) : RouteTableAgrees path ∧ drifted path = false := by
  obtain ⟨hserved, hblocks, hpatterns, hrows, hdrift⟩ := routeFacts.uniform family hfamily
  have hroute (method : Verb) : (route method path).isSome = true ↔ method ∈ family.2 := by
    rw [h.route_isSome_iff]
    constructor
    · rintro ⟨block, hblock, ⟨hopen, hstart⟩, hmethod, -⟩
      obtain ⟨served, hserved, heq⟩ := hblocks block hblock hopen hstart
      rw [heq] at hmethod
      obtain rfl := Option.some.inj (hmethod.resolve_left (Option.some_ne_none _))
      exact hserved
    · intro hmethod
      obtain ⟨block, hblock, heq, hcondition⟩ := hserved method hmethod
      refine ⟨block, hblock, ⟨?_, ?_⟩, Or.inr heq, ?_⟩
      · rw [RouteBlock.isOpen, hcondition]
      · rw [RouteBlock.around, hcondition]
      · rw [hcondition]
        exact List.isPrefixOf_iff_prefix.mpr h.starts
  have hsupported : supportedMethodsForPath path = [] ∨
      supportedMethodsForPath path = family.2 := by
    rcases h.supported_cases with ⟨entry, hentry, hstart, -, hsupported⟩ |
      ⟨-, ⟨entry, hentry, hstart, hsupported⟩ | ⟨-, hsupported⟩⟩
    · exact Or.inr (hsupported.trans (hpatterns entry hentry hstart))
    · exact Or.inr (hsupported.trans (hrows entry hentry hstart))
    · exact Or.inl hsupported
  refine ⟨agrees_of_methodsAgree (hsupported.imp id fun heq method _ => ?_)
    (identifiersAgree h.joint), ?_⟩
  · rw [hroute, heq]
  · exact h.not_drifted hdrift

/-- Below the workflow templates. -/
theorem agrees_templates (h : Below templatesStart path) :
    RouteTableAgrees path ∧ drifted path = false := by
  obtain ⟨hmethods, ⟨block, hblock, hmethod, hcondition⟩, hpatterns, hrows, hstart⟩ :=
    routeFacts.templates
  refine ⟨agrees_of_methodsAgree ?_ (identifiersAgree h.joint), h.not_drifted hstart⟩
  rcases h.supported_cases with ⟨entry, hentry, hstart, hmatches, hsupported⟩ |
    ⟨-, ⟨entry, hentry, hstart, -⟩ | ⟨-, hsupported⟩⟩
  · obtain ⟨hending, hentries⟩ := hpatterns entry hentry hstart
    obtain ⟨id, -, -, hpath⟩ := (routePatternMatches_iff hentry).mp hmatches
    refine Or.inr fun method _ => ?_
    rw [h.route_isSome_iff, hsupported, hentries, List.mem_singleton]
    constructor
    · rintro ⟨other, hother, ⟨hopen, hstart⟩, hasked, -⟩
      rw [hmethods other hother hopen hstart] at hasked
      exact (Option.some.inj (hasked.resolve_left (Option.some_ne_none _))).symm
    · rintro rfl
      refine ⟨block, hblock, ⟨?_, ?_⟩, Or.inr hmethod, ?_⟩
      · rw [RouteBlock.isOpen, hcondition]
      · rw [RouteBlock.around, hcondition]
      · rw [hcondition, RouteCondition.holds, Bool.and_eq_true, List.isPrefixOf_iff_prefix,
          List.isSuffixOf_iff_suffix]
        refine ⟨h.starts, ?_⟩
        rw [hpath, hending]
        exact List.suffix_append _ _
  · exact absurd hstart (hrows entry hentry)
  · exact Or.inl hsupported

/-- Below the workflows every method is answered. -/
theorem not_agrees_workflows (h : Below workflowsStart path) :
    ¬ RouteTableAgrees path ∧ drifted path = true := by
  obtain ⟨⟨block, hblock, hmethod, hcondition⟩, hpatterns, hrows, row, hrow, hstart⟩ :=
    routeFacts.workflows
  refine ⟨?_, drifted_iff.mpr (Or.inr (Or.inl h.starts))⟩
  have hsupported : supportedMethodsForPath path = [.get, .post, .delete] := by
    rcases h.supported_cases with ⟨entry, hentry, hstart, -⟩ |
      ⟨-, ⟨entry, hentry, hstart, hsupported⟩ | ⟨hnone, -⟩⟩
    · exact absurd hstart (hpatterns entry hentry)
    · exact hsupported.trans (hrows entry hentry hstart)
    · exact absurd hstart (hnone row hrow)
  have hroute : (route .put path).isSome = true := by
    refine route_isSome_iff.mpr ⟨block, hblock, Or.inl hmethod, ?_⟩
    rw [hcondition]
    exact List.isPrefixOf_iff_prefix.mpr h.starts
  refine not_agrees_of_missing (by decide) hroute ?_ ?_
  · rw [hsupported]
    exact List.cons_ne_nil _ _
  · rw [hsupported]
    decide

theorem route_clients (h : clientsStart <+: path) (hmethod : method ∈ [Verb.get, Verb.delete]) :
    (route method path).isSome = true := by
  obtain ⟨block, hblock, hasked, hcondition⟩ := routeFacts.clients.2.1 method hmethod
  refine route_isSome_iff.mpr ⟨block, hblock, Or.inr hasked, ?_⟩
  rw [hcondition]
  exact List.isPrefixOf_iff_prefix.mpr h

/-- Below a client. -/
theorem not_agrees_of_clientPattern (h : Below clientsStart path) {pattern : Bytes}
    (hpattern : pattern ∈ clientPatterns) (hmatches : routePatternMatches path pattern = true) :
    ¬ RouteTableAgrees path := by
  obtain ⟨id, rfl, hslash⟩ := exists_between_of_clientPattern hpattern hmatches
  have hsupported : ∃ methods, supportedMethodsForPath (clientsStart ++ id) = methods ∧
      methods ≠ [] ∧ .delete ∉ methods := by
    rcases h.supported_cases with ⟨entry, hentry, hstart, hmatches', hsupported⟩ | ⟨hnone, -⟩
    · rcases routeFacts.clients.2.2.1 entry hentry hstart with ⟨-, hne, hdelete⟩ | ⟨hending, -⟩
      · exact ⟨entry.2, hsupported, hne, hdelete⟩
      · obtain ⟨other, -, hother, heq⟩ := (routePatternMatches_iff hentry).mp hmatches'
        rw [hstart, hending, List.append_nil] at heq
        rw [List.append_cancel_left heq] at hslash
        exact absurd hslash hother
    · obtain ⟨-, entry, hentry, rfl, -⟩ := routeFacts.client_patterns pattern hpattern
      exact absurd hmatches (hnone entry hentry)
  obtain ⟨methods, heq, hne, hdelete⟩ := hsupported
  have hroute : (route .delete (clientsStart ++ id)).isSome = true :=
    route_clients (List.prefix_append _ _) (by decide)
  refine not_agrees_of_missing (by decide) hroute ?_ ?_
  · rwa [heq]
  · rwa [heq]

/-- Behind the start of a block with an ending there is a slash. -/
theorem slash_of_closing (hjoint : path ∉ jointPaths) {parts : Bytes × Bytes}
    (hnamed : parts ∈ namedParts) (hparts : block.condition.parts? = some parts)
    (hholds : block.condition.holds path = true) {id : Bytes}
    (hpath : path = block.around.1 ++ id) : slash ∈ id := by
  cases hcondition : block.condition with
  | exact whole =>
    rw [hcondition] at hparts
    cases hparts
  | under start =>
    rw [hcondition] at hparts
    cases hparts
  | closing start ending =>
    rw [hcondition] at hparts hholds
    obtain rfl := Option.some.inj hparts
    rw [RouteCondition.holds, Bool.and_eq_true, List.isPrefixOf_iff_prefix,
      List.isSuffixOf_iff_suffix] at hholds
    obtain ⟨-, hbetween⟩ := textBetween_eq hnamed hjoint hholds.1 hholds.2
    obtain ⟨-, -, hhead, -⟩ := routeFacts.named_parts _ hnamed
    rw [RouteBlock.around, hcondition] at hpath
    rw [hbetween, List.append_assoc] at hpath
    rw [← List.append_cancel_left hpath]
    exact List.mem_append_right _ (List.mem_of_head? hhead)

/-- A client itself, or a path below one that has no row. -/
theorem agrees_clients (h : Below clientsStart path)
    (hnone : ∀ pattern ∈ clientPatterns, ¬ routePatternMatches path pattern = true) :
    RouteTableAgrees path := by
  refine agrees_of_methodsAgree ?_ (identifiersAgree h.joint)
  rcases h.supported_cases with ⟨entry, hentry, hstart, hmatches, hsupported⟩ |
    ⟨-, ⟨entry, hentry, hstart, -⟩ | ⟨-, hsupported⟩⟩
  · rcases routeFacts.clients.2.2.1 entry hentry hstart with ⟨hpattern, -⟩ | ⟨hending, hmethods⟩
    · exact absurd hmatches (hnone _ hpattern)
    · obtain ⟨id, -, hid, hpath⟩ := (routePatternMatches_iff hentry).mp hmatches
      rw [hstart, hending, List.append_nil] at hpath
      refine Or.inr fun method _ => ?_
      rw [hsupported, hmethods]
      constructor
      · rw [h.route_isSome_iff]
        rintro ⟨block, hblock, ⟨hopen, hblockStart⟩, hasked, hholds⟩
        rcases routeFacts.clients.1 block hblock hopen hblockStart with
          hget | hdelete | ⟨parts, hnamed, hparts⟩
        · rw [hget] at hasked
          obtain rfl := Option.some.inj (hasked.resolve_left (Option.some_ne_none _))
          decide
        · rw [hdelete] at hasked
          obtain rfl := Option.some.inj (hasked.resolve_left (Option.some_ne_none _))
          decide
        · exact absurd (slash_of_closing h.joint hnamed hparts hholds
            (hblockStart ▸ hpath)) hid
      · exact route_clients h.starts
  · exact absurd hstart (routeFacts.clients.2.2.2 entry hentry)
  · exact Or.inl hsupported

theorem clients_iff (h : Below clientsStart path) :
    RouteTableAgrees path ↔ drifted path = false := by
  by_cases hpattern : ∃ pattern ∈ clientPatterns, routePatternMatches path pattern = true
  · obtain ⟨pattern, hmem, hmatches⟩ := hpattern
    have hdrifted := drifted_iff.mpr (Or.inr (Or.inr (Or.inl ⟨pattern, hmem, hmatches⟩)))
    rw [hdrifted]
    exact ⟨fun hagrees => absurd hagrees (not_agrees_of_clientPattern h hmem hmatches), nofun⟩
  · have hnone : ∀ pattern ∈ clientPatterns, ¬ routePatternMatches path pattern = true :=
      fun pattern hmem hmatches => hpattern ⟨pattern, hmem, hmatches⟩
    refine iff_of_true (agrees_clients h hnone) (Bool.eq_false_iff.mpr fun hdrifted => ?_)
    rcases drifted_iff.mp hdrifted with rfl | hworkflows | hsome | hmem | ⟨-, hover⟩
    · exact h.exact (List.mem_cons_of_mem _ (List.mem_cons_of_mem _ routeFacts.special_rows.1))
    · exact h.not_under (by simp [driftStarts]) hworkflows (by decide +kernel)
    · exact hpattern hsome
    · exact h.joint hmem
    · rcases hover with ⟨hpath, -⟩ | ⟨hpath, -⟩
      · exact h.not_under (by simp [driftStarts]) hpath (by decide +kernel)
      · exact h.not_under (by simp [driftStarts]) hpath (by decide +kernel)

/-- Below a row that has no blocks. -/
theorem overreached_iff (hstart : start ∈ [eventsPath, activityPath]) (h : Below start path) :
    RouteTableAgrees path ↔ drifted path = false := by
  obtain ⟨hblocks, hpatterns, hrows, row, hrow, hrowStart⟩ := routeFacts.overreaching start hstart
  have hsupported : supportedMethodsForPath path = [.get] := by
    rcases h.supported_cases with ⟨entry, hentry, heq, -⟩ |
      ⟨-, ⟨entry, hentry, heq, hsupported⟩ | ⟨hnone, -⟩⟩
    · exact absurd heq (hpatterns entry hentry)
    · exact hsupported.trans (hrows entry hentry heq)
    · exact absurd hrowStart (hnone row hrow)
  have hroute (method : Verb) : route method path = none := by
    rw [← Option.not_isSome_iff_eq_none, h.route_isSome_iff]
    rintro ⟨block, hblock, ⟨hopen, rfl⟩, -⟩
    exact hblocks (routeFacts.block_start block hblock hopen)
  cases hvalid : validUtf8 path with
  | true =>
    rw [drifted_iff.mpr (Or.inr (Or.inr (Or.inr (Or.inr ⟨hvalid, h.overreached hstart⟩))))]
    have hextra : Verb.get ∈ supportedMethodsForPath path := by
      rw [hsupported]
      exact List.mem_singleton_self _
    exact ⟨fun hagrees => absurd hagrees (not_agrees_of_extra (hroute .get) hextra hvalid), nofun⟩
  | false =>
    -- the answer cannot be written, so there is no header
    refine iff_of_true ⟨?_, ?_, identifiersAgree h.joint⟩ (Bool.eq_false_iff.mpr fun hdrifted => ?_)
    · intro method _ hsome
      rw [hroute] at hsome
      cases hsome
    · intro method _ response hanswer
      rw [(answerRequest_eq_methodNotAllowed.mp hanswer).2.2.1] at hvalid
      cases hvalid
    · rcases drifted_iff.mp hdrifted with
        rfl | hworkflows | ⟨pattern, hpattern, hmatches⟩ | hmem | ⟨hutf8, -⟩
      · exact h.exact (List.mem_cons_of_mem _ (List.mem_cons_of_mem _ routeFacts.special_rows.1))
      · refine h.not_under (by simp [driftStarts]) hworkflows ?_
        rintro rfl
        exact hblocks (by simp [blockStarts])
      · obtain ⟨id, rfl, -⟩ := exists_between_of_clientPattern hpattern hmatches
        refine h.not_under (by simp [driftStarts]) (List.prefix_append clientsStart id) ?_
        rintro rfl
        exact hblocks (by simp [blockStarts])
      · exact h.joint hmem
      · rw [hvalid] at hutf8
        cases hutf8

/-! ## All paths -/

theorem agrees_elsewhere (hexact : path ∉ exactPaths) (hjoint : path ∉ jointPaths)
    (hquery : questionMark ∉ path) (hnone : ∀ start ∈ allStarts, ¬ start <+: path) :
    RouteTableAgrees path ∧ drifted path = false := by
  have hrow : path ∉ kExact.map Prod.fst := fun hmem =>
    hexact (List.mem_cons_of_mem _ (List.mem_cons_of_mem _ hmem))
  refine ⟨agrees_of_methodsAgree (Or.inl ?_) (identifiersAgree hjoint),
    Bool.eq_false_iff.mpr fun hdrifted => ?_⟩
  · rcases supported_cases hquery hrow with
      ⟨entry, hentry, hmatches, -⟩ | ⟨-, ⟨entry, hentry, hstarts, -⟩ | ⟨-, hsupported⟩⟩
    · obtain ⟨id, -, -, hpath⟩ := (routePatternMatches_iff hentry).mp hmatches
      rw [List.append_assoc] at hpath
      have hlisted := List.mem_append_left [eventsPath, activityPath]
        (routeFacts.pattern_start entry hentry)
      exact absurd ⟨_, hpath.symm⟩ (hnone _ hlisted)
    · exact absurd hstarts (hnone _ (routeFacts.row_start entry hentry))
    · exact hsupported
  · obtain ⟨start, hstart, hpath⟩ := exists_driftStart hexact hjoint hdrifted
    exact hnone start (routeFacts.drift_start start hstart) hpath

theorem exact_iff (hquery : questionMark ∉ path) (h : path ∈ exactPaths) :
    RouteTableAgrees path ↔ drifted path = false := by
  by_cases hprofile : path = profilePath
  · rw [(drifted_exact h).mpr hprofile]
    subst hprofile
    have hroute : (route .post profilePath).isSome = true :=
      (route_exact h).mpr (mem_exactMethods_iff.mpr (Or.inr List.mem_cons_self))
    refine ⟨fun hagrees => absurd hagrees
      (not_agrees_of_missing (by decide) hroute ?_ ?_), nofun⟩
    · rw [routeFacts.special_methods.1]
      exact List.cons_ne_nil _ _
    · rw [routeFacts.special_methods.1]
      decide
  · refine iff_of_true (agrees_of_methodsAgree (Or.inr (methodsAgree_exact hquery h hprofile)) ?_)
      (Bool.eq_false_iff.mpr fun hdrifted => hprofile ((drifted_exact h).mp hdrifted))
    refine identifiersAgree fun hjoint => ?_
    obtain ⟨start, hstart, hpath⟩ := joint_start hjoint
    rw [← List.isPrefixOf_iff_prefix, (routeFacts.exact_not_under path h).1 start hstart] at hpath
    cases hpath

/-- **The table agrees with the dispatch** on a path exactly if it is none of the drifted ones. -/
theorem routeTableAgrees_iff (hquery : questionMark ∉ path) :
    RouteTableAgrees path ↔ drifted path = false := by
  by_cases hexact : path ∈ exactPaths
  · exact exact_iff hquery hexact
  by_cases hjoint : path ∈ jointPaths
  · obtain ⟨method, hmethod, block, hblock, id, hid, hwrong⟩ :=
      routeFacts.joint_identifier path hjoint
    rw [drifted_iff.mpr (Or.inr (Or.inr (Or.inr (Or.inl hjoint))))]
    have hrequests : ∀ method ∈ [Verb.post, Verb.get], method ∈ requestMethods := by decide
    have hrequest := hrequests method hmethod
    exact ⟨fun hagrees => absurd (hagrees.identifier method hrequest block hblock id hid) hwrong,
      nofun⟩
  by_cases hstart : ∃ start ∈ allStarts, start <+: path
  · obtain ⟨start, hlisted, hstarts⟩ := hstart
    have h : Below start path := ⟨hlisted, hstarts, hexact, hjoint, hquery⟩
    rcases List.mem_append.mp hlisted with hblock | hover
    · rcases List.mem_append.mp hblock with huniform | hspecial
      · obtain ⟨family, hfamily, rfl⟩ := List.mem_map.mp huniform
        have hboth := agrees_uniform hfamily h
        exact iff_of_true hboth.1 hboth.2
      · simp only [List.mem_cons, List.not_mem_nil, or_false] at hspecial
        rcases hspecial with rfl | rfl | rfl
        · have hboth := agrees_templates h
          exact iff_of_true hboth.1 hboth.2
        · exact clients_iff h
        · obtain ⟨hnot, hdrifted⟩ := not_agrees_workflows h
          rw [hdrifted]
          exact ⟨fun hagrees => absurd hagrees hnot, nofun⟩
    · exact overreached_iff hover h
  · have hnone : ∀ start ∈ allStarts, ¬ start <+: path := fun start hlisted hstarts =>
      hstart ⟨start, hlisted, hstarts⟩
    have hboth := agrees_elsewhere hexact hjoint hquery hnone
    exact iff_of_true hboth.1 hboth.2

theorem routeTableAgrees_config : RouteTableAgrees (literal "/api/config") :=
  (routeTableAgrees_iff (by decide +kernel)).mpr (by decide +kernel)

/-- The row of the governance profile does not know that the path takes `POST`, and the client that
`POST /api/clients/disable` disables is named `disable`. -/
theorem table_and_dispatch_disagree :
    (¬ ∀ path, questionMark ∉ path → RouteTableAgrees path) ∧
      ∃ block ∈ route .post (literal "/api/clients/disable"),
        block.actsOn (literal "/api/clients/disable") = some (literal "disable") := by
  constructor
  · intro h
    have hquery : questionMark ∉ profilePath := by decide +kernel
    have hexact : profilePath ∈ exactPaths :=
      List.mem_cons_of_mem _ (List.mem_cons_of_mem _ routeFacts.special_rows.1)
    have hdrifted := (exact_iff hquery hexact).mp (h profilePath hquery)
    rw [(drifted_exact hexact).mpr rfl] at hdrifted
    cases hdrifted
  · decide +kernel

end Admin
end MasterControl
