import MasterControl.Foundation.WindowsPath
import MasterControl.Http.Request

/-!
# Serving files

Two routes answer with the contents of a file: the document route of the agentic edition, and
the static files, which take whatever path no other route knows.  Both join a text of the
request to a directory; the document route first refuses `..` and backslashes, the static
route refuses nothing.

`FilesInside` is the law for one request: whatever the installation and its disk, a file that
is served lies in the route's directory.  It holds exactly when the text is confined, or
refused (`filesInside_iff`).
-/

namespace MasterControl
namespace Http

open Foundation

/-- The directories of an installation that files are served from. -/
structure AppPaths where
  webRootDirectory : Bytes
  executableDirectory : Bytes
  web_absolute : isAbsolute webRootDirectory = true
  executable_absolute : isAbsolute executableDirectory = true

/-- What is on the disk. -/
structure Disk where
  pathExists : Bytes → Bool
  isDirectory : Bytes → Bool
  contents : Bytes → Bytes

inductive FileResponse where
  | refused (statusCode : Nat)
  /-- 200, with the contents of the file that was opened. -/
  | served (opened body : Bytes)
deriving DecidableEq

/-- The text that `staticFileResponse` joins to its directory. -/
def staticTarget (path : Bytes) : Bytes :=
  let path := if path = [] ∨ path = [47] then asciiBytes "/index.html" else path
  if path.head? = some 47 then path.tail else path

def staticFileResponse (paths : AppPaths) (disk : Disk) (path : Bytes) : FileResponse :=
  let filePath := join paths.webRootDirectory (staticTarget path)
  if !disk.pathExists filePath then .refused 404 else .served filePath (disk.contents filePath)

def documentRoute : Bytes := asciiBytes "/api/governance/agentic-edition/document/"

/-- The directory of the documents. -/
def AppPaths.documentRoot (paths : AppPaths) : Bytes :=
  join (join paths.executableDirectory (asciiBytes "share")) (asciiBytes "Forsetti-Agentic-Edition")

/-- A text that the document route refuses. -/
def traversalRejected (rel : Bytes) : Bool := (cut [46, 46] rel).isSome || rel.any (· = 92)

def documentResponse (paths : AppPaths) (disk : Disk) (rel : Bytes) : FileResponse :=
  if traversalRejected rel then .refused 400
  else
    let target := join paths.documentRoot rel
    if !disk.pathExists target || disk.isDirectory target then .refused 404
    else .served target (disk.contents target)

/-- What the document route is asked for; `none` for a request of another route. -/
def requestedDocument (request : HttpRequest) : Option Bytes :=
  if request.method = asciiBytes "GET" ∧ documentRoute.isPrefixOf request.path then
    some (request.path.drop documentRoute.length)
  else none

/-- The answer to a request that one of the two routes takes. -/
def fileResponse (paths : AppPaths) (disk : Disk) (request : HttpRequest) : FileResponse :=
  match requestedDocument request with
  | some rel => documentResponse paths disk rel
  | none => staticFileResponse paths disk request.path

/-- The directory of the route that takes a request. -/
def AppPaths.rootFor (paths : AppPaths) (request : HttpRequest) : Bytes :=
  match requestedDocument request with
  | some _ => paths.documentRoot
  | none => paths.webRootDirectory

/-- Whatever is served lies in the directory of its route. -/
def FilesInside (request : HttpRequest) : Prop :=
  ∀ (paths : AppPaths) (disk : Disk) (opened body : Bytes),
    fileResponse paths disk request = .served opened body → Inside (paths.rootFor request) opened

/-- The text of the request is refused, or names no root and never climbs above the
directory. -/
def TargetConfined (request : HttpRequest) : Prop :=
  match requestedDocument request with
  | some rel => traversalRejected rel = true ∨ Confined rel
  | none => Confined (staticTarget request.path)

instance (request : HttpRequest) : Decidable (TargetConfined request) := by
  unfold TargetConfined
  split <;> infer_instance

section Documents

variable {paths : AppPaths} {rel : Bytes}

theorem confined_share : Confined (asciiBytes "share") := by decide +kernel

theorem confined_leaf : Confined (asciiBytes "Forsetti-Agentic-Edition") := by decide +kernel

theorem isAbsolute_documentRoot (paths : AppPaths) : isAbsolute paths.documentRoot = true := by
  have hshare := isAbsolute_join paths.executable_absolute confined_share.1 confined_share.2.1
  exact isAbsolute_join hshare confined_leaf.1 confined_leaf.2.1

theorem Away.documentRoot (h : Away rel paths.executableDirectory) :
    Away rel paths.documentRoot :=
  (h.join confined_share).join confined_leaf

theorem staysWithin_of_notMem {segs : List Bytes} (depth : Nat) (h : [46, 46] ∉ segs) :
    staysWithin depth segs = true := by
  induction segs generalizing depth with
  | nil => rfl
  | cons segment rest ih =>
    rw [List.mem_cons, not_or] at h
    rw [staysWithin]
    split_ifs with hdot hdots
    · exact ih depth h.2
    · exact absurd hdots.symm h.1
    · exact ih (depth + 1) h.2

/-- A text that is not refused does not climb. -/
theorem staysWithin_of_allowed (h : traversalRejected rel = false) :
    staysWithin 0 (segments rel) = true := by
  refine staysWithin_of_notMem 0 fun hmem => ?_
  obtain ⟨dots, hdots, heq⟩ := List.infix_map_iff.mp (infix_of_mem_nonemptyLines hmem)
  have hletter : ∀ b : UInt8, (if isSlash b = true then 92 else b) = 46 → b = 46 := by
    intro b hb
    split_ifs at hb
    · cases hb
    · exact hb
  have hsame : dots = [46, 46] := by
    obtain ⟨a, rest, rfl, ha, hrest⟩ := List.map_eq_cons_iff.mp heq.symm
    obtain ⟨b, rest, rfl, hb, hnil⟩ := List.map_eq_cons_iff.mp hrest
    rw [hletter a ha, hletter b hb, List.map_eq_nil_iff.mp hnil]
  rw [hsame, ← isSome_cut_iff] at hdots
  rw [traversalRejected, hdots] at h
  cases h

end Documents

/-- A disk where every text names a file. -/
def fullDisk : Disk := ⟨fun _ => true, fun _ => false, fun _ => []⟩

/-- An installation in some directory. -/
def installedAt (directory : Bytes) (h : isAbsolute directory = true) : AppPaths :=
  ⟨directory, directory, h, h⟩

/-- **Serving files.**  In every installation, whatever a request is served lies in the
directory of its route, exactly when the text that is joined to the directory is refused
before, or names no root and never climbs above the directory. -/
theorem filesInside_iff (request : HttpRequest) : FilesInside request ↔ TargetConfined request := by
  unfold FilesInside TargetConfined fileResponse AppPaths.rootFor
  cases hdocument : requestedDocument request with
  | some rel =>
    dsimp only
    constructor
    · intro h
      by_cases hrejected : traversalRejected rel = true
      · exact Or.inl hrejected
      · right
        have hallowed : traversalRejected rel = false := Bool.eq_false_iff.mpr hrejected
        have haway : Away rel (installedAt _ (away_awayFrom rel).isAbsolute).documentRoot :=
          Away.documentRoot (away_awayFrom rel)
        have hinside := h (installedAt _ (away_awayFrom rel).isAbsolute) fullDisk _ _ (by
          rw [documentResponse, if_neg hrejected]
          rfl)
        refine ⟨?_, ?_, staysWithin_of_allowed hallowed⟩
        · by_contra hroot
          exact haway.not_inside_of_rooted (Or.inl hroot) hinside
        · rw [Bool.eq_false_iff]
          intro hslash
          exact haway.not_inside_of_rooted (Or.inr hslash) hinside
    · intro h paths disk opened body hserved
      rw [documentResponse] at hserved
      split_ifs at hserved with hrejected
      dsimp only at hserved
      split_ifs at hserved
      injection hserved with hopened
      rw [← hopened]
      exact inside_join (isAbsolute_documentRoot paths) (h.resolve_left hrejected)
  | none =>
    dsimp only
    constructor
    · intro h
      have haway := away_awayFrom (staticTarget request.path)
      have hinside := h (installedAt _ haway.isAbsolute) fullDisk _ _ rfl
      have hroot : rootNameEnd (staticTarget request.path) = 0 := by
        by_contra hroot
        exact haway.not_inside_of_rooted (Or.inl hroot) hinside
      have hslash : startsWithSlash (staticTarget request.path) = false := by
        rw [Bool.eq_false_iff]
        intro hslash
        exact haway.not_inside_of_rooted (Or.inr hslash) hinside
      refine ⟨hroot, hslash, ?_⟩
      by_contra hclimbs
      exact not_inside_of_climbs hroot hslash (Bool.eq_false_iff.mpr hclimbs) hinside
    · intro h paths disk opened body hserved
      rw [staticFileResponse] at hserved
      split_ifs at hserved
      injection hserved with hopened
      rw [← hopened]
      exact inside_join paths.web_absolute h

/-- A request for a file above the web directory. -/
def climbingRequest : HttpRequest where
  method := asciiBytes "GET"
  path := asciiBytes "/../config.json"

/-- An installation on drive `C:`. -/
def samplePaths : AppPaths where
  webRootDirectory := asciiBytes "C:\\mcos\\web"
  executableDirectory := asciiBytes "C:\\mcos"
  web_absolute := by decide +kernel
  executable_absolute := by decide +kernel

/-- **The static route serves what lies beside its directory.** -/
theorem climbing_request_served : ¬ FilesInside climbingRequest := by
  intro h
  obtain ⟨normal, hnormal, -, hnames⟩ := h samplePaths fullDisk
    (asciiBytes "C:\\mcos\\web\\../config.json") [] (by decide +kernel)
  have hresolved : lexicallyNormal (asciiBytes "C:\\mcos\\web\\../config.json") =
      some ⟨asciiBytes "C:", [asciiBytes "mcos", asciiBytes "config.json"]⟩ := by
    decide +kernel
  rw [hresolved] at hnormal
  obtain rfl := Option.some.inj hnormal
  revert hnames
  decide +kernel

end Http
end MasterControl
