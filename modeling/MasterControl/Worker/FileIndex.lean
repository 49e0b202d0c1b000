import MasterControl.Foundation.Separators
import MasterControl.Packages.ArgumentQuoting
import Mathlib.Data.List.Nodup

/-!
# The file index

`indexListFiles` walks a directory tree with an explicit stack, and lists the files whose names
match, up to a number of them.  `Enumerates` is the walk without that number: it lists every
matching file once (`Enumerates.mem_iff`, `Enumerates.nodup`), and the index is the beginning of
its list (`walk_of_enumerates`).

The flag `truncated` is set as soon as the number is reached.  Whether there is anything left is
not looked at, so it is wrong exactly if there is not (`index_law_iff`).
-/

namespace MasterControl
namespace Worker

open Foundation Packages

/-! ## What `FindFirstFileW` and `FindNextFileW` find -/

/-- `WIN32_FIND_DATAW`. -/
structure FindData where
  name : WideString
  directory : Bool
  reparsePoint : Bool
  size : ℕ
  deriving DecidableEq

/-- A file system at rest. -/
structure FileSystem where
  /-- What is found in a directory; `none` where it is unreadable. -/
  find : WideString → Option (List FindData)
  /-- Whether a file could be read, which nobody asks. -/
  readable : WideString → Bool
  /-- `PathMatchSpecW(name, glob)`. -/
  pathMatchSpec : WideString → WideString → Bool

/-- `\`. -/
def separator : UInt16 := 92

def isDots (name : WideString) : Bool := name = [46] || name = [46, 46]

/-- `dir + L"\\" + name`. -/
def fullPath (dir name : WideString) : WideString := dir ++ separator :: name

/-- A file, by the directory it is found in. -/
structure IndexedFile where
  dir : WideString
  name : WideString
  size : ℕ
  deriving DecidableEq

def IndexedFile.full (file : IndexedFile) : WideString := fullPath file.dir file.name

/-! ## The walk -/

/-- The variables of the loop; the stack with its top first. -/
structure Walk where
  stack : List WideString
  files : List IndexedFile := []
  total : ℕ := 0
  truncated : Bool := false

section Model

variable (fs : FileSystem) (glob : WideString) (maxFiles : ℕ)

def globMatches (name : WideString) : Bool := glob = [42] || fs.pathMatchSpec name glob

/-- The loop over what is found in a directory. -/
def scan (dir : WideString) : List FindData → Walk → Walk
  | [], s => s
  | fd :: rest, s =>
    if isDots fd.name then scan dir rest s
    else if fd.reparsePoint then scan dir rest s
    else if fd.directory then scan dir rest { s with stack := fullPath dir fd.name :: s.stack }
    else if !globMatches fs glob fd.name then scan dir rest s
    else
      let s := { s with files := s.files ++ [⟨dir, fd.name, fd.size⟩], total := s.total + 1 }
      if maxFiles ≤ s.total then { s with truncated := true } else scan dir rest s

/-- The loop over the stack, for so many rounds. -/
def walk : ℕ → Walk → Option Walk
  | 0, _ => none
  | rounds + 1, s =>
    if s.truncated then some s
    else
      match s.stack with
      | [] => some s
      | dir :: stack =>
        let s := { s with stack }
        match fs.find dir with
        | none => walk rounds s
        | some found => walk rounds (scan fs glob maxFiles dir found s)

end Model

def clampMaxFiles (requested : ℤ) : ℕ :=
  let maxFiles := if requested ≤ 0 then 5000 else requested
  let maxFiles := if maxFiles > 100000 then 100000 else maxFiles
  (if maxFiles < 1 then 1 else maxFiles).toNat

/-- The answer. -/
structure FileIndex where
  fileCount : ℕ
  maxFiles : ℕ
  truncated : Bool
  files : List IndexedFile

/-- `globW`. -/
def globOrStar (glob : WideString) : WideString := if glob = [] then [42] else glob

def indexListFiles (fs : FileSystem) (root glob : WideString) (maxFilesRequested : ℤ)
    (rounds : ℕ) : Option FileIndex :=
  let maxFiles := clampMaxFiles maxFilesRequested
  (walk fs (globOrStar glob) maxFiles rounds { stack := [root] }).map fun s =>
    ⟨s.total, maxFiles, s.truncated, s.files⟩

/-! ## The tree -/

section Tree

variable (fs : FileSystem) (glob : WideString)

/-- A directory that is no reparse point. -/
def isDescended (fd : FindData) : Bool :=
  !isDots fd.name && !fd.reparsePoint && fd.directory

/-- A matching file that is no reparse point. -/
def isListed (fd : FindData) : Bool :=
  !isDots fd.name && !fd.reparsePoint && !fd.directory && globMatches fs glob fd.name

def directoriesIn (dir : WideString) (found : List FindData) : List WideString :=
  (found.filter isDescended).map fun fd => fullPath dir fd.name

def filesIn (dir : WideString) (found : List FindData) : List IndexedFile :=
  (found.filter (isListed fs glob)).map fun fd => ⟨dir, fd.name, fd.size⟩

def childrenOf (dir : WideString) : List WideString :=
  directoriesIn dir ((fs.find dir).getD [])

def matchingFiles (dir : WideString) : List IndexedFile :=
  filesIn fs glob dir ((fs.find dir).getD [])

/-- A finite tree of directories below this one. -/
inductive FiniteTree (fs : FileSystem) : WideString → Prop
  | intro (dir : WideString) : (∀ child ∈ childrenOf fs dir, FiniteTree fs child) →
    FiniteTree fs dir

/-- A directory that is reached from another one without passing a reparse point. -/
inductive Below (fs : FileSystem) (dir : WideString) : WideString → Prop
  | refl : Below fs dir dir
  | child {parent child : WideString} : Below fs dir parent → child ∈ childrenOf fs parent →
    Below fs dir child

/-- A matching file that lies under a directory without passing a reparse point. -/
def Matching (root : WideString) (file : IndexedFile) : Prop :=
  Below fs root file.dir ∧ file ∈ matchingFiles fs glob file.dir

/-- What a file system promises of names. -/
structure WellNamed (fs : FileSystem) : Prop where
  separator_notMem : ∀ dir found, fs.find dir = some found → ∀ fd ∈ found, separator ∉ fd.name
  nodup : ∀ dir found, fs.find dir = some found → (found.map FindData.name).Nodup

/-- The matching files below the directories of a stack, in the order of the walk. -/
inductive Enumerates : List WideString → List IndexedFile → Prop
  | nil : Enumerates [] []
  | cons {dir : WideString} {stack : List WideString} {files : List IndexedFile} :
    Enumerates ((childrenOf fs dir).reverse ++ stack) files →
      Enumerates (dir :: stack) (matchingFiles fs glob dir ++ files)

end Tree

section Enumeration

variable {fs : FileSystem} {glob : WideString} {dir child root : WideString}
  {stack : List WideString} {file : IndexedFile}

/-! ### A finite tree can be enumerated -/

theorem Enumerates.of_append {children : List WideString} {files : List IndexedFile}
    (h : Enumerates fs glob stack files)
    (push : ∀ child ∈ children, ∀ stack files, Enumerates fs glob stack files →
      ∃ files, Enumerates fs glob (child :: stack) files) :
    ∃ files, Enumerates fs glob (children ++ stack) files := by
  induction children with
  | nil => exact ⟨files, h⟩
  | cons child children ih =>
    obtain ⟨below, hbelow⟩ := ih fun c hc => push c (List.mem_cons_of_mem _ hc)
    exact push child List.mem_cons_self _ below hbelow

/-- The directories below one are pushed before the rest of the stack. -/
theorem FiniteTree.enumerates (finite : FiniteTree fs dir) :
    ∀ stack files, Enumerates fs glob stack files →
      ∃ files, Enumerates fs glob (dir :: stack) files := by
  induction finite with
  | intro dir _ ih =>
    intro stack files h
    obtain ⟨below, hbelow⟩ := h.of_append fun child hchild =>
      ih child (List.mem_reverse.mp hchild)
    exact ⟨_, .cons hbelow⟩

/-! ### What is enumerated -/

theorem dir_of_mem_matchingFiles (h : file ∈ matchingFiles fs glob dir) : file.dir = dir := by
  obtain ⟨fd, -, rfl⟩ := List.mem_map.mp h
  rfl

theorem Below.head {path : WideString} (hchild : child ∈ childrenOf fs dir)
    (h : Below fs child path) : Below fs dir path := by
  induction h with
  | refl => exact .child .refl hchild
  | child _ hpath ih => exact .child ih hpath

theorem below_iff {path : WideString} :
    Below fs dir path ↔ path = dir ∨ ∃ child ∈ childrenOf fs dir, Below fs child path := by
  constructor
  · intro h
    induction h with
    | refl => exact .inl rfl
    | @child parent path _ hpath ih =>
      obtain rfl | ⟨child, hchild, hbelow⟩ := ih
      · exact .inr ⟨path, hpath, .refl⟩
      · exact .inr ⟨child, hchild, .child hbelow hpath⟩
  · rintro (rfl | ⟨child, hchild, hbelow⟩)
    · exact .refl
    · exact hbelow.head hchild

theorem matching_iff : Matching fs glob dir file ↔
    file ∈ matchingFiles fs glob dir ∨
      ∃ child ∈ childrenOf fs dir, Matching fs glob child file := by
  rw [Matching, below_iff]
  constructor
  · rintro ⟨hdir | ⟨child, hchild, hbelow⟩, hfile⟩
    · exact .inl (hdir ▸ hfile)
    · exact .inr ⟨child, hchild, hbelow, hfile⟩
  · rintro (hfile | ⟨child, hchild, hbelow, hfile⟩)
    · have hdir := dir_of_mem_matchingFiles hfile
      exact ⟨.inl hdir, hdir ▸ hfile⟩
    · exact ⟨.inr ⟨child, hchild, hbelow⟩, hfile⟩

/-- Every matching file below the stack is enumerated, and no other one. -/
theorem Enumerates.mem_iff {files : List IndexedFile} (h : Enumerates fs glob stack files) :
    file ∈ files ↔ ∃ dir ∈ stack, Matching fs glob dir file := by
  induction h with
  | nil => simp
  | @cons dir stack files _ ih =>
    rw [List.exists_mem_cons_iff, matching_iff, List.mem_append, ih, or_assoc]
    simp only [List.mem_append, List.mem_reverse, or_and_right, exists_or]

/-! ### Nothing is enumerated twice -/

theorem fullPath_inj {dir' name name' : WideString} (h : separator ∉ name)
    (h' : separator ∉ name') (heq : fullPath dir name = fullPath dir' name') :
    dir = dir' ∧ name = name' := by
  have hrev : name.reverse ++ separator :: dir.reverse =
      name'.reverse ++ separator :: dir'.reverse := by
    simpa [fullPath] using congrArg List.reverse heq
  obtain ⟨hname, hdir⟩ := append_cons_inj_left (by simpa) (by simpa) hrev
  exact ⟨List.reverse_injective hdir, List.reverse_injective hname⟩

theorem length_lt_of_mem_childrenOf (h : child ∈ childrenOf fs dir) :
    dir.length < child.length := by
  obtain ⟨fd, -, rfl⟩ := List.mem_map.mp h
  simp [fullPath]

theorem Below.length_le {path : WideString} (h : Below fs dir path) :
    dir.length ≤ path.length := by
  induction h with
  | refl => exact le_rfl
  | child _ hpath ih => exact ih.trans (length_lt_of_mem_childrenOf hpath).le

section Names

variable (names : WellNamed fs)

include names

theorem separator_notMem_name {fd : FindData} (h : fd ∈ (fs.find dir).getD []) :
    separator ∉ fd.name := by
  cases hfound : fs.find dir with
  | none => simp [hfound] at h
  | some found => exact names.separator_notMem dir found hfound fd (by simpa [hfound] using h)

theorem nodup_names : (((fs.find dir).getD []).map FindData.name).Nodup := by
  cases hfound : fs.find dir with
  | none => exact List.nodup_nil
  | some found => exact names.nodup dir found hfound

/-- What is in a directory is kept apart by the names. -/
theorem nodup_map_fullPath (keep : FindData → Bool) :
    ((((fs.find dir).getD []).filter keep).map fun fd => fullPath dir fd.name).Nodup := by
  have hnames : ((((fs.find dir).getD []).filter keep).map FindData.name).Nodup :=
    (nodup_names names).sublist (List.filter_sublist.map _)
  have hpaths := hnames.map (f := fullPath dir) fun name name' heq => by
    simpa [fullPath] using heq
  rwa [List.map_map] at hpaths

theorem nodup_childrenOf : (childrenOf fs dir).Nodup := nodup_map_fullPath names _

theorem nodup_matchingFiles : ((matchingFiles fs glob dir).map IndexedFile.full).Nodup := by
  rw [matchingFiles, filesIn, List.map_map]
  exact nodup_map_fullPath names _

/-- A directory is found in one other directory only. -/
theorem parent_unique {dir' : WideString} (h : child ∈ childrenOf fs dir)
    (h' : child ∈ childrenOf fs dir') : dir = dir' := by
  obtain ⟨fd, hfd, rfl⟩ := List.mem_map.mp h
  obtain ⟨fd', hfd', heq⟩ := List.mem_map.mp h'
  exact (fullPath_inj (separator_notMem_name names (List.mem_of_mem_filter hfd))
    (separator_notMem_name names (List.mem_of_mem_filter hfd')) heq.symm).1

theorem dir_eq_of_full_eq {file' : IndexedFile} {dir' : WideString}
    (h : file ∈ matchingFiles fs glob dir) (h' : file' ∈ matchingFiles fs glob dir')
    (heq : file.full = file'.full) : dir = dir' := by
  obtain ⟨fd, hfd, rfl⟩ := List.mem_map.mp h
  obtain ⟨fd', hfd', rfl⟩ := List.mem_map.mp h'
  exact (fullPath_inj (separator_notMem_name names (List.mem_of_mem_filter hfd))
    (separator_notMem_name names (List.mem_of_mem_filter hfd')) heq).1

/-- Two directories of the same directory have nothing below them in common. -/
theorem child_unique {child' path : WideString} (h : child ∈ childrenOf fs dir)
    (h' : child' ∈ childrenOf fs dir) (hbelow : Below fs child path)
    (hbelow' : Below fs child' path) : child = child' := by
  induction hbelow with
  | refl =>
    cases hbelow' with
    | refl => rfl
    | child habove hpath =>
      obtain rfl := parent_unique names h hpath
      exact absurd habove.length_le (length_lt_of_mem_childrenOf h').not_ge
  | child habove hpath ih =>
    cases hbelow' with
    | refl =>
      obtain rfl := parent_unique names h' hpath
      exact absurd habove.length_le (length_lt_of_mem_childrenOf h).not_ge
    | child habove' hpath' => exact ih (parent_unique names hpath hpath' ▸ habove')

/-- Nothing lies below two directories of the stack. -/
def Apart (fs : FileSystem) (stack : List WideString) : Prop :=
  stack.Pairwise fun dir dir' => ∀ path, Below fs dir path → ¬ Below fs dir' path

omit names in
theorem apart_singleton : Apart fs [root] := List.pairwise_singleton _ _

theorem apart_childrenOf (h : Apart fs (dir :: stack)) :
    Apart fs ((childrenOf fs dir).reverse ++ stack) := by
  obtain ⟨hdir, hstack⟩ := List.pairwise_cons.mp h
  refine List.pairwise_append.mpr ⟨?_, hstack, ?_⟩
  · refine (List.nodup_reverse.mpr (nodup_childrenOf names)).imp_of_mem ?_
    intro child child' hchild hchild' hne path hbelow hbelow'
    exact hne (child_unique names (List.mem_reverse.mp hchild) (List.mem_reverse.mp hchild')
      hbelow hbelow')
  · intro child hchild dir' hdir' path hbelow
    exact hdir dir' hdir' path (hbelow.head (List.mem_reverse.mp hchild))

/-- No file is enumerated twice. -/
theorem Enumerates.nodup {files : List IndexedFile} (h : Enumerates fs glob stack files)
    (apart : Apart fs stack) : (files.map IndexedFile.full).Nodup := by
  induction h with
  | nil => exact List.nodup_nil
  | @cons dir stack files henum ih =>
    rw [List.map_append, List.nodup_append']
    refine ⟨nodup_matchingFiles names, ih (apart_childrenOf names apart), ?_⟩
    rintro path hpath hpath'
    obtain ⟨file, hfile, rfl⟩ := List.mem_map.mp hpath
    obtain ⟨file', hfile', heq⟩ := List.mem_map.mp hpath'
    obtain ⟨dir', hdir', hbelow, hmatch⟩ := henum.mem_iff.mp hfile'
    rw [← dir_eq_of_full_eq names hfile hmatch heq.symm] at hbelow
    -- the directory itself is below none of those left
    rcases List.mem_append.mp hdir' with hchild | hstack
    · have hlt := length_lt_of_mem_childrenOf (List.mem_reverse.mp hchild)
      exact absurd hbelow.length_le hlt.not_ge
    · exact (List.pairwise_cons.mp apart).1 dir' hstack dir .refl hbelow

end Names

end Enumeration

/-! ## The walk enumerates, up to the number -/

section Cap

variable {fs : FileSystem} {glob : WideString} {maxFiles : ℕ}

theorem isListed_eq_false {fd : FindData} (h : isDescended fd = true) :
    isListed fs glob fd = false := by
  simp only [isDescended, Bool.and_eq_true] at h
  simp [isListed, h.2]

theorem scan_cons (dir : WideString) (fd : FindData) (rest : List FindData) (s : Walk) :
    scan fs glob maxFiles dir (fd :: rest) s =
      if isDescended fd then
        scan fs glob maxFiles dir rest { s with stack := fullPath dir fd.name :: s.stack }
      else if isListed fs glob fd then
        if maxFiles ≤ s.total + 1 then
          { s with files := s.files ++ [⟨dir, fd.name, fd.size⟩], total := s.total + 1,
                   truncated := true }
        else
          scan fs glob maxFiles dir rest
            { s with files := s.files ++ [⟨dir, fd.name, fd.size⟩], total := s.total + 1 }
      else scan fs glob maxFiles dir rest s := by
  rw [scan]
  by_cases hdots : isDots fd.name = true
  · simp [isDescended, isListed, hdots]
  by_cases hreparse : fd.reparsePoint = true
  · simp [isDescended, isListed, hreparse]
  by_cases hdirectory : fd.directory = true
  · simp [isDescended, hdots, hreparse, hdirectory]
  by_cases hglob : globMatches fs glob fd.name = true
  all_goals simp [isDescended, isListed, hdots, hreparse, hdirectory, hglob]

/-- A directory whose files stay under the number is scanned to its end. -/
theorem scan_of_lt (dir : WideString) (found : List FindData) (s : Walk)
    (h : s.total + (filesIn fs glob dir found).length < maxFiles) :
    scan fs glob maxFiles dir found s =
      { stack := (directoriesIn dir found).reverse ++ s.stack
        files := s.files ++ filesIn fs glob dir found
        total := s.total + (filesIn fs glob dir found).length
        truncated := s.truncated } := by
  induction found generalizing s with
  | nil => simp [scan, directoriesIn, filesIn]
  | cons fd rest ih =>
    rw [scan_cons]
    by_cases hdescended : isDescended fd = true
    · have hlisted : isListed fs glob fd = false := isListed_eq_false hdescended
      rw [if_pos hdescended, ih _ (by simpa [filesIn, hlisted] using h)]
      simp [directoriesIn, filesIn, hdescended, hlisted]
    rw [if_neg hdescended]
    by_cases hlisted : isListed fs glob fd = true
    · have hfiles : filesIn fs glob dir (fd :: rest) =
          ⟨dir, fd.name, fd.size⟩ :: filesIn fs glob dir rest := by
        simp [filesIn, hlisted]
      rw [hfiles, List.length_cons] at h
      rw [if_pos hlisted, if_neg (by omega), ih _ (by dsimp only; omega), hfiles]
      simp [directoriesIn, hdescended]
      omega
    · rw [if_neg hlisted, ih _ (by simpa [filesIn, hlisted] using h)]
      simp [directoriesIn, filesIn, hdescended, hlisted]

/-- Where the number is reached, the scan stops. -/
theorem scan_of_le (dir : WideString) (found : List FindData) (s : Walk)
    (hlt : s.total < maxFiles) (h : maxFiles ≤ s.total + (filesIn fs glob dir found).length) :
    ∃ stack, scan fs glob maxFiles dir found s =
      { stack
        files := s.files ++ (filesIn fs glob dir found).take (maxFiles - s.total)
        total := maxFiles
        truncated := true } := by
  induction found generalizing s with
  | nil => simp [filesIn] at h; omega
  | cons fd rest ih =>
    rw [scan_cons]
    by_cases hdescended : isDescended fd = true
    · have hlisted : isListed fs glob fd = false := isListed_eq_false hdescended
      obtain ⟨stack, hscan⟩ := ih { s with stack := fullPath dir fd.name :: s.stack } hlt
        (by simpa [filesIn, hlisted] using h)
      exact ⟨stack, by rw [if_pos hdescended, hscan]; simp [filesIn, hlisted]⟩
    rw [if_neg hdescended]
    by_cases hlisted : isListed fs glob fd = true
    · have hfiles : filesIn fs glob dir (fd :: rest) =
          ⟨dir, fd.name, fd.size⟩ :: filesIn fs glob dir rest := by
        simp [filesIn, hlisted]
      rw [hfiles, List.length_cons] at h
      rw [if_pos hlisted, hfiles]
      by_cases hcap : maxFiles ≤ s.total + 1
      · refine ⟨s.stack, ?_⟩
        have hone : maxFiles - s.total = 1 := by omega
        have htotal : s.total + 1 = maxFiles := by omega
        rw [if_pos hcap, hone, htotal]
        rfl
      · obtain ⟨stack, hscan⟩ := ih
          { s with files := s.files ++ [⟨dir, fd.name, fd.size⟩], total := s.total + 1 }
          (by dsimp only; omega) (by dsimp only; omega)
        have hleft : maxFiles - s.total = maxFiles - (s.total + 1) + 1 := by omega
        refine ⟨stack, ?_⟩
        rw [if_neg hcap, hscan, hleft, List.take_succ_cons, List.append_assoc]
        rfl
    · obtain ⟨stack, hscan⟩ := ih s hlt (by simpa [filesIn, hlisted] using h)
      exact ⟨stack, by rw [if_neg hlisted, hscan]; simp [filesIn, hlisted]⟩

/-- An unreadable directory is like an empty one. -/
theorem walk_cons (rounds : ℕ) (dir : WideString) (stack : List WideString)
    (files : List IndexedFile) (total : ℕ) :
    walk fs glob maxFiles (rounds + 1) { stack := dir :: stack, files, total } =
      walk fs glob maxFiles rounds
        (scan fs glob maxFiles dir ((fs.find dir).getD []) { stack, files, total }) := by
  rw [walk, if_neg Bool.false_ne_true]
  cases hfound : fs.find dir with
  | none => simp only [hfound, Option.getD_none, scan]
  | some found => simp only [hfound, Option.getD_some]

/-- The end of a walk over a stack below which these files are left. -/
theorem walk_of_enumerates {stack : List WideString} {left : List IndexedFile}
    (h : Enumerates fs glob stack left) (files : List IndexedFile)
    (hlt : files.length < maxFiles) :
    ∃ n final, (∀ rounds ≥ n,
        walk fs glob maxFiles rounds { stack, files, total := files.length } = some final) ∧
      final.files = (files ++ left).take maxFiles ∧
      final.total = final.files.length ∧
      final.truncated = decide (maxFiles ≤ (files ++ left).length) := by
  induction h generalizing files with
  | nil =>
    refine ⟨1, { stack := [], files, total := files.length }, ?_, ?_, rfl, ?_⟩
    · rintro (_ | rounds) hrounds
      · omega
      · rfl
    · simp [List.take_of_length_le hlt.le]
    · simpa using hlt
  | @cons dir stack left _ ih =>
    by_cases hfit : files.length + (matchingFiles fs glob dir).length < maxFiles
    · obtain ⟨n, final, hwalk, hfinal⟩ := ih (files ++ matchingFiles fs glob dir)
        (by rwa [List.length_append])
      refine ⟨n + 1, final, ?_, by rwa [List.append_assoc] at hfinal⟩
      rintro (_ | rounds) hrounds
      · omega
      rw [walk_cons, scan_of_lt dir _ _ hfit, ← hwalk rounds (by omega), List.length_append]
      rfl
    · rw [not_lt] at hfit
      obtain ⟨below, hscan⟩ := scan_of_le dir _ { stack, files, total := files.length } hlt hfit
      have hlength : (files ++ matchingFiles fs glob dir).length =
          files.length + (matchingFiles fs glob dir).length := List.length_append
      have hfiles : (files ++ (matchingFiles fs glob dir ++ left)).take maxFiles =
          files ++ (matchingFiles fs glob dir).take (maxFiles - files.length) := by
        rw [← List.append_assoc, List.take_append_of_le_length (by omega), List.take_append,
          List.take_of_length_le hlt.le]
      refine ⟨2, ⟨below, files ++ (matchingFiles fs glob dir).take (maxFiles - files.length),
        maxFiles, true⟩, ?_, hfiles.symm, ?_, ?_⟩
      · rintro (_ | _ | rounds) hrounds
        · omega
        · omega
        · rw [walk_cons, hscan, walk, if_pos rfl]
          rfl
      · rw [← hfiles, List.length_take, List.length_append, List.length_append]
        show maxFiles = _
        omega
      · rw [← List.append_assoc, List.length_append, hlength]
        exact (decide_eq_true (by omega)).symm

end Cap

/-! ## The law -/

theorem clampMaxFiles_pos (requested : ℤ) : 0 < clampMaxFiles requested := by
  rw [clampMaxFiles]
  split_ifs <;> omega

section Law

variable (fs : FileSystem) (root glob : WideString) (requested : ℤ)

/-- The call terminates with this answer. -/
def Indexes (index : FileIndex) : Prop :=
  ∃ n, ∀ rounds ≥ n, indexListFiles fs root glob requested rounds = some index

/-- A complete answer, or one that says that it is not. -/
structure TruthfulIndex (index : FileIndex) : Prop where
  nodup : (index.files.map IndexedFile.full).Nodup
  matching : ∀ file ∈ index.files, Matching fs (globOrStar glob) root file
  length_le : index.files.length ≤ clampMaxFiles requested
  fileCount_eq : index.fileCount = index.files.length
  truncated_iff : index.truncated = true ↔ ∃ file,
    Matching fs (globOrStar glob) root file ∧ file ∉ index.files ∧ fs.readable file.full = true

variable {fs root}

/-- **When the answer is right.**  The flag is wrong if nothing is left out but the number is
reached, or if all that is left out is unreadable. -/
theorem indexListFiles_truthful_iff (names : WellNamed fs) (finite : FiniteTree fs root) :
    ∃ all index, Enumerates fs (globOrStar glob) [root] all ∧
      Indexes fs root glob requested index ∧
      (TruthfulIndex fs root glob requested index ↔
        all.length < clampMaxFiles requested ∨
          ∃ file ∈ all.drop (clampMaxFiles requested), fs.readable file.full = true) := by
  obtain ⟨all, henum⟩ : ∃ all, Enumerates fs (globOrStar glob) [root] all :=
    finite.enumerates [] [] .nil
  obtain ⟨n, final, hwalk, hfiles, htotal, htruncated⟩ :=
    walk_of_enumerates henum [] (clampMaxFiles_pos requested)
  rw [List.nil_append] at hfiles htruncated
  have hmem : ∀ file, file ∈ all ↔ Matching fs (globOrStar glob) root file := fun file => by
    rw [henum.mem_iff, List.exists_mem_cons_iff]
    simp
  have hnodup := henum.nodup names apart_singleton
  have hsplit : all = final.files ++ all.drop (clampMaxFiles requested) := by
    rw [hfiles, List.take_append_drop]
  refine ⟨all, ⟨final.total, clampMaxFiles requested, final.truncated, final.files⟩, henum,
    ⟨n, fun rounds hrounds => ?_⟩, ?_⟩
  · rw [indexListFiles]
    exact congrArg (Option.map _) (hwalk rounds hrounds)
  have hleft : (∃ file, Matching fs (globOrStar glob) root file ∧ file ∉ final.files ∧
      fs.readable file.full = true) ↔
      ∃ file ∈ all.drop (clampMaxFiles requested), fs.readable file.full = true := by
    constructor
    · rintro ⟨file, hmatching, hnotMem, hreadable⟩
      have hall := (hmem file).mpr hmatching
      rw [hsplit, List.mem_append] at hall
      exact ⟨file, hall.resolve_left hnotMem, hreadable⟩
    · rintro ⟨file, hdrop, hreadable⟩
      refine ⟨file, (hmem file).mp (List.mem_of_mem_drop hdrop), fun hfile => ?_, hreadable⟩
      rw [hsplit, List.map_append] at hnodup
      exact List.disjoint_of_nodup_append hnodup (List.mem_map_of_mem hfile)
        (List.mem_map_of_mem hdrop)
  have hflag : (final.truncated = true ↔
      ∃ file ∈ all.drop (clampMaxFiles requested), fs.readable file.full = true) ↔
      (all.length < clampMaxFiles requested ∨
        ∃ file ∈ all.drop (clampMaxFiles requested), fs.readable file.full = true) := by
    rw [htruncated, decide_eq_true_iff]
    by_cases hlt : all.length < clampMaxFiles requested
    · have hdrop : all.drop (clampMaxFiles requested) = [] := List.drop_of_length_le hlt.le
      simp [hlt, hdrop]
    · simp [hlt, not_lt.mp hlt]
  constructor
  · intro truthful
    exact hflag.mp (truthful.truncated_iff.trans hleft)
  · intro hwhen
    refine ⟨?_, fun file hfile => ?_, ?_, htotal, (hflag.mpr hwhen).trans hleft.symm⟩
    · rw [hsplit, List.map_append] at hnodup
      exact hnodup.of_append_left
    · rw [hfiles] at hfile
      exact (hmem file).mp (List.mem_of_mem_take hfile)
    · rw [hfiles, List.length_take]
      exact Nat.min_le_left _ _

end Law

/-- A directory `r` with a file `f` in it. -/
def oneFile : FileSystem where
  find dir := if dir = [114] then some [⟨[102], false, false, 3⟩] else none
  readable _ := true
  pathMatchSpec _ _ := false

theorem childrenOf_oneFile (dir : WideString) : childrenOf oneFile dir = [] := by
  by_cases hdir : dir = [114]
  · rw [hdir]
    decide
  · simp [childrenOf, oneFile, hdir, directoriesIn]

theorem wellNamed_oneFile : WellNamed oneFile where
  separator_notMem dir found hfound fd hfd := by
    obtain ⟨-, hfound⟩ := Option.ite_none_right_eq_some.mp hfound
    obtain rfl := Option.some.inj hfound
    obtain rfl := List.mem_singleton.mp hfd
    decide
  nodup dir found hfound := by
    obtain ⟨-, hfound⟩ := Option.ite_none_right_eq_some.mp hfound
    obtain rfl := Option.some.inj hfound
    exact List.nodup_singleton _

theorem finiteTree_oneFile : FiniteTree oneFile [114] :=
  .intro _ fun child hchild => by simp [childrenOf_oneFile] at hchild

theorem truthful_oneFile : ∃ all index, Enumerates oneFile (globOrStar [42]) [[114]] all ∧
    Indexes oneFile [114] [42] 2 index ∧
    (TruthfulIndex oneFile [114] [42] 2 index ↔
      all.length < clampMaxFiles 2 ∨
        ∃ file ∈ all.drop (clampMaxFiles 2), oneFile.readable file.full = true) :=
  indexListFiles_truthful_iff [42] 2 wellNamed_oneFile finiteTree_oneFile

/-- With room for one file, the only file is reported as not the only one. -/
theorem full_index_truncated : WellNamed oneFile ∧ FiniteTree oneFile [114] ∧
    ∃ index, Indexes oneFile [114] [42] 1 index ∧ ¬ TruthfulIndex oneFile [114] [42] 1 index := by
  refine ⟨wellNamed_oneFile, finiteTree_oneFile,
    ⟨1, 1, true, [⟨[114], [102], 3⟩]⟩, ⟨2, ?_⟩, fun truthful => ?_⟩
  · rintro (_ | _ | rounds) hrounds
    · omega
    · omega
    · rfl
  obtain ⟨file, ⟨hbelow, hfile⟩, hnotMem, -⟩ := truthful.truncated_iff.mp rfl
  have hdir : file.dir = [114] := by simpa [childrenOf_oneFile] using below_iff.mp hbelow
  rw [hdir] at hfile
  exact hnotMem hfile

end Worker
end MasterControl
