import MasterControl.Foundation.SqlText

/-!
# Read-only database queries

`queryReadonly` runs one statement of an SQL text on a database that is opened read-only.  Before
SQLite sees the text its first word is looked at: ATTACH and DETACH are refused.  Behind the
statement that SQLite prepares nothing but blanks and semicolons may stand, and the statement has to
be read-only.  Then its rows are collected up to a limit.

Neither test knows comments, which SQLite skips.  The gate does what it is for exactly for the texts
where that makes no difference (`readonlyQueries_iff`); the rows are right for all of them.
-/

namespace MasterControl
namespace Worker

open Foundation

/-! ## The database library -/

/-- A value of a row. -/
inductive SqlValue where
  | integer (value : ℤ)
  | float (digits : String)
  | text (value : Bytes)
  | blob (value : Bytes)
  | null

/-- What `sqlite3_step` returns, with the columns of a row. -/
inductive StepOutcome where
  | row (column : ℕ → SqlValue)
  | done
  | interrupt
  | failed (message : Bytes)

structure SqliteLibrary (Db Stmt : Type) where
  /-- `sqlite3_open_v2` with SQLITE_OPEN_READONLY, or the message. -/
  openReadonly : Bytes → Except Bytes Db
  /-- `sqlite3_prepare_v2`: the first statement, if there is one, and the tail. -/
  prepare : Db → Bytes → Except Bytes (Option Stmt × Bytes)
  stmtReadonly : Stmt → Bool
  bindText : Stmt → Bytes → Stmt
  columnNames : Stmt → List (Option Bytes)
  /-- What a call returns, by the number of the calls before. -/
  step : Stmt → ℕ → StepOutcome
  errmsg : Db → Bytes

/-! ## The executor -/

inductive ErrorKind where
  | none
  | unconfigured
  | openFailed
  | prepareFailed
  | rejectedMutation
  | multipleStatements
  | timeout
  | runtimeError
deriving DecidableEq

/-- A value as JSON; of a blob, its length. -/
inductive Cell where
  | integer (value : ℤ)
  | float (digits : String)
  | text (value : Bytes)
  | blobBytes (length : ℕ)
  | null
deriving DecidableEq

structure QueryData where
  columns : List Bytes
  rows : List (List Cell)
  rowCount : ℕ
deriving DecidableEq

structure DatabaseQueryResult where
  ok : Bool := false
  errorKind : ErrorKind := .none
  error : Bytes := []
  /-- Of a failure, the empty object. -/
  data : Option QueryData := Option.none
  truncated : Bool := false
deriving DecidableEq

structure Executor where
  currentDatabasePath : Option Bytes
  defaultRowLimit : ℕ

/-- The constructor. -/
def Executor.make (currentDatabasePath : Option Bytes) (defaultRowLimit : ℤ) : Executor where
  currentDatabasePath := currentDatabasePath
  defaultRowLimit := if 0 < defaultRowLimit then defaultRowLimit.toNat else 1000

def fail (kind : ErrorKind) (message : Bytes) : DatabaseQueryResult where
  errorKind := kind
  error := message

def leadingKeyword (sql : Bytes) : Bytes :=
  upperBytes ((sql.dropWhile isSpaceByte).takeWhile isAlphaByte)

/-- ATTACH or DETACH. -/
def isAttachWord (word : Bytes) : Bool :=
  word = [65, 84, 84, 65, 67, 72] || word = [68, 69, 84, 65, 67, 72]

def tailHasStatement (tail : Bytes) : Bool :=
  (cString tail).any fun b => !isSpaceByte b && b ≠ 59

def columnValue : SqlValue → Cell
  | .integer value => .integer value
  | .float digits => .float digits
  | .text value => .text (cString value)
  | .blob value => .blobBytes value.length
  | .null => .null

def rowOf (columnCount : ℕ) (column : ℕ → SqlValue) : List Cell :=
  (List.range columnCount).map fun c => columnValue (column c)

/-- What the loop leaves, with what the last call returned. -/
structure Collected where
  rows : List (List Cell)
  rowCount : ℕ
  truncated : Bool
  last : StepOutcome

/-- The loop over the rows. -/
def collectRows (step : ℕ → StepOutcome) (columnCount rowLimit rowCount : ℕ)
    (rows : List (List Cell)) : Collected :=
  match step rowCount with
  | .row column =>
    if rowLimit ≤ rowCount then ⟨rows, rowCount, true, .row column⟩
    else collectRows step columnCount rowLimit (rowCount + 1) (rows ++ [rowOf columnCount column])
  | last => ⟨rows, rowCount, false, last⟩
  termination_by rowLimit - rowCount

section Library

variable {Db Stmt : Type} (sqlite : SqliteLibrary Db Stmt)

/-- A null statement passes for read-only. -/
def stmtReadonly (stmt : Option Stmt) : Bool := stmt.all sqlite.stmtReadonly

/-- A null statement cannot be stepped. -/
def stepOf (db : Db) : Option Stmt → ℕ → StepOutcome
  | none => fun _ => .failed (sqlite.errmsg db)
  | some stmt => sqlite.step stmt

/-- What is done with a statement that was let through. -/
def runStatement (db : Db) (stmt : Option Stmt) (rowLimit : ℕ) : DatabaseQueryResult :=
  let columns := ((stmt.map sqlite.columnNames).getD []).map fun name => name.getD []
  let collected := collectRows (stepOf sqlite db stmt) columns.length rowLimit 0 []
  match collected.last with
  | .interrupt => fail .timeout (asciiBytes "Query exceeded the configured statement timeout.")
  | .failed message => fail .runtimeError message
  | _ =>
    { ok := true
      data := some { columns, rows := collected.rows, rowCount := collected.rowCount }
      truncated := collected.truncated }

def runSelect (executor : Executor) (sql : Bytes) (rowLimit : ℕ) (bindText : Option Bytes) :
    DatabaseQueryResult :=
  match executor.currentDatabasePath.filter (· ≠ []) with
  | none => fail .unconfigured (asciiBytes
      "No database is configured. Set a SQLite path with db.set_connection_string.")
  | some path =>
    if isAttachWord (leadingKeyword sql) then
      fail .rejectedMutation (asciiBytes "Statement kind is not permitted: " ++ leadingKeyword sql)
    else
      match sqlite.openReadonly (cString path) with
      | .error message => fail .openFailed message
      | .ok db =>
        match sqlite.prepare db (cString sql) with
        | .error message => fail .prepareFailed message
        | .ok (stmt, tail) =>
          if tailHasStatement tail then
            fail .multipleStatements (asciiBytes "Only a single read-only statement is permitted.")
          else if stmtReadonly sqlite stmt = false then
            fail .rejectedMutation (asciiBytes
              "Only read-only statements are permitted; mutating SQL is rejected.")
          else
            let stmt := match bindText with
              | none => stmt
              | some text => stmt.map fun stmt => sqlite.bindText stmt text
            runStatement sqlite db stmt rowLimit

def rowLimitOf (executor : Executor) (rowLimit : ℤ) : ℕ :=
  if 0 < rowLimit then rowLimit.toNat else executor.defaultRowLimit

def queryReadonly (executor : Executor) (sql : Bytes) (rowLimit : ℤ) : DatabaseQueryResult :=
  runSelect sqlite executor sql (rowLimitOf executor rowLimit) none

def listTables (executor : Executor) : DatabaseQueryResult :=
  queryReadonly sqlite executor (asciiBytes
    "SELECT name FROM sqlite_master WHERE type='table' AND name NOT LIKE 'sqlite_%' ORDER BY name")
    executor.defaultRowLimit

def describeTable (executor : Executor) (table : Bytes) : DatabaseQueryResult :=
  runSelect sqlite executor (asciiBytes
    "SELECT cid, name, type, \"notnull\", dflt_value, pk FROM pragma_table_info(?1)")
    executor.defaultRowLimit (some table)

end Library

/-! ## The rows -/

/-- The rows of the first calls, in order. -/
structure FirstRows (step : ℕ → StepOutcome) (columnCount rowCount : ℕ)
    (rows : List (List Cell)) : Prop where
  length_eq : rows.length = rowCount
  row : ∀ i < rowCount, ∃ column, step i = .row column ∧ rows[i]? = some (rowOf columnCount column)

/-- Whether the call after the first ones gives one more row. -/
def MoreRows (step : ℕ → StepOutcome) (rowCount : ℕ) : Prop := ∃ column, step rowCount = .row column

section Rows

variable {step : ℕ → StepOutcome} {columnCount rowLimit rowCount : ℕ} {rows : List (List Cell)}

theorem FirstRows.nil : FirstRows step columnCount 0 [] :=
  ⟨rfl, fun _ h => absurd h (Nat.not_lt_zero _)⟩

/-- One more row. -/
theorem FirstRows.concat {column : ℕ → SqlValue} (h : FirstRows step columnCount rowCount rows)
    (hrow : step rowCount = .row column) :
    FirstRows step columnCount (rowCount + 1) (rows ++ [rowOf columnCount column]) where
  length_eq := by rw [List.length_append, List.length_singleton, h.length_eq]
  row := by
    intro i hi
    rcases Nat.lt_succ_iff_lt_or_eq.mp hi with hlt | rfl
    · obtain ⟨earlier, hstep, hget⟩ := h.row i hlt
      refine ⟨earlier, hstep, ?_⟩
      rw [List.getElem?_append_left (by rw [h.length_eq]; exact hlt), hget]
    · refine ⟨column, hrow, ?_⟩
      rw [← h.length_eq, List.getElem?_concat_length]

/-- What the loop leaves. -/
structure CollectsRows (step : ℕ → StepOutcome) (columnCount rowLimit : ℕ) (c : Collected) :
    Prop where
  first : FirstRows step columnCount c.rowCount c.rows
  rowCount_le : c.rowCount ≤ rowLimit
  last_eq : c.last = step c.rowCount
  truncated_iff : c.truncated = true ↔ MoreRows step c.rowCount

theorem collectRows_of_row {column : ℕ → SqlValue} (h : step rowCount = .row column) :
    collectRows step columnCount rowLimit rowCount rows =
      if rowLimit ≤ rowCount then ⟨rows, rowCount, true, .row column⟩
      else collectRows step columnCount rowLimit (rowCount + 1)
        (rows ++ [rowOf columnCount column]) := by
  rw [collectRows, h]

theorem collectRows_of_end (h : ¬ MoreRows step rowCount) :
    collectRows step columnCount rowLimit rowCount rows =
      ⟨rows, rowCount, false, step rowCount⟩ := by
  rw [collectRows]
  cases hstep : step rowCount with
  | row column => exact absurd ⟨column, hstep⟩ h
  | done => rfl
  | interrupt => rfl
  | failed message => rfl

/-- The loop keeps what it has collected, by induction on the rows that are still allowed. -/
theorem collectRows_spec (h : FirstRows step columnCount rowCount rows)
    (hle : rowCount ≤ rowLimit) : CollectsRows step columnCount rowLimit
      (collectRows step columnCount rowLimit rowCount rows) := by
  induction hn : rowLimit - rowCount generalizing rowCount rows with
  | zero =>
    by_cases hmore : MoreRows step rowCount
    · obtain ⟨column, hrow⟩ := hmore
      rw [collectRows_of_row hrow, if_pos (by omega)]
      exact ⟨h, hle, hrow.symm, iff_of_true rfl ⟨column, hrow⟩⟩
    · rw [collectRows_of_end hmore]
      exact ⟨h, hle, rfl, iff_of_false Bool.false_ne_true hmore⟩
  | succ n ih =>
    by_cases hmore : MoreRows step rowCount
    · obtain ⟨column, hrow⟩ := hmore
      rw [collectRows_of_row hrow, if_neg (by omega)]
      exact ih (h.concat hrow) (by omega) (by omega)
    · rw [collectRows_of_end hmore]
      exact ⟨h, hle, rfl, iff_of_false Bool.false_ne_true hmore⟩

end Rows

/-! ## What the gate is for -/

/-- Refused before a row is asked for. -/
def ErrorKind.refuses : ErrorKind → Bool
  | .unconfigured | .openFailed | .prepareFailed | .rejectedMutation | .multipleStatements => true
  | .none | .timeout | .runtimeError => false

section Gate

variable {Db Stmt : Type} (sqlite : SqliteLibrary Db Stmt) (executor : Executor)

/-- The database is configured and can be read. -/
def Connected (db : Db) : Prop :=
  ∃ path, executor.currentDatabasePath.filter (· ≠ []) = some path ∧
    sqlite.openReadonly (cString path) = .ok db

/-- What SQLite prepares of a text, with the tail. -/
def Prepares (db : Db) (sql : Bytes) (stmt : Option Stmt) (tail : Bytes) : Prop :=
  sqlite.prepare db (cString sql) = .ok (stmt, tail)

def isAttach (sql : Bytes) : Bool := isAttachWord (firstWord (cString sql))

/-- What is documented of SQLite: a statement that begins with a letter begins with a word of
letters, and a text that does holds a statement; the tail is the end of the text; ATTACH and DETACH
are reported as read-only. -/
structure Documented : Prop where
  word : ∀ db sql stmt tail, sqlite.prepare db sql = .ok (some stmt, tail) →
    (behindTrivia sql).takeWhile isAlphaByte ≠ [] →
      (behindTrivia sql).takeWhile isWordByte = (behindTrivia sql).takeWhile isAlphaByte
  statement : ∀ db sql tail, sqlite.prepare db sql = .ok (none, tail) →
    (behindTrivia sql).takeWhile isAlphaByte = []
  tail : ∀ db sql stmt tail, sqlite.prepare db sql = .ok (stmt, tail) → tail <:+ sql
  attach : ∀ db sql stmt tail, sqlite.prepare db sql = .ok (some stmt, tail) →
    isAttachWord (firstWord sql) = true → sqlite.stmtReadonly stmt = true

/-- **The read-only query gate.** -/
structure ReadonlyQueries (sql : Bytes) (rowLimit : ℤ) : Prop where
  attach : isAttach sql = true →
    (queryReadonly sqlite executor sql rowLimit).errorKind.refuses = true
  several : ∀ db stmt tail, Connected sqlite executor db → Prepares sqlite db sql (some stmt) tail →
    behindTrivia tail ≠ [] →
      (queryReadonly sqlite executor sql rowLimit).errorKind.refuses = true
  single : ∀ db stmt tail, Connected sqlite executor db → Prepares sqlite db sql (some stmt) tail →
    behindTrivia tail = [] → sqlite.stmtReadonly stmt = true → isAttach sql = false →
      (queryReadonly sqlite executor sql rowLimit).errorKind.refuses = false
  rows : (queryReadonly sqlite executor sql rowLimit).ok = true →
    ∃ db stmt tail data, Connected sqlite executor db ∧
      Prepares sqlite db sql (some stmt) tail ∧
      (queryReadonly sqlite executor sql rowLimit).data = some data ∧
      FirstRows (sqlite.step stmt) (sqlite.columnNames stmt).length data.rowCount data.rows ∧
      data.rowCount ≤ rowLimitOf executor rowLimit ∧
      ((queryReadonly sqlite executor sql rowLimit).truncated = true ↔
        MoreRows (sqlite.step stmt) data.rowCount)

/-- Blanks and semicolons. -/
def onlyBlanks (tail : Bytes) : Bool := tail.all fun b => isSpaceByte b || b = 59

/-- Where comments and empty statements make no difference: before ATTACH or DETACH, where nothing
but blanks and semicolons follows the statement, stand blanks alone; and behind another statement
that is read-only, if no further word follows, stand blanks and semicolons alone. -/
def ReadAsWritten (sql : Bytes) : Prop :=
  ∀ db stmt tail, Connected sqlite executor db → Prepares sqlite db sql (some stmt) tail →
    (isAttach sql = true → onlyBlanks tail = true →
      behindTrivia (cString sql) = (cString sql).dropWhile isSpaceByte) ∧
    (isAttach sql = false → sqlite.stmtReadonly stmt = true → behindTrivia tail = [] →
      onlyBlanks tail = true)

variable {sqlite executor} {db : Db} {sql tail : Bytes} {stmt : Stmt} {rowLimit : ℤ}

/-- A text is run or refused. -/
theorem run_or_refused (sqlite : SqliteLibrary Db Stmt) (executor : Executor) (sql : Bytes)
    (rowLimit : ℤ) :
    (∃ db stmt tail, Connected sqlite executor db ∧ Prepares sqlite db sql stmt tail ∧
      queryReadonly sqlite executor sql rowLimit =
        runStatement sqlite db stmt (rowLimitOf executor rowLimit)) ∨
    ∃ kind message, kind.refuses = true ∧
      queryReadonly sqlite executor sql rowLimit = fail kind message := by
  unfold queryReadonly runSelect
  split
  · exact Or.inr ⟨_, _, rfl, rfl⟩
  · rename_i path hpath
    split
    · exact Or.inr ⟨_, _, rfl, rfl⟩
    · split
      · exact Or.inr ⟨_, _, rfl, rfl⟩
      · rename_i db hopen
        split
        · exact Or.inr ⟨_, _, rfl, rfl⟩
        · rename_i stmt tail hprepare
          split_ifs
          · exact Or.inr ⟨_, _, rfl, rfl⟩
          · exact Or.inr ⟨_, _, rfl, rfl⟩
          · exact Or.inl ⟨db, stmt, tail, ⟨path, hpath, hopen⟩, hprepare, rfl⟩

/-- What stands where nothing can be prepared is refused. -/
theorem refused_of_not_prepares (h : ∀ db stmt tail, Connected sqlite executor db →
    ¬ Prepares sqlite db sql stmt tail) :
    (queryReadonly sqlite executor sql rowLimit).errorKind.refuses = true := by
  rcases run_or_refused sqlite executor sql rowLimit with
    ⟨db, stmt, tail, hdb, hprepare, -⟩ | ⟨kind, message, hkind, hresult⟩
  · exact absurd hprepare (h db stmt tail hdb)
  · rw [hresult]
    exact hkind

theorem not_refuses_runStatement (stmt : Option Stmt) (limit : ℕ) :
    (runStatement sqlite db stmt limit).errorKind.refuses = false := by
  unfold runStatement
  dsimp only
  split <;> rfl

/-- The tests of what can be prepared. -/
theorem queryReadonly_of_prepares (hdb : Connected sqlite executor db) {stmt : Option Stmt}
    (hprepare : Prepares sqlite db sql stmt tail) : queryReadonly sqlite executor sql rowLimit =
      if isAttachWord (leadingKeyword sql) then
        fail .rejectedMutation (asciiBytes "Statement kind is not permitted: " ++
          leadingKeyword sql)
      else if tailHasStatement tail then
        fail .multipleStatements (asciiBytes "Only a single read-only statement is permitted.")
      else if stmtReadonly sqlite stmt = false then
        fail .rejectedMutation (asciiBytes
          "Only read-only statements are permitted; mutating SQL is rejected.")
      else runStatement sqlite db stmt (rowLimitOf executor rowLimit) := by
  obtain ⟨path, hpath, hopen⟩ := hdb
  rw [Prepares] at hprepare
  rw [queryReadonly, runSelect, hpath]
  dsimp only
  rw [hopen]
  dsimp only
  rw [hprepare]

/-- **What is refused** of it. -/
theorem refused_iff (hdb : Connected sqlite executor db) {stmt : Option Stmt}
    (hprepare : Prepares sqlite db sql stmt tail) :
    (queryReadonly sqlite executor sql rowLimit).errorKind.refuses = true ↔
      isAttachWord (leadingKeyword sql) = true ∨ tailHasStatement tail = true ∨
        stmtReadonly sqlite stmt = false := by
  rw [queryReadonly_of_prepares hdb hprepare]
  split_ifs with hkeyword htail hreadonly
  · exact iff_of_true rfl (Or.inl hkeyword)
  · exact iff_of_true rfl (Or.inr (Or.inl htail))
  · exact iff_of_true rfl (Or.inr (Or.inr hreadonly))
  · rw [not_refuses_runStatement]
    refine iff_of_false Bool.false_ne_true ?_
    rintro (h | h | h)
    · exact hkeyword h
    · exact htail h
    · exact hreadonly h

/-- A null statement does not succeed. -/
theorem runStatement_none (db : Db) (limit : ℕ) :
    (runStatement sqlite db none limit).ok = false := by
  have hmore : ¬ MoreRows (stepOf sqlite db none) 0 := by
    rintro ⟨column, hrow⟩
    cases hrow
  unfold runStatement
  dsimp only
  rw [collectRows_of_end hmore]
  rfl

/-- The rows of a statement that succeeds. -/
theorem rows_of_runStatement {limit : ℕ}
    (h : (runStatement sqlite db (some stmt) limit).ok = true) :
    ∃ data, (runStatement sqlite db (some stmt) limit).data = some data ∧
      FirstRows (sqlite.step stmt) (sqlite.columnNames stmt).length data.rowCount data.rows ∧
      data.rowCount ≤ limit ∧
      ((runStatement sqlite db (some stmt) limit).truncated = true ↔
        MoreRows (sqlite.step stmt) data.rowCount) := by
  have hnone : FirstRows (sqlite.step stmt) (sqlite.columnNames stmt).length 0 [] := FirstRows.nil
  have hspec := collectRows_spec hnone (Nat.zero_le limit)
  have hcount : (((some stmt).map sqlite.columnNames).getD []).length =
      (sqlite.columnNames stmt).length := rfl
  unfold runStatement at h ⊢
  dsimp only [stepOf] at h ⊢
  rw [List.length_map, hcount] at h ⊢
  split at h
  · cases h
  · cases h
  · rename_i hinterrupt hfailed
    refine ⟨_, rfl, hspec.first, hspec.rowCount_le, hspec.truncated_iff⟩

theorem rows_of_ok (h : (queryReadonly sqlite executor sql rowLimit).ok = true) :
    ∃ db stmt tail data, Connected sqlite executor db ∧
      Prepares sqlite db sql (some stmt) tail ∧
      (queryReadonly sqlite executor sql rowLimit).data = some data ∧
      FirstRows (sqlite.step stmt) (sqlite.columnNames stmt).length data.rowCount data.rows ∧
      data.rowCount ≤ rowLimitOf executor rowLimit ∧
      ((queryReadonly sqlite executor sql rowLimit).truncated = true ↔
        MoreRows (sqlite.step stmt) data.rowCount) := by
  rcases run_or_refused sqlite executor sql rowLimit with
    ⟨db, stmt, tail, hdb, hprepare, hresult⟩ | ⟨kind, message, -, hresult⟩
  · rw [hresult] at h ⊢
    cases stmt with
    | none =>
      rw [runStatement_none] at h
      cases h
    | some stmt =>
      obtain ⟨data, hdata⟩ := rows_of_runStatement h
      exact ⟨db, stmt, tail, data, hdb, hprepare, hdata⟩
  · rw [hresult] at h
    cases h

theorem leadingKeyword_cString (sql : Bytes) :
    leadingKeyword (cString sql) = leadingKeyword sql := by
  rw [leadingKeyword, leadingKeyword, dropWhile_cString, takeWhile_cString]

/-- ATTACH and DETACH are words of capital letters. -/
theorem capital_of_isAttachWord {word : Bytes} (h : isAttachWord word = true) :
    word ≠ [] ∧ ∀ c ∈ word, 65 ≤ c ∧ c ≤ 90 := by
  rw [isAttachWord, Bool.or_eq_true, decide_eq_true_iff, decide_eq_true_iff] at h
  rcases h with rfl | rfl <;> exact ⟨List.cons_ne_nil _ _, by decide +kernel⟩

/-- The keyword is found where blanks alone stand in front. -/
theorem behindTrivia_of_keyword (h : isAttachWord (leadingKeyword sql) = true) :
    behindTrivia (cString sql) = (cString sql).dropWhile isSpaceByte := by
  refine behindTrivia_of_word fun hnil => (capital_of_isAttachWord h).1 ?_
  rw [← leadingKeyword_cString, leadingKeyword, hnil]
  rfl

theorem keyword_of_isAttach (hattach : isAttach sql = true)
    (hblank : behindTrivia (cString sql) = (cString sql).dropWhile isSpaceByte) :
    isAttachWord (leadingKeyword sql) = true := by
  have hword := takeWhile_isAlphaByte (behindTrivia (cString sql))
    (capital_of_isAttachWord hattach).2 rfl
  rw [← leadingKeyword_cString, leadingKeyword, ← hblank, hword]
  exact hattach

/-- Of what can be prepared the keyword is the first word. -/
theorem isAttach_of_keyword (hdoc : Documented sqlite)
    (hprepare : Prepares sqlite db sql (some stmt) tail)
    (h : isAttachWord (leadingKeyword sql) = true) : isAttach sql = true := by
  have hblank := behindTrivia_of_keyword h
  rw [← leadingKeyword_cString, leadingKeyword, ← hblank] at h
  have hne : (behindTrivia (cString sql)).takeWhile isAlphaByte ≠ [] := by
    intro hnil
    rw [hnil] at h
    exact (capital_of_isAttachWord h).1 rfl
  rw [isAttach, firstWord, hdoc.word db _ stmt tail hprepare hne]
  exact h

/-- Nothing but blanks and semicolons stands in the tail. -/
theorem tailHasStatement_eq (hdoc : Documented sqlite) {stmt : Option Stmt}
    (hprepare : Prepares sqlite db sql stmt tail) : tailHasStatement tail = !onlyBlanks tail := by
  have hzero : 0 ∉ tail := fun h =>
    zero_not_mem_cString sql ((hdoc.tail db _ stmt tail hprepare).subset h)
  rw [tailHasStatement, cString_eq_self hzero, onlyBlanks, List.not_all_eq_any_not]
  congr 1
  funext b
  simp

/-- ATTACH and DETACH are refused where they are read as they are written. -/
theorem attach_refused (hdoc : Documented sqlite) (hread : ReadAsWritten sqlite executor sql)
    (hattach : isAttach sql = true) :
    (queryReadonly sqlite executor sql rowLimit).errorKind.refuses = true := by
  by_cases hprepares : ∃ db stmt tail, Connected sqlite executor db ∧
    Prepares sqlite db sql stmt tail
  · obtain ⟨db, stmt, tail, hdb, hprepare⟩ := hprepares
    cases stmt with
    | none =>
      -- such a text holds a statement
      have hword := takeWhile_isAlphaByte (behindTrivia (cString sql))
        (capital_of_isAttachWord hattach).2 rfl
      rw [hdoc.statement db _ tail hprepare] at hword
      have hnil : firstWord (cString sql) = [] := by rw [firstWord, ← hword]; rfl
      exact absurd hnil (capital_of_isAttachWord hattach).1
    | some stmt =>
      refine (refused_iff hdb hprepare).mpr ?_
      by_cases hblanks : onlyBlanks tail = true
      · have hfront := (hread db stmt tail hdb hprepare).1 hattach hblanks
        exact Or.inl (keyword_of_isAttach hattach hfront)
      · refine Or.inr (Or.inl ?_)
        rw [tailHasStatement_eq hdoc hprepare, eq_false_of_ne_true hblanks]
        rfl
  · refine refused_of_not_prepares fun db stmt tail hdb hprepare => ?_
    exact hprepares ⟨db, stmt, tail, hdb, hprepare⟩

/-- **The gate does what it is for exactly for the texts where comments and empty statements make
no difference.** -/
theorem readonlyQueries_iff {Db Stmt : Type} (sqlite : SqliteLibrary Db Stmt)
    (hdoc : Documented sqlite) (executor : Executor) (sql : Bytes) (rowLimit : ℤ) :
    ReadonlyQueries sqlite executor sql rowLimit ↔ ReadAsWritten sqlite executor sql := by
  constructor
  · rintro hgate db stmt tail hdb hprepare
    have htail := tailHasStatement_eq hdoc hprepare
    constructor
    · intro hattach hblanks
      have hrefused := (refused_iff hdb hprepare).mp (hgate.attach hattach)
      rw [htail, hblanks, stmtReadonly, Option.all_some,
        hdoc.attach db _ stmt tail hprepare hattach] at hrefused
      exact behindTrivia_of_keyword (hrefused.resolve_right (by decide))
    · intro hattach hreadonly hend
      have hpasses := hgate.single db stmt tail hdb hprepare hend hreadonly hattach
      by_contra hblanks
      rw [Bool.not_eq_true] at hblanks
      rw [(refused_iff hdb hprepare).mpr (Or.inr (Or.inl (by rw [htail, hblanks]; rfl)))] at hpasses
      cases hpasses
  · intro hread
    refine ⟨attach_refused hdoc hread, fun db stmt tail hdb hprepare hmore => ?_,
      fun db stmt tail hdb hprepare hend hreadonly hattach => ?_, rows_of_ok⟩
    · refine (refused_iff hdb hprepare).mpr (Or.inr (Or.inl ?_))
      rw [tailHasStatement_eq hdoc hprepare]
      by_contra hblanks
      rw [Bool.not_eq_true, Bool.not_eq_false'] at hblanks
      exact hmore (behindTrivia_of_all hblanks)
    · rw [← Bool.not_eq_true, refused_iff hdb hprepare]
      rintro (hkeyword | hmore | hmutation)
      · rw [isAttach_of_keyword hdoc hprepare hkeyword] at hattach
        cases hattach
      · rw [tailHasStatement_eq hdoc hprepare,
          (hread db stmt tail hdb hprepare).2 hattach hreadonly hend] at hmore
        cases hmore
      · rw [stmtReadonly, Option.all_some, hreadonly] at hmutation
        cases hmutation

end Gate

/-! ## Texts with comments -/

def selectOne : Bytes := asciiBytes "SELECT 1"

def selectOneAndComment : Bytes := asciiBytes "SELECT 1; -- one"

def commentAndAttach : Bytes := asciiBytes "/* */ ATTACH DATABASE 'a.db' AS a"

/-- A statement tells whether it attaches. -/
def prepareThreeTexts (sql : Bytes) : Except Bytes (Option Bool × Bytes) :=
  if sql = selectOne then .ok (some false, [])
  else if sql = selectOneAndComment then .ok (some false, asciiBytes " -- one")
  else if sql = commentAndAttach then .ok (some true, [])
  else .error (asciiBytes "syntax error")

/-- A library that knows these texts. -/
def threeTexts : SqliteLibrary Unit Bool where
  openReadonly _ := .ok ()
  prepare _ sql := prepareThreeTexts sql
  stmtReadonly _ := true
  bindText stmt _ := stmt
  columnNames attaches := if attaches then [] else [some [49]]
  step attaches calls := if attaches || 0 < calls then .done else .row fun _ => .integer 1
  errmsg _ := asciiBytes "bad parameter or other API misuse"

def oneDatabase : Executor := .make (some (asciiBytes "C:\\data.db")) 1000

/-- What is seen of the three texts by looking at them. -/
structure ThreeTextsFacts : Type where
  verbatim : ∀ sql ∈ [selectOne, selectOneAndComment, commentAndAttach], cString sql = sql
  commentOther : selectOneAndComment ≠ selectOne
  attachOther : commentAndAttach ≠ selectOne
  attachOther' : commentAndAttach ≠ selectOneAndComment

def threeTextsFacts : ThreeTextsFacts := by
  constructor <;> decide +kernel

theorem connected_oneDatabase : Connected threeTexts oneDatabase () :=
  ⟨asciiBytes "C:\\data.db", by decide +kernel, rfl⟩

theorem prepares_selectOne : Prepares threeTexts () selectOne (some false) [] := by
  have htext : cString selectOne = selectOne := threeTextsFacts.verbatim _ (by simp)
  rw [Prepares, htext]
  change prepareThreeTexts selectOne = _
  rw [prepareThreeTexts, if_pos rfl]

theorem prepares_selectOneAndComment :
    Prepares threeTexts () selectOneAndComment (some false) (asciiBytes " -- one") := by
  have htext : cString selectOneAndComment = selectOneAndComment :=
    threeTextsFacts.verbatim _ (by simp)
  rw [Prepares, htext]
  change prepareThreeTexts selectOneAndComment = _
  rw [prepareThreeTexts, if_neg threeTextsFacts.commentOther, if_pos rfl]

theorem prepares_commentAndAttach : Prepares threeTexts () commentAndAttach (some true) [] := by
  have htext : cString commentAndAttach = commentAndAttach :=
    threeTextsFacts.verbatim _ (by simp)
  rw [Prepares, htext]
  change prepareThreeTexts commentAndAttach = _
  rw [prepareThreeTexts, if_neg threeTextsFacts.attachOther, if_neg threeTextsFacts.attachOther',
    if_pos rfl]

theorem documented_threeTexts : Documented threeTexts where
  word := by
    intro db sql stmt tail h hne
    change prepareThreeTexts sql = _ at h
    unfold prepareThreeTexts at h
    split_ifs at h with h1 h2 h3
    · rw [h1]
      decide +kernel
    · rw [h2]
      decide +kernel
    · rw [h3]
      decide +kernel
  statement := by
    intro db sql tail h
    change prepareThreeTexts sql = _ at h
    unfold prepareThreeTexts at h
    split_ifs at h <;> cases h
  tail := by
    intro db sql stmt tail h
    change prepareThreeTexts sql = _ at h
    unfold prepareThreeTexts at h
    split_ifs at h with h1 h2 h3
    · cases h
      exact List.nil_suffix
    · cases h
      rw [h2]
      decide +kernel
    · cases h
      exact List.nil_suffix
  attach := fun _ _ _ _ _ _ => rfl

/-- A single statement, and nothing else. -/
theorem selectOne_gated : ReadonlyQueries threeTexts oneDatabase selectOne 100 := by
  refine (readonlyQueries_iff threeTexts documented_threeTexts oneDatabase selectOne 100).mpr ?_
  intro db stmt tail hdb hprepare
  have htail : ((some false, []) : Option Bool × Bytes) = (some stmt, tail) :=
    Except.ok.inj (prepares_selectOne.symm.trans hprepare)
  cases htail
  exact ⟨fun hattach => absurd hattach (by decide +kernel), fun _ _ _ => rfl⟩

/-- ATTACH behind a comment is let through, and a statement before a comment is refused. -/
theorem comments_misread : Documented threeTexts ∧
    ¬ ReadonlyQueries threeTexts oneDatabase commentAndAttach 100 ∧
    ¬ ReadonlyQueries threeTexts oneDatabase selectOneAndComment 100 := by
  refine ⟨documented_threeTexts, fun h => ?_, fun h => ?_⟩
  · have hrefused := (refused_iff connected_oneDatabase prepares_commentAndAttach).mp
      (h.attach (by decide +kernel))
    revert hrefused
    decide +kernel
  · have hpasses := h.single () false _ connected_oneDatabase prepares_selectOneAndComment
      (by decide +kernel) rfl (by decide +kernel)
    rw [(refused_iff connected_oneDatabase prepares_selectOneAndComment).mpr
      (Or.inr (Or.inl (by decide +kernel)))] at hpasses
    cases hpasses

end Worker
end MasterControl
