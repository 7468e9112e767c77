import QueryMetrics.Proofs.Connection.Custody
import QueryMetrics.Proofs.Connection.Fetching
import QueryMetrics.Proofs.Connection.QueryFrame

/-!
# Metadata as well as possible

Once a pool is created, connecting asks its first session two questions: of what kind the database
is, and which role the session has. Whatever the answers are, connecting is meant to succeed with
the new pool held, and every question that has no usable answer is meant to leave what was known
before (`BestEffort`).

Both questions are asked in the same way (`Link.question`): the statement is run, the first row is
read, and failures that pass a test are reported and forgotten. So how a question ends is said once,
and what is left is which failures do not pass the tests. There are two of these (`Link.Slips`):

* the kind of the database is an infinite number, which is no whole number;
* the row with the role has no cell, or more than one.

Of a driver that fails with its own errors only, connecting goes as well as possible exactly if
neither of them occurs (`Link.bestEffort_iff`). If one does, connecting fails, and not as a database
does, so nothing that expects databases to fail will see to it.
-/

namespace QueryMetrics

open QueryMetrics.Action

variable {ε α : Type}

/-- Whatever a session is asked, the driver fails with errors of its own only. -/
structure Driver.RaisesOwnErrors (driver : Driver ε) : Prop where
  acquire {pool : PoolId} {s : Clocked ε} {failure : Failure}
    (h : (run (driver.acquire pool) s).result = .error failure) : failure.isDriver = true
  callProcedure {session : SessionId} {name : String} {arguments : List String} {s : Clocked ε}
    {failure : Failure}
    (h : (run (driver.callProcedure session name arguments) s).result = .error failure) :
    failure.isDriver = true
  execute {session : SessionId} {statement : String} {limit : Option Int} {s : Clocked ε}
    {failure : Failure}
    (h : (run (driver.execute session statement limit) s).result = .error failure) :
    failure.isDriver = true
  ending {session : SessionId} {statement : String} {limit : Option Int} {s : Clocked ε}
    {results : ResultSet} {failure : Failure}
    (h : (run (driver.execute session statement limit) s).result = .ok results)
    (hending : results.ending = some failure) : failure.isDriver = true

/-- The cell holds an infinite number. -/
def Cell.IsInfinite (cell : Cell) : Prop :=
  ∃ negative, cell = .value (.number (.infinite negative)) ∨
    cell = .value (.decimal (.infinite negative))

namespace Cell

variable {cell : Cell}

theorem not_isInfinite_of_toInt {n : Int} (h : cell.toInt = .ok n) : ¬ cell.IsInfinite := by
  rintro ⟨negative, rfl | rfl⟩ <;> cases h

/-- Of everything that is no whole number, only infinite numbers are not expected. -/
theorem isInfinite_iff {fault : WholeFault} (h : cell.toInt = .error fault) :
    cell.IsInfinite ↔ Link.isDbtypeFailure (.whole fault) = false := by
  constructor
  · rintro ⟨negative, rfl | rfl⟩ <;> cases h <;> rfl
  · -- every other content is a whole number, or is refused in a way that is expected
    intro huncaught
    cases cell with
    | largeObject content => cases h; cases huncaught
    | brokenObject failure => cases h; cases huncaught
    | value content =>
      cases content with
      | number x =>
        cases x with
        | nan => cases h; cases huncaught
        | infinite negative => exact ⟨negative, .inl rfl⟩
        | finite negative size => cases h
      | decimal d =>
        cases d with
        | nan => cases h; cases huncaught
        | infinite negative => exact ⟨negative, .inr rfl⟩
        | finite => cases h
      | text s =>
        change (wholeNumeral s.toList).mapError .numeral = .error fault at h
        cases hread : wholeNumeral s.toList <;> rw [hread] at h <;> cases h
        cases huncaught
      | bytes octets =>
        change (wholeNumeral (octets.map Content.asciiChar)).mapError .numeral = .error fault at h
        cases hread : wholeNumeral (octets.map Content.asciiChar) <;> rw [hread] at h <;> cases h
        cases huncaught
      | integer n => cases h
      | boolean b => cases h
      | null => cases h; cases huncaught
      | moment m => cases h; cases huncaught
      | span t => cases h; cases huncaught

end Cell

namespace Link

variable {driver : Driver ε} {session : SessionId}

/-! ### Questions to a session -/

/-- The first row of a statement. -/
def askRow (driver : Driver ε) (session : SessionId) (statement : String) :
    LinkAction ε (Option (List Cell)) := do
  let results ← call (driver.execute session statement none)
  firstRow results

/-- Runs a statement, reads the first row and keeps what it says. -/
def ask (driver : Driver ε) (session : SessionId) (statement : String)
    (read : Option (List Cell) → Except Failure α) (keep : α → Connection → Connection) :
    LinkAction ε Unit := do
  let row ← askRow driver session statement
  let answer ← Action.ofExcept (read row)
  update (keep answer)

/-- Asks a question. Failures that pass the test are reported and forgotten. -/
def question (driver : Driver ε) (session : SessionId) (statement : String)
    (caught : Failure → Bool) (report : Failure → ConnectionEvent)
    (read : Option (List Cell) → Except Failure α) (keep : α → Connection → Connection) :
    LinkAction ε Unit :=
  (ask driver session statement read keep).catching caught fun failure =>
    Action.report [report failure]

/-- The kind of a database as a row gives it. -/
def dbtypeOf (row : Option (List Cell)) : Except Failure Int :=
  (onlyCell row).bind fun cell => cell.toInt.mapError .whole

/-- The role of a session as a row gives it. -/
def roleOf (row : Option (List Cell)) : Except Failure Content :=
  (onlyCell row).map Cell.content

theorem askCell_bind (driver : Driver ε) (session : SessionId) (statement : String)
    (next : Cell → LinkAction ε α) :
    askCell driver session statement >>= next =
      askRow driver session statement >>= fun row => Action.ofExcept (onlyCell row) >>= next := by
  simp only [askCell, askRow, Action.bind_assoc]

theorem readDbtype_eq (driver : Driver ε) (session : SessionId) :
    readDbtype driver session =
      question driver session containerQuery isDbtypeFailure .dbtypeUnread dbtypeOf
        fun dbtype connection => { connection with dbtype } := by
  rw [readDbtype, question, ask, askCell_bind]
  congr 2
  funext row
  unfold dbtypeOf
  cases onlyCell row with
  | error failure => rfl
  | ok cell => cases cell.toInt <;> rfl

theorem readRole_eq (driver : Driver ε) (session : SessionId) :
    readRole driver session =
      question driver session roleQuery isRoleFailure .roleUnread roleOf
        fun isSysdba connection => { connection with isSysdba } := by
  rw [readRole, question, ask, askCell_bind]
  congr 2
  funext row
  unfold roleOf
  cases onlyCell row <;> rfl

theorem keepsConnection_askRow (driver : Driver ε) (session : SessionId) (statement : String) :
    KeepsConnection (askRow driver session statement) := by
  refine (keepsConnection_call _).bind fun results => ?_
  unfold firstRow
  split
  · exact (keepsConnection_advance _).bind fun _ => keepsConnection_pure _
  · exact keepsConnection_fail _
  · exact keepsConnection_pure _

/-- A question fails with errors of the driver, before its answer is read. -/
theorem isDriver_of_askRow (h : driver.RaisesOwnErrors) {statement : String}
    {s : Clocked (Link ε)} {failure : Failure}
    (hfails : (run (askRow driver session statement) s).result = .error failure) :
    failure.isDriver = true := by
  rw [askRow, run_bind] at hfails
  cases hexecuted : (run (call (driver.execute session statement none)) s).result with
  | error error =>
    rw [hexecuted] at hfails
    cases hfails
    exact h.execute hexecuted
  | ok results =>
    rw [hexecuted] at hfails
    dsimp only at hfails
    unfold firstRow at hfails
    split at hfails
    · cases hfails
    · rename_i failure' _ hending
      cases hfails
      exact h.ending hexecuted hending
    · cases hfails

/-- Asking ends as the first row can be read, and up to the last step, which cannot fail, it touches
nothing that is known about the connection. -/
theorem ask_ends (driver : Driver ε) (session : SessionId) (statement : String)
    (read : Option (List Cell) → Except Failure α) (keep : α → Connection → Connection)
    (s : Clocked (Link ε)) :
    let answer := (run (askRow driver session statement) s).result.bind read
    let ran := run (ask driver session statement read keep) s
    ran.result = answer.map (fun _ => ()) ∧
      ran.state.inner.connection =
        match answer with
        | .ok a => keep a s.inner.connection
        | .error _ => s.inner.connection := by
  have hkeeps := keepsConnection_askRow driver session statement s
  rw [ask]
  cases hrow : (run (askRow driver session statement) s).result with
  | error failure =>
    rw [run_bind_error hrow]
    exact ⟨rfl, hkeeps⟩
  | ok row =>
    rw [run_bind_ok hrow]
    simp only [run_bind, run_ofExcept, Except.bind]
    cases read row with
    | error failure => exact ⟨rfl, hkeeps⟩
    | ok a => exact ⟨rfl, congrArg (keep a) hkeeps⟩

variable {statement : String} {caught : Failure → Bool} {report : Failure → ConnectionEvent}
  {read : Option (List Cell) → Except Failure α} {keep : α → Connection → Connection}
  {s : Clocked (Link ε)}

/-- A usable answer is kept. -/
theorem question_of_ok {a : α}
    (h : (run (askRow driver session statement) s).result.bind read = .ok a) :
    let ran := run (question driver session statement caught report read keep) s
    ran.result = .ok () ∧ ran.state.inner.connection = keep a s.inner.connection := by
  obtain ⟨hresult, hconnection⟩ := ask_ends driver session statement read keep s
  rw [h] at hresult hconnection
  rw [question, run_catching_ok hresult]
  exact ⟨hresult, hconnection⟩

/-- A failure that is expected leaves everything as it was. -/
theorem question_of_caught {failure : Failure}
    (h : (run (askRow driver session statement) s).result.bind read = .error failure)
    (hcaught : caught failure = true) :
    let ran := run (question driver session statement caught report read keep) s
    ran.result = .ok () ∧ ran.state.inner.connection = s.inner.connection := by
  obtain ⟨hresult, hconnection⟩ := ask_ends driver session statement read keep s
  rw [h] at hresult hconnection
  rw [question, run_catching_caught hresult hcaught]
  exact ⟨rfl, hconnection⟩

/-- Any other failure stands. -/
theorem question_of_uncaught {failure : Failure}
    (h : (run (askRow driver session statement) s).result.bind read = .error failure)
    (huncaught : caught failure = false) :
    (run (question driver session statement caught report read keep) s).result =
      .error failure := by
  obtain ⟨hresult, -⟩ := ask_ends driver session statement read keep s
  rw [h] at hresult
  rw [question, run_catching_uncaught hresult huncaught]
  exact hresult

/-! ### The two questions of connecting -/

/-- What a row is when it should be a single cell. -/
theorem onlyCell_cases (row : Option (List Cell)) :
    (∃ cell, row = some [cell] ∧ onlyCell row = .ok cell) ∨
    (row = none ∧ onlyCell row = .error (.row .noRow)) ∨
    ∃ cells, row = some cells ∧ cells.length ≠ 1 ∧
      onlyCell row = .error (.row (.width cells.length)) := by
  match row with
  | none => exact .inr (.inl ⟨rfl, rfl⟩)
  | some [] => exact .inr (.inr ⟨[], rfl, by decide, rfl⟩)
  | some [cell] => exact .inl ⟨cell, rfl, rfl⟩
  | some (first :: second :: rest) => exact .inr (.inr ⟨_, rfl, by simp, rfl⟩)

variable {answer : Except Failure (Option (List Cell))}

/-- The answer is an infinite number. -/
def GivesInfinite (answer : Except Failure (Option (List Cell))) : Prop :=
  ∃ cell, answer = .ok (some [cell]) ∧ cell.IsInfinite

/-- The answer is a row that has no cell, or more than one. -/
def GivesOtherWidth (answer : Except Failure (Option (List Cell))) : Prop :=
  ∃ cells, answer = .ok (some cells) ∧ cells.length ≠ 1

/-- What becomes of an answer about the kind of the database. -/
theorem dbtypeOf_cases (h : ∀ failure, answer = .error failure → failure.isDriver = true) :
    (GivesInfinite answer ∧ ∃ fault, answer.bind dbtypeOf = .error (.whole fault) ∧
      isDbtypeFailure (.whole fault) = false) ∨
    (¬ GivesInfinite answer ∧ ∃ failure, answer.bind dbtypeOf = .error failure ∧
      isDbtypeFailure failure = true) ∨
    ¬ GivesInfinite answer ∧ ∃ cell dbtype, answer = .ok (some [cell]) ∧
      cell.toInt = .ok dbtype ∧ answer.bind dbtypeOf = .ok dbtype := by
  unfold GivesInfinite
  cases answer with
  | error failure =>
    refine .inr (.inl ⟨fun ⟨cell, hcell, _⟩ => ?_, failure, rfl, ?_⟩)
    · cases hcell
    · cases failure <;> first | rfl | cases h _ rfl
  | ok row =>
    obtain ⟨cell, rfl, hcell⟩ | ⟨rfl, hnone⟩ | ⟨cells, rfl, hwidth, hcells⟩ := onlyCell_cases row
    · have hgives : (∃ other, (.ok (some [cell]) : Except Failure _) = .ok (some [other]) ∧
          other.IsInfinite) ↔ cell.IsInfinite := by
        constructor
        · rintro ⟨_, ⟨⟩, hinfinite⟩
          exact hinfinite
        · exact fun hinfinite => ⟨cell, rfl, hinfinite⟩
      have hread : (Except.ok (some [cell]) : Except Failure _).bind dbtypeOf =
          cell.toInt.mapError .whole := rfl
      rw [hgives, hread]
      cases hwhole : cell.toInt with
      | ok dbtype =>
        exact .inr (.inr ⟨Cell.not_isInfinite_of_toInt hwhole, cell, dbtype, rfl, hwhole, rfl⟩)
      | error fault =>
        cases huncaught : isDbtypeFailure (.whole fault) with
        | false => exact .inl ⟨(Cell.isInfinite_iff hwhole).mpr huncaught, fault, rfl, huncaught⟩
        | true =>
          refine .inr (.inl ⟨fun hinfinite => ?_, _, rfl, huncaught⟩)
          rw [(Cell.isInfinite_iff hwhole).mp hinfinite] at huncaught
          cases huncaught
    · refine .inr (.inl ⟨fun ⟨cell, hcell, _⟩ => ?_, _, rfl, rfl⟩)
      cases hcell
    · refine .inr (.inl ⟨fun ⟨cell, hcell, _⟩ => ?_, .row (.width cells.length), ?_, rfl⟩)
      · cases hcell
        exact hwidth rfl
      · change dbtypeOf (some cells) = _
        rw [dbtypeOf, hcells]
        rfl

/-- What becomes of an answer about the role of the session. -/
theorem roleOf_cases (h : ∀ failure, answer = .error failure → failure.isDriver = true) :
    (GivesOtherWidth answer ∧ ∃ width, answer.bind roleOf = .error (.row (.width width))) ∨
    (¬ GivesOtherWidth answer ∧ ∃ failure, answer.bind roleOf = .error failure ∧
      isRoleFailure failure = true) ∨
    ¬ GivesOtherWidth answer ∧ ∃ cell, answer = .ok (some [cell]) ∧
      answer.bind roleOf = .ok cell.content := by
  unfold GivesOtherWidth
  cases answer with
  | error failure =>
    refine .inr (.inl ⟨fun ⟨cells, hcells, _⟩ => ?_, failure, rfl, ?_⟩)
    · cases hcells
    · cases failure <;> first | rfl | cases h _ rfl
  | ok row =>
    obtain ⟨cell, rfl, hcell⟩ | ⟨rfl, hnone⟩ | ⟨cells, rfl, hwidth, hcells⟩ := onlyCell_cases row
    · refine .inr (.inr ⟨fun ⟨cells, hcells, hwidth⟩ => ?_, cell, rfl, rfl⟩)
      cases hcells
      exact hwidth rfl
    · refine .inr (.inl ⟨fun ⟨cells, hcells, _⟩ => ?_, _, rfl, rfl⟩)
      cases hcells
    · refine .inl ⟨⟨cells, rfl, hwidth⟩, cells.length, ?_⟩
      change roleOf (some cells) = _
      rw [roleOf, hcells]
      rfl

/-- Connecting reads the kind of the database or leaves it, unless it is an infinite number. -/
theorem readDbtype_cases (h : driver.RaisesOwnErrors) (session : SessionId)
    (s : Clocked (Link ε)) :
    let answer := (run (askRow driver session containerQuery) s).result
    let ran := run (readDbtype driver session) s
    (GivesInfinite answer ∧ ∃ fault, ran.result = .error (.whole fault)) ∨
    ¬ GivesInfinite answer ∧ ran.result = .ok () ∧
      (ran.state.inner.connection = s.inner.connection ∨
        ∃ cell dbtype, answer = .ok (some [cell]) ∧ cell.toInt = .ok dbtype ∧
          ran.state.inner.connection = { s.inner.connection with dbtype }) := by
  rw [readDbtype_eq]
  intro answer ran
  have hdriver : ∀ failure, answer = .error failure → failure.isDriver = true :=
    fun _ => isDriver_of_askRow h
  obtain ⟨hslips, fault, hread, huncaught⟩ | ⟨hfits, failure, hread, hcaught⟩ |
      ⟨hfits, cell, dbtype, hcell, hwhole, hread⟩ :=
    dbtypeOf_cases hdriver
  · exact .inl ⟨hslips, fault, question_of_uncaught hread huncaught⟩
  · obtain ⟨hresult, hconnection⟩ := question_of_caught hread hcaught
    exact .inr ⟨hfits, hresult, .inl hconnection⟩
  · obtain ⟨hresult, hconnection⟩ := question_of_ok hread
    exact .inr ⟨hfits, hresult, .inr ⟨cell, dbtype, hcell, hwhole, hconnection⟩⟩

/-- Connecting reads the role of the session or leaves it, unless the row with the role has no cell
or more than one. -/
theorem readRole_cases (h : driver.RaisesOwnErrors) (session : SessionId)
    (s : Clocked (Link ε)) :
    let answer := (run (askRow driver session roleQuery) s).result
    let ran := run (readRole driver session) s
    (GivesOtherWidth answer ∧ ∃ width, ran.result = .error (.row (.width width))) ∨
    ¬ GivesOtherWidth answer ∧ ran.result = .ok () ∧
      (ran.state.inner.connection = s.inner.connection ∨
        ∃ cell, answer = .ok (some [cell]) ∧
          ran.state.inner.connection = { s.inner.connection with isSysdba := cell.content }) := by
  rw [readRole_eq]
  intro answer ran
  have hdriver : ∀ failure, answer = .error failure → failure.isDriver = true :=
    fun _ => isDriver_of_askRow h
  obtain ⟨hslips, width, hread⟩ | ⟨hfits, failure, hread, hcaught⟩ | ⟨hfits, cell, hcell, hread⟩ :=
    roleOf_cases hdriver
  · exact .inl ⟨hslips, width, question_of_uncaught hread rfl⟩
  · obtain ⟨hresult, hconnection⟩ := question_of_caught hread hcaught
    exact .inr ⟨hfits, hresult, .inl hconnection⟩
  · obtain ⟨hresult, hconnection⟩ := question_of_ok hread
    exact .inr ⟨hfits, hresult, .inr ⟨cell, hcell, hconnection⟩⟩

/-! ### The first session of a pool -/

/-- The session announces itself, whether it can or not. -/
theorem announce_ends (h : driver.RaisesOwnErrors) (session : SessionId) (s : Clocked (Link ε)) :
    let ran := run (announce driver session) s
    ran.result = .ok () ∧ ran.state.inner.connection = s.inner.connection := by
  let calling : LinkAction ε Unit :=
    call (driver.callProcedure session clientInfoProcedure [clientInfo])
  cases hcalled : (run calling s).result with
  | ok _ =>
    have hran : run (announce driver session) s = run calling s := run_catching_ok hcalled
    rw [hran]
    exact ⟨hcalled, keepsConnection_call _ s⟩
  | error failure =>
    have hran : run (announce driver session) s = _ :=
      run_catching_caught hcalled (h.callProcedure hcalled)
    rw [hran]
    exact ⟨rfl, keepsConnection_call _ s⟩

/-- Announces the session and asks it of what kind the database is. -/
def askContainer (driver : Driver ε) (session : SessionId) :
    LinkAction ε (Option (List Cell)) := do
  announce driver session
  askRow driver session containerQuery

/-- Announces the session, reads the kind of the database and asks for the role. -/
def askRole (driver : Driver ε) (session : SessionId) : LinkAction ε (Option (List Cell)) := do
  announce driver session
  readDbtype driver session
  askRow driver session roleQuery

/-- Announces the session and asks it both questions. -/
def interview (driver : Driver ε) (session : SessionId) : LinkAction ε Unit := do
  announce driver session
  readDbtype driver session
  readRole driver session

/-- One of the answers of the session is not expected. -/
def SessionSlips (driver : Driver ε) (session : SessionId) (s : Clocked (Link ε)) : Prop :=
  GivesInfinite (run (askContainer driver session) s).result ∨
    GivesOtherWidth (run (askRole driver session) s).result

/-- What is known after a session was asked: as before, or as the session answered. -/
structure KnownAfter (driver : Driver ε) (session : SessionId) (s : Clocked (Link ε))
    (connection : Connection) : Prop where
  pool : connection.pool = s.inner.connection.pool
  dbtype : connection.dbtype = s.inner.connection.dbtype ∨
    ∃ cell, (run (askContainer driver session) s).result = .ok (some [cell]) ∧
      cell.toInt = .ok connection.dbtype
  isSysdba : connection.isSysdba = s.inner.connection.isSysdba ∨
    ∃ cell, (run (askRole driver session) s).result = .ok (some [cell]) ∧
      cell.content = connection.isSysdba

/-- Both questions are answered as well as possible, unless an answer is not expected. -/
theorem interview_cases (h : driver.RaisesOwnErrors) (session : SessionId)
    (s : Clocked (Link ε)) :
    let ran := run (interview driver session) s
    (SessionSlips driver session s ∧ ∃ failure, ran.result = .error failure ∧
      failure.isDriver = false ∧ failure.isDatabase = false) ∨
    ¬ SessionSlips driver session s ∧ ran.result = .ok () ∧
      KnownAfter driver session s ran.state.inner.connection := by
  intro ran
  obtain ⟨hannounced, hsame⟩ := announce_ends h session s
  have hran : ran = _ := run_bind_ok hannounced _
  have hcontainer : run (askContainer driver session) s = _ := run_bind_ok hannounced _
  have hrole : run (askRole driver session) s = _ := run_bind_ok hannounced _
  obtain ⟨hslips, fault, hfails⟩ | ⟨hfits, hread, hdbtype⟩ :=
    readDbtype_cases h session (run (announce driver session) s).state
  · refine .inl ⟨.inl ?_, .whole fault, ?_, rfl, rfl⟩
    · rw [hcontainer]
      exact hslips
    · rw [hran, run_bind_error hfails]
  · rw [run_bind_ok hread] at hran hrole
    obtain ⟨hslips, width, hfails⟩ | ⟨hfits', hread', hsysdba⟩ :=
      readRole_cases h session
        (run (readDbtype driver session) (run (announce driver session) s).state).state
    · refine .inl ⟨.inr ?_, .row (.width width), ?_, rfl, rfl⟩
      · rw [hrole]
        exact hslips
      · rw [hran]
        exact hfails
    · refine .inr ⟨?_, ?_, ?_⟩
      · rw [SessionSlips, hcontainer, hrole]
        exact not_or.mpr ⟨hfits, hfits'⟩
      · rw [hran]
        exact hread'
      · -- the first answer touches the kind only, and the second one the role only
        rw [hsame] at hdbtype
        have hfirst : ∀ connection : Connection,
            (connection = s.inner.connection ∨ ∃ cell dbtype,
              (run (askContainer driver session) s).result = .ok (some [cell]) ∧
                cell.toInt = .ok dbtype ∧ connection = { s.inner.connection with dbtype }) →
            KnownAfter driver session s connection := by
          rintro _ (rfl | ⟨cell, dbtype, hcell, hwhole, rfl⟩)
          · exact ⟨rfl, .inl rfl, .inl rfl⟩
          · exact ⟨rfl, .inr ⟨cell, hcell, hwhole⟩, .inl rfl⟩
        have hknown := hfirst _ (by rw [hcontainer]; exact hdbtype)
        rw [hran]
        obtain hkept | ⟨cell, hcell, hkept⟩ := hsysdba
        · rw [hkept]
          exact hknown
        · rw [hkept]
          refine ⟨hknown.pool, hknown.dbtype, .inr ⟨cell, ?_, rfl⟩⟩
          rw [hrole]
          exact hcell

/-! ### Connecting -/

/-- The link that holds the created pool. -/
def withNewPool (driver : Driver ε) (pool : PoolId) (s : Clocked (Link ε)) : Clocked (Link ε) :=
  holding (some pool) (creation driver s).state

/-- The acquisition of the first session of the created pool. -/
def firstSession (driver : Driver ε) (pool : PoolId) (s : Clocked (Link ε)) :
    Ran (Clocked (Link ε)) ConnectionEvent SessionId :=
  run (call (driver.acquire pool)) (withNewPool driver pool s)

/-- How connecting ends when reading metadata ends in some way: errors of the driver are spared. -/
def spared : Except Failure Unit → Except Failure Unit
  | .ok () => .ok ()
  | .error failure => if failure.isDriver then .ok () else .error failure

theorem spared_of_isDriver {failure : Failure} (h : failure.isDriver = true) :
    spared (.error failure) = .ok () :=
  if_pos h

theorem spared_of_not_isDriver {failure : Failure} (h : failure.isDriver = false) :
    spared (.error failure) = .error failure :=
  if_neg (by rw [h]; exact Bool.false_ne_true)

variable {pool : PoolId}

/-- Once the pool is created, connecting holds it and ends as reading metadata does, errors of the
driver spared. -/
theorem connect_of_created (hcreated : (creation driver s).result = .ok pool) :
    (run (connect driver) s).result =
        spared (run (readMetadata driver pool) (withNewPool driver pool s)).result ∧
      (run (connect driver) s).state =
        (run (readMetadata driver pool) (withNewPool driver pool s)).state := by
  constructor
  · obtain ⟨hresult, hstate⟩ := run_createPool driver s.inner.connection.settings s
    rw [show (run (call _) s).result = _ from hcreated] at hresult
    -- the connection is reported under the same test, but a report does not fail
    let telling : LinkAction ε Unit := do
      readMetadata driver pool
      reportConnected
    have hconnect : (run (connect driver) s).result = (run (telling.catching Failure.isDriver
        fun failure => Action.report [.metadataUnread failure])
          (withNewPool driver pool s)).result := by
      simp only [connect, run_bind, known, run_gets, run_report, hresult, mapError_ok, hstate,
        update, run_modify]
      rfl
    rw [hconnect]
    cases htold : (run (readMetadata driver pool) (withNewPool driver pool s)).result with
    | ok _ =>
      have htelling : (run telling (withNewPool driver pool s)).result = .ok () := by
        rw [run_bind_ok htold]
        rfl
      rw [run_catching_ok htelling, htelling]
      rfl
    | error failure =>
      have htelling : (run telling (withNewPool driver pool s)).result = .error failure := by
        rw [run_bind_error htold]
      cases hdriver : failure.isDriver with
      | true =>
        rw [run_catching_caught htelling hdriver, spared_of_isDriver hdriver]
        rfl
      | false =>
        rw [run_catching_uncaught htelling hdriver, htelling, spared_of_not_isDriver hdriver]
  · obtain ⟨failure, hrefused, -⟩ | ⟨other, hother, hstate⟩ := connect_cases driver s
    · cases hrefused.symm.trans hcreated
    · obtain rfl := Except.ok.inj (hother.symm.trans hcreated)
      exact hstate

/-- If no session can be acquired, nothing is asked. -/
theorem connect_of_notAcquired (hgives : driver.GivesBack)
    (hcreated : (creation driver s).result = .ok pool) {failure : Failure}
    (hacquired : (firstSession driver pool s).result = .error failure) :
    (run (connect driver) s).result = spared (.error failure) ∧
      (run (connect driver) s).state.inner.connection =
        { s.inner.connection with pool := some pool } := by
  obtain ⟨hresult, hstate⟩ := connect_of_created hcreated
  have hread : (run (readMetadata driver pool) (withNewPool driver pool s)).result =
      .error failure := by
    rw [readMetadata, result_withSession hgives, run_bind_error hacquired]
  rw [hresult, hstate, hread, readMetadata, withSession, run_bind_error hacquired]
  exact ⟨rfl, rfl⟩

/-- A session that is acquired is asked and given back. -/
theorem connect_of_acquired (hgives : driver.GivesBack)
    (hcreated : (creation driver s).result = .ok pool)
    (hacquired : (firstSession driver pool s).result = .ok session) :
    let told := run (interview driver session) (firstSession driver pool s).state
    (run (connect driver) s).result = spared told.result ∧
      (run (connect driver) s).state.inner.connection = told.state.inner.connection := by
  obtain ⟨hresult, hstate⟩ := connect_of_created hcreated
  have hread : (run (readMetadata driver pool) (withNewPool driver pool s)).result =
      (run (interview driver session) (firstSession driver pool s).state).result := by
    rw [readMetadata, result_withSession hgives, run_bind_ok hacquired]
    exact result_withCursor hgives session _ _
  rw [hresult, hstate, hread, readMetadata, withSession, run_bind_ok hacquired]
  exact ⟨rfl, rfl⟩

/-- Connecting goes as well as possible: it succeeds, the new pool is held, and what is known about
the database is as before or as the first session of the pool answered. -/
structure BestEffort (driver : Driver ε) (pool : PoolId) (s : Clocked (Link ε)) : Prop where
  result : (run (connect driver) s).result = .ok ()
  held : (run (connect driver) s).state.inner.connection.pool = some pool
  dbtype : (run (connect driver) s).state.inner.connection.dbtype = s.inner.connection.dbtype ∨
    ∃ session cell, (firstSession driver pool s).result = .ok session ∧
      (run (askContainer driver session) (firstSession driver pool s).state).result =
        .ok (some [cell]) ∧
      cell.toInt = .ok (run (connect driver) s).state.inner.connection.dbtype
  isSysdba : (run (connect driver) s).state.inner.connection.isSysdba =
      s.inner.connection.isSysdba ∨
    ∃ session cell, (firstSession driver pool s).result = .ok session ∧
      (run (askRole driver session) (firstSession driver pool s).state).result =
        .ok (some [cell]) ∧
      cell.content = (run (connect driver) s).state.inner.connection.isSysdba

/-- The first session of the pool gives an answer that is not expected. -/
def Slips (driver : Driver ε) (pool : PoolId) (s : Clocked (Link ε)) : Prop :=
  ∃ session, (firstSession driver pool s).result = .ok session ∧
    SessionSlips driver session (firstSession driver pool s).state

/-- **Metadata as well as possible.** With a driver that fails with its own errors only, and that
takes sessions and cursors back, connecting goes as well as possible once the pool is created,
unless the kind of the database is an infinite number or the row with the role has no cell or more
than one. Then it fails, and neither as the driver does nor as a database does. -/
theorem bestEffort_iff (hgives : driver.GivesBack) (hraises : driver.RaisesOwnErrors)
    (hcreated : (creation driver s).result = .ok pool) :
    (BestEffort driver pool s ↔ ¬ Slips driver pool s) ∧
      (Slips driver pool s → ∃ failure, (run (connect driver) s).result = .error failure ∧
        failure.isDriver = false ∧ failure.isDatabase = false) := by
  cases hacquired : (firstSession driver pool s).result with
  | error failure =>
    -- without a session there are no answers, and everything stays as it was
    obtain ⟨hresult, hconnection⟩ := connect_of_notAcquired hgives hcreated hacquired
    rw [spared_of_isDriver (hraises.acquire hacquired)] at hresult
    have hbest : BestEffort driver pool s :=
      ⟨hresult, by rw [hconnection], .inl (by rw [hconnection]), .inl (by rw [hconnection])⟩
    have hnone : ¬ Slips driver pool s := by
      rintro ⟨session, hsession, -⟩
      cases hacquired.symm.trans hsession
    exact ⟨⟨fun _ => hnone, fun _ => hbest⟩, fun hslips => absurd hslips hnone⟩
  | ok session =>
    have hslips : Slips driver pool s ↔
        SessionSlips driver session (firstSession driver pool s).state := by
      constructor
      · rintro ⟨other, hother, hslips⟩
        obtain rfl := Except.ok.inj (hother.symm.trans hacquired)
        exact hslips
      · exact fun hslips => ⟨session, hacquired, hslips⟩
    obtain ⟨hresult, hconnection⟩ := connect_of_acquired hgives hcreated hacquired
    rw [hslips]
    obtain ⟨hslipped, failure, hfails, hdriver, hdatabase⟩ | ⟨hfits, hok, hknown⟩ :=
      interview_cases hraises session (firstSession driver pool s).state
    · rw [hfails, spared_of_not_isDriver hdriver] at hresult
      refine ⟨⟨fun hbest => ?_, fun hnot => absurd hslipped hnot⟩,
        fun _ => ⟨failure, hresult, hdriver, hdatabase⟩⟩
      cases hbest.result.symm.trans hresult
    · refine ⟨⟨fun _ => hfits, fun _ => ?_⟩, fun hslipped => absurd hslipped hfits⟩
      rw [hok] at hresult
      rw [← hconnection] at hknown
      exact ⟨hresult, hknown.pool,
        hknown.dbtype.imp id fun ⟨cell, hcell, hwhole⟩ => ⟨session, cell, hacquired, hcell, hwhole⟩,
        hknown.isSysdba.imp id fun ⟨cell, hcell, hcontent⟩ =>
          ⟨session, cell, hacquired, hcell, hcontent⟩⟩

/-! ### Answers of every kind -/

/-- A driver whose sessions answer both questions, each with a row of its own. -/
def answering (container role : List Cell) : Driver Unit where
  createPool _ := pure 0
  closePool _ := pure ()
  acquire _ := pure 0
  release _ := pure ()
  ping _ := pure ()
  callProcedure _ _ _ := pure ()
  execute _ statement _ :=
    pure { arrivals := [{ cells := if statement = containerQuery then container else role }] }
  closeCursor _ := pure ()

theorem givesBack_answering (container role : List Cell) : (answering container role).GivesBack :=
  ⟨fun _ _ => rfl, fun _ _ => rfl⟩

theorem raisesOwnErrors_answering (container role : List Cell) :
    (answering container role).RaisesOwnErrors := by
  refine ⟨fun h => ?_, fun h => ?_, fun h => ?_, fun h hending => ?_⟩
  · cases h
  · cases h
  · cases h
  · cases h
    cases hending

/-- A link that holds no pool yet. -/
def unconnected : Clocked (Link Unit) := ⟨0, (), { settings := { connectString := "db" } }⟩

/-- Two single cells are read as they are. -/
theorem bestEffort_iff_answered :
    let driver := answering [.value (.text "3")] [.value (.text "TRUE")]
    driver.GivesBack ∧ driver.RaisesOwnErrors ∧ (creation driver unconnected).result = .ok 0 ∧
      BestEffort driver 0 unconnected ∧
      (run (connect driver) unconnected).state.inner.connection.dbtype = 3 ∧
      (run (connect driver) unconnected).state.inner.connection.isSysdba = .text "TRUE" := by
  intro driver
  have hgives : driver.GivesBack := givesBack_answering _ _
  have hraises : driver.RaisesOwnErrors := raisesOwnErrors_answering _ _
  have hfits : ¬ Slips driver 0 unconnected := by
    rintro ⟨session, hsession, ⟨cell, hcell, negative, hinfinite⟩ | ⟨cells, hcells, hwidth⟩⟩
    · cases hcell
      obtain hinfinite | hinfinite := hinfinite <;> cases hinfinite
    · cases hsession
      have hrole : (run (askRole driver 0) (firstSession driver 0 unconnected).state).result =
          .ok (some [.value (.text "TRUE")]) := by
        decide +kernel
      cases hrole.symm.trans hcells
      exact hwidth rfl
  exact ⟨hgives, hraises, rfl, (bestEffort_iff hgives hraises rfl).1.mpr hfits,
    by decide +kernel, by decide +kernel⟩

/-- With a second cell beside the role, connecting fails although the pool was created. -/
theorem not_bestEffort_wideRole :
    let driver := answering [.value (.text "0")] [.value (.text "FALSE"), .value (.text "x")]
    driver.GivesBack ∧ driver.RaisesOwnErrors ∧ (creation driver unconnected).result = .ok 0 ∧
      (run (connect driver) unconnected).result = .error (.row (.width 2)) ∧
      ¬ BestEffort driver 0 unconnected := by
  intro driver
  have hfails : (run (connect driver) unconnected).result = .error (.row (.width 2)) := by
    decide +kernel
  refine ⟨givesBack_answering _ _, raisesOwnErrors_answering _ _, rfl, hfails, fun hbest => ?_⟩
  cases hbest.result.symm.trans hfails

end Link

end QueryMetrics
