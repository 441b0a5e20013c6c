import RecordTables.Server.Session

/-! What a call adds to the log of a server: its statements, as far as they arrive. -/

namespace RecordTables

/-- What a statement adds to the log of a server: itself, if it arrives. -/
def Server.arriving (server : Server) (command : Command) : List LogEntry :=
  match server.link with
  | .reachable => [command.logEntry]
  | .unreachable _ => []

/-- Nothing but the statement itself arrives. -/
theorem Server.eq_of_mem_arriving {server : Server} {command : Command} {entry : LogEntry}
    (member : entry ∈ server.arriving command) : entry = command.logEntry := by
  -- One statement arrives at most.
  unfold arriving at member
  cases linked : server.link with
  | reachable => simpa [linked] using member
  | unreachable reason => simp [linked] at member

/-- To give up a transaction takes nothing out of the log. -/
theorem Server.rollback_log (server : Server) : server.rollback.log = server.log := by
  -- The log is no part of the catalog that comes back.
  unfold rollback
  cases server.saved <;> rfl

namespace Session

variable {α β : Type} {server : Server} {entry : LogEntry}

/-- The entries that a call adds to the log of a server. -/
def sent (call : Session α) (server : Server) : List LogEntry :=
  (call server).2.log.drop server.log.length

/-- Carrying out a statement logs nothing more than its sending does. -/
theorem perform_log (server : Server) (reply : DataReply) (command : Command) :
    (server.perform reply command).2.log = server.log := by
  -- Only a data statement has replies of several kinds, and no reply is logged.
  cases command with
  | data sql params => cases reply <;> rfl
  | _ => rfl

/-- Sending a statement logs that statement if it arrives. -/
theorem send_log (conditions : Conditions) (operation : String) (failure : StoreFault → Failure)
    (command : Command) (server : Server) :
    (send conditions operation failure command server).2.log =
      server.log ++ server.arriving command := by
  -- A statement that arrives is logged whatever becomes of it.
  have same : (send conditions operation failure command server).2 =
      (server.send conditions.script conditions.reply command).2 := by
    unfold send
    split
    · rename_i sent
      rw [sent]
    · rename_i sent
      split <;> rw [sent]
    · rename_i sent
      rw [sent]
  -- A statement arrives exactly on a server that can be reached.
  rw [same]
  unfold Server.send Server.arriving
  cases server.link with
  | unreachable reason => exact (List.append_nil _).symm
  | reachable =>
    dsimp only
    split
    · rfl
    · rfl
    · exact perform_log _ _ _

/-- A statement that is answered has arrived. -/
theorem send_done_log {conditions : Conditions} {operation : String} {failure : StoreFault → Failure}
    {command : Command} {after : Server} {answer : Reply}
    (done : send conditions operation failure command server = (.done answer, after)) :
    after.log = server.log ++ [command.logEntry] := by
  have log := send_log conditions operation failure command server
  rw [done] at log
  cases linked : server.link with
  | unreachable reason =>
    -- What never arrives fails.
    simp only [send, Server.send, linked] at done
    cases done
  | reachable => simpa only [Server.arriving, linked] using log

/-- A call that is made of a result adds what comes behind the result. -/
theorem sent_ofExcept_andThen {built : Except Failure α} {next : α → Session β}
    (member : entry ∈ ((ofExcept built).andThen next).sent server) :
    ∃ value, built = .ok value ∧ entry ∈ (next value).sent server := by
  -- If the first part is refused nothing is sent.
  cases built with
  | error failure => simp [sent, andThen, ofExcept, fail] at member
  | ok value => exact ⟨value, rfl, member⟩

/-- A statement with nothing sent behind it is all that a call adds. -/
theorem sent_send_andThen (conditions : Conditions) (operation : String)
    (failure : StoreFault → Failure) (command : Command) {next : Reply → Session β}
    (quiet : ∀ answer server, (next answer server).2 = server) (server : Server) :
    ((send conditions operation failure command).andThen next).sent server =
      server.arriving command := by
  -- Whatever comes behind the statement, the server stays as the statement has left it.
  have same : ((send conditions operation failure command).andThen next server).2 =
      (send conditions operation failure command server).2 := by
    unfold andThen
    cases send conditions operation failure command server with
    | mk outcome after =>
      cases outcome with
      | done answer => exact quiet answer after
      | failed failure => rfl
      | stuck => rfl
  unfold sent
  rw [same, send_log, List.drop_left]

/-- A call adds only entries of some kind to the log, whatever server it is made on. -/
def LogsOnly (allowed : LogEntry → Prop) (call : Session α) : Prop :=
  ∀ server, ∃ entries, (call server).2.log = server.log ++ entries ∧ ∀ entry ∈ entries, allowed entry

section LogsOnly

variable {allowed : LogEntry → Prop}

/-- What a call adds is of the kind that it only adds. -/
theorem LogsOnly.sent {call : Session α} (logs : call.LogsOnly allowed)
    (member : entry ∈ call.sent server) : allowed entry := by
  -- What was sent is what the log has more than before.
  obtain ⟨entries, log, each⟩ := logs server
  unfold Session.sent at member
  rw [log, List.drop_left] at member
  exact each entry member

/-- A call that sends nothing adds nothing. -/
theorem logsOnly_result (value : α) : (result value).LogsOnly allowed := fun _ =>
  ⟨[], (List.append_nil _).symm, fun _ impossible => absurd impossible List.not_mem_nil⟩

/-- What is known beforehand adds nothing, even if it fails. -/
theorem logsOnly_ofExcept (built : Except Failure α) : (ofExcept built).LogsOnly allowed := by
  -- Nothing is sent to find an outcome that is there already.
  intro server
  refine ⟨[], ?_, fun _ impossible => absurd impossible List.not_mem_nil⟩
  cases built <;> exact (List.append_nil _).symm

/-- A statement adds at most its own entry. -/
theorem logsOnly_send (conditions : Conditions) (operation : String) (failure : StoreFault → Failure)
    {command : Command} (kind : allowed command.logEntry) :
    (send conditions operation failure command).LogsOnly allowed := by
  -- One statement arrives at most, and it is the one that was sent.
  intro server
  refine ⟨_, send_log conditions operation failure command server, fun entry member => ?_⟩
  exact Server.eq_of_mem_arriving member ▸ kind

/-- A call after another adds its entries behind those of the first one. -/
theorem LogsOnly.andThen {first : Session α} {second : α → Session β} (logs : first.LogsOnly allowed)
    (next : ∀ value, (second value).LogsOnly allowed) : (first.andThen second).LogsOnly allowed := by
  -- The second call only runs on a result of the first one, and otherwise adds nothing.
  intro server
  obtain ⟨entries, log, each⟩ := logs server
  unfold Session.andThen
  rcases ran : first server with ⟨value | failure | _, after⟩ <;> rw [ran] at log
  · obtain ⟨others, later, rest⟩ := next value after
    refine ⟨entries ++ others, ?_, List.forall_mem_append.mpr ⟨each, rest⟩⟩
    rw [later, log, List.append_assoc]
  · exact ⟨entries, log, each⟩
  · exact ⟨entries, log, each⟩

/-- Giving up a transaction adds nothing. -/
theorem LogsOnly.rollbackOpen {call : Session α} (logs : call.LogsOnly allowed) :
    (rollbackOpen call).LogsOnly allowed := by
  -- To give up adds no entry.
  intro server
  obtain ⟨entries, log, each⟩ := logs server
  exact ⟨entries, (Server.rollback_log (call server).2).trans log, each⟩

end LogsOnly

end Session

end RecordTables
