import RecordTables.Server.Session

/-! Plans of statements: all are sent if none fails, and otherwise those up to the first that does. -/

namespace RecordTables

/-- A statement of a plan, the operation it is for, and the failure that an error becomes. -/
structure Step where
  operation : String
  failure : StoreFault → Failure
  command : Command
  place : Place
  placed : command.place? = some place

/-- The entries that statements leave in a log. -/
def Step.log (steps : List Step) : List LogEntry := steps.map fun step => step.command.logEntry

namespace Server

/-- The server with one more statement in its log. -/
def record (server : Server) (command : Command) : Server :=
  { server with log := server.log ++ [command.logEntry] }

/-- The server after a statement that does not fail. -/
def accept (server : Server) (step : Step) : Server :=
  ((server.record step.command).perform (.affected 0) step.command).2

/-- What the server answers to a statement that does not fail. -/
def answer (server : Server) (step : Step) : Reply :=
  ((server.record step.command).perform (.affected 0) step.command).1

/-- The mishap that a script has for a statement of a plan is the first one at its place. -/
theorem mishap?_step (script : Script) (step : Step) :
    mishap? script step.command =
      (script.find? fun entry => entry.1 == step.place).map fun entry => entry.2 := by
  rw [mishap?, step.placed, Option.bind_some]

/-- A statement that does not fail goes into the log. -/
theorem accept_log (server : Server) (step : Step) :
    (server.accept step).log = server.log ++ [step.command.logEntry] := by
  -- Only a data statement could go another way, and no plan has one.
  obtain ⟨operation, failure, command, place, placed⟩ := step
  cases command with
  | data sql params => simp [Command.place?] at placed
  | _ => rfl

/-- A statement does not cut the link. -/
theorem accept_link (server : Server) (step : Step) : (server.accept step).link = server.link := by
  -- Only a data statement could go another way, and no plan has one.
  obtain ⟨operation, failure, command, place, placed⟩ := step
  cases command with
  | data sql params => simp [Command.place?] at placed
  | _ => rfl

/-- Only the statements at the ends of a transaction open and close it. -/
theorem accept_saved (server : Server) {step : Step} (opened : step.place ≠ .begin)
    (closed : step.place ≠ .commit) : (server.accept step).saved = server.saved := by
  -- Apart from the two ends of a transaction no statement touches what was saved.
  obtain ⟨operation, failure, command, place, placed⟩ := step
  cases command with
  | begin => exact absurd (Option.some.inj placed).symm opened
  | commit => exact absurd (Option.some.inj placed).symm closed
  | data sql params => simp [Command.place?] at placed
  | _ => rfl

/-- The server after statements of which none fails. -/
def acceptAll (server : Server) (steps : List Step) : Server := steps.foldl accept server

/-- Statements follow each other. -/
theorem acceptAll_append (server : Server) (first second : List Step) :
    server.acceptAll (first ++ second) = (server.acceptAll first).acceptAll second :=
  List.foldl_append

/-- Statements of which none fails go into the log one after the other. -/
theorem acceptAll_log (server : Server) (steps : List Step) :
    (server.acceptAll steps).log = server.log ++ Step.log steps := by
  -- Each statement adds its own entry behind those before it.
  induction steps generalizing server with
  | nil => exact (List.append_nil _).symm
  | cons step rest ih =>
    calc ((server.accept step).acceptAll rest).log
        = (server.accept step).log ++ Step.log rest := ih _
      _ = server.log ++ Step.log (step :: rest) := by
        rw [accept_log, List.append_assoc]
        rfl

/-- Statements do not cut the link. -/
theorem acceptAll_link (server : Server) (steps : List Step) :
    (server.acceptAll steps).link = server.link := by
  -- Each statement leaves the link as it is.
  induction steps generalizing server with
  | nil => rfl
  | cons step rest ih => exact (ih _).trans (accept_link server step)

/-- The statements inside a transaction leave it open. -/
theorem acceptAll_saved (server : Server) {steps : List Step}
    (inside : ∀ step ∈ steps, step.place ≠ .begin ∧ step.place ≠ .commit) :
    (server.acceptAll steps).saved = server.saved := by
  -- Each statement leaves what was saved as it is.
  induction steps generalizing server with
  | nil => rfl
  | cons step rest ih =>
    obtain ⟨⟨opened, closed⟩, later⟩ := List.forall_mem_cons.mp inside
    exact (ih _ later).trans (accept_saved server opened closed)

end Server

namespace Session

/-- Of three calls in a row it does not matter which two are taken together. -/
theorem andThen_assoc {α β γ : Type} (first : Session α) (second : α → Session β)
    (third : β → Session γ) :
    (first.andThen second).andThen third = first.andThen fun value => (second value).andThen third := by
  -- The first call alone decides whether anything follows.
  funext server
  unfold andThen
  cases first server with
  | mk outcome after => cases outcome <;> rfl

/-- Calls that agree after every result of the first one agree behind it. -/
theorem andThen_congr {α β : Type} {first : Session α} {second third : α → Session β}
    {server : Server}
    (agree : ∀ value after, first server = (.done value, after) → second value after = third value after) :
    first.andThen second server = first.andThen third server := by
  -- Without a result of the first call neither of the others is made.
  unfold andThen
  cases made : first server with
  | mk outcome after =>
    cases outcome with
    | done value => exact agree value after made
    | failed failure => rfl
    | stuck => rfl

/-- What comes after calls that agree on a server agrees on it. -/
theorem andThen_congr_left {α β : Type} {first other : Session α} {server : Server}
    (agree : first server = other server) (next : α → Session β) :
    first.andThen next server = other.andThen next server := by
  unfold andThen
  rw [agree]

/-- Calls that agree on a server agree on it also if they give up what they leave open. -/
theorem rollbackOpen_congr {α : Type} {call other : Session α} {server : Server}
    (agree : call server = other server) :
    rollbackOpen call server = rollbackOpen other server := by
  unfold rollbackOpen
  rw [agree]

/-- A call behind another is done only if both are, the second one on the server that the first has left. -/
theorem andThen_done {α β : Type} {first : Session α} {second : α → Session β} {server after : Server}
    {value : β} (done : first.andThen second server = (.done value, after)) :
    ∃ found between, first server = (.done found, between) ∧
      second found between = (.done value, after) := by
  -- A failure of the first call, or its getting stuck, would be that of both.
  unfold andThen at done
  rcases ran : first server with ⟨found | failure | _, between⟩ <;> rw [ran] at done
  · exact ⟨found, between, rfl, done⟩
  · cases done
  · cases done

/-- A call is done with what it leaves open given up exactly as it is done by itself. -/
theorem rollbackOpen_done {α : Type} {call : Session α} {server after : Server} {value : α}
    (done : rollbackOpen call server = (.done value, after)) :
    ∃ last, call server = (.done value, last) ∧ after = last.rollback := by
  -- To give up changes the server alone, and not what the call has come to.
  rcases ran : call server with ⟨outcome, last⟩
  unfold rollbackOpen at done
  rw [ran] at done
  cases done
  exact ⟨last, rfl, rfl⟩

/-- Sends the statements of a plan in order, up to the first that fails. -/
def carryOut (conditions : Conditions) : List Step → Session Unit
  | [] => result ()
  | step :: rest =>
    (send conditions step.operation step.failure step.command).andThen fun _ =>
      carryOut conditions rest

/-- Whether nothing goes wrong with a statement. -/
def Spared (script : Script) (step : Step) : Prop := Server.mishap? script step.command = none

/-- How a call ends that a mishap with a statement cuts short. -/
def ending {α : Type} (conditions : Conditions) (step : Step) : Mishap → Outcome α
  | .error text => .failed (step.failure (.database text))
  | .hang =>
    if conditions.table.timeout.isSome then
      .failed (.timeout step.operation conditions.table.name)
    else .stuck

/-- A mishap leaves a call without a result. -/
theorem ending_ne_done {α : Type} (conditions : Conditions) (step : Step) (mishap : Mishap)
    (value : α) : ending conditions step mishap ≠ .done value := by
  -- An error is a failure, and a statement that never ends is a failure or stuck.
  unfold ending
  cases mishap with
  | error text => exact fun impossible => nomatch impossible
  | hang =>
    cases conditions.table.timeout.isSome <;> exact fun impossible => nomatch impossible

/-- Nothing comes after a call that a mishap has cut short. -/
theorem andThen_ending {α β : Type} {first : Session α} {conditions : Conditions} {step : Step}
    {mishap : Mishap} {server after : Server}
    (cut : first server = (ending conditions step mishap, after)) (second : α → Session β) :
    first.andThen second server = (ending conditions step mishap, after) := by
  -- A failure and being stuck are both passed on.
  unfold andThen
  rw [cut]
  cases mishap with
  | error text => rfl
  | hang =>
    -- With a limit the call fails, and without one it is stuck.
    unfold ending
    cases conditions.table.timeout.isSome <;> rfl

/-- Statements are spared exactly when the script names the place of none of them. -/
theorem spared_iff (script : Script) (steps : List Step) :
    (∀ step ∈ steps, Spared script step) ↔
      ∀ entry ∈ script, ∀ step ∈ steps, entry.1 ≠ step.place := by
  -- A mishap is found for a statement exactly when an entry of the script is in its place.
  simp only [Spared, Server.mishap?_step, Option.map_eq_none_iff, List.find?_eq_none, beq_iff_eq]
  exact ⟨fun spared entry scripted step planned => spared step planned entry scripted,
    fun apart step planned entry scripted => apart entry scripted step planned⟩

/-- A statement that is spared has its answer. -/
theorem send_spared {conditions : Conditions} {server : Server} {step : Step}
    (reachable : server.link = .reachable) (spared : Spared conditions.script step) :
    send conditions step.operation step.failure step.command server =
      (.done (server.answer step), server.accept step) := by
  -- The server carries out what no mishap stops.
  obtain ⟨operation, failure, command, place, placed⟩ := step
  obtain ⟨link, catalog, saved, log⟩ := server
  cases reachable
  simp only [Spared] at spared
  unfold send Server.send
  simp only [spared]
  -- Of the answers to a statement of a plan none is a fault.
  cases command with
  | data sql params => simp [Command.place?] at placed
  | _ => rfl

/-- A statement with a mishap is logged and ends the call. -/
theorem send_mishap {conditions : Conditions} {server : Server} {step : Step} {mishap : Mishap}
    (reachable : server.link = .reachable)
    (found : Server.mishap? conditions.script step.command = some mishap) :
    send conditions step.operation step.failure step.command server =
      (ending conditions step mishap, server.record step.command) := by
  -- The statement is logged before anything goes wrong with it.
  obtain ⟨link, catalog, saved, log⟩ := server
  cases reachable
  unfold send Server.send
  simp only [found]
  cases mishap with
  | error text => rfl
  | hang =>
    simp only [ending]
    split <;> rfl

/-- A plan whose statements are all spared is carried out. -/
theorem carryOut_spared {conditions : Conditions} {server : Server} {steps : List Step}
    (reachable : server.link = .reachable)
    (spared : ∀ step ∈ steps, Spared conditions.script step) :
    carryOut conditions steps server = (.done (), server.acceptAll steps) := by
  -- The induction follows the plan, with the server that each statement leaves.
  induction steps generalizing server with
  | nil => rfl
  | cons step rest ih =>
    obtain ⟨head, tail⟩ := List.forall_mem_cons.mp spared
    have linked := (Server.accept_link server step).trans reachable
    simp only [carryOut, andThen, send_spared reachable head]
    exact ih linked tail

/-- A plan ends with the first mishap; the statements behind it are never sent. -/
theorem carryOut_mishap {conditions : Conditions} {server : Server} {before behind : List Step}
    {step : Step} {mishap : Mishap} (reachable : server.link = .reachable)
    (spared : ∀ step ∈ before, Spared conditions.script step)
    (found : Server.mishap? conditions.script step.command = some mishap) :
    carryOut conditions (before ++ step :: behind) server =
      (ending conditions step mishap, (server.acceptAll before).record step.command) := by
  -- The induction is on the statements before the mishap, all of which are done.
  induction before generalizing server with
  | nil =>
    exact andThen_ending (send_mishap reachable found) _
  | cons first rest ih =>
    obtain ⟨head, tail⟩ := List.forall_mem_cons.mp spared
    have linked := (Server.accept_link server first).trans reachable
    simp only [List.cons_append, carryOut, andThen, send_spared reachable head]
    exact ih linked tail

/-- What comes after a plan comes after all but its first statement, behind that one. -/
theorem carryOut_cons_andThen {α : Type} (conditions : Conditions) (step : Step) (rest : List Step)
    (next : Unit → Session α) :
    (carryOut conditions (step :: rest)).andThen next =
      (send conditions step.operation step.failure step.command).andThen fun _ =>
        (carryOut conditions rest).andThen next := by
  rw [carryOut, andThen_assoc]

/-- Two plans in a row are one plan. -/
theorem carryOut_append (conditions : Conditions) (first second : List Step) :
    carryOut conditions (first ++ second) =
      (carryOut conditions first).andThen fun _ => carryOut conditions second := by
  -- The statements of the first plan come first, one by one.
  induction first with
  | nil => rfl
  | cons step rest ih =>
    rw [List.cons_append, carryOut, ih, carryOut, andThen_assoc]

/-- What agrees behind the answer to a statement agrees behind the statement. -/
theorem send_andThen_congr {α : Type} {conditions : Conditions} {server : Server} (step : Step)
    {next other : Reply → Session α} (reachable : server.link = .reachable)
    (agree : next (server.answer step) (server.accept step) =
      other (server.answer step) (server.accept step)) :
    (send conditions step.operation step.failure step.command).andThen next server =
      (send conditions step.operation step.failure step.command).andThen other server := by
  refine andThen_congr ?_
  intro reply after sent
  -- A statement with an answer was spared, so the answer and the server are known.
  cases found : Server.mishap? conditions.script step.command with
  | none =>
    rw [send_spared reachable found] at sent
    cases sent
    exact agree
  | some mishap =>
    rw [send_mishap reachable found] at sent
    exact absurd (Prod.mk.inj sent).1 (ending_ne_done conditions step mishap reply)

/-- Either all statements are spared, or there is a first with a mishap. -/
theorem spared_or_mishap (script : Script) (steps : List Step) :
    (∀ step ∈ steps, Spared script step) ∨
      ∃ before step behind mishap, steps = before ++ step :: behind ∧
        (∀ step ∈ before, Spared script step) ∧
        Server.mishap? script step.command = some mishap := by
  -- The first statement has a mishap, or the first mishap is among the others.
  induction steps with
  | nil => exact Or.inl fun _ impossible => absurd impossible List.not_mem_nil
  | cons step rest ih =>
    cases found : Server.mishap? script step.command with
    | some mishap =>
      exact Or.inr ⟨[], step, rest, mishap, rfl,
        fun _ impossible => absurd impossible List.not_mem_nil, found⟩
    | none =>
      rcases ih with spared | ⟨before, cut, behind, mishap, rfl, spared, found'⟩
      · exact Or.inl (List.forall_mem_cons.mpr ⟨found, spared⟩)
      · exact Or.inr ⟨step :: before, cut, behind, mishap, rfl,
          List.forall_mem_cons.mpr ⟨found, spared⟩, found'⟩

/-- A plan that was carried out was spared altogether. -/
theorem carryOut_done {conditions : Conditions} {server after : Server} {steps : List Step}
    {value : Unit} (reachable : server.link = .reachable)
    (done : carryOut conditions steps server = (.done value, after)) :
    after = server.acceptAll steps := by
  -- A plan with a mishap would not have been done.
  rcases spared_or_mishap conditions.script steps with
    spared | ⟨before, step, behind, mishap, rfl, spared, found⟩
  · rw [carryOut_spared reachable spared] at done
    exact (Prod.mk.inj done).2.symm
  · rw [carryOut_mishap reachable spared found] at done
    exact absurd (Prod.mk.inj done).1 (ending_ne_done conditions step mishap value)

end Session

end RecordTables
