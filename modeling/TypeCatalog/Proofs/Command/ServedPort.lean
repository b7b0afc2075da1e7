import TypeCatalog.Command.Run
import TypeCatalog.Proofs.Settings.LoadFailure

namespace TypeCatalog

/-!
# The port that is served

Whichever source sets the port in a configuration, it is checked when the configuration is loaded.
A port from the command line takes its place afterwards, and nothing looks at it again.
-/

/-- Whether a number is the number of a port. -/
def IsPort (port : Int) : Prop :=
  0 ≤ port ∧ port ≤ ServerSettings.greatestPort

instance (port : Int) : Decidable (IsPort port) :=
  inferInstanceAs (Decidable (_ ∧ _))

/-- Whether a run fails, or starts a server that has the number of a port if it listens at all. -/
def Outcome.FailsOrServesAtPort : Outcome → Prop
  | .served server => server.transport = .http → IsPort server.port
  | outcome => outcome.exitCode ≠ 0

/-- A configuration that was loaded is valid, whatever it was loaded from. -/
theorem Settings.isValid_of_load
    {files : FileTree}
    {assignments : List (String × String)}
    {globalPath? : Option FilePath}
    {root : FilePath}
    {overrides : List (Key × Value)}
    {configuration : Configuration}
    (loaded : load files assignments globalPath? root overrides = .ok configuration) :
    configuration.IsValid :=
  let ⟨_, _, passed⟩ := ofEntries_of_load loaded
  Configuration.isValid_of_ofEntries passed

namespace Surroundings

variable {around : Surroundings} {arguments : List String} {request : ServeRequest}

/-- A command line that asks for the server starts it. -/
theorem run_of_serve
    (isServe : Request.ofArguments around.files arguments = .ok (.serve request)) :
    around.run arguments = around.serve request := by
  have someArguments : arguments.isEmpty = false := by
    cases arguments with
    | nil => cases isServe
    | cons => rfl
  rw [run, someArguments, isServe]
  rfl

private theorem exitCode_outcomeOf (failure : Failure) : (outcomeOf failure).exitCode = 1 := by
  cases failure <;> rfl

/-- A request for the server fails, or starts one with what was loaded and what was given. -/
theorem serve_fails_or_serves
    (around : Surroundings)
    (request : ServeRequest) :
    (around.serve request).exitCode = 1 ∨
      ∃ loaded, around.configuration request.root? = .ok loaded ∧
        around.serve request = .served (around.serverConfiguration request loaded).server := by
  unfold serve
  cases isLoaded : around.configuration request.root? with
  | error failure =>
      exact .inl (exitCode_outcomeOf failure)
  | ok loaded =>
      dsimp only
      cases (around.serverConfiguration request loaded).logging.openIn around.files with
      | error crash =>
          exact .inl rfl
      | ok opened =>
          dsimp only
          split
          · exact .inl rfl
          · exact .inr ⟨loaded, rfl, rfl⟩

/-- The server that is started was loaded with the number of a port, and a given port is taken
instead. -/
theorem port_of_serve
    {server : ServerSettings}
    (isServed : around.serve request = .served server) :
    ∃ configured, IsPort configured ∧ server.port = request.port?.getD configured := by
  rcases serve_fails_or_serves around request with fails | ⟨loaded, isLoaded, serves⟩
  · rw [isServed] at fails
    cases fails
  · cases isServed.symm.trans serves
    exact ⟨loaded.server.port, (Settings.isValid_of_load isLoaded).port_bounds, rfl⟩

/-- Serving fails, or listens at a port, unless what is given for the port on the command line is
not the number of one. -/
theorem failsOrServesAtPort_run_iff
    (isServe : Request.ofArguments around.files arguments = .ok (.serve request)) :
    (around.run arguments).FailsOrServesAtPort ↔
      ∀ server port, around.run arguments = .served server → server.transport = .http →
        request.port? = some port → IsPort port := by
  rw [run_of_serve isServe]
  rcases serve_fails_or_serves around request with fails | ⟨loaded, -, serves⟩
  · have notServed : ∀ server, around.serve request ≠ .served server := by
      intro server isServed
      rw [isServed] at fails
      cases fails
    refine iff_of_true ?_ fun server _ isServed => absurd isServed (notServed server)
    cases outcome : around.serve request with
    | served server => exact absurd outcome (notServed server)
    | _ =>
        rw [outcome] at fails
        simp only [Outcome.FailsOrServesAtPort, fails]
        decide
  · obtain ⟨configured, isPort, portIs⟩ := port_of_serve serves
    rw [serves]
    constructor
    · intro atPort server port isServer listens isGiven
      cases isServer
      have served := atPort listens
      rwa [portIs, isGiven] at served
    · intro givenPorts listens
      rw [portIs]
      cases isGiven : request.port? with
      | none => exact isPort
      | some port => exact givenPorts _ port rfl listens isGiven

/-- A server over the network at a port that is given. -/
theorem failsOrServesAtPort_run_of_given_port :
    let around : Surroundings := ⟨.empty (.ofText "/work") (.ofText "/home"), [], .zero false, "1"⟩
    (around.run ["serve", "--transport", "http", "--port", "9123"]).FailsOrServesAtPort := by
  intro around
  refine (@failsOrServesAtPort_run_iff around _ ⟨none, some .http, none, some 9123, [], false⟩
    rfl).mpr ?_
  rintro server port - - ⟨rfl⟩
  decide

/-- No port has the number 70000, but a server is started there. -/
theorem not_failsOrServesAtPort_run_of_great_port :
    let around : Surroundings := ⟨.empty (.ofText "/work") (.ofText "/home"), [], .zero false, "1"⟩
    ¬ (around.run ["serve", "--transport", "http", "--port", "70000"]).FailsOrServesAtPort := by
  intro around
  have served :
      (match around.run ["serve", "--transport", "http", "--port", "70000"] with
        | .served server => some server
        | _ => none) = some ⟨.http, "127.0.0.1", 70000⟩ := by
    decide +kernel
  split at served
  · next isServed =>
      rw [isServed, Option.some.inj served]
      intro atPort
      exact absurd (atPort rfl) (by decide)
  · cases served

end Surroundings

end TypeCatalog
