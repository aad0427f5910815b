import OneFs.Proofs.Config.Spelling
import OneFs.Proofs.Volume.Address

/-!
# Clients and their configurations

A client comes about for a configuration in several ways, on some of which the cluster is asked for
its version. On each of them it keeps the settings of the configuration.

- `Client.IsFor`: the clients for a configuration, whatever is answered on the way;
- `Client.IsFor.of_ofConfig`, `Client.IsFor.exists_connection`: they are the connection for it, in
  some version;
- `Client.IsFor.settings_eq`: what they have of it;
- `localClient`: a client whose volumes are in a directory of one's choice.
-/

namespace OneFs

open Http Exchange

/-- A client comes about for a configuration that is given, or for that of an environment. -/
inductive Client.IsFor (config : Config) (c : Client) : Prop where
  | opened {σ : Type} (opening : Opening) (answer : σ → Request → Delivery × σ) (s : σ)
      (made : ((opening.client config).run answer s).result = .ok c)
  | loaded {σ : Type} (env : String → Option String) (loads : Config.ofEnvironment env = .ok config)
      (answer : σ → Request → Delivery × σ) (s : σ)
      (made : ((Client.ofEnvironment env).run answer s).result = .ok c)

namespace Client.IsFor

variable {config : Config} {c : Client}

/-- Of every connection for the configuration a client can be made. -/
theorem of_ofConfig {api : Connection} (configured : Connection.ofConfig config = .ok api) :
    Client.IsFor config ⟨api⟩ := by
  refine .opened .configured (replies .closed) [] ?_
  show ((Exchange.ofExcept (Client.ofConfig config)).run (replies .closed) []).result = .ok ⟨api⟩
  unfold Client.ofConfig
  rw [configured]
  rfl

/-- It is the connection for the configuration, in some version. -/
theorem exists_connection (made : c.IsFor config) :
    ∃ api version, Connection.ofConfig config = .ok api ∧ c = Client.inVersion api version := by
  have opened : ∃ (σ : Type) (opening : Opening) (answer : σ → Request → Delivery × σ) (s : σ),
      ((opening.client config).run answer s).result = .ok c := by
    cases made with
    | opened opening answer s made => exact ⟨_, opening, answer, s, made⟩
    | loaded env loads answer s made =>
      rw [Client.ofEnvironment_eq loads] at made
      exact ⟨_, .connected, answer, s, made⟩
  obtain ⟨σ, opening, answer, s, result⟩ := opened
  rw [opening.client_eq] at result
  obtain ⟨api, configured, later, -⟩ := of_bind_ok result
  rw [← bind_pure_comp] at later
  obtain ⟨version, -, settled, -⟩ := of_bind_ok later
  refine ⟨api, version, ?_, (Except.ok.inj settled).symm⟩
  cases connection : Connection.ofConfig config with
  | error f =>
    rw [connection] at configured
    cases configured
  | ok api' =>
    rw [connection] at configured
    exact configured

/-- It has the settings of the configuration: the directory of the volumes, the user, and the group
unless that is empty. -/
theorem settings_eq (made : c.IsFor config) :
    c.api.volumesPath = config.directory ∧ c.api.username = config.username ∧
      c.api.group = config.owningGroup := by
  obtain ⟨api, version, configured, rfl⟩ := made.exists_connection
  obtain ⟨-, rfl⟩ := Connection.eq_of_ofConfig configured
  exact ⟨rfl, rfl, rfl⟩

theorem volumesPath_eq (made : c.IsFor config) : c.api.volumesPath = config.directory :=
  made.settings_eq.1

theorem username_eq (made : c.IsFor config) : c.api.username = config.username :=
  made.settings_eq.2.1

theorem group_eq (made : c.IsFor config) : c.api.group = config.owningGroup :=
  made.settings_eq.2.2

end Client.IsFor

/-! ## A client -/

/-- A host that is written as a number, with a path of the volumes. -/
def localConfig (path : String) : Config :=
  (Config.new "http://[::1]:8080/" "admin" "secret").withVolumesPath path

/-- The client for it, which does not ask for the version. -/
def localClient (path : String) : Client :=
  ⟨{ localConnection with volumesPath := volumesDirectory path }⟩

theorem isFor_localClient (path : String) : (localClient path).IsFor (localConfig path) := by
  have valid : (localConfig path).validate = .ok () := rfl
  have endpoint : trimmedEndpoint (localConfig path).endpoint = localConnection.endpoint := by
    show trimmedEndpoint "http://[::1]:8080/" = "http://[::1]:8080"
    rfl
  unfold trimmedEndpoint at endpoint
  refine .of_ofConfig ?_
  unfold Connection.ofConfig
  rw [valid, endpoint]
  rfl

end OneFs
