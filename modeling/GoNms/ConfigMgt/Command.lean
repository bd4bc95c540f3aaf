import GoNms.Device.Registry
import GoNms.Mikrotik.Client

set_option autoImplicit false

/-! # Running a command on a registered device

`POST /config/execute` takes a device ID and a command. `ConfigService.ExecuteCommand` looks the
device up through the device service and runs the command with the fixed credentials `admin` and
`RexusBattlefire`, whatever credentials the device has: over the RouterOS API
(`MikrotikAdapter.RunCommandStructured`, whose result is the reply's attribute maps) when the
device's protocol is `mikrotik_api`, over SSH (`SSHAdapter.Execute`) otherwise.

Before running a command over the API, the adapter converts a CLI command to the API's path form:
a command with no `/` gets a leading `/` and its spaces as `/` after trimming, a command with a
`/` and a space but no `/ ` gets its spaces as `/`, and any other command is sent as it is. The
conversion is a normal form (`apiCommand_normal`): what it sends always has a `/`, has a space
only when it is the command itself (which then has a `/ `), and converting it again changes
nothing. It is not a CLI parser: `ip  address` becomes `/ip//address`.

The device table and the RouterOS and SSH endpoints are what the model takes as given. -/

namespace GoNms

open GoNms.Go GoNms.Mikrotik

/-! ## The API form of a command -/

/-- The CLI-to-API conversion `RunCommand` and `RunCommandStructured` apply to their command. -/
def apiCommand (command : String) : String :=
  if !contains command "/" then "/" ++ replaceAll (trimSpace command) ' ' "/"
  else if contains command " " && !contains command "/ " then replaceAll command ' ' "/"
  else command

theorem contains_slash_iff (s : String) : contains s "/" = true ↔ '/' ∈ s.data :=
  contains_singleton_iff s '/'

theorem contains_space_iff (s : String) : contains s " " = true ↔ ' ' ∈ s.data :=
  contains_singleton_iff s ' '

/-- Replacing the spaces by `/` leaves none, and has a `/` when the text had a `/` or a space. -/
theorem replaceAll_space_slash (s : String) :
    ' ' ∉ (replaceAll s ' ' "/").data ∧
      ('/' ∈ (replaceAll s ' ' "/").data ↔ '/' ∈ s.data ∨ ' ' ∈ s.data) := by
  simp only [mem_replaceAll]
  refine ⟨by simp, ?_⟩
  constructor
  · rintro (⟨-, h⟩ | ⟨h, -⟩) <;> simp [h]
  · rintro (h | h)
    · exact .inr ⟨h, by decide⟩
    · exact .inl ⟨List.mem_singleton_self _, h⟩

/-- A command with a `/` and no space is sent as it is. -/
theorem apiCommand_of_slash_of_no_space {command : String} (hs : '/' ∈ command.data)
    (hsp : ' ' ∉ command.data) : apiCommand command = command := by
  have h1 : contains command "/" = true := (contains_slash_iff _).mpr hs
  have h2 : contains command " " = false := by
    simpa only [Bool.not_eq_true] using mt (contains_space_iff _).mp hsp
  simp only [apiCommand, h1, h2, Bool.not_true, Bool.false_and, Bool.false_eq_true, if_false]

/-- What the conversion does to a command: it sends the command itself, which then has a `/` and
has a `/ ` if it has a space, or it sends a text with a `/` and no space. -/
theorem apiCommand_cases (command : String) :
    (apiCommand command = command ∧ '/' ∈ command.data ∧
        (' ' ∈ command.data → contains command "/ " = true)) ∨
      ('/' ∈ (apiCommand command).data ∧ ' ' ∉ (apiCommand command).data) := by
  unfold apiCommand
  split_ifs with hs hb
  · exact .inr ⟨by simp [String.data_append], by
      simpa [String.data_append] using (replaceAll_space_slash (trimSpace command)).1⟩
  · have hs' : '/' ∈ command.data := (contains_slash_iff _).mp (by simpa using hs)
    exact .inr ⟨(replaceAll_space_slash command).2.mpr (.inl hs'), (replaceAll_space_slash command).1⟩
  · refine .inl ⟨rfl, (contains_slash_iff _).mp (by simpa using hs), fun hsp => ?_⟩
    simpa [(contains_space_iff _).mpr hsp] using hb

/-- What the adapter sends always has a `/`; it has a space only when it is the command itself,
which then has a `/ `; and converting it again changes nothing. -/
theorem apiCommand_normal (command : String) :
    '/' ∈ (apiCommand command).data ∧
      (' ' ∈ (apiCommand command).data → apiCommand command = command ∧
        contains command "/ " = true) ∧
      apiCommand (apiCommand command) = apiCommand command := by
  rcases apiCommand_cases command with ⟨heq, hs, hsp⟩ | ⟨hs, hsp⟩
  · rw [heq]
    exact ⟨hs, fun h => ⟨rfl, hsp h⟩, heq⟩
  · exact ⟨hs, fun h => absurd h hsp, apiCommand_of_slash_of_no_space hs hsp⟩

example : apiCommand "system resource print" = "/system/resource/print" := by decide
example : apiCommand "/system resource print" = "/system/resource/print" := by decide
example : apiCommand "/ip/ address print" = "/ip/ address print" := by decide

/-! ## The adapters -/

/-- `MikrotikAdapter.RunCommandStructured`: the reply's attribute maps. -/
def runCommandStructured (dial : RouterOSDial) (ip username password command : String) :
    Except String (List (GoMap String String)) :=
  match dial (ip ++ ":8728") username password with
  | .error err => .error ("failed to dial mikrotik: " ++ err)
  | .ok c =>
      match c (apiCommand command) with
      | .error err => .error ("failed to run command: " ++ err)
      | .ok re => .ok re

end GoNms

namespace GoNms.ConfigMgt

open GoNms.Go GoNms.Mikrotik

/-! ## The SSH adapter -/

/-- An SSH session's `CombinedOutput(command)`: the output, and the error. -/
def SSHSession : Type := String → String × Option String

/-- `ssh.Dial("tcp", address, config)` with the user and password of the config, and the client's
`NewSession()`. -/
def SSHDial : Type := String → String → String → Except String (Except String SSHSession)

/-- `SSHAdapter.Execute`: the output, and the error. -/
def sshExecute (dial : SSHDial) (ip user password command : String) : String × Option String :=
  match dial (ip ++ ":22") user password with
  | .error err => ("", some ("failed to dial: " ++ err))
  | .ok (.error err) => ("", some ("failed to create session: " ++ err))
  | .ok (.ok session) =>
      match session command with
      | (output, some err) => (output, some ("failed to run command: " ++ err))
      | (output, none) => (output, none)

/-! ## The service and its handler -/

/-- What `ConfigService.ExecuteCommand` returns in its `interface{}`: the maps of a RouterOS reply
(`nil` when the adapter failed), or text. -/
inductive CommandOutput where
  | structured (maps : List (GoMap String String))
  | text (output : String)

/-- `configService.ExecuteCommand`, with the outcome of the device query: what it returns, and its
error. -/
def ConfigService.executeCommand (t : DeviceTable) (queryErr : Option String) (routeros : RouterOSDial)
    (ssh : SSHDial) (deviceID command : String) : CommandOutput × Option String :=
  match getDevice t deviceID queryErr with
  | .error err => (.text "", some ("device not found: " ++ err))
  | .ok device =>
      if device.protocol = "mikrotik_api" then
        match runCommandStructured routeros device.ipAddress "admin" "RexusBattlefire" command with
        | .error err => (.structured [], some err)
        | .ok maps => (.structured maps, none)
      else
        match sshExecute ssh device.ipAddress "admin" "RexusBattlefire" command with
        | (output, some err) => (.text output, some ("execution failed: " ++ err))
        | (output, none) => (.text output, none)

/-- `config_mgt.ExecuteCommandRequest`, as `ShouldBindJSON` decodes it. -/
structure ExecuteCommandRequest where
  deviceID : String
  command : String

/-- A response of `ConfigHandler.ExecuteCommand`: the status and the body's `error` and `output`. -/
structure ConfigResponse where
  status : ℕ
  error : Option String
  output : Option CommandOutput

/-- `ConfigHandler.ExecuteCommand`, on the outcome of `ShouldBindJSON`. -/
def ConfigHandler.executeCommand (t : DeviceTable) (queryErr : Option String) (routeros : RouterOSDial)
    (ssh : SSHDial) (req : Except String ExecuteCommandRequest) : ConfigResponse :=
  match req with
  | .error err => ⟨400, some err, none⟩
  | .ok req =>
      match ConfigService.executeCommand t queryErr routeros ssh req.deviceID req.command with
      | (output, some err) => ⟨500, some err, some output⟩
      | (output, none) => ⟨200, none, some output⟩

/-- Over the API, the device receives the command's API form, at its address, with the fixed
credentials; the device's own credentials are never read. -/
theorem ConfigService.executeCommand_mikrotik {t : DeviceTable} {queryErr : Option String}
    {deviceID : String} {device : DeviceRow} (hd : getDevice t deviceID queryErr = .ok device)
    (hp : device.protocol = "mikrotik_api") (routeros : RouterOSDial) (ssh : SSHDial)
    (command : String) :
    ConfigService.executeCommand t queryErr routeros ssh deviceID command =
      match routeros (device.ipAddress ++ ":8728") "admin" "RexusBattlefire" with
      | .error err => (.structured [], some ("failed to dial mikrotik: " ++ err))
      | .ok c =>
          match c (apiCommand command) with
          | .error err => (.structured [], some ("failed to run command: " ++ err))
          | .ok re => (.structured re, none) := by
  simp only [ConfigService.executeCommand, hd, hp, if_true, runCommandStructured]
  cases routeros (device.ipAddress ++ ":8728") "admin" "RexusBattlefire" with
  | error err => rfl
  | ok c => dsimp only; cases c (apiCommand command) <;> rfl

end GoNms.ConfigMgt
