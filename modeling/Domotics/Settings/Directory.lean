import Domotics.Settings.Document
import Domotics.Text.Utf8
/-!
# The place of the settings

Settings are kept in the file `config.toml` of a directory of their own. `load` reads them and
returns the initial ones if there is nothing readable. `save` writes a temporary file first and
then renames it, so what was there before stays whole until all of the new file is written. The
system may refuse any step of it (`saveAmid`).
-/

namespace Domotics

/-- What a name in a directory stands for. -/
inductive DirectoryEntry where
  | file (content : List UInt8)
  | directory
deriving DecidableEq

/-- The state of the place where settings are kept. -/
inductive SettingsDirectory where
  | missing
  /-- Its name stands for a plain file. -/
  | blocked
  /-- The directory is there, with its file of settings and the temporary one. -/
  | present (config temporary : Option DirectoryEntry)
deriving DecidableEq

namespace SettingsDirectory

/-- The settings in the bytes of a file. -/
def readSettings? (content : List UInt8) : Option Settings := do
  let text ← (Text.ofBytes content).toOption
  Settings.ofEntries? (← Toml.read? text)

/-- The file of settings. -/
def config? : SettingsDirectory → Option DirectoryEntry
  | present config _ => config
  | missing | blocked => none

/-- The temporary file. -/
def temporary? : SettingsDirectory → Option DirectoryEntry
  | present _ temporary => temporary
  | missing | blocked => none

/-- The settings that are kept, or the initial ones if none can be read. -/
def load (place : SettingsDirectory) : Settings :=
  match place.config? with
  | some (.file content) => (readSettings? content).getD .initial
  | some .directory | none => .initial

/-- Creates the directory if it is not there yet. -/
def create : SettingsDirectory → Except Error SettingsDirectory
  | missing => .ok (present none none)
  | blocked => .error (.config "Failed to create config dir: File exists (os error 17)")
  | present config temporary => .ok (present config temporary)

/-- What a file of saved settings begins with. -/
def header : String :=
  "# OHAP Client Configuration\n# Written by ohapc\n\n"

/-- What the system refuses while settings are saved, with the reason it gives. -/
structure Trouble where
  /-- The directory cannot be created. -/
  create : Option String := none
  /-- The temporary file cannot be written to its end, and this is what stands there then. -/
  write : Option (String × Option DirectoryEntry) := none
  /-- The temporary file cannot be renamed. -/
  rename : Option String := none

/-- Saves settings as far as the system lets it. -/
def saveAmid (trouble : Trouble) (place : SettingsDirectory) (settings : Settings) :
    Except Error Unit × SettingsDirectory :=
  match trouble.create, place.create with
  | some reason, _ => (.error (.config s!"Failed to create config dir: {reason}"), place)
  | none, .error e => (.error e, place)
  | none, .ok created =>
    match settings.sections? with
    | none =>
      (.error (.config "Failed to serialize settings: out-of-range value for u64 type"), created)
    | some sections =>
      let written := DirectoryEntry.file (Text.bytes (header ++ Toml.documentText sections))
      match trouble.write, created.temporary? with
      | some (reason, left), _ =>
        (.error (.config s!"Failed to write temp file: {reason}"), present created.config? left)
      | none, some .directory =>
        (.error (.config "Failed to write temp file: Is a directory (os error 21)"), created)
      | none, _ =>
        match trouble.rename, created.config? with
        | some reason, config =>
          (.error (.config s!"Failed to rename temp file: {reason}"),
            present config (some written))
        | none, some .directory =>
          (.error (.config "Failed to rename temp file: Is a directory (os error 21)"),
            present (some .directory) (some written))
        | none, _ => (.ok (), present (some written) none)

/-- Saves settings. -/
def save (place : SettingsDirectory) (settings : Settings) :
    Except Error Unit × SettingsDirectory :=
  saveAmid {} place settings

/-- The file that tells a user what can be set. -/
def commented : String :=
  "# OHAP Client Configuration

[server]
url = \"http://127.0.0.1:18000/\"   # scheme://host:port/ of the central unit
auto_connect = true               # listen to the root container on start

[login]
username = \"\"
password = \"\"

[connection]
connect_timeout_ms = 5000
read_timeout_ms = 5000            # a quiet read is not an error, just a poll tick
retry_delay_ms = 5000
ping_interval_secs = 0            # 0 = no keep-alive pings

[behavior]
listen_all = false                # listen to every container once announced
"

/-- Writes the commented file unless something is there already. -/
def init (place : SettingsDirectory) : Except Error Unit × SettingsDirectory :=
  match place.create with
  | .error e => (.error e, place)
  | .ok created =>
    match created.config? with
    | some _ => (.ok (), created)
    | none => (.ok (), present (some (.file (Text.bytes commented))) created.temporary?)

end SettingsDirectory

end Domotics
