import Domotics.Activity
import Domotics.Json
import Domotics.Message.Basic
import Domotics.Text.Blank
import Domotics.Tree.Basic
/-!
# Reports

Without a screen the client reports what happens as lines of JSON: one object for each report,
whose first member says what kind of report it is.
-/

namespace Domotics

/-- Something that happened. -/
inductive Report where
  | status (activity : Activity)
  | message (message : Message)
  | treeEvent (event : TreeEvent)
  | protocolError (text : String)
  | error (text : String) (fatal : Bool)
  /-- The tree as it is at the end. -/
  | tree (rendered : String)

namespace Report

/-- The kind of a report. -/
def label : Report → String
  | status _ => "status"
  | message _ => "message"
  | treeEvent event => event.label
  | protocolError _ => "protocol_error"
  | error _ _ => "error"
  | tree _ => "tree"

/-- What a report says besides its kind. -/
def members : Report → List (String × JsonValue)
  | status activity => [("status", .string activity.text)]
  | message m => [("message_type", .string m.kind.name), ("summary", .string m.summary)]
  | treeEvent (.itemAdded parent id) | treeEvent (.itemRemoved parent id) =>
    [("parent", .integer parent.toInt), ("id", .integer id.toInt)]
  | treeEvent (.itemChanged id) => [("id", .integer id.toInt)]
  | treeEvent (.listeningChanged id listening) =>
    [("id", .integer id.toInt), ("listening", .boolean listening)]
  | protocolError text => [("message", .string text)]
  | error text fatal => [("message", .string text), ("fatal", .boolean fatal)]
  | tree rendered => [("lines", .strings (Text.lines rendered))]

/-- A report as a line, with further members at its end. -/
def line (report : Report) (more : List (String × JsonValue)) : String :=
  JsonValue.objectText (("event", .string report.label) :: report.members ++ more)

end Report

end Domotics
