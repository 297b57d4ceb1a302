import DefinitionServer.Data.Numeral
import DefinitionServer.Endpoint.Data
import DefinitionServer.Log.Format
import DefinitionServer.Protocol.Source

/-!
# Configuration

What the server and its client are configured with, and how that is read from settings data.

## Main definitions

* `Config`: a complete configuration.
* `Config.toData`, `Config.ofData?`: a configuration as a table of settings, and back.
-/
namespace DefinitionServer

/-- The settings of the server and its client. -/
structure Config where
  /-- Where the server listens and the client connects. -/
  endpoint : Endpoint
  logFilter : Text
  logFormat : Log.Format
  endTag : Text
  maxBlockBytes : Nat
deriving DecidableEq, Repr

namespace Config

/-- The settings by name. -/
inductive Setting where
  | endpoint
  | logFilter
  | logFormat
  | endTag
  | maxBlockBytes
deriving DecidableEq, Repr

/-- The settings in their order. -/
def Setting.all : List Setting := [endpoint, logFilter, logFormat, endTag, maxBlockBytes]

/-- The key of a setting in a table. -/
def Setting.key : Setting → Text
  | endpoint => "daemon_socket".toList
  | logFilter => "log_filter".toList
  | logFormat => "log_format".toList
  | endTag => "end_tag".toList
  | maxBlockBytes => "max_block_bytes".toList

/-- The table of a configuration. -/
def toData (c : Config) : Data := .table [
  (Setting.endpoint.key, c.endpoint.toData),
  (Setting.logFilter.key, .text c.logFilter),
  (Setting.logFormat.key, .text c.logFormat.name),
  (Setting.endTag.key, .text c.endTag),
  (Setting.maxBlockBytes.key, .int c.maxBlockBytes)]

/-- The configuration of a table. Every setting must have data of its kind, and other keys are
passed over. -/
def ofData? (d : Data) : Option Config := do
  let endpoint ← (Endpoint.ofData (← d.get? Setting.endpoint.key)).toOption
  let logFilter ← (← d.get? Setting.logFilter.key).text?
  let logFormat ← Log.Format.ofData? (← d.get? Setting.logFormat.key)
  let endTag ← (← d.get? Setting.endTag.key).text?
  let maxBlockBytes ← (← d.get? Setting.maxBlockBytes.key).natTo? Numeral.maxSize
  return { endpoint, logFilter, logFormat, endTag, maxBlockBytes }

/-- How requests are framed and limited. -/
def protocol (c : Config) : Protocol := ⟨c.endTag, c.maxBlockBytes⟩

end Config
end DefinitionServer
