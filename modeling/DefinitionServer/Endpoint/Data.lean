import DefinitionServer.Data.Basic
import DefinitionServer.Endpoint.Basic

/-!
# Endpoints as data

In settings an endpoint is a URL, or a table that names the transport and has the parts of the
endpoint as its entries. A list of the same in their order will do for the table.
-/
namespace DefinitionServer

/-- Why data is no endpoint. -/
inductive EndpointDataError where
  /-- The text is no URL of an endpoint. -/
  | url (e : EndpointError)
  /-- The data has neither form. -/
  | mismatch
deriving DecidableEq, Repr

/-- The wording of the error. -/
def EndpointDataError.message : EndpointDataError → Text
  | url e => e.message
  | mismatch => "data did not match any variant of untagged enum EndpointRepr".toList

/-- The ways to reach an endpoint. -/
inductive Transport where
  | unix
  | tcp
deriving DecidableEq, Repr

/-- The name of a transport. -/
def Transport.name : Transport → Text
  | unix => "unix".toList
  | tcp => "tcp".toList

/-- The transport that a tag names, by its name or its number. -/
def Transport.ofTag? : Data → Option Transport
  | .text t => [unix, tcp].find? (·.name = t)
  | .int n => if n = 0 then some unix else if n = 1 then some tcp else none
  | _ => none

namespace Endpoint

/-- The endpoint of a transport that has these parts, in this order. -/
def ofParts? : Transport → List Data → Option Endpoint
  | .unix, [path] => path.text?.map unix
  | .tcp, [host, port] => do return tcp (← host.text?) (← port.natTo? 65535)
  | _, _ => none

/-- The keys of the parts of an endpoint. -/
def partKeys : Transport → List Text
  | .unix => ["path".toList]
  | .tcp => ["host".toList, "port".toList]

/-- The key of the transport. -/
def tagKey : Text := "transport".toList

/-- Reads an endpoint from data. -/
def ofData : Data → Except EndpointDataError Endpoint
  | .text t => (parse t).mapError .url
  | .list (tag :: parts) =>
    match (Transport.ofTag? tag).bind (ofParts? · parts) with
    | some e => .ok e
    | none => .error .mismatch
  | d =>
    match (do
      let transport ← Transport.ofTag? (← d.get? tagKey)
      ofParts? transport (← (partKeys transport).mapM d.get?)) with
    | some e => .ok e
    | none => .error .mismatch

/-- The table of an endpoint. -/
def toData : Endpoint → Data
  | unix path => .table [(tagKey, .text Transport.unix.name), (("path".toList), .text path)]
  | tcp host port =>
    .table [(tagKey, .text Transport.tcp.name), ("host".toList, .text host),
      ("port".toList, .int port)]

end Endpoint
end DefinitionServer
