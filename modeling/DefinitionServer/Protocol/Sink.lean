import DefinitionServer.Protocol.Source

/-!
# The outgoing stream

What the server has written to a client. Each write hands over bytes and then flushes; either
part may begin to fail. A write that fails may have handed over the beginning of its bytes.
-/
namespace DefinitionServer

/-- The stream to a client. -/
structure Sink where
  /-- What each flush sent, in order. -/
  sent : List Bytes := []
  /-- What was handed over since the last flush. -/
  unflushed : Bytes := []
  /-- What was to be handed over, in order, also in vain. -/
  attempts : List Bytes := []
  /-- Handing over more than so many bytes fails. -/
  writeBreakdown : Option Breakdown := none
  /-- After so many flushes every flush fails. -/
  flushBreakdown : Option Breakdown := none
deriving DecidableEq, Repr

namespace Sink

/-- All bytes handed over, in order. -/
def accepted (k : Sink) : Bytes := k.sent.flatten ++ k.unflushed

/-- Hands over bytes. -/
def write (data : Bytes) (k : Sink) : Except RequestError Unit × Sink :=
  match k.writeBreakdown with
  | none =>
    (.ok (), { k with attempts := k.attempts ++ [data], unflushed := k.unflushed ++ data })
  | some b =>
    let left := { b with after := b.after - data.length }
    (if b.after < data.length then .error (.transport b.reason) else .ok (),
      { k with attempts := k.attempts ++ [data], unflushed := k.unflushed ++ data.take b.after,
               writeBreakdown := some left })

/-- Sends what was handed over. -/
def flush (k : Sink) : Except RequestError Unit × Sink :=
  match k.flushBreakdown with
  | some ⟨0, reason⟩ => (.error (.transport reason), k)
  | some ⟨n + 1, reason⟩ =>
    (.ok (), { k with sent := k.sent ++ [k.unflushed], unflushed := [],
                      flushBreakdown := some ⟨n, reason⟩ })
  | none => (.ok (), { k with sent := k.sent ++ [k.unflushed], unflushed := [] })

/-- Hands over bytes and sends them. -/
def send (data : Bytes) (k : Sink) : Except RequestError Unit × Sink :=
  match k.write data with
  | (.ok (), k) => k.flush
  | (.error e, k) => (.error e, k)

/-- The line that closes a response, with the line feed before it. -/
def marker (p : Protocol) : Text := '\n' :: (p.endTag ++ ['\n'])

/-- Sends a response in two writes, the body and the marker. -/
def respond (p : Protocol) (body : Text) (k : Sink) : Except RequestError Unit × Sink :=
  match k.send (Text.Utf8.encode body) with
  | (.ok (), k) => k.send (Text.Utf8.encode (marker p))
  | (.error e, k) => (.error e, k)

/-- The body of the response to a request that failed. -/
def errorBody (e : RequestError) : Text := "error: ".toList ++ e.message

end Sink
end DefinitionServer
