import Cellbook.CommandLine.Report
import Cellbook.Host.Files
import Cellbook.Script.Evaluator
import Cellbook.Server.Router
import Std.Async.Signal
import Std.Http.Server

/-!
# Listener

Takes requests from the network to the server, one at a time, and its answers back.  The engine
lives as long as the listener; the directories are read anew for every request.
-/

namespace Cellbook.Host

open Std.Async (Async ContextAsync)

/-- What is kept between requests. -/
structure Listener where
  settings : CommandLine.ServeSettings
  engine : Std.Mutex (Engine Script.Environment Script.Value)

/-- A request as it came from the network. -/
def receive (request : Std.Http.Request Std.Http.Body.Stream) :
    ContextAsync (Except Http.RequestFault Http.Request) := do
  let body : ByteArray ← request.body.readAll
  let headers := request.line.headers.toList.map fun header =>
    (toString header.1, Text.encode (toString header.2))
  return Http.Request.build (toString request.line.method) (toString request.line.uri) headers
    body.toList

/-- Answers a request, with the engine as it is left. -/
def Listener.answer (settings : CommandLine.ServeSettings)
    (engine : Engine Script.Environment Script.Value) (request : Http.Request) :
    IO (Engine Script.Environment Script.Value × Server.Response) := do
  let store ← readStore settings.dir
  let assets ← readStore settings.assets
  let service : Server.Service Script.Environment Script.Value DirectoryStore DirectoryStore :=
    ⟨engine, store, assets⟩
  let (service, response) := service.handle request
  match ← writeBack settings.dir store service.store with
  | .ok () => return (service.engine, response)
  | .error fault => return (service.engine, (Server.ServerFault.ofIo settings.dir fault).response)

/-- Octets as the network takes them. -/
def packed (octets : Bytes) : ByteArray := ⟨octets.toArray⟩

/-- The chunks of a response, and how many octets are announced, where that is known before they
are sent.  The body of an answer to a HEAD request is announced and not sent.  A body that a fault
breaks off is announced with an octet that never comes, so that the client sees it end too soon. -/
def framed (response : Server.Response) : List Bytes × Option Nat :=
  match response.body with
  | .whole octets =>
    ([octets], ((response.headers.lookup "content-length").bind String.toNat?).getD octets.length)
  | .streamed chunks none => (chunks, none)
  | .streamed chunks (some _) => (chunks, some (chunks.flatten.length + 1))

/-- Sends a response. -/
def deliver (response : Server.Response) :
    ContextAsync (Std.Http.Response Std.Http.Body.Any) := do
  let status := (Std.Http.Status.ofCode none response.status.toUInt16).getD .internalServerError
  let headers := response.headers.foldl (fun headers header => headers.insert! header.1 header.2)
    Std.Http.Headers.empty
  let (chunks, size) := framed response
  let stream ← Std.Http.Body.mkStream
  stream.setKnownSize (size.map .fixed)
  Std.Async.background <| do
    try
      for chunk in chunks do
        if !chunk.isEmpty then stream.send { data := packed chunk }
    finally
      stream.close
  return ((Std.Http.Response.withStatus status).headers headers).body stream

instance : Std.Http.Server.Handler Listener where
  onRequest listener request := do
    match ← receive request with
    | .error fault => deliver (.ofText 400 fault.message)
    | .ok request =>
      let response ← listener.engine.atomically do
        let (engine, response) ← Listener.answer listener.settings (← get) request
        set engine
        return response
      deliver response

/-- The network address of a host, which is written as an address. -/
def socketAddress? (settings : CommandLine.ServeSettings) : Option Std.Net.SocketAddress :=
  let bare := settings.host.toList.filter fun c => c != '[' && c != ']'
  let host := String.ofList (bare.takeWhile (· != '%'))
  let port := settings.port.toUInt16
  match Std.Net.IPv4Addr.ofString host, Std.Net.IPv6Addr.ofString host with
  | some address, _ => some (.v4 ⟨address, port⟩)
  | none, some address => some (.v6 ⟨address, port⟩)
  | none, none => none

/-- Listens until the program is interrupted. -/
def listen (settings : CommandLine.ServeSettings) : IO (Except IoFault Unit) := do
  let some address := socketAddress? settings
    | return .error ⟨.invalidInput, "Invalid address: " ++ settings.address⟩
  let engine ← Std.Mutex.new (Engine.new (Script.evaluator settings.maxOperations))
  attempt <| Async.block do
    let server ← Std.Http.Server.serve address (Listener.mk settings engine) { serverName := none }
    let interrupt ← Std.Async.Signal.Waiter.mk .sigint false
    let _ ← Std.Async.await (← interrupt.wait)
    server.shutdown

end Cellbook.Host
