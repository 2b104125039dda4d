import Cellbook.Engine.Engine
import Cellbook.Http.Percent
import Cellbook.Http.Request
import Cellbook.Server.Message
import Cellbook.Server.Page
import Cellbook.Server.Queue
import Cellbook.Store.Basic

/-!
# Handlers

What the server does for each route.  The documents of notebooks are kept in a store under
sanitized names; their environments are kept by the engine under the names that clients send.

A cell that is run is answered as it goes.  Its first item decides: a fault before any chunk is an
error, and all else is a stream, which a fault breaks off.
-/

namespace Cellbook.Server

/-- The service: the engine, the documents, and the assets of the user interface. -/
structure Service (ε ν σ τ : Type) where
  engine : Engine ε ν
  store : σ
  assets : τ

variable {ε ν σ τ : Type}

/-- What a handler comes to. -/
abbrev Handled := Except ServerFault Response

/-- A name that a body gives as a JSON text. -/
def notebookName (body : Bytes) : Except ServerFault NotebookId :=
  match Json.decode Json.text body with
  | .error fault => .error (.json fault)
  | .ok name =>
    match NotebookId.ofName? name with
    | some id => .ok id
    | none => .error (.core (.invalidName name))

/-- The content type of JSON. -/
def jsonType : String := "application/json"

namespace Service

/-- The page of the user interface. -/
def getPage : Response := .ofContent "text/html; charset=utf-8" (Text.encode page)

/-- The script of the user interface, compressed if there is a compressed one. -/
def getScript [FileStore τ] (service : Service ε ν σ τ) : Handled :=
  let compressed := FileStore.exists? service.assets compressedScriptAsset
  let name := if compressed then compressedScriptAsset else scriptAsset
  match FileStore.read service.assets name with
  | .error fault => .error (.ofIo name fault)
  | .ok octets =>
    let response : Response := .ofContent "text/javascript" octets
    .ok (if compressed then response.withHeaders [("content-encoding", "gzip")] else response)

/-- Removes the document that the body names. -/
def delete [FileStore σ] (service : Service ε ν σ τ) (body : Bytes) : Service ε ν σ τ × Handled :=
  match notebookName body with
  | .error fault => (service, .error fault)
  | .ok id =>
    let name := sanitize id.name
    let (store, outcome) := FileStore.remove service.store name
    ({ service with store := store },
      match outcome with
      | .ok () => .ok (.ofStatus 200)
      | .error fault => .error (.ofIo name fault))

/-- Discards the environment that the body names. -/
def stop (service : Service ε ν σ τ) (body : Bytes) : Service ε ν σ τ × Handled :=
  match notebookName body with
  | .error fault => (service, .error fault)
  | .ok id => ({ service with engine := (service.engine.stop id.name).1 }, .ok (.ofStatus 200))

/-- The chunks before the first fault of a queue, and that fault. -/
def streamOf : List QueueItem → List Bytes × Option ServerFault
  | [] => ([], none)
  | .failure fault :: _ => ([], some fault)
  | .chunk octets :: rest =>
    let (chunks, failure) := streamOf rest
    (octets :: chunks, failure)

/-- The answer to a cell, by the items of its queue. -/
def respond (items : List QueueItem) : Handled :=
  match items with
  | .failure fault :: _ => .error fault
  | items =>
    let (chunks, failure) := streamOf items
    .ok ⟨200, [("content-type", jsonType)], .streamed chunks failure⟩

/-- The queue that a cell leaves when its client takes all it sends. -/
def runIntoQueue [Represent ν] (engine : Engine ε ν) (id : NotebookId) (source : String) :
    Engine ε ν × Queue :=
  let (engine, queue, outcome) := engine.run Queue.channel id source {}
  match outcome with
  | .ok () => (engine, queue)
  | .error fault => (engine, queue.fail (.core fault))

/-- Runs the cell that the body describes. -/
def runCell [Represent ν] (service : Service ε ν σ τ) (body : Bytes) : Service ε ν σ τ × Handled :=
  match RunCellRequest.decode body with
  | .error fault => (service, .error (.json fault))
  | .ok request =>
    match NotebookId.ofName? request.name with
    | none => (service, .error (.core (.invalidName request.name)))
    | some id =>
      let (engine, queue) := runIntoQueue service.engine id request.text
      ({ service with engine := engine }, respond queue.items)

/-- Stores a document under a name. -/
def save [FileStore σ] (service : Service ε ν σ τ) (raw : String) (hasLength : Bool)
    (body : Bytes) : Service ε ν σ τ × Handled :=
  let name := sanitize raw
  match NotebookId.ofName? name with
  | none => (service, .error (.core (.invalidName name)))
  | some id =>
    if !hasLength then (service, .error .missingContentLength)
    else
      let (store, outcome) := FileStore.write service.store id.name body
      ({ service with store := store },
        match outcome with
        | .ok () => .ok (.ofStatus 200)
        | .error fault => .error (.ofIo id.name fault))

/-- The entry of a document in the listing. -/
def entryOf [FileStore σ] (service : Service ε ν σ τ) (name : String) :
    Except ServerFault FileEntry :=
  match FileStore.size service.store name with
  | .error fault => .error (.ofIo name fault)
  | .ok size => .ok ⟨name, service.engine.isRunning name, size⟩

/-- The entries of all documents, by name. -/
def entries [FileStore σ] (service : Service ε ν σ τ) : Except ServerFault (List FileEntry) :=
  match FileStore.list service.store with
  | .error fault => .error (.ofIo "" fault)
  | .ok names =>
    ((names.filter hasNotebookSuffix).mapM service.entryOf).map fun entries =>
      entries.mergeSort fun a b => !decide (b.name < a.name)

/-- The listing of all documents. -/
def listFiles [FileStore σ] (service : Service ε ν σ τ) : Handled :=
  service.entries.map fun entries =>
    .ofContent jsonType (Text.encode (Json.writeList (entries.map FileEntry.toJson)))

/-- The document of a name; the name of a new notebook stands for a blank one. -/
def loadNotebook [FileStore σ] (service : Service ε ν σ τ) (raw : String) : Handled :=
  if !hasNotebookSuffix raw then .error (.notFound raw)
  else
    let name := sanitize raw
    if name = newNotebookName then .ok (.ofContent jsonType (Text.encode Document.blank.toJson))
    else
      match FileStore.read service.store name with
      | .error fault => .error (.ofIo name fault)
      | .ok octets => .ok (.ofContent jsonType octets)

end Service

end Cellbook.Server
