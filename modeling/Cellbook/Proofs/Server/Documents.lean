import Cellbook.Proofs.Engine.Course
import Cellbook.Proofs.Notebook.Name
import Cellbook.Proofs.Server.Routing
import Cellbook.Store.Memory
import Mathlib.Logic.Function.Basic

/-!
# Documents over a history of requests

Documents are kept under sanitized names, so that many names may mean one document.  Whether a name
is a notebook's is asked before it is sanitized or after, and the name of a new notebook is looked
for only when a document is loaded; all the same, the requests agree on what is stored.

Of a history of requests, whatever else is asked in it, the documents see the edits that were done,
the saves and deletes that were answered with success.  The latest edit of a document says what a
load is answered (`Service.agrees_handleAll`).
-/

namespace Cellbook.Server

variable {ε ν τ : Type}

/-! ## Edits -/

/-- What a request may do to the documents, by the name that the client gives. -/
inductive Edit where
  | save (name : String) (content : Bytes)
  | delete (name : String)

namespace Edit

/-- The name of the document. -/
def key : Edit → String
  | .save name _ => sanitize name
  | .delete name => sanitize name

/-- What is there of the document afterwards. -/
def content? : Edit → Option Bytes
  | .save _ content => some content
  | .delete _ => none

end Edit

/-- The edit that a request asks for, whose name is read off its path or its body. -/
def edit? (request : Http.Request) : Option Edit :=
  if request.method = "POST" then
    match Route.ofPath? request.path with
    | some (.save name) => (decodeName? name).map fun name => .save name request.body
    | some .delete => (Json.decode Json.text request.body).toOption.map .delete
    | _ => none
  else none

/-- The edit that was done: the one asked for, if the answer is a success. -/
def editDone? (edit : Option Edit) (response : Response) : Option Edit :=
  if response.status = 200 then edit else none

/-- The edits that were done by requests and their answers. -/
def editsDone (log : List (Http.Request × Response)) : List Edit :=
  log.filterMap fun (request, response) => editDone? (edit? request) response

/-- The documents after edits: of each what its latest edit leaves, or else what there was. -/
def latest (documents : String → Option Bytes) (edits : List Edit) (key : String) : Option Bytes :=
  match edits.reverse.find? fun edit => edit.key == key with
  | some edit => edit.content?
  | none => documents key

section Latest

variable (documents : String → Option Bytes)

theorem latest_singleton (edit : Edit) :
    latest documents [edit] = Function.update documents edit.key edit.content? := by
  funext key
  rw [latest, List.reverse_singleton, List.find?_singleton]
  by_cases h : edit.key = key
  · subst h
    simp
  · simp [h, Function.update_of_ne (Ne.symm h)]

theorem latest_append (edits more : List Edit) :
    latest documents (edits ++ more) = latest (latest documents edits) more := by
  funext key
  simp only [latest, List.reverse_append, List.find?_append]
  cases more.reverse.find? fun edit => edit.key == key <;> rfl

end Latest

/-! ## Requests -/

/-- A document that is saved under a name. -/
def saveRequest (segment : Segment) (headers : List (String × Bytes)) (body : Bytes) :
    Http.Request :=
  ⟨"POST", Text.encode "/_save/" ++ segment.octets, headers, body⟩

/-- A document that is loaded under a name. -/
def loadRequest (segment : Segment) (headers : List (String × Bytes)) (body : Bytes) :
    Http.Request :=
  ⟨"GET", Text.encode "/_notebook/" ++ segment.octets, headers, body⟩

/-- A document that is deleted, whose name is in the body. -/
def deleteRequest (headers : List (String × Bytes)) (body : Bytes) : Http.Request :=
  ⟨"POST", Text.encode "/_delete", headers, body⟩

/-- What a load of a name finds.  A name without the ending of a notebook's finds nothing, and the
name of a new notebook a blank one, whatever is stored. -/
def loaded (documents : String → Option Bytes) (name : String) : Option Bytes :=
  if hasNotebookSuffix name then
    if sanitize name = newNotebookName then some (Text.encode Document.blank.toJson)
    else documents (sanitize name)
  else none

namespace Service

variable (service : Service ε ν MemoryStore τ)

/-! ## Handlers -/

/-- The service with other documents. -/
def withStore (store : MemoryStore) : Service ε ν MemoryStore τ := { service with store := store }

theorem save_of_unsuffixed {name : String} (h : hasNotebookSuffix name = false) (hasLength : Bool)
    (body : Bytes) :
    service.save name hasLength body =
      (service, .error (.core (.invalidName (sanitize name)))) := by
  have hname : NotebookId.ofName? (sanitize name) = none :=
    NotebookId.ofName?_eq_none ((hasNotebookSuffix_sanitize name).trans h)
  rw [save, hname]

theorem save_of_suffixed {name : String} (h : hasNotebookSuffix name = true) (hasLength : Bool)
    (body : Bytes) :
    service.save name hasLength body =
      if hasLength then (service.withStore (service.store.insert (sanitize name) body),
        .ok (.ofStatus 200))
      else (service, .error .missingContentLength) := by
  have hsanitized : hasNotebookSuffix (sanitize name) = true := by
    rw [hasNotebookSuffix_sanitize, h]
  rw [save, NotebookId.ofName?_eq_some hsanitized]
  cases hasLength <;> rfl

theorem delete_of_error {body : Bytes} {fault : Json.Fault}
    (h : Json.decode Json.text body = .error fault) :
    service.delete body = (service, .error (.json fault)) := by
  rw [delete, notebookName, h]

theorem delete_of_unsuffixed {body : Bytes} {name : String}
    (hname : Json.decode Json.text body = .ok name) (h : hasNotebookSuffix name = false) :
    service.delete body = (service, .error (.core (.invalidName name))) := by
  rw [delete, notebookName, hname]
  dsimp only
  rw [NotebookId.ofName?_eq_none h]

theorem delete_of_suffixed {body : Bytes} {name : String}
    (hname : Json.decode Json.text body = .ok name) (h : hasNotebookSuffix name = true) :
    service.delete body =
      if (service.store.get? (sanitize name)).isSome then
        (service.withStore (service.store.erase (sanitize name)), .ok (.ofStatus 200))
      else (service, .error (.notFound (sanitize name))) := by
  rw [delete, notebookName, hname]
  dsimp only
  rw [NotebookId.ofName?_eq_some h]
  dsimp only [FileStore.remove]
  split <;> rfl

/-- A load is answered with what it finds. -/
theorem loadNotebook_cases (name : String) :
    (∃ content, loaded service.store.get? name = some content ∧
        service.loadNotebook name = .ok (.ofContent jsonType content)) ∨
      loaded service.store.get? name = none ∧
        ∃ what, service.loadNotebook name = .error (.notFound what) := by
  rw [loadNotebook, loaded]
  cases hsuffix : hasNotebookSuffix name with
  | false => exact .inr ⟨rfl, name, rfl⟩
  | true =>
      simp only [Bool.not_true, Bool.false_eq_true, if_false, if_true]
      by_cases hnew : sanitize name = newNotebookName
      · exact .inl ⟨_, if_pos hnew, if_pos hnew⟩
      · rw [if_neg hnew, if_neg hnew]
        dsimp only [FileStore.read]
        cases hget : service.store.get? (sanitize name) with
        | some content => exact .inl ⟨content, rfl, rfl⟩
        | none => exact .inr ⟨rfl, sanitize name, rfl⟩

/-! ## What requests do -/

/-- How a request and its answer leave the documents: with its edit done if it is answered with
success, and else as they were. -/
def Keeps (edit : Option Edit) (next : Service ε ν MemoryStore τ × Response) : Prop :=
  next.1.store.get? = latest service.store.get? (editDone? edit next.2).toList

variable {service}

theorem keeps_none {next : Service ε ν MemoryStore τ × Response}
    (h : next.1.store = service.store) : service.Keeps none next := by
  rw [Keeps, editDone?, ite_self, h]
  rfl

theorem keeps_of_status_ne {edit : Option Edit} {next : Service ε ν MemoryStore τ × Response}
    (h : next.1.store = service.store) (hstatus : next.2.status ≠ 200) :
    service.Keeps edit next := by
  rw [Keeps, editDone?, if_neg hstatus, h]
  rfl

theorem keeps_of_done {edit : Edit} {next : Service ε ν MemoryStore τ × Response}
    (h : next.1.store.get? = Function.update service.store.get? edit.key edit.content?)
    (hstatus : next.2.status = 200) : service.Keeps (some edit) next := by
  rw [Keeps, editDone?, if_pos hstatus, h]
  exact (latest_singleton _ _).symm

variable (service)

/-- A fault changes nothing, whatever edit was asked for. -/
theorem keeps_fault (edit : Option Edit) (fault : ServerFault) :
    service.Keeps edit (service, fault.response) :=
  keeps_of_status_ne rfl fault.status_response_ne

/-- A body that is too large changes nothing. -/
theorem keeps_withBody {edit : Option Edit} {body : Bytes}
    {handler : Bytes → Service ε ν MemoryStore τ × Handled}
    (h : service.Keeps edit ((handler body).1, (handler body).2.response)) :
    service.Keeps edit (withBody service body handler) := by
  rw [withBody]
  split
  · have hstatus : bodyTooLarge.status ≠ 200 := by decide
    exact keeps_of_status_ne rfl hstatus
  · exact h

theorem store_withBody {body : Bytes} {handler : Bytes → Service ε ν MemoryStore τ × Handled}
    (h : (handler body).1.store = service.store) :
    (withBody service body handler).1.store = service.store := by
  rw [withBody]
  split
  · rfl
  · exact h

/-- Notebooks are stopped and cells run without the documents. -/
theorem store_stop (body : Bytes) : (service.stop body).1.store = service.store := by
  rw [stop]
  split <;> rfl

theorem store_runCell [Represent ν] (body : Bytes) :
    (service.runCell body).1.store = service.store := by
  rw [runCell]
  split
  · rfl
  · split <;> rfl

theorem keeps_save (name : String) (hasLength : Bool) (body : Bytes) :
    service.Keeps (some (.save name body))
      ((service.save name hasLength body).1, (service.save name hasLength body).2.response) := by
  cases hsuffix : hasNotebookSuffix name with
  | false =>
      rw [service.save_of_unsuffixed hsuffix]
      exact service.keeps_fault _ _
  | true =>
      rw [service.save_of_suffixed hsuffix]
      split
      · refine keeps_of_done ?_ rfl
        funext key
        exact (service.store.get?_insert _ _ key).trans (Function.update_apply ..).symm
      · exact service.keeps_fault _ _

theorem keeps_delete (body : Bytes) :
    service.Keeps ((Json.decode Json.text body).toOption.map .delete)
      ((service.delete body).1, (service.delete body).2.response) := by
  cases hname : Json.decode Json.text body with
  | error fault =>
      rw [service.delete_of_error hname]
      exact service.keeps_fault _ _
  | ok name =>
      cases hsuffix : hasNotebookSuffix name with
      | false =>
          rw [service.delete_of_unsuffixed hname hsuffix]
          exact service.keeps_fault _ _
      | true =>
          rw [service.delete_of_suffixed hname hsuffix]
          split
          · refine keeps_of_done ?_ rfl
            funext key
            exact (service.store.get?_erase _ key).trans (Function.update_apply ..).symm
          · exact service.keeps_fault _ _

variable [Represent ν] [FileStore τ]

theorem keeps_handleRoute (request : Http.Request) {route : Route}
    (h : Route.ofPath? request.path = some route) (hmethod : request.method ∈ route.methods) :
    service.Keeps (edit? request) (service.handleRoute request route) := by
  have hnone : ∀ {next : Service ε ν MemoryStore τ × Response},
      next.1.store = service.store →
        service.Keeps (if request.method = "POST" then none else none) next := by
    intro next hstore
    rw [ite_self]
    exact keeps_none hstore
  rw [edit?, h]
  cases route with
  | page | script | files => exact hnone rfl
  | notebook name =>
      refine hnone ?_
      rw [handleRoute]
      cases decodeName? name <;> rfl
  | delete =>
      have hpost : request.method = "POST" := List.mem_singleton.mp hmethod
      rw [if_pos hpost]
      exact service.keeps_withBody (service.keeps_delete request.body)
  | stop => exact hnone (service.store_withBody (service.store_stop request.body))
  | runCell => exact hnone (service.store_withBody (service.store_runCell request.body))
  | save name =>
      have hpost : request.method = "POST" := List.mem_singleton.mp hmethod
      rw [if_pos hpost, handleRoute]
      dsimp only
      cases decodeName? name with
      | none => exact keeps_none rfl
      | some name =>
          have hsave := service.keeps_save name (request.hasHeader "content-length") request.body
          exact service.keeps_withBody hsave

theorem keeps_handle (request : Http.Request) :
    service.Keeps (edit? request) (service.handle request) := by
  by_cases hoptions : request.method = "OPTIONS"
  · have hnone : edit? request = none := by
      rw [edit?, if_neg]
      rw [hoptions]
      decide
    rw [hnone, handle, if_pos hoptions]
    exact keeps_none rfl
  · rw [Keeps, editDone?, service.fst_handle hoptions, service.status_handle hoptions]
    change service.Keeps (edit? request) (service.dispatch request)
    rw [dispatch]
    cases hroute : Route.ofPath? request.path with
    | none => exact service.keeps_fault _ _
    | some route =>
        dsimp only
        split
        · next hmethod =>
            exact service.keeps_handleRoute request hroute (List.contains_iff_mem.mp hmethod)
        · have hstatus : 405 ≠ 200 := by decide
          exact keeps_of_status_ne rfl hstatus

/-- Answers requests one after another, and lists them with their answers. -/
def handleAll (service : Service ε ν MemoryStore τ) :
    List Http.Request → Service ε ν MemoryStore τ × List (Http.Request × Response)
  | [] => (service, [])
  | request :: requests =>
    let (next, response) := service.handle request
    let (last, log) := next.handleAll requests
    (last, (request, response) :: log)

/-- After a history the documents are as the edits leave them that were done. -/
theorem get?_handleAll (requests : List Http.Request) :
    (service.handleAll requests).1.store.get? =
      latest service.store.get? (editsDone (service.handleAll requests).2) := by
  induction requests generalizing service with
  | nil => rfl
  | cons request requests ih =>
      have hlog : editsDone (service.handleAll (request :: requests)).2 =
          (editDone? (edit? request) (service.handle request).2).toList ++
            editsDone ((service.handle request).1.handleAll requests).2 := by
        rw [handleAll, editsDone, List.filterMap_cons]
        dsimp only
        cases editDone? (edit? request) (service.handle request).2 <;> rfl
      rw [hlog, latest_append, ← service.keeps_handle request]
      exact ih _

/-! ## Agreement -/

/-- What a service answers about documents. -/
structure Agrees (documents : String → Option Bytes) : Prop where
  /-- A load is answered with what it finds, or as not found. -/
  load : ∀ (segment : Segment) (headers : List (String × Bytes)) (body : Bytes) (name : String),
    decodeName? segment.octets = some name →
      let response := (service.handle (loadRequest segment headers body)).2
      match loaded documents name with
      | some content => response.status = 200 ∧ response.body = .whole content
      | none => response.status = 404
  /-- A save is done if it comes with the length of the document.  A name without the ending of a
  notebook's is an error and changes nothing. -/
  save : ∀ (segment : Segment) (headers : List (String × Bytes)) (body : Bytes) (name : String),
    decodeName? segment.octets = some name → body.length ≤ bodyLimit →
      let request := saveRequest segment headers body
      let (next, response) := service.handle request
      if hasNotebookSuffix name then
        response.status = if request.hasHeader "content-length" then 200 else 500
      else response.status = 500 ∧ next.store = service.store
  /-- A delete is done if there is the document.  A name without the ending of a notebook's is an
  error and changes nothing. -/
  delete : ∀ (headers : List (String × Bytes)) (body : Bytes) (name : String),
    Json.decode Json.text body = .ok name → body.length ≤ bodyLimit →
      let (next, response) := service.handle (deleteRequest headers body)
      if hasNotebookSuffix name then
        response.status = if (documents (sanitize name)).isSome then 200 else 404
      else response.status = 500 ∧ next.store = service.store

/-- Loads, saves and deletes agree on the documents that are stored. -/
theorem agrees : service.Agrees service.store.get? where
  load segment headers body name hname := by
    have hroute := Route.ofPath?_notebook segment
    have hhandler : service.handleRoute (loadRequest segment headers body)
        (.notebook segment.octets) = (service, (service.loadNotebook name).response) := by
      rw [handleRoute, hname]
    have hmethod : (loadRequest segment headers body).method ∈
        (Route.notebook segment.octets).methods := List.mem_cons_self
    have hget : "GET" ≠ "HEAD" := by decide
    dsimp only
    rw [service.status_handle_of_route hroute hmethod,
      service.body_handle_of_route hroute hmethod hget, hhandler]
    obtain ⟨content, hloaded, hload⟩ | ⟨hloaded, what, hload⟩ := service.loadNotebook_cases name
    · rw [hloaded, hload]
      exact ⟨rfl, rfl⟩
    · rw [hloaded, hload]
      rfl
  save segment headers body name hname hbody := by
    have hroute := Route.ofPath?_save segment
    have hmethod : (saveRequest segment headers body).method ∈
        (Route.save segment.octets).methods := List.mem_cons_self
    have hhandler : service.handleRoute (saveRequest segment headers body)
        (.save segment.octets) =
          let saved := service.save name
            ((saveRequest segment headers body).hasHeader "content-length") body
          (saved.1, saved.2.response) := by
      rw [handleRoute, hname]
      exact withBody_of_le hbody (service.save name _)
    dsimp only at hhandler ⊢
    rw [service.status_handle_of_route hroute hmethod,
      service.fst_handle_of_route hroute hmethod, hhandler]
    cases hsuffix : hasNotebookSuffix name with
    | false =>
        rw [service.save_of_unsuffixed hsuffix]
        exact ⟨rfl, rfl⟩
    | true =>
        rw [service.save_of_suffixed hsuffix]
        dsimp only
        cases (saveRequest segment headers body).hasHeader "content-length" <;> rfl
  delete headers body name hname hbody := by
    have hmethod : (deleteRequest headers body).method ∈ Route.delete.methods := List.mem_cons_self
    have hhandler : service.handleRoute (deleteRequest headers body) .delete =
        ((service.delete body).1, (service.delete body).2.response) :=
      withBody_of_le hbody service.delete
    dsimp only
    rw [service.status_handle_of_route Route.ofPath?_delete hmethod,
      service.fst_handle_of_route Route.ofPath?_delete hmethod, hhandler]
    cases hsuffix : hasNotebookSuffix name with
    | false =>
        rw [service.delete_of_unsuffixed hname hsuffix]
        exact ⟨rfl, rfl⟩
    | true =>
        rw [service.delete_of_suffixed hname hsuffix]
        dsimp only
        cases (service.store.get? (sanitize name)).isSome <;> rfl

/-- After any history of requests, loads, saves and deletes agree on the documents: they are what
the edits of the history that were done leave of those that the service began with. -/
theorem agrees_handleAll (requests : List Http.Request) :
    (service.handleAll requests).1.Agrees
      (latest service.store.get? (editsDone (service.handleAll requests).2)) := by
  rw [← service.get?_handleAll requests]
  exact agrees _

/-- A document is saved under a name with an encoded space and found under one with a plus. -/
theorem agrees_handleAll_alias :
    let service : Service Nat String MemoryStore MemoryStore := ⟨.new Evaluator.echo, .empty, .empty⟩
    let spaced : Segment := ⟨Text.encode "a%20b.unb", by decide, by decide⟩
    let joined : Segment := ⟨Text.encode "a+b.unb", by decide, by decide⟩
    let saved := saveRequest spaced [("content-length", Text.encode "2")] (Text.encode "[]")
    let response := ((service.handleAll [saved]).1.handle (loadRequest joined [] [])).2
    response.status = 200 ∧ response.body = .whole (Text.encode "[]") := by
  intro service spaced joined saved response
  have hfound : loaded (latest service.store.get? (editsDone (service.handleAll [saved]).2))
      "a+b.unb" = some (Text.encode "[]") := rfl
  have hload := (service.agrees_handleAll [saved]).load joined [] [] "a+b.unb" rfl
  rw [hfound] at hload
  exact hload

end Service

end Cellbook.Server
