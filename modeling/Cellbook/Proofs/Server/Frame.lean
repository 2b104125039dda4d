import Cellbook.Proofs.Engine.History
import Cellbook.Proofs.Notebook.Name
import Cellbook.Proofs.Server.Routing
import Cellbook.Proofs.Store.Laws

/-!
# What a request may change

Documents and environments are kept apart, so a request touches one document, or one environment, or
nothing.  Which it is can be read off the request alone (`target?`), and what it leaves as it was is
the frame of the request (`Service.Framed`).

The frames of environments are those of the two steps in which a cell is run, a lookup and an
execution (`Engine.OnlyAt`), so they hold for a cell that runs while other requests are answered.
-/

namespace Cellbook

open FileStore (view)

variable {ε ν σ τ : Type}

/-! ## Environments -/

namespace Engine

/-- From `before` to `after` nothing but the environment of one notebook changes. -/
structure OnlyAt (name : String) (before after : Engine ε ν) : Prop where
  evaluator : after.evaluator = before.evaluator
  find?_eq : ∀ other ≠ name, after.registry.find? other = before.registry.find? other
  environment?_eq : ∀ other ≠ name, after.environment? other = before.environment? other

namespace OnlyAt

theorem trans {name : String} {before between after : Engine ε ν} (h : OnlyAt name before between)
    (hnext : OnlyAt name between after) : OnlyAt name before after where
  evaluator := hnext.evaluator.trans h.evaluator
  find?_eq other hne := (hnext.find?_eq other hne).trans (h.find?_eq other hne)
  environment?_eq other hne := (hnext.environment?_eq other hne).trans (h.environment?_eq other hne)

theorem stop (engine : Engine ε ν) (name : String) : OnlyAt name engine (engine.stop name).1 where
  evaluator := rfl
  find?_eq other hne := (engine.registry.find?_remove name other).trans (if_neg hne)
  environment?_eq other hne := by rw [environment?_stop, Function.update_of_ne hne]

theorem lookUp (engine : Engine ε ν) (id : NotebookId) :
    OnlyAt id.name engine (engine.lookUp id).1 where
  evaluator := rfl
  find?_eq other hne := (engine.find?_lookUp id other).trans (if_neg hne)
  environment?_eq other hne := by rw [environment?_lookUp, Function.update_of_ne hne]

/-- An execution changes no notebook but the one whose handle it has, if there is one. -/
theorem setEnvironment (engine : Engine ε ν) {name : String} {handle : Handle}
    (h : ∀ other, engine.registry.find? other = some handle → other = name) (environment : ε) :
    OnlyAt name engine (engine.setEnvironment handle environment) where
  evaluator := rfl
  find?_eq _ _ := rfl
  environment?_eq other hne := by
    rw [environment?, environment?, find?_setEnvironment]
    refine Option.map_congr fun held hheld => ?_
    have hnumber : handle.number ≠ held.number := by
      intro hnumber
      have hsame : held = handle := congrArg Handle.mk hnumber.symm
      exact hne (h other (hsame ▸ hheld))
    rw [Engine.setEnvironment, Engine.environment, Registry.set, Registry.get?,
      List.getElem?_set_ne hnumber]
    rfl

/-- A cell that is run changes no environment but that of its notebook. -/
theorem run [Represent ν] (engine : Engine ε ν) (channel : Channel σ) (id : NotebookId)
    (source : String) (state : σ) :
    OnlyAt id.name engine (engine.run channel id source state).1 := by
  have hself : (engine.lookUp id).1.registry.find? id.name = some (engine.lookUp id).2 :=
    (engine.find?_lookUp id id.name).trans (if_pos rfl)
  rw [run_eq]
  exact (lookUp engine id).trans
    (setEnvironment _ (fun other hother => Registry.eq_of_find? hother hself) _)

end OnlyAt

end Engine

namespace Server

/-! ## Targets -/

/-- What a request may change: the document kept under a name, or the environment of a notebook. -/
inductive Target where
  | document (key : String)
  | environment (name : String)

/-- The notebook that a body names as a JSON text. -/
def bodyId? (body : Bytes) : Option NotebookId :=
  (Json.decode Json.text body).toOption.bind NotebookId.ofName?

/-- The notebook of which a body says to run a cell. -/
def cellId? (body : Bytes) : Option NotebookId :=
  (RunCellRequest.decode body).toOption.bind fun request => NotebookId.ofName? request.name

/-- What a request may change by its route: nothing if its body or its name cannot be read, if the
name has not the ending of a notebook's, or if a document comes without its length. -/
def routeTarget? (request : Http.Request) : Route → Option Target
  | .page | .script | .files | .notebook _ => none
  | .delete => (bodyId? request.body).map fun id => .document (sanitize id.name)
  | .stop => (bodyId? request.body).map fun id => .environment id.name
  | .runCell => (cellId? request.body).map fun id => .environment id.name
  | .save name =>
    (decodeName? name).bind fun raw =>
      if request.hasHeader "content-length" then
        (NotebookId.ofName? (sanitize raw)).map fun id => .document id.name
      else none

/-- What a request may change: nothing unless it is a POST that is not too large. -/
def target? (request : Http.Request) : Option Target :=
  if request.method = "POST" ∧ request.body.length ≤ bodyLimit then
    (Route.ofPath? request.path).bind (routeTarget? request)
  else none

/-- Requests that are to be refused: the body cannot be read, the name has not the ending of a
notebook's, or a document comes without its length. -/
inductive Refused (request : Http.Request) : Prop
  | malformed {fault : Json.Fault}
      (hroute : Route.ofPath? request.path ∈ [some .delete, some .stop])
      (h : Json.decode Json.text request.body = .error fault)
  | unsuffixed {name : String} (hroute : Route.ofPath? request.path ∈ [some .delete, some .stop])
      (h : Json.decode Json.text request.body = .ok name)
      (hname : hasNotebookSuffix name = false)
  | malformedCell {fault : Json.Fault} (hroute : Route.ofPath? request.path = some .runCell)
      (h : RunCellRequest.decode request.body = .error fault)
  | unsuffixedCell {cell : RunCellRequest} (hroute : Route.ofPath? request.path = some .runCell)
      (h : RunCellRequest.decode request.body = .ok cell)
      (hname : hasNotebookSuffix cell.name = false)
  | unsuffixedDocument {segment : Bytes} {name : String}
      (hroute : Route.ofPath? request.path = some (.save segment))
      (h : decodeName? segment = some name) (hname : hasNotebookSuffix name = false)
  | lengthless {segment : Bytes} (hroute : Route.ofPath? request.path = some (.save segment))
      (h : request.hasHeader "content-length" = false)

namespace Service

/-- The states of a service: as it is started, after every request that is answered, and between
the steps of cells that run at the same time. -/
inductive Reachable [Represent ν] [FileStore σ] [FileStore τ] (evaluator : Evaluator ε ν) :
    Service ε ν σ τ → Prop
  | start (store : σ) (assets : τ) : Reachable evaluator ⟨.new evaluator, store, assets⟩
  | handle {service : Service ε ν σ τ} (h : Reachable evaluator service) (request : Http.Request) :
      Reachable evaluator (service.handle request).1
  | lookUp {service : Service ε ν σ τ} (h : Reachable evaluator service) (id : NotebookId) :
      Reachable evaluator { service with engine := (service.engine.lookUp id).1 }
  | execute {service : Service ε ν σ τ} (h : Reachable evaluator service) (handle : Handle)
      (environment : ε) :
      Reachable evaluator
        { service with engine := service.engine.setEnvironment handle environment }

/-- How a request with a target is answered and what it leaves as it was. -/
inductive Framed [FileStore σ] (service : Service ε ν σ τ) :
    Option Target → Service ε ν σ τ × Response → Prop
  | refused {response : Response} (hstatus : response.status ≠ 200) :
      Framed service none (service, response)
  | document {key : String} {store : σ} {response : Response}
      (hview : ∀ other ≠ key, view store other = view service.store other)
      (hrejected : response.status ≠ 200 → store = service.store) :
      Framed service (some (.document key)) ({ service with store := store }, response)
  | environment {name : String} {engine : Engine ε ν} {response : Response}
      (honly : Engine.OnlyAt name service.engine engine) :
      Framed service (some (.environment name)) ({ service with engine := engine }, response)

variable [FileStore σ] {service : Service ε ν σ τ}

/-- From one service to another nothing changes but a target. -/
def KeepsAllBut (service : Service ε ν σ τ) (target : Option Target)
    (next : Service ε ν σ τ) : Prop :=
  match target with
  | none => next = service
  | some (.document key) =>
    next.engine = service.engine ∧ next.assets = service.assets ∧
      ∀ other ≠ key, view next.store other = view service.store other
  | some (.environment name) =>
    next.store = service.store ∧ next.assets = service.assets ∧
      Engine.OnlyAt name service.engine next.engine

namespace Framed

variable {target : Option Target} {next : Service ε ν σ τ × Response}

theorem keepsAllBut (h : service.Framed target next) : service.KeepsAllBut target next.1 := by
  cases h with
  | refused => exact rfl
  | document hview => exact ⟨rfl, rfl, hview⟩
  | environment honly => exact ⟨rfl, rfl, honly⟩

theorem store_eq (h : service.Framed target next) (hstatus : next.2.status ≠ 200) :
    next.1.store = service.store := by
  cases h with
  | refused => rfl
  | document _ hrejected => exact hrejected hstatus
  | environment => rfl

theorem status_ne (h : service.Framed none next) : next.2.status ≠ 200 := by
  cases h with
  | refused hstatus => exact hstatus

theorem withBody {body : Bytes}
    {handler : Bytes → Service ε ν σ τ × Handled}
    (h : service.Framed target ((handler body).1, (handler body).2.response)) :
    service.Framed (if body.length ≤ bodyLimit then target else none)
      (withBody service body handler) := by
  rw [Server.withBody]
  by_cases hbody : body.length ≤ bodyLimit
  · rw [if_pos hbody, if_neg (Nat.not_lt.mpr hbody)]
    exact h
  · have hstatus : bodyTooLarge.status ≠ 200 := by decide
    rw [if_neg hbody, if_pos (Nat.lt_of_not_le hbody)]
    exact .refused hstatus

/-- What is added to an answer beside its status changes nothing. -/
theorem of_status {response : Response} (h : service.Framed target next)
    (hstatus : response.status = next.2.status) : service.Framed target (next.1, response) := by
  cases h with
  | refused hne => exact .refused (hstatus ▸ hne)
  | document hview hrejected => exact .document hview (hstatus ▸ hrejected)
  | environment honly => exact .environment honly

end Framed

variable (service)

theorem framed_fault (fault : ServerFault) : service.Framed none (service, fault.response) :=
  .refused fault.status_response_ne

/-! ## Handlers -/

/-- A name in a body is that of a notebook, or the body is refused. -/
theorem notebookName_cases (body : Bytes) :
    (∃ fault, notebookName body = .error fault ∧ bodyId? body = none) ∨
      ∃ id, notebookName body = .ok id ∧ bodyId? body = some id := by
  rw [notebookName, bodyId?]
  rcases Json.decode Json.text body with fault | name
  · exact .inl ⟨_, rfl, rfl⟩
  · dsimp only [Except.toOption, Option.bind_some]
    rcases NotebookId.ofName? name with _ | id
    · exact .inl ⟨_, rfl, rfl⟩
    · exact .inr ⟨id, rfl, rfl⟩

theorem framed_stop (body : Bytes) :
    service.Framed ((bodyId? body).map fun id => .environment id.name)
      ((service.stop body).1, (service.stop body).2.response) := by
  rw [stop]
  obtain ⟨fault, hname, hid⟩ | ⟨id, hname, hid⟩ := notebookName_cases body
  · rw [hname, hid]
    exact service.framed_fault fault
  · rw [hname, hid]
    exact .environment (.stop service.engine id.name)

theorem engine_runIntoQueue [Represent ν] (engine : Engine ε ν) (id : NotebookId)
    (source : String) :
    (runIntoQueue engine id source).1 = (engine.run Queue.channel id source {}).1 := by
  rw [runIntoQueue]
  rcases engine.run Queue.channel id source {} with ⟨engine, queue, fault | ⟨⟩⟩ <;> rfl

theorem framed_runCell [Represent ν] (body : Bytes) :
    service.Framed ((cellId? body).map fun id => .environment id.name)
      ((service.runCell body).1, (service.runCell body).2.response) := by
  rw [runCell, cellId?]
  rcases RunCellRequest.decode body with fault | request
  · exact service.framed_fault (.json fault)
  · dsimp only [Except.toOption, Option.bind_some]
    rcases NotebookId.ofName? request.name with _ | id
    · exact service.framed_fault (.core (.invalidName request.name))
    · refine .environment ?_
      rw [engine_runIntoQueue service.engine id request.text]
      exact .run service.engine Queue.channel id request.text {}

/-- The answer to what a store came to. -/
theorem status_response_of_outcome {name : String} {outcome : Except IoFault Unit}
    {handled : Handled}
    (h : handled = match outcome with
      | .ok () => .ok (.ofStatus 200)
      | .error fault => .error (.ofIo name fault))
    (hstatus : handled.response.status ≠ 200) : ∃ fault, outcome = .error fault := by
  cases outcome with
  | error fault => exact ⟨fault, rfl⟩
  | ok =>
      subst h
      exact absurd rfl hstatus

variable [LawfulStore σ]

theorem framed_delete (body : Bytes) :
    service.Framed ((bodyId? body).map fun id => .document (sanitize id.name))
      ((service.delete body).1, (service.delete body).2.response) := by
  rw [delete]
  obtain ⟨fault, hname, hid⟩ | ⟨id, hname, hid⟩ := notebookName_cases body
  · rw [hname, hid]
    exact service.framed_fault fault
  · rw [hname, hid]
    refine .document (fun other hne => LawfulStore.view_remove service.store hne) fun hstatus => ?_
    obtain ⟨fault, hfault⟩ := status_response_of_outcome rfl hstatus
    exact LawfulStore.remove_of_error hfault

theorem framed_save (name : String) (hasLength : Bool) (body : Bytes) :
    service.Framed
      (if hasLength then (NotebookId.ofName? (sanitize name)).map fun id => .document id.name
        else none)
      ((service.save name hasLength body).1, (service.save name hasLength body).2.response) := by
  rw [save]
  dsimp only
  rcases NotebookId.ofName? (sanitize name) with _ | id
  · dsimp only [Option.map_none]
    rw [ite_self]
    exact service.framed_fault (.core (.invalidName (sanitize name)))
  · cases hasLength with
    | false => exact service.framed_fault .missingContentLength
    | true =>
        refine .document (fun other hne => LawfulStore.view_write service.store hne body)
          fun hstatus => ?_
        obtain ⟨fault, hfault⟩ := status_response_of_outcome rfl hstatus
        exact LawfulStore.write_of_error hfault

/-! ## Requests -/

variable [Represent ν] [FileStore τ] {request : Http.Request} {route : Route}

theorem framed_handleRoute (hroute : Route.ofPath? request.path = some route)
    (hpost : request.method = "POST") (hmethod : request.method ∈ route.methods) :
    service.Framed (target? request) (service.handleRoute request route) := by
  have htarget : target? request =
      if request.body.length ≤ bodyLimit then routeTarget? request route else none := by
    rw [target?, hroute]
    simp only [hpost, true_and, Option.bind_some]
  have hget : "POST" ∉ ["GET", "HEAD"] := by decide
  rw [htarget]
  cases route with
  | page | script | files | notebook => exact absurd (hpost ▸ hmethod) hget
  | delete => exact (service.framed_delete request.body).withBody
  | stop => exact (service.framed_stop request.body).withBody
  | runCell => exact (service.framed_runCell request.body).withBody
  | save name =>
      rw [handleRoute, routeTarget?]
      rcases decodeName? name with _ | raw
      · have hstatus : invalidPathName.status ≠ 200 := by decide
        dsimp only [Option.bind_none]
        rw [ite_self]
        exact .refused hstatus
      · exact (service.framed_save raw _ request.body).withBody

/-- A request that its route admits is a POST with a frame, or only asks for something. -/
theorem handleRoute_cases (hroute : Route.ofPath? request.path = some route)
    (hmethod : request.method ∈ route.methods) :
    service.Framed (target? request) (service.handleRoute request route) ∨
      target? request = none ∧ (service.handleRoute request route).1 = service := by
  by_cases hpost : request.method = "POST"
  · exact .inl (service.framed_handleRoute hroute hpost hmethod)
  · have htarget : target? request = none := if_neg fun h => hpost h.1
    refine .inr ⟨htarget, ?_⟩
    cases route with
    | page | script | files => rfl
    | notebook name =>
        rw [handleRoute]
        cases decodeName? name <;> rfl
    | delete | stop | runCell | save => exact absurd (List.mem_singleton.mp hmethod) hpost

/-- A request that its route does not admit has no target. -/
theorem target?_of_not_mem (hroute : Route.ofPath? request.path = some route)
    (hmethod : request.method ∉ route.methods) : target? request = none := by
  rw [target?]
  split
  · next hpost =>
      rw [hroute, Option.bind_some]
      rw [hpost.1] at hmethod
      cases route with
      | page | script | files | notebook => rfl
      | delete | stop | runCell | save => exact absurd List.mem_cons_self hmethod
  · rfl

theorem handle_cases (request : Http.Request) :
    service.Framed (target? request) (service.handle request) ∨
      target? request = none ∧ (service.handle request).1 = service := by
  by_cases hoptions : request.method = "OPTIONS"
  · have hpost : request.method ≠ "POST" := by
      rw [hoptions]
      decide
    exact .inr ⟨if_neg fun h => hpost h.1, by rw [handle, if_pos hoptions]⟩
  · have hfst := service.fst_handle hoptions
    have hstatus := service.status_handle hoptions
    cases hroute : Route.ofPath? request.path with
    | none =>
        refine .inr ⟨?_, ?_⟩
        · rw [target?, hroute]
          exact ite_self none
        · rw [hfst, dispatch, hroute]
    | some route =>
        by_cases hmethod : request.method ∈ route.methods
        · rw [service.dispatch_of_route hroute hmethod] at hfst hstatus
          rcases service.handleRoute_cases hroute hmethod with hframed | ⟨htarget, hsame⟩
          · have hnext : service.handle request =
                ((service.handleRoute request route).1, (service.handle request).2) :=
              Prod.ext hfst rfl
            rw [hnext]
            exact .inl (hframed.of_status hstatus)
          · exact .inr ⟨htarget, hfst.trans hsame⟩
        · refine .inr ⟨target?_of_not_mem hroute hmethod, ?_⟩
          rw [hfst, dispatch, hroute]
          dsimp only
          rw [if_neg (mt List.contains_iff_mem.mp hmethod)]

/-! ### Refusals -/

/-- A request that is to be refused is for a route that takes only a POST, and has no target. -/
theorem exists_route_of_refused (h : Refused request) :
    ∃ route, Route.ofPath? request.path = some route ∧ route.methods = ["POST"] ∧
      routeTarget? request route = none := by
  have htwo (hroute : Route.ofPath? request.path ∈ [some .delete, some .stop])
      (hid : bodyId? request.body = none) :
      ∃ route, Route.ofPath? request.path = some route ∧ route.methods = ["POST"] ∧
        routeTarget? request route = none := by
    rcases List.mem_cons.mp hroute with hroute | hroute
    · exact ⟨_, hroute, rfl, by rw [routeTarget?, hid]; rfl⟩
    · exact ⟨_, List.mem_singleton.mp hroute, rfl, by rw [routeTarget?, hid]; rfl⟩
  cases h with
  | malformed hroute h => exact htwo hroute (by rw [bodyId?, h]; rfl)
  | unsuffixed hroute h hname =>
      refine htwo hroute ?_
      rw [bodyId?, h]
      exact NotebookId.ofName?_eq_none hname
  | malformedCell hroute h => exact ⟨_, hroute, rfl, by rw [routeTarget?, cellId?, h]; rfl⟩
  | unsuffixedCell hroute h hname =>
      refine ⟨_, hroute, rfl, ?_⟩
      rw [routeTarget?, cellId?, h]
      exact congrArg (Option.map _) (NotebookId.ofName?_eq_none hname)
  | @unsuffixedDocument segment name hroute h hname =>
      refine ⟨_, hroute, rfl, ?_⟩
      have hnone : NotebookId.ofName? (sanitize name) = none :=
        NotebookId.ofName?_eq_none ((hasNotebookSuffix_sanitize name).trans hname)
      rw [routeTarget?, h, Option.bind_some, hnone]
      exact ite_self none
  | @lengthless segment hroute h =>
      refine ⟨_, hroute, rfl, ?_⟩
      rw [routeTarget?, h]
      cases decodeName? segment <;> rfl

/-- A request that is to be refused has no target. -/
theorem target?_of_refused (h : Refused request) : target? request = none := by
  obtain ⟨route, hroute, -, htarget⟩ := exists_route_of_refused h
  rw [target?, hroute, Option.bind_some, htarget, ite_self]

/-- It is never answered with success. -/
theorem status_of_refused (h : Refused request) (hoptions : request.method ≠ "OPTIONS") :
    (service.handle request).2.status ≠ 200 := by
  obtain ⟨route, hroute, hmethods, htarget⟩ := exists_route_of_refused h
  rw [service.status_handle hoptions]
  by_cases hpost : request.method = "POST"
  · have hmethod : request.method ∈ route.methods := by
      rw [hmethods, hpost]
      exact List.mem_cons_self
    have hframed := service.framed_handleRoute hroute hpost hmethod
    rw [target?_of_refused h] at hframed
    rw [service.dispatch_of_route hroute hmethod]
    exact hframed.status_ne
  · have hmethod : request.method ∉ route.methods := by
      rw [hmethods]
      exact fun hmem => hpost (List.mem_singleton.mp hmem)
    have hstatus : 405 ≠ 200 := by decide
    rw [dispatch, hroute]
    dsimp only
    rw [if_neg (mt List.contains_iff_mem.mp hmethod)]
    exact hstatus

/-! ## Reachable states -/

/-- In every state that can be reached, a request changes nothing but its target: a document, whose
change leaves all environments and all other documents as they were, or an environment, whose
change leaves all documents and all other environments as they were.  If the answer is no success,
the documents are as they were; and a request that is to be refused is not answered with success and
changes nothing at all.  So it is between the steps of cells that run meanwhile, each of which
changes at most the environment of its notebook. -/
theorem keepsAllBut_of_reachable {evaluator : Evaluator ε ν} {service : Service ε ν σ τ}
    (h : Reachable evaluator service) (request : Http.Request) :
    let next := service.handle request
    Reachable evaluator next.1 ∧ service.KeepsAllBut (target? request) next.1 ∧
      (next.2.status ≠ 200 → next.1.store = service.store) ∧
      (Refused request →
        next.1 = service ∧ (request.method ≠ "OPTIONS" → next.2.status ≠ 200)) ∧
      ∀ id : NotebookId, Engine.OnlyAt id.name service.engine (service.engine.lookUp id).1 ∧
        ∀ (handle : Handle) (environment : ε),
          service.engine.registry.find? id.name = some handle ∨ ¬ service.engine.Live handle →
            Engine.OnlyAt id.name service.engine
              (service.engine.setEnvironment handle environment) := by
  intro next
  have hkeeps : service.KeepsAllBut (target? request) next.1 := by
    rcases service.handle_cases request with hframed | ⟨htarget, hsame⟩
    · exact hframed.keepsAllBut
    · rw [htarget]
      exact hsame
  refine ⟨h.handle request, hkeeps, fun hstatus => ?rejected, fun hrefused => ⟨?same, ?status⟩,
    fun id => ⟨.lookUp service.engine id, fun handle environment hhandle => ?execution⟩⟩
  case rejected =>
    rcases service.handle_cases request with hframed | ⟨-, hsame⟩
    · exact hframed.store_eq hstatus
    · exact congrArg Service.store hsame
  case same =>
    rw [target?_of_refused hrefused] at hkeeps
    exact hkeeps
  case status => exact service.status_of_refused hrefused
  case execution =>
    refine .setEnvironment service.engine (fun other hother => ?_) environment
    rcases hhandle with hhandle | hdetached
    · exact Registry.eq_of_find? hother hhandle
    · exact absurd ⟨other, hother⟩ hdetached

/-- A document that is saved leaves another one and the environments as they were; without its
length it is not saved. -/
theorem keepsAllBut_of_reachable_save :
    let service : Service Nat String MemoryStore MemoryStore :=
      ⟨.new Evaluator.echo, ⟨[("b.unb", [1, 2, 3])], by decide⟩, .empty⟩
    let save (headers : List (String × Bytes)) : Http.Request :=
      ⟨"POST", Text.encode "/_save/a.unb", headers, Text.encode "[]"⟩
    let next := (service.handle (save [("content-length", Text.encode "2")])).1
    next.engine = service.engine ∧ FileStore.read next.store "b.unb" = .ok [1, 2, 3] ∧
      (service.handle (save [])).1 = service := by
  intro service save next
  have hreachable : Reachable Evaluator.echo service := .start _ _
  have htarget : target? (save [("content-length", Text.encode "2")]) =
      some (.document "a.unb") := by rfl
  have hroute : Route.ofPath? (save []).path = some (.save (Text.encode "a.unb")) := by rfl
  obtain ⟨-, hkeeps, -⟩ :=
    keepsAllBut_of_reachable hreachable (save [("content-length", Text.encode "2")])
  obtain ⟨-, -, -, hrefused, -⟩ := keepsAllBut_of_reachable hreachable (save [])
  rw [htarget] at hkeeps
  obtain ⟨hengine, -, hview⟩ := hkeeps
  refine ⟨hengine, ?_, (hrefused (.lengthless hroute rfl)).1⟩
  exact congrArg FileView.content (hview "b.unb" (by decide))

end Service

end Server

end Cellbook
