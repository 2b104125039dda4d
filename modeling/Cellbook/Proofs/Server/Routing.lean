import Cellbook.Server.Router

/-!
# What requests come to

A request comes to the handler of its route if the route admits its method, and to an error
otherwise.  What every answer gets besides changes neither its status nor, unless only the headers
were asked for, its body; so of a request for a known route it is the handler that counts
(`Service.status_handle_of_route`, `Service.body_handle_of_route`).

A name in a path is one segment of it.  Any segment that holds something can be sent
(`Route.ofPath?_save`, `Route.ofPath?_notebook`).
-/

namespace Cellbook.Server

variable {ε ν σ τ : Type}

/-! ## Names in paths -/

/-- A name in a path, not yet decoded: one segment, and not empty. -/
structure Segment where
  octets : Bytes
  ne_nil : octets ≠ []
  slash_notMem : '/'.toUInt8 ∉ octets

namespace Route

variable (segment : Segment)

theorem after?_append (beginning : String) (rest : Bytes) :
    after? beginning (Text.encode beginning ++ rest) = some rest := by
  have hprefix : (Text.encode beginning).isPrefixOf (Text.encode beginning ++ rest) = true :=
    List.isPrefixOf_iff_prefix.mpr (List.prefix_append _ _)
  rw [after?, if_pos hprefix, List.drop_left]

/-- A name is read as it stands in a path. -/
theorem nameAfter?_append (beginning : String) :
    nameAfter? beginning (Text.encode beginning ++ segment.octets) = some segment.octets := by
  rw [nameAfter?, after?_append]
  simp [segment.ne_nil, segment.slash_notMem]

/-- A path that begins as none of the fixed ones is none of them. -/
theorem find?_fixed_eq_none {beginning : Bytes}
    (h : ∀ entry ∈ fixed, ¬ beginning <+: Text.encode entry.1) (rest : Bytes) :
    (fixed.find? fun entry => Text.encode entry.1 == beginning ++ rest) = none := by
  rw [List.find?_eq_none]
  intro entry hentry heq
  exact h entry hentry (beq_iff_eq.mp heq ▸ List.prefix_append _ _)

/-- The path of a document that is saved. -/
theorem ofPath?_save :
    ofPath? (Text.encode "/_save/" ++ segment.octets) = some (.save segment.octets) := by
  have hpage : after? "/notebook/" (Text.encode "/_save/" ++ segment.octets) = none := rfl
  rw [ofPath?, find?_fixed_eq_none (by decide), hpage, nameAfter?_append]
  rfl

/-- The path of a document that is loaded. -/
theorem ofPath?_notebook :
    ofPath? (Text.encode "/_notebook/" ++ segment.octets) = some (.notebook segment.octets) := by
  have hpage : after? "/notebook/" (Text.encode "/_notebook/" ++ segment.octets) = none := rfl
  have hsave : nameAfter? "/_save/" (Text.encode "/_notebook/" ++ segment.octets) = none := rfl
  rw [ofPath?, find?_fixed_eq_none (by decide), hpage, hsave, nameAfter?_append]
  rfl

theorem ofPath?_delete : ofPath? (Text.encode "/_delete") = some .delete := by decide

/-- No route admits OPTIONS. -/
theorem ne_options {route : Route} {method : String} (h : method ∈ route.methods) :
    method ≠ "OPTIONS" := by
  rintro rfl
  cases route <;> exact absurd h (by simp [methods])

end Route

/-! ## Answers -/

/-- A fault is never answered as a success. -/
theorem ServerFault.status_response_ne (fault : ServerFault) : fault.response.status ≠ 200 := by
  cases fault with
  | notFound => exact nofun
  | io | core | json | missingContentLength => exact nofun

/-- A body that is not too large is handed to the handler. -/
theorem withBody_of_le {α : Type} {state : α} {body : Bytes} (h : body.length ≤ bodyLimit)
    (handler : Bytes → α × Handled) :
    withBody state body handler = ((handler body).1, (handler body).2.response) := by
  rw [withBody, if_neg (Nat.not_lt.mpr h)]

namespace Service

variable [Represent ν] [FileStore σ] [FileStore τ] (service : Service ε ν σ τ)
  {request : Http.Request}

/-- Only an OPTIONS request does not come to a handler. -/
theorem fst_handle (h : request.method ≠ "OPTIONS") :
    (service.handle request).1 = (service.dispatch request).1 := by
  rw [handle, if_neg h]

theorem status_handle (h : request.method ≠ "OPTIONS") :
    (service.handle request).2.status = (service.dispatch request).2.status := by
  rw [handle, if_neg h]
  dsimp only
  split <;> simp

theorem body_handle (h : request.method ≠ "OPTIONS") (hhead : request.method ≠ "HEAD") :
    (service.handle request).2.body = (service.dispatch request).2.body := by
  rw [handle, if_neg h]
  dsimp only
  rw [if_neg hhead]
  simp

variable {route : Route}

/-- A request whose method its route admits comes to the handler of the route. -/
theorem dispatch_of_route (h : Route.ofPath? request.path = some route)
    (hmethod : request.method ∈ route.methods) :
    service.dispatch request = service.handleRoute request route := by
  rw [dispatch, h]
  exact if_pos (List.contains_iff_mem.mpr hmethod)

theorem fst_handle_of_route (h : Route.ofPath? request.path = some route)
    (hmethod : request.method ∈ route.methods) :
    (service.handle request).1 = (service.handleRoute request route).1 := by
  rw [service.fst_handle (Route.ne_options hmethod), service.dispatch_of_route h hmethod]

theorem status_handle_of_route (h : Route.ofPath? request.path = some route)
    (hmethod : request.method ∈ route.methods) :
    (service.handle request).2.status = (service.handleRoute request route).2.status := by
  rw [service.status_handle (Route.ne_options hmethod), service.dispatch_of_route h hmethod]

/-- The body is that of the handler, unless only the headers were asked for. -/
theorem body_handle_of_route (h : Route.ofPath? request.path = some route)
    (hmethod : request.method ∈ route.methods) (hhead : request.method ≠ "HEAD") :
    (service.handle request).2.body = (service.handleRoute request route).2.body := by
  rw [service.body_handle (Route.ne_options hmethod) hhead, service.dispatch_of_route h hmethod]

end Service

end Cellbook.Server
