import Cellbook.Text.Utf8

/-!
# Responses

A response has a status, headers and a body.  The body is known whole, or it is a stream of chunks
that a failure may break off.
-/

namespace Cellbook.Http

/-- A body whose stream may break off with `φ`. -/
inductive Body (φ : Type) where
  | whole (octets : Bytes)
  | streamed (chunks : List Bytes) (failure : Option φ)
  deriving Repr, DecidableEq

/-- A response. -/
structure Response (φ : Type) where
  status : Nat
  headers : List (String × String)
  body : Body φ
  deriving Repr, DecidableEq

namespace Response

variable {φ : Type}

/-- The content type of plain text. -/
def plainText : String := "text/plain; charset=utf-8"

/-- A response with a status and nothing else. -/
def ofStatus (status : Nat) : Response φ := ⟨status, [], .whole []⟩

/-- A response with a plain text. -/
def ofText (status : Nat) (text : String) : Response φ :=
  ⟨status, [("content-type", plainText)], .whole (Text.encode text)⟩

/-- A response of a content type. -/
def ofContent (contentType : String) (octets : Bytes) : Response φ :=
  ⟨200, [("content-type", contentType)], .whole octets⟩

/-- Adds the length of a body that is known whole. -/
def withLength (response : Response φ) : Response φ :=
  match response.body with
  | .whole octets =>
    { response with
      headers := response.headers ++ [("content-length", toString octets.length)] }
  | .streamed _ _ => response

/-- Adds headers. -/
def withHeaders (headers : List (String × String)) (response : Response φ) : Response φ :=
  { response with headers := response.headers ++ headers }

/-- Drops the body. -/
def withoutBody (response : Response φ) : Response φ := { response with body := .whole [] }

/-! What is added to a response changes neither its status nor its body. -/

@[simp] theorem status_withLength (response : Response φ) :
    response.withLength.status = response.status := by
  rcases response with ⟨status, headers, ⟨octets⟩ | ⟨chunks, failure⟩⟩ <;> rfl

@[simp] theorem body_withLength (response : Response φ) :
    response.withLength.body = response.body := by
  rcases response with ⟨status, headers, ⟨octets⟩ | ⟨chunks, failure⟩⟩ <;> rfl

@[simp] theorem status_withHeaders (headers : List (String × String)) (response : Response φ) :
    (response.withHeaders headers).status = response.status := rfl

@[simp] theorem body_withHeaders (headers : List (String × String)) (response : Response φ) :
    (response.withHeaders headers).body = response.body := rfl

@[simp] theorem status_withoutBody (response : Response φ) :
    response.withoutBody.status = response.status := rfl

end Response

end Cellbook.Http
