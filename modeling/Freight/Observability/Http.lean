/-
Module: Freight.Observability.Http
Purpose: A request to the API from its header to its response: the middleware around the
  application, and the handler of server errors around both.
Trusted boundary: none
Main exports:
  WebOperation, Web, Route, correlationId, sendResponse, endpoint, application,
  observabilityMiddleware, observabilityMiddleware_eq, serve
-/
import Freight.Application.EntryPoints
import Freight.Interaction.Recording
import Freight.Observability.Context

namespace Freight.Http

open Interaction (Computation Program)
open Interaction.Computation (raise read modify tryExcept withState relabel)

/-! ## Operations -/

/-- What a request does: statements, those that respond with the headers of
`http.response.start`, and the question of the server's own middleware whether a response has
begun. -/
inductive WebOperation where
  | perform (statement : Statement) (headers : List (String × String))
  | responseStarted
deriving DecidableEq

abbrev WebOperation.Reply : WebOperation → Type
  | .perform statement _ => Freight.Reply statement
  | .responseStarted => Bool

/-- Code of a request: what it keeps is `scope["state"]["correlation_id"]`. -/
abbrev Web (α : Type) : Type :=
  Computation WebOperation WebOperation.Reply PyError (Option String) α

/-- What the request asks for: one of the two routes that write, or any other response. -/
inductive Route where
  | createShipment (input : CreateShipmentInput)
  | receiveEvent (request : ShipmentEventRequest)
  | other (response : HttpResponse)

/-! ## The middleware -/

/-- `correlation_id(value)`. -/
def correlationId (value : Option String) : Web String := do
  let fresh : Web String := do
    let id : UUID ← Computation.call (WebOperation.perform .uuid4 [])
    pure id.str
  match value with
  | some value => if Consumer.validId value then pure value else fresh
  | none => fresh

/-- The headers that `send_response` sets. -/
def responseHeaders (identity : String) : Statement → List (String × String)
  | .respond _ => [("X-Correlation-ID", identity)]
  | _ => []

/-- Everything that the application sends goes through `send_response`. -/
def sendResponse (identity : String) (statement : Statement) : WebOperation :=
  .perform statement (responseHeaders identity statement)

/-- Code over a session of its own. -/
def inSession {σ α : Type} (send : Statement → WebOperation)
    (body : Computation Statement (fun statement => WebOperation.Reply (send statement)) PyError
      Session α) : Computation WebOperation WebOperation.Reply PyError σ α :=
  withState {} (relabel send body)

/-! ## The application -/

/-- The application answers an `HTTPException` itself. -/
def answerException {σ : Type} (identity : String) (error : PyError) :
    Computation WebOperation WebOperation.Reply PyError σ Unit :=
  match error with
  | .httpException statusCode _ =>
      inSession (sendResponse identity)
        (call (.respond { statusCode := statusCode, shipment := none }))
  | _ => raise error

/-- What a route does under a correlation id. -/
def Route.code (identity : String) : Route → Py Unit
  | .createShipment input => do
      let _ ← Freight.createShipment (some identity) input
  | .receiveEvent request => do
      let _ ← Freight.receiveEvent (some identity) request
  | .other response => call (.respond response)

/-- The application under a correlation id. -/
def routed (identity : String) (route : Route) : Web Unit :=
  tryExcept (inSession (sendResponse identity) (route.code identity)) (answerException identity)

end Freight.Http
