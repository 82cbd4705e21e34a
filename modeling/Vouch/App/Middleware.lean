/-
  Vouch.App.Middleware

  The request's way through the application `create_app` builds
  (`app/core/logging.py`, `app/main.py`).

  From the outside in: the server-error middleware, CORS, the request-context
  middleware, the exception handlers, the endpoint.  An exception without a
  handler passes through the request-context middleware, which then neither sets
  the header nor logs, and is answered by the server-error middleware.  So is an
  exception of the request-context middleware itself: `request.url.path`, which it
  logs, raises a `ValueError` when the URL cannot be split (`Host: [`), and by
  then the response of the endpoint is lost.

  The CORS middleware is Starlette's and enters as `Cors`, its `request.url.path`
  as `Surroundings.urlPath`.  Response headers that no modelled function reads
  (`content-type`, `content-length`) are left out.
-/

import Vouch.App.Routes
import Vouch.Py.Re
import Vouch.Py.Reference

namespace Vouch

open Py (Python UUID Json Pattern)

-- ============================================================================
-- Requests and responses
-- ============================================================================

/-- Headers in order, under their names in lower case. -/
abbrev Headers := List (String × String)

/-- `headers.get(name)`: the first of that name. -/
def Headers.get (h : Headers) (name : String) : Option String := h.lookup name

/-- Every value under a name. -/
def Headers.values (h : Headers) (name : String) : List String :=
  (h.filter fun p => p.1 = name).map Prod.snd

/-- `headers[name] = value`: the first of that name is replaced and its
    duplicates are dropped, or the header is appended. -/
def Headers.set (h : Headers) (name value : String) : Headers :=
  match h with
  | [] => [(name, value)]
  | p :: rest =>
      if p.1 = name then (name, value) :: List.filter (fun q => q.1 ≠ name) rest
      else p :: Headers.set rest name value

/-- `X-Request-ID` -/
def xRequestId : String := "x-request-id"

structure Request where
  method : String
  /-- `scope["path"]` -/
  path : String
  headers : Headers
  /-- `request.state.request_id`, once it is set -/
  stateRequestId : Option String := none

/-- What a response carries. -/
inductive Content where
  | body (b : Body)
  /-- `{"detail": …}`, the body of FastAPI's own handlers -/
  | detail (value : Json)
  | text (s : String)
  | empty

structure HttpResponse where
  statusCode : ℕ
  headers : Headers
  content : Content

/-- An exception that leaves an endpoint, its validation or its routing. -/
inductive Raised where
  | exc (e : Exc)
  /-- `RequestValidationError`, with its `errors()` -/
  | requestValidationError (errors : Json)
  | httpException (statusCode : ℕ) (detail : Json) (headers : Headers)
  /-- an exception of any other class -/
  | other (className : String)

/-- How an endpoint of the inventory ends. -/
inductive Ending where
  | page (items : List PublicAssetJson) (pagination : PageMeta)
  | asset (a : PublicAssetJson)
  | raised (e : Raised)

-- ============================================================================
-- Request identifiers
-- ============================================================================

/-- `[\x21-\x7E]` -/
def isVisible (c : Char) : Bool := 0x21 ≤ c.toNat && c.toNat ≤ 0x7E

/-- `_REQUEST_ID_RE`: `^[\x21-\x7E]{1,128}$` -/
def requestIdRe : Pattern := .seq .start (.seq (.rep (.cls isVisible) 1 128) .finish)

/-- `str(u)` of a UUID -/
def strUuid (u : UUID) : String := Py.asciiString (Py.uuidText u)

/-- `_safe_request_id`; `uuid4` is the identifier it would generate. -/
def safeRequestId (uuid4 : UUID) (headerValue : Option String) : String :=
  match headerValue with
  | some value =>
      if value ≠ "" ∧ requestIdRe.matches? value then value else strUuid uuid4
  | none => strUuid uuid4

-- ============================================================================
-- Exception handlers
-- ============================================================================

/-- `_error_response` -/
def errorResponse (request : Request) (exc : VouchAPIError) : HttpResponse :=
  let requestId := request.stateRequestId.getD "unknown"
  { statusCode := exc.statusCode
    headers := [(xRequestId, requestId)]
    content := .body (.error (exc.envelope requestId)) }

/-- FastAPI's `request_validation_exception_handler` -/
def requestValidationResponse (errors : Json) : HttpResponse := ⟨422, [], .detail errors⟩

/-- FastAPI's `http_exception_handler`; some statuses allow no body. -/
def httpExceptionResponse (statusCode : ℕ) (detail : Json) (headers : Headers) : HttpResponse :=
  if statusCode < 200 ∨ statusCode ∈ [204, 205, 304] then ⟨statusCode, headers, .empty⟩
  else ⟨statusCode, headers, .detail detail⟩

/-- The registered handlers; an exception without one is raised again. -/
def handleException (request : Request) : Raised → Except Raised HttpResponse
  | .exc (.api e) => .ok (errorResponse request e)
  | .requestValidationError errors => .ok (requestValidationResponse errors)
  | .httpException statusCode detail headers =>
      .ok (httpExceptionResponse statusCode detail headers)
  | e => .error e

/-- `call_next`: the endpoint behind the exception handlers. -/
def callNext (endpoint : Request → Ending) (request : Request) : Except Raised HttpResponse :=
  match endpoint request with
  | .page items pagination => .ok ⟨200, [], .body (.page items pagination)⟩
  | .asset a => .ok ⟨200, [], .body (.asset a)⟩
  | .raised e => handleException request e

-- ============================================================================
-- The middleware stack
-- ============================================================================

/-- The arguments of a log line `request_completed method=%s path=%s
    status_code=%s duration_ms=%s request_id=%s`. -/
structure LogRecord where
  method : String
  path : String
  statusCode : ℕ
  durationMs : ℚ
  requestId : String

/-- What the middleware takes from its surroundings: the next `uuid4()`, the
    rounded duration the clock yields, and the URL of a request. -/
structure Surroundings where
  uuid4 : UUID
  durationMs : ℚ
  /-- `request.url.path`; `none` is the `ValueError` of a URL that cannot be split -/
  urlPath : Request → Option String

/-- The identifier the middleware resolves. -/
def Surroundings.requestId (env : Surroundings) (request : Request) : String :=
  safeRequestId env.uuid4 (request.headers.get xRequestId)

/-- `request_context_middleware`: the lines it logs, and the response or the
    exception it ends with. -/
def requestContextMiddleware (env : Surroundings) (request : Request)
    (callNext : Request → Except Raised HttpResponse) :
    List LogRecord × Except Raised HttpResponse :=
  let requestId := safeRequestId env.uuid4 (request.headers.get xRequestId)
  let request := { request with stateRequestId := some requestId }
  match callNext request with
  | .error e => ([], .error e)
  | .ok response =>
      let response := { response with headers := response.headers.set xRequestId requestId }
      match env.urlPath request with
      | none => ([], .error (.exc .valueError))
      | some path =>
          ([⟨request.method, path, response.statusCode, env.durationMs, requestId⟩],
            .ok response)

/-- Starlette's `CORSMiddleware`, as configured: its answer to a preflight request,
    and what it makes of the response to any other. -/
structure Cors where
  preflight : Request → Option HttpResponse
  simple : Request → HttpResponse → HttpResponse

/-- The answer of the server-error middleware. -/
def internalServerError : HttpResponse := ⟨500, [], .body .internalServerError⟩

/-- The application of `create_app`. -/
def createApp (cors : Cors) (env : Surroundings) (endpoint : Request → Ending) (request : Request) :
    List LogRecord × HttpResponse :=
  match cors.preflight request with
  | some response => ([], response)
  | none =>
      match requestContextMiddleware env request (callNext endpoint) with
      | (logs, .ok response) => (logs, cors.simple request response)
      | (logs, .error _) => (logs, internalServerError)

-- ============================================================================
-- What the middleware does with a response
-- ============================================================================

/-- A header that was set has that value alone. -/
@[simp] theorem Headers.values_set (h : Headers) (name value : String) :
    (h.set name value).values name = [value] := by
  induction h with
  | nil => simp [Headers.set, Headers.values]
  | cons p rest ih =>
      rw [Headers.set]
      split_ifs with hname
      · simp [Headers.values, List.filter_filter]
      · rw [Headers.values, List.filter_cons_of_neg (by simpa using hname)]
        exact ih

theorem Headers.values_set_ne (h : Headers) {name other : String} (value : String)
    (hne : other ≠ name) : (h.set name value).values other = h.values other := by
  induction h with
  | nil => simp [Headers.set, Headers.values, hne.symm]
  | cons p rest ih =>
      rw [Headers.set]
      split_ifs with hname
      · have hrest : ((rest.filter fun q => q.1 ≠ name).filter fun q => q.1 = other) =
            rest.filter fun q => q.1 = other := by
          rw [List.filter_filter]
          apply List.filter_congr
          intro q _
          by_cases hq : q.1 = other
          · simp [hq, hne]
          · simp [hq]
        rw [Headers.values, Headers.values, List.filter_cons_of_neg (by simpa using hne.symm), hrest,
          List.filter_cons_of_neg (by simpa [hname] using hne.symm)]
      · rw [Headers.values, Headers.values] at ih ⊢
        rw [List.filter_cons, List.filter_cons]
        split_ifs with hother
        · rw [List.map_cons, List.map_cons, ih]
        · exact ih

section Stack

variable {env : Surroundings} {request : Request} {endpoint : Request → Ending}
  {next : Request → Except Raised HttpResponse} {response : HttpResponse} {cors : Cors}

/-- The request as the handlers and the endpoint see it. -/
def Surroundings.identify (env : Surroundings) (request : Request) : Request :=
  { request with stateRequestId := some (env.requestId request) }

/-- A response leaves with the identifier, and one line is logged. -/
theorem requestContextMiddleware_of_ok {path : String}
    (hpath : env.urlPath (env.identify request) = some path)
    (h : next (env.identify request) = .ok response) :
    requestContextMiddleware env request next =
      ([⟨request.method, path, response.statusCode, env.durationMs, env.requestId request⟩],
        .ok { response with
          headers := response.headers.set xRequestId (env.requestId request) }) := by
  rw [Surroundings.identify, Surroundings.requestId] at hpath h
  simp only [requestContextMiddleware, hpath, h]
  rfl

/-- After an exception neither happens. -/
theorem requestContextMiddleware_of_error {e : Raised} (h : next (env.identify request) = .error e) :
    requestContextMiddleware env request next = ([], .error e) := by
  rw [Surroundings.identify, Surroundings.requestId] at h
  simp only [requestContextMiddleware, h]

/-- Nor if the URL cannot be split: what the endpoint answered is lost. -/
theorem requestContextMiddleware_of_no_path (hpath : env.urlPath (env.identify request) = none)
    (h : next (env.identify request) = .ok response) :
    requestContextMiddleware env request next = ([], .error (.exc .valueError)) := by
  rw [Surroundings.identify, Surroundings.requestId] at hpath h
  simp only [requestContextMiddleware, hpath, h]

theorem createApp_of_preflight (h : cors.preflight request = some response) :
    createApp cors env endpoint request = ([], response) := by
  rw [createApp, h]

theorem createApp_of_ok {path : String} (hcors : cors.preflight request = none)
    (hpath : env.urlPath (env.identify request) = some path)
    (h : callNext endpoint (env.identify request) = .ok response) :
    createApp cors env endpoint request =
      ([⟨request.method, path, response.statusCode, env.durationMs, env.requestId request⟩],
        cors.simple request { response with
          headers := response.headers.set xRequestId (env.requestId request) }) := by
  rw [createApp, hcors, requestContextMiddleware_of_ok hpath h]

theorem createApp_of_error {e : Raised} (hcors : cors.preflight request = none)
    (h : callNext endpoint (env.identify request) = .error e) :
    createApp cors env endpoint request = ([], internalServerError) := by
  rw [createApp, hcors, requestContextMiddleware_of_error h]

theorem createApp_of_no_path (hcors : cors.preflight request = none)
    (hpath : env.urlPath (env.identify request) = none) :
    createApp cors env endpoint request = ([], internalServerError) := by
  cases h : callNext endpoint (env.identify request) with
  | error e => exact createApp_of_error hcors h
  | ok response => rw [createApp, hcors, requestContextMiddleware_of_no_path hpath h]

end Stack

end Vouch
