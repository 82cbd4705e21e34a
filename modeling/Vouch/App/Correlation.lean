/-
  Vouch.App.Correlation

  The identifier of a request: which header values are taken over, and where the
  identifier reaches the client.

  `$` also matches before a final newline, so `_safe_request_id` takes over one
  kind of value outside its grammar (`requestIdLaw_iff`).  Exceptions without a
  handler leave the stack without header, log line and envelope, as does every
  response to a request whose URL cannot be split, and FastAPI's own handlers
  answer without the envelope (`correlated_iff`).
-/

import Vouch.App.Handled
import Vouch.App.Middleware

namespace Vouch

open Py (UUID Python)

-- ============================================================================
-- The grammar
-- ============================================================================

/-- 1 to 128 characters from U+0021 to U+007E. -/
structure IsRequestId (v : String) : Prop where
  nonempty : 1 ≤ v.length
  short : v.length ≤ 128
  visible : ∀ c ∈ v.toList, 0x21 ≤ c.toNat ∧ c.toNat ≤ 0x7E

theorem isVisible_iff {c : Char} : isVisible c = true ↔ 0x21 ≤ c.toNat ∧ c.toNat ≤ 0x7E := by
  rw [isVisible, Bool.and_eq_true, decide_eq_true_iff, decide_eq_true_iff]

theorem matches_requestIdRe_iff {value : String} : requestIdRe.matches? value = true ↔
    ∃ v, IsRequestId v ∧ (value = v ∨ value = v ++ "\n") := by
  rw [requestIdRe, Py.matches_anchored_iff]
  simp only [isVisible_iff]
  apply exists_congr
  intro v
  apply and_congr_left'
  exact ⟨fun h => ⟨h.1, h.2.1, h.2.2⟩, fun h => ⟨h.nonempty, h.short, h.visible⟩⟩

/-- No identifier ends in a newline. -/
theorem not_isRequestId_newline (v : String) : ¬ IsRequestId (v ++ "\n") := by
  intro h
  have hnewline := h.visible '\n' (by rw [String.toList_append]; exact List.mem_append_right _ (by simp))
  exact absurd hnewline.1 (by decide)

theorem isRequestId_strUuid (u : UUID) : IsRequestId (strUuid u) := by
  have hchars : (strUuid u).toList = (Py.uuidText u).map Char.ofNat := by
    rw [strUuid, Py.asciiString, String.toList_ofList]
  have hlength : (strUuid u).length = 36 := by
    rw [← String.length_toList, hchars, List.length_map, Py.length_uuidText]
  refine ⟨by omega, by omega, ?_⟩
  rw [hchars]
  intro c hc
  obtain ⟨n, hn, rfl⟩ := List.mem_map.mp hc
  have hvisible := Py.uuidText_visible u n hn
  rwa [Py.toNat_charOfNat (by omega)]

section Identifier

variable {uuid4 : UUID} {value : String}

theorem safeRequestId_of_matches (h : requestIdRe.matches? value = true) :
    safeRequestId uuid4 (some value) = value := by
  have hne : value ≠ "" := by
    rintro rfl
    exact absurd h (by decide)
  rw [safeRequestId, if_pos ⟨hne, h⟩]

theorem safeRequestId_of_not_matches (h : requestIdRe.matches? value = false) :
    safeRequestId uuid4 (some value) = strUuid uuid4 := by
  rw [safeRequestId, if_neg]
  rintro ⟨-, hmatches⟩
  rw [h] at hmatches
  cases hmatches

end Identifier

-- ============================================================================
-- Acceptance
-- ============================================================================

/-- Identifiers are accepted exactly by their grammar, and the one chosen is the
    one in the header, the log line and the error body. -/
structure RequestIdLaw (env : Surroundings) (request : Request) : Prop where
  grammar : IsRequestId (env.requestId request)
  caller : ∀ value, request.headers.get xRequestId = some value →
    (env.requestId request = value ↔ IsRequestId value)
  generated : (∀ value, request.headers.get xRequestId = some value → ¬ IsRequestId value) →
    env.requestId request = strUuid env.uuid4
  /-- every response that leaves the middleware -/
  response : ∀ next logs response, requestContextMiddleware env request next = (logs, .ok response) →
    response.headers.values xRequestId = [env.requestId request] ∧
      logs.map LogRecord.requestId = [env.requestId request]
  /-- the answer to a `VouchAPIError` -/
  error : ∀ e, ∃ response detail,
    callNext (fun _ => .raised (.exc (.api e))) (env.identify request) = .ok response ∧
      response.content = .body (.error detail) ∧ detail.requestId = env.requestId request
  /-- the same as it leaves the middleware, if the URL can be split -/
  errorLeaves : (env.urlPath (env.identify request)).isSome → ∀ e, ∃ logs response detail,
    requestContextMiddleware env request (callNext fun _ => .raised (.exc (.api e))) =
      (logs, .ok response) ∧
      response.content = .body (.error detail) ∧ detail.requestId = env.requestId request

section Law

variable {env : Surroundings} {request : Request}

theorem requestId_of_no_header (h : request.headers.get xRequestId = none) :
    env.requestId request = strUuid env.uuid4 := by
  rw [Surroundings.requestId, h]
  rfl

/-- The request's identifier is the caller's, if the pattern matches it. -/
theorem requestId_of_header {value : String} (h : request.headers.get xRequestId = some value) :
    env.requestId request =
      if requestIdRe.matches? value then value else strUuid env.uuid4 := by
  rw [Surroundings.requestId, h]
  split_ifs with hmatches
  · exact safeRequestId_of_matches hmatches
  · exact safeRequestId_of_not_matches (Bool.eq_false_of_not_eq_true hmatches)

theorem requestContextMiddleware_ok {next : Request → Except Raised HttpResponse}
    {logs : List LogRecord} {response : HttpResponse}
    (h : requestContextMiddleware env request next = (logs, .ok response)) :
    response.headers.values xRequestId = [env.requestId request] ∧
      logs.map LogRecord.requestId = [env.requestId request] := by
  cases hnext : next (env.identify request) with
  | error e =>
    rw [requestContextMiddleware_of_error hnext] at h
    cases h
  | ok answer =>
    cases hpath : env.urlPath (env.identify request) with
    | none =>
      rw [requestContextMiddleware_of_no_path hpath hnext] at h
      cases h
    | some path =>
      rw [requestContextMiddleware_of_ok hpath hnext] at h
      cases h
      exact ⟨Headers.values_set _ _ _, rfl⟩

theorem callNext_api (e : VouchAPIError) :
    callNext (fun _ => .raised (.exc (.api e))) (env.identify request) =
      .ok (errorResponse (env.identify request) e) := rfl

theorem errorResponse_requestId (hpath : (env.urlPath (env.identify request)).isSome)
    (e : VouchAPIError) : ∃ logs response detail,
    requestContextMiddleware env request (callNext fun _ => .raised (.exc (.api e))) =
      (logs, .ok response) ∧
      response.content = .body (.error detail) ∧ detail.requestId = env.requestId request := by
  obtain ⟨path, hpath⟩ := Option.isSome_iff_exists.mp hpath
  exact ⟨_, _, _, requestContextMiddleware_of_ok hpath (callNext_api e), rfl, rfl⟩

/-- Unless a newline follows an identifier, the header's value is taken over if it
    is one and replaced if it is not. -/
theorem requestId_cases (env : Surroundings)
    (hno : ¬ ∃ v, IsRequestId v ∧ request.headers.get xRequestId = some (v ++ "\n"))
    {value : String} (h : request.headers.get xRequestId = some value) :
    (IsRequestId value ∧ env.requestId request = value) ∨
      (¬ IsRequestId value ∧ env.requestId request = strUuid env.uuid4) := by
  -- without the newline the pattern is the grammar
  have hmatches : requestIdRe.matches? value = true ↔ IsRequestId value := by
    rw [matches_requestIdRe_iff]
    refine ⟨?_, fun hv => ⟨value, hv, .inl rfl⟩⟩
    rintro ⟨v, hv, rfl | rfl⟩
    · exact hv
    · exact absurd ⟨v, hv, h⟩ hno
  rw [requestId_of_header h]
  split_ifs with hmatch
  · exact .inl ⟨hmatches.mp hmatch, rfl⟩
  · exact .inr ⟨mt hmatches.mpr hmatch, rfl⟩

/-- Request identifiers are accepted by their grammar, except that a caller's
    value is also taken over when it is an identifier followed by one newline. -/
theorem requestIdLaw_iff (env : Surroundings) (request : Request) :
    RequestIdLaw env request ↔
      ¬ ∃ v, IsRequestId v ∧ request.headers.get xRequestId = some (v ++ "\n") := by
  refine ⟨?_, ?_⟩
  · rintro hlaw ⟨v, hv, hheader⟩
    have hmatches := matches_requestIdRe_iff.mpr ⟨v, hv, .inr rfl⟩
    have hgrammar := hlaw.grammar
    rw [requestId_of_header hheader, if_pos hmatches] at hgrammar
    exact not_isRequestId_newline v hgrammar
  · intro hno
    refine ⟨?grammar, ?caller, ?generated, fun _ _ _ => requestContextMiddleware_ok,
      fun e => ⟨_, _, callNext_api e, rfl, rfl⟩, errorResponse_requestId⟩
    case grammar =>
      cases hheader : request.headers.get xRequestId with
      | none =>
        rw [requestId_of_no_header hheader]
        exact isRequestId_strUuid env.uuid4
      | some value =>
        rcases requestId_cases env hno hheader with ⟨hvalue, hid⟩ | ⟨-, hid⟩
        · rwa [hid]
        · rw [hid]
          exact isRequestId_strUuid env.uuid4
    case caller =>
      intro value hheader
      rcases requestId_cases env hno hheader with ⟨hvalue, hid⟩ | ⟨hvalue, hid⟩
      · exact iff_of_true hid hvalue
      · refine iff_of_false ?_ hvalue
        rw [hid]
        rintro rfl
        exact hvalue (isRequestId_strUuid env.uuid4)
    case generated =>
      intro hinvalid
      cases hheader : request.headers.get xRequestId with
      | none => exact requestId_of_no_header hheader
      | some value =>
        rcases requestId_cases env hno hheader with ⟨hvalue, -⟩ | ⟨-, hid⟩
        · exact absurd hvalue (hinvalid value hheader)
        · exact hid

/-- The path of a URL whose host pairs its brackets; `urlsplit` raises on a bracket
    alone. -/
def sampleUrlPath (request : Request) : Option String :=
  match request.headers.get "host" with
  | none => some request.path
  | some host =>
      if '[' ∈ host.toList ↔ ']' ∈ host.toList then some request.path else none

def sampleSurroundings : Surroundings := ⟨0, 12, sampleUrlPath⟩

/-- A request whose identifier is `a` and a newline. -/
def newlineRequest : Request := ⟨"GET", "/api/v1/assets", [(xRequestId, "a\n")], none⟩

/-- The newline is taken over. -/
theorem requestIdLaw_newline :
    sampleSurroundings.requestId newlineRequest = "a\n" ∧
      ¬ RequestIdLaw sampleSurroundings newlineRequest := by
  have hid : sampleSurroundings.requestId newlineRequest = "a\n" := by decide +kernel
  refine ⟨hid, ?_⟩
  intro hlaw
  have hgrammar := hlaw.grammar
  rw [hid] at hgrammar
  exact not_isRequestId_newline "a" hgrammar

end Law

-- ============================================================================
-- Correlation
-- ============================================================================

/-- `OPTIONS` with an `Origin` and an `Access-Control-Request-Method`. -/
structure Request.IsPreflight (request : Request) : Prop where
  method : request.method = "OPTIONS"
  origin : (request.headers.get "origin").isSome
  requested : (request.headers.get "access-control-request-method").isSome

/-- What Starlette documents of the CORS middleware: it answers preflight requests
    itself, and to the response of any other only adds headers of its own. -/
structure Cors.Documented (cors : Cors) : Prop where
  preflight_iff : ∀ request, (cors.preflight request).isSome ↔ request.IsPreflight
  statusCode : ∀ request response,
    (cors.simple request response).statusCode = response.statusCode
  content : ∀ request response, (cors.simple request response).content = response.content
  requestId : ∀ request response,
    (cors.simple request response).headers.values xRequestId = response.headers.values xRequestId

/-- The identifier reached the client and the log. -/
structure Correlated (id : String) (logs : List LogRecord) (response : HttpResponse) : Prop where
  header : response.headers.values xRequestId = [id]
  logged : ∃ r, logs = [r] ∧ r.requestId = id ∧ r.statusCode = response.statusCode
  /-- every body that is not of a 2xx response -/
  envelope : ¬ (200 ≤ response.statusCode ∧ response.statusCode < 300) →
    response.content ≠ .empty →
    ∃ detail, response.content = .body (.error detail) ∧ detail.requestId = id

/-- A page, an asset, a `VouchAPIError`, or an `HTTPException` of a 2xx status or of
    one that allows no body. -/
def Ending.Enveloped : Ending → Prop
  | .page _ _ => True
  | .asset _ => True
  | .raised (.exc (.api _)) => True
  | .raised (.httpException statusCode _ _) => statusCode < 300 ∨ statusCode = 304
  | .raised _ => False

section Endings

variable {env : Surroundings} {request : Request} {endpoint : Request → Ending} {cors : Cors}

theorem httpExceptionResponse_statusCode (statusCode : ℕ) (detail : Py.Json) (headers : Headers) :
    (httpExceptionResponse statusCode detail headers).statusCode = statusCode := by
  rw [httpExceptionResponse]
  split_ifs <;> rfl

theorem httpExceptionResponse_content (statusCode : ℕ) (detail : Py.Json) (headers : Headers)
    (d : ErrorDetail) :
    (httpExceptionResponse statusCode detail headers).content ≠ .body (.error d) := by
  rw [httpExceptionResponse]
  split_ifs <;> simp

theorem httpExceptionResponse_empty_iff {statusCode : ℕ} {detail : Py.Json} {headers : Headers}
    (hstatus : ¬ (200 ≤ statusCode ∧ statusCode < 300)) :
    (httpExceptionResponse statusCode detail headers).content = .empty ↔
      statusCode < 300 ∨ statusCode = 304 := by
  rw [httpExceptionResponse]
  split_ifs with hempty
  · refine iff_of_true rfl ?_
    simp only [List.mem_cons, List.not_mem_nil, or_false] at hempty
    omega
  · refine iff_of_false (by simp) ?_
    simp only [List.mem_cons, List.not_mem_nil, or_false] at hempty
    omega

/-- An ending with an envelope is answered by it, by a 2xx response or without a
    body. -/
theorem callNext_of_enveloped (h : (endpoint (env.identify request)).Enveloped) :
    ∃ response, callNext endpoint (env.identify request) = .ok response ∧
      (¬ (200 ≤ response.statusCode ∧ response.statusCode < 300) →
        response.content ≠ .empty →
        ∃ detail, response.content = .body (.error detail) ∧
          detail.requestId = env.requestId request) := by
  rw [callNext]
  cases hending : endpoint (env.identify request) with
  | page items pagination => exact ⟨_, rfl, fun hstatus _ => absurd ⟨by simp, by simp⟩ hstatus⟩
  | asset a => exact ⟨_, rfl, fun hstatus _ => absurd ⟨by simp, by simp⟩ hstatus⟩
  | raised e =>
    rw [hending] at h
    cases e with
    | exc e =>
      cases e with
      | api e => exact ⟨_, rfl, fun _ _ => ⟨_, rfl, rfl⟩⟩
      | _ => exact h.elim
    | requestValidationError errors => exact h.elim
    | httpException statusCode detail headers =>
      refine ⟨_, rfl, fun hstatus hbody => absurd h ?_⟩
      rw [httpExceptionResponse_statusCode] at hstatus
      exact mt (httpExceptionResponse_empty_iff hstatus).mpr hbody
    | other className => exact h.elim

/-- Any other ending is an exception nobody handles, or is answered by a body
    that is no envelope. -/
theorem callNext_of_not_enveloped (h : ¬ (endpoint (env.identify request)).Enveloped) :
    (∃ e, callNext endpoint (env.identify request) = .error e) ∨
      ∃ response, callNext endpoint (env.identify request) = .ok response ∧
        ¬ (200 ≤ response.statusCode ∧ response.statusCode < 300) ∧
        response.content ≠ .empty ∧ ∀ detail, response.content ≠ .body (.error detail) := by
  rw [callNext]
  cases hending : endpoint (env.identify request) with
  | page items pagination =>
    rw [hending] at h
    exact absurd trivial h
  | asset a =>
    rw [hending] at h
    exact absurd trivial h
  | raised e =>
    rw [hending] at h
    cases e with
    | exc e =>
      cases e with
      | api e => exact absurd trivial h
      | _ => exact .inl ⟨_, rfl⟩
    | requestValidationError errors =>
      refine .inr ⟨_, rfl, ?_, ?_, ?_⟩ <;> simp [requestValidationResponse]
    | httpException statusCode detail headers =>
      have hstatus : ¬ (200 ≤ statusCode ∧ statusCode < 300) := fun h2xx => h (.inl h2xx.2)
      refine .inr ⟨_, rfl, ?_, mt (httpExceptionResponse_empty_iff hstatus).mp h,
        httpExceptionResponse_content _ _ _⟩
      rwa [httpExceptionResponse_statusCode]
    | other className => exact .inl ⟨_, rfl⟩

/-- The identifier reaches the client and the log, whatever the endpoint does, iff
    the request is not a preflight request, ends in a response, a
    `VouchAPIError` or an `HTTPException` of a 2xx or bodyless status, and has a
    URL that can be split. -/
theorem correlated_iff (hcors : cors.Documented) (env : Surroundings)
    (endpoint : Request → Ending) (request : Request) :
    Correlated (env.requestId request) (createApp cors env endpoint request).1
        (createApp cors env endpoint request).2 ↔
      ¬ request.IsPreflight ∧ (endpoint (env.identify request)).Enveloped ∧
        (env.urlPath (env.identify request)).isSome := by
  cases hpreflight : cors.preflight request with
  | some response =>
    have his := (hcors.preflight_iff request).mp (by rw [hpreflight]; rfl)
    rw [createApp_of_preflight hpreflight]
    refine iff_of_false ?_ fun h => h.1 his
    rintro ⟨-, ⟨r, hlogs, -⟩, -⟩
    cases hlogs
  | none =>
    have hnot : ¬ request.IsPreflight := by
      rw [← hcors.preflight_iff, hpreflight]
      exact Bool.false_ne_true
    rw [and_iff_right hnot]
    cases hpath : env.urlPath (env.identify request) with
    | none =>
      rw [createApp_of_no_path hpreflight hpath]
      refine iff_of_false ?_ fun h => Bool.false_ne_true h.2
      rintro ⟨-, ⟨r, hlogs, -⟩, -⟩
      cases hlogs
    | some path =>
      rw [Option.isSome_some, and_iff_left rfl]
      refine ⟨?_, ?_⟩
      · intro hcorrelated
        by_contra henveloped
        rcases callNext_of_not_enveloped henveloped with
          ⟨e, hnext⟩ | ⟨response, hnext, hstatus, hne, hbody⟩
        · rw [createApp_of_error hpreflight hnext] at hcorrelated
          obtain ⟨r, hlogs, -⟩ := hcorrelated.logged
          cases hlogs
        · rw [createApp_of_ok hpreflight hpath hnext] at hcorrelated
          obtain ⟨detail, hdetail, -⟩ := hcorrelated.envelope
            (by rw [hcors.statusCode]; exact hstatus) (by rw [hcors.content]; exact hne)
          rw [hcors.content] at hdetail
          exact hbody detail hdetail
      · intro henveloped
        obtain ⟨response, hnext, hbody⟩ := callNext_of_enveloped henveloped
        rw [createApp_of_ok hpreflight hpath hnext]
        refine ⟨?_, ⟨_, rfl, rfl, ?_⟩, ?_⟩
        · rw [hcors.requestId, Headers.values_set]
        · rw [hcors.statusCode]
        · rw [hcors.statusCode, hcors.content]
          exact hbody

end Endings

-- ============================================================================
-- The endpoints
-- ============================================================================

/-- How an endpoint with the outcome ends. -/
def Outcome.ending {α : Type} (ending : α → Ending) (o : Outcome α) : Ending :=
  match o.result with
  | .ok x => ending x
  | .error e => .raised (.exc e)

/-- How `list_assets` ends. -/
def listEnding (py : Python) (db : Database) (p : ListParams) : Ending :=
  (listAssets py db p).ending fun page =>
    .page (page.items.map PublicAsset.serialize) page.pagination

/-- How `get_asset` ends. -/
def detailEnding (py : Python) (db : Database) (assetId : UUID) : Ending :=
  (getAsset py db assetId).ending fun a => .asset a.serialize

section Responses

variable {cors : Cors} {env : Surroundings} {request : Request}

/-- The application answers with the response to the endpoint's outcome. -/
theorem createApp_ending {α : Type} (hcors : cors.Documented) (hrequest : ¬ request.IsPreflight)
    (hpath : (env.urlPath (env.identify request)).isSome) {o : Outcome α} {ending : α → Ending} {body : α → Body}
    (hbody : ∀ x r, callNext (fun _ => ending x) r = .ok ⟨200, [], .body (body x)⟩) :
    let response := (createApp cors env (fun _ => o.ending ending) request).2
    response.statusCode = (o.respond body (env.requestId request)).status ∧
      response.content = .body (o.respond body (env.requestId request)).body := by
  have hpreflight : cors.preflight request = none := by
    rw [← Option.not_isSome_iff_eq_none, hcors.preflight_iff]
    exact hrequest
  obtain ⟨path, hpath⟩ := Option.isSome_iff_exists.mp hpath
  rw [Outcome.respond]
  cases hresult : o.result with
  | ok x =>
    have hnext : callNext (fun _ => o.ending ending) (env.identify request) =
        .ok ⟨200, [], .body (body x)⟩ := by
      rw [Outcome.ending, hresult]
      exact hbody x _
    rw [createApp_of_ok hpreflight hpath hnext]
    exact ⟨hcors.statusCode _ _, hcors.content _ _⟩
  | error e =>
    cases e with
    | api e =>
      have hnext : callNext (fun _ => o.ending ending) (env.identify request) =
          .ok (errorResponse (env.identify request) e) := by
        rw [Outcome.ending, hresult]
        rfl
      rw [createApp_of_ok hpreflight hpath hnext]
      exact ⟨hcors.statusCode _ _, hcors.content _ _⟩
    | _ =>
      have hnext : ∃ e, callNext (fun _ => o.ending ending) (env.identify request) = .error e := by
        rw [Outcome.ending, hresult]
        exact ⟨_, rfl⟩
      obtain ⟨e, hnext⟩ := hnext
      rw [createApp_of_error hpreflight hnext]
      exact ⟨rfl, rfl⟩

theorem createApp_list (hcors : cors.Documented) (hrequest : ¬ request.IsPreflight)
    (hpath : (env.urlPath (env.identify request)).isSome) (py : Python) (db : Database)
    (p : ListParams) :
    let response := (createApp cors env (fun _ => listEnding py db p) request).2
    response.statusCode = (respondList py db (env.requestId request) p).status ∧
      response.content = .body (respondList py db (env.requestId request) p).body :=
  createApp_ending hcors hrequest hpath fun _ _ => rfl

theorem createApp_detail (hcors : cors.Documented) (hrequest : ¬ request.IsPreflight)
    (hpath : (env.urlPath (env.identify request)).isSome) (py : Python) (db : Database)
    (assetId : UUID) :
    let response := (createApp cors env (fun _ => detailEnding py db assetId) request).2
    response.statusCode = (respondDetail py db (env.requestId request) assetId).status ∧
      response.content = .body (respondDetail py db (env.requestId request) assetId).body :=
  createApp_ending hcors hrequest hpath fun _ _ => rfl

end Responses

-- ============================================================================
-- One application
-- ============================================================================

instance isPreflight_decidable (request : Request) : Decidable request.IsPreflight :=
  decidable_of_iff (request.method = "OPTIONS" ∧ (request.headers.get "origin").isSome ∧
      (request.headers.get "access-control-request-method").isSome)
    ⟨fun h => ⟨h.1, h.2.1, h.2.2⟩, fun h => ⟨h.method, h.origin, h.requested⟩⟩

/-- The CORS middleware of an application that allows no origin. -/
def sampleCors : Cors where
  preflight request :=
    if request.IsPreflight then
      some ⟨400,
        [("vary", "Origin"),
         ("access-control-allow-methods", "GET, POST, PUT, PATCH, DELETE, OPTIONS"),
         ("access-control-max-age", "600"),
         ("access-control-allow-headers",
           "Accept, Accept-Language, Authorization, Content-Language, Content-Type, X-Request-ID"),
         ("access-control-allow-credentials", "true")], .text "Disallowed CORS origin"⟩
    else none
  simple request response :=
    if (request.headers.get "origin").isSome then
      { response with
        headers := (response.headers.set "access-control-allow-credentials" "true").set
          "access-control-expose-headers" "X-Request-ID" }
    else response

theorem sampleCors_documented : sampleCors.Documented where
  preflight_iff request := by
    simp only [sampleCors]
    split_ifs with h
    · exact iff_of_true rfl h
    · exact iff_of_false Bool.false_ne_true h
  statusCode request response := by
    simp only [sampleCors]
    split_ifs <;> rfl
  content request response := by
    simp only [sampleCors]
    split_ifs <;> rfl
  requestId request response := by
    simp only [sampleCors]
    split_ifs
    · rw [Headers.values_set_ne _ _ (by decide), Headers.values_set_ne _ _ (by decide)]
    · rfl

/-- A request for the listing, identified by the caller. -/
def sampleRequest : Request := ⟨"GET", "/api/v1/assets", [(xRequestId, "req-1")], none⟩

/-- A hidden asset is answered with the caller's identifier. -/
theorem correlated_iff_sample :
    Correlated (sampleSurroundings.requestId sampleRequest)
      (createApp sampleCors sampleSurroundings
        (fun _ => .raised (.exc (.api (resourceNotFoundError.init none [])))) sampleRequest).1
      (createApp sampleCors sampleSurroundings
        (fun _ => .raised (.exc (.api (resourceNotFoundError.init none [])))) sampleRequest).2 :=
  (correlated_iff sampleCors_documented sampleSurroundings _ sampleRequest).mpr
    ⟨by decide, trivial, by decide⟩

/-- A page requested with the forged cursor ends in a `ValueError`: a plain 500
    without the identifier, and no log line. -/
theorem correlated_forged :
    sampleCors.Documented ∧
      (listAssets Py.reference sampleDb forgedRequest).result = .error .valueError ∧
      ¬ Correlated (sampleSurroundings.requestId sampleRequest)
        (createApp sampleCors sampleSurroundings
          (fun _ => listEnding Py.reference sampleDb forgedRequest) sampleRequest).1
        (createApp sampleCors sampleSurroundings
          (fun _ => listEnding Py.reference sampleDb forgedRequest) sampleRequest).2 := by
  have hending : listEnding Py.reference sampleDb forgedRequest = .raised (.exc .valueError) := by
    rw [listEnding, Outcome.ending, listAssets_forged]
  refine ⟨sampleCors_documented, listAssets_forged, ?_⟩
  rw [hending]
  rintro ⟨-, ⟨r, hlogs, -⟩, -⟩
  cases hlogs

/-- A page is lost when the Host header is `[`. -/
example : createApp sampleCors sampleSurroundings (fun _ => .page [] ⟨20, none⟩)
    { sampleRequest with headers := [("host", "[")] } = ([], internalServerError) :=
  createApp_of_no_path (by decide) (by decide)

end Vouch
