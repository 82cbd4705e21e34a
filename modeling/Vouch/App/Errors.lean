/-
  Vouch.App.Errors

  `app/schemas/errors.py`: the domain exceptions, the envelope `app/main.py`
  wraps them in, and every other exception a handler can end with.
-/

import Mathlib.Data.List.Basic

namespace Vouch

/-- The class attributes of a `VouchAPIError` subclass. -/
structure ErrorClass where
  statusCode : Nat
  code : String
  message : String
deriving DecidableEq, Repr

/-- A raised `VouchAPIError`. -/
structure VouchAPIError where
  statusCode : Nat
  code : String
  detailMessage : String
  errorDetails : List (String × String)
deriving DecidableEq, Repr

/-- `VouchAPIError.__init__`: a missing or empty message is the class's own. -/
def ErrorClass.init (cls : ErrorClass) (message : Option String)
    (details : List (String × String)) : VouchAPIError :=
  { statusCode := cls.statusCode
    code := cls.code
    detailMessage := match message with
      | some m => if m = "" then cls.message else m
      | none => cls.message
    errorDetails := details }

def vouchAPIError : ErrorClass :=
  ⟨500, "internal_error", "An unexpected error occurred."⟩

def resourceNotFoundError : ErrorClass :=
  { vouchAPIError with
    statusCode := 404
    code := "resource_not_found"
    message := "The requested resource was not found." }

def invalidRequestError : ErrorClass :=
  { vouchAPIError with
    statusCode := 400
    code := "invalid_request"
    message := "The request is invalid." }

def cursorDecodeError : ErrorClass :=
  { invalidRequestError with
    code := "invalid_cursor"
    message := "The pagination cursor is invalid or has expired." }

/-- What the driver or the server raises while a statement executes. -/
inductive DatabaseError where
  /-- The string is no label of the enum type. -/
  | invalidEnumLabel (label : String)
  /-- The driver cannot encode the number. -/
  | invalidNumber
  /-- The number does not fit the NUMERIC type. -/
  | numericOverflow
  /-- The timestamp leaves the calendar when converted to UTC. -/
  | timestampOverflow
deriving DecidableEq, Repr

/-- An exception that ends a request. -/
inductive Exc where
  | api (e : VouchAPIError)
  | valueError
  | indexError
  | multipleResultsFound
  | database (e : DatabaseError)
deriving DecidableEq, Repr

/-- `ErrorDetail`, the body of every `ErrorEnvelope`. -/
structure ErrorDetail where
  code : String
  message : String
  details : List (String × String)
  requestId : String
deriving DecidableEq, Repr

/-- The envelope `_error_response` builds. -/
def VouchAPIError.envelope (e : VouchAPIError) (requestId : String) : ErrorDetail :=
  ⟨e.code, e.detailMessage, e.errorDetails, requestId⟩

end Vouch
