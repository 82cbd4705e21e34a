/-
  Vouch.App.Assets

  `PublicAsset`, the projection of an asset row that the public endpoints
  serialise (`app/schemas/assets.py`).
-/

import Vouch.Db.Models

namespace Vouch

open Py (UUID Instant)
open Sql (Numeric)

/-- Page-size bounds used by the routes. -/
def maxLimit : Nat := 100

def defaultLimit : Nat := 20

/-- The fields of an asset that leave the service. -/
structure PublicAsset where
  id : UUID
  name : String
  description : Option String
  category : String
  dailyRate : Numeric 12 2
  depositAmount : Numeric 12 2
  currency : String := "NGN"
  city : String
  isAvailable : Bool
  minimumTrustTier : Int
  createdAt : Instant
  updatedAt : Instant
deriving DecidableEq

/-- `PublicAsset.model_validate(a)` -/
def PublicAsset.modelValidate (a : Asset) : PublicAsset :=
  { id := a.id
    name := a.name
    description := a.description
    category := a.category.value
    dailyRate := a.dailyRate
    depositAmount := a.depositAmount
    city := a.city.value
    isAvailable := a.isAvailable
    minimumTrustTier := a.minimumTrustTier
    createdAt := a.createdAt
    updatedAt := a.updatedAt }

/-- `f"{v:.2f}"` of an amount with two decimal places. -/
def serializeDecimal (v : Numeric 12 2) : String :=
  let cents := v.unscaled.natAbs
  (if v.unscaled < 0 then "-" else "") ++ toString (cents / 100) ++ "." ++
    toString (cents % 100 / 10) ++ toString (cents % 10)

/-- A `PublicAsset` as the response body carries it: amounts are strings. -/
structure PublicAssetJson where
  id : UUID
  name : String
  description : Option String
  category : String
  dailyRate : String
  depositAmount : String
  currency : String
  city : String
  isAvailable : Bool
  minimumTrustTier : Int
  createdAt : Instant
  updatedAt : Instant
deriving DecidableEq

/-- The serialised asset, with `_serialize_decimal` applied to the amounts. -/
def PublicAsset.serialize (a : PublicAsset) : PublicAssetJson :=
  { id := a.id
    name := a.name
    description := a.description
    category := a.category
    dailyRate := serializeDecimal a.dailyRate
    depositAmount := serializeDecimal a.depositAmount
    currency := a.currency
    city := a.city
    isAvailable := a.isAvailable
    minimumTrustTier := a.minimumTrustTier
    createdAt := a.createdAt
    updatedAt := a.updatedAt }

end Vouch
