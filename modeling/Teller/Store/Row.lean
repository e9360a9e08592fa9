import Teller.Time
import Teller.Uuid

/-!
# Rows of the store

Accounts, the transfers between them and the two entries of each transfer carry serial numbers.
A session is named by the identifier of its refresh token.
-/

namespace Teller

/-- The serial number of an account, an entry or a transfer. -/
abbrev Id := Int

/-- An account holds its balance in minor units of one currency. -/
structure Account where
  id : Id
  owner : String
  currency : String
  balance : Int64
  createdAt : Timestamp
deriving DecidableEq

/-- One side of a transfer: a negative amount leaves the account, a positive one enters it. -/
structure Entry where
  id : Id
  account : Id
  amount : Int64
  createdAt : Timestamp
deriving DecidableEq

/-- An amount that went from one account to another. -/
structure Transfer where
  id : Id
  source : Id
  target : Id
  amount : Int64
  createdAt : Timestamp
deriving DecidableEq

structure User where
  username : String
  fullName : String
  email : String
  passwordHash : String
  passwordChangedAt : Timestamp
  createdAt : Timestamp
deriving DecidableEq

/-- A login, with the tokens it was answered with. -/
structure Session where
  id : Uuid
  username : String
  accessToken : String
  accessExpiresAt : Timestamp
  refreshToken : String
  refreshExpiresAt : Timestamp
  userAgent : Option String
  clientIp : Option String
  isBlocked : Bool
  createdAt : Timestamp
deriving DecidableEq

end Teller
