import PacedCalls.Time

set_option autoImplicit false

namespace PacedCalls.Cache

/-- Lifetime of an entry in nanoseconds, and the number of keys kept. -/
structure Config where
  ttl : Nat := Duration.ofSecs 300
  maxSize : Nat := 1000
  deriving DecidableEq, Repr

inductive ConfigError where
  | zeroSize
  | zeroTtl
  deriving DecidableEq, Repr

def ConfigError.reason : ConfigError → String
  | zeroSize => "max_size must be greater than 0"
  | zeroTtl => "ttl must be greater than 0"

def configErrorText (reason : String) : String := "Configuration error: " ++ reason

def ConfigError.message (e : ConfigError) : String := configErrorText e.reason

def Config.validate (c : Config) : Except ConfigError Unit :=
  if c.maxSize = 0 then .error .zeroSize
  else if c.ttl = 0 then .error .zeroTtl
  else .ok ()

inductive CreationError where
  | config (e : ConfigError)
  /-- The table for the keys would not fit into memory of any size. -/
  | tableTooLarge
  deriving DecidableEq, Repr

def tableTooLargeText : String := "Hash table capacity overflow"

/-- Whether a table for all keys can be asked for. It has a power of two of places, an eighth of
them free, and 17 octets a place have to fit into 63 bits. -/
def Config.tableFits (c : Config) : Bool := c.maxSize * 8 / 7 ≤ Nat.pow 2 58

end PacedCalls.Cache
