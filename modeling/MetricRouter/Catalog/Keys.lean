import MetricRouter.Text.Hash

/-!
# Catalog keys

A catalog files an identity under a key that it derives from the full name: the name itself, or a
number. Different names may share a number.
-/

namespace MetricRouter

/-- What an identity is filed under. -/
inductive CatalogKey where
  | name (fqn : String)
  | number (n : Nat)
  deriving DecidableEq

/-- How keys are derived from names. -/
inductive KeyStrategy where
  /-- The name is the key. -/
  | byName
  /-- A hash of the name is the key. -/
  | hashed (hash : String → Nat)

namespace KeyStrategy

/-- Keys by the hash of the name. -/
def coded : KeyStrategy := hashed Text.hash

/-- The key of a name. -/
def key : KeyStrategy → String → CatalogKey
  | byName, fqn => .name fqn
  | hashed hash, fqn => .number (hash fqn)

/-- The name of the strategy. -/
def label : KeyStrategy → String
  | byName => "fqn"
  | hashed _ => "hashed"

end KeyStrategy

/-- The number that stands for a key in reports: of a name, its hash. -/
def CatalogKey.asNumber : CatalogKey → Nat
  | name fqn => Text.hash fqn
  | number n => n

end MetricRouter
