/-!
# Identity

The three attributes by which a container is known to the outside. The same record holds a
container's attributes and an update of them: a field that an update leaves out stays as it is.

- `apply_imei`, `apply_mac`, `apply_phoneNumber`: each attribute follows its own field alone.
-/

namespace ServiceChannel

/-- Identity attributes, each present or absent. -/
structure Identity where
  imei : Option String := none
  mac : Option String := none
  phoneNumber : Option String := none
  deriving DecidableEq

namespace Identity

/-- No attribute is present. -/
def isEmpty (identity : Identity) : Bool :=
  identity.imei.isNone && identity.mac.isNone && identity.phoneNumber.isNone

/-- The attributes after an update: its present fields replace, its absent ones leave alone. -/
def apply (identity update : Identity) : Identity where
  imei := update.imei <|> identity.imei
  mac := update.mac <|> identity.mac
  phoneNumber := update.phoneNumber <|> identity.phoneNumber

@[simp] theorem apply_imei (identity update : Identity) :
    (identity.apply update).imei = (update.imei <|> identity.imei) := rfl

@[simp] theorem apply_mac (identity update : Identity) :
    (identity.apply update).mac = (update.mac <|> identity.mac) := rfl

@[simp] theorem apply_phoneNumber (identity update : Identity) :
    (identity.apply update).phoneNumber = (update.phoneNumber <|> identity.phoneNumber) := rfl

end Identity
end ServiceChannel
