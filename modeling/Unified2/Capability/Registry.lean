import Unified2.Text.Order
import Unified2.Text.Quoted

/-! Things by name, the first one of a name for good. -/

namespace Unified2

/-- Why a registry refused something. -/
inductive RegistryError
  | duplicate (name : String)
  | notLoaded (name : String)
  deriving DecidableEq, Repr

/-- The wording of the error. -/
def RegistryError.message : RegistryError → String
  | duplicate name => s!"duplicate capability name {name}"
  | notLoaded name => Text.quoted s!"capability not loaded {name}"

/-- What was registered, by name, in the order it came. -/
structure Registry (Name α : Type) where
  entries : List (Name × α) := []
  deriving Repr

namespace Registry

variable {Name α : Type}

/-- The names in the order they came. -/
def keys (registry : Registry Name α) : List Name := registry.entries.map (·.1)

/-- The names in the order of their code points. -/
def names (registry : Registry String α) : List String := Text.sorted registry.keys

/-- Registers something under a name that is free. -/
def add [DecidableEq Name] [ToString Name] (registry : Registry Name α) (name : Name) (entry : α) :
    Except RegistryError (Registry Name α) :=
  if (registry.entries.lookup name).isSome then .error (.duplicate (toString name))
  -- A name that is taken keeps what it has, so nothing is ever replaced.
  else .ok ⟨registry.entries ++ [(name, entry)]⟩

/-- What is registered under a name. -/
def find [DecidableEq Name] [ToString Name] (registry : Registry Name α) (name : Name) :
    Except RegistryError α :=
  match registry.entries.lookup name with
  | some entry => .ok entry
  | none => .error (.notLoaded (toString name))

/-- Changes everything registered, each in its place. -/
def map (registry : Registry Name α) (change : α → α) : Registry Name α :=
  ⟨registry.entries.map fun (name, entry) => (name, change entry)⟩

end Registry

end Unified2
