/-
# Graph.Handle — names for the things in a module graph

Modules and loaders are named by numbers that the graph hands out. A handle to
a module also carries its name, or none for the unnamed module of a loader;
handles are equal when both agree, but the graph knows a module by its number.
-/
import ModuleOpens.Text.Quoted

namespace ModuleOpens

set_option autoImplicit false

abbrev ModuleId := Nat

abbrev LayerId := Nat

/-- A module, with its name if it has one. -/
structure ModuleHandle where
  id : ModuleId
  name : Option String
  deriving DecidableEq, Repr

/-- A loader; its name need not be its own. -/
structure LoaderHandle where
  id : Nat
  name : String
  deriving DecidableEq, Repr

namespace ModuleHandle

def named (id : ModuleId) (name : String) : ModuleHandle := ⟨id, some name⟩

def unnamed (id : ModuleId) : ModuleHandle := ⟨id, none⟩

def isNamed (handle : ModuleHandle) : Bool := handle.name.isSome

/-- The name of a module, or the number of an unnamed one. -/
def text (handle : ModuleHandle) : String :=
  match handle.name with
  | some name => name
  | none => "UNNAMED#" ++ toString handle.id

def dump (handle : ModuleHandle) : String :=
  let name := match handle.name with
    | none => "None"
    | some name => "Some(" ++ Text.quoted name ++ ")"
  "ModuleHandle \x7b id: " ++ toString handle.id ++ ", name: " ++ name ++ " \x7d"

end ModuleHandle

namespace LoaderHandle

def text (handle : LoaderHandle) : String :=
  handle.name ++ "#" ++ toString handle.id

def dump (handle : LoaderHandle) : String :=
  "LoaderHandle \x7b id: " ++ toString handle.id ++ ", name: " ++ Text.quoted handle.name
    ++ " \x7d"

end LoaderHandle

end ModuleOpens
