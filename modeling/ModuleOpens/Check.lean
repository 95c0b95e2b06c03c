/-
# Check — conditions on names and lists

Names of modules and packages end up joined by spaces in a manifest and by
slashes in a flag, so a name is neither empty nor holds a blank. A failed check
is a `Fault` that says which condition broke and what the value was called.
-/
import ModuleOpens.Text.Blank

namespace ModuleOpens

set_option autoImplicit false

open Text (isBlank)

inductive Fault where
  | empty (what : String)
  /-- The name `value` of something called `what` holds a blank. -/
  | blank (what value : String)
  deriving DecidableEq, Repr

def Fault.message : Fault → String
  | .empty what => what ++ " must not be empty"
  | .blank what value => what ++ " must not contain whitespace, got '" ++ value ++ "'"

/-- A usable name: not empty, and without blanks. -/
def IsName (value : String) : Prop :=
  value ≠ "" ∧ ∀ c ∈ value.toList, isBlank c = false

-- The characters of the value are tried, not all characters there are.
instance (value : String) : Decidable (IsName value) :=
  @instDecidableAnd _ _ inferInstance
    (List.decidableBAll (fun c => isBlank c = false) value.toList)

/-- What keeps `value` from being a name; `none` for a name. -/
def nameFault? (what value : String) : Option Fault :=
  if value = "" then some (.empty what)
  else if value.toList.any isBlank then some (.blank what value)
  else none

/-- A name has no fault, and what has no fault is a name. -/
theorem nameFault?_eq_none_iff {what value : String} :
    nameFault? what value = none ↔ IsName value := by
  unfold nameFault? IsName
  split
  · simp_all
  · split
    · rename_i hne hany
      simp only [reduceCtorEq, false_iff, not_and]
      intro _ hall
      obtain ⟨c, hc, hb⟩ := List.any_eq_true.1 hany
      rw [hall c hc] at hb
      cases hb
    · rename_i hne hany
      simp only [true_iff]
      refine ⟨hne, fun c hc => ?_⟩
      cases hb : isBlank c with
      | false => rfl
      | true => exact absurd (List.any_eq_true.2 ⟨c, hc, hb⟩) hany

/-- A name has no space in it. -/
theorem space_not_mem_of_isName {name : String} (isName : IsName name) : ' ' ∉ name.toList := by
  intro member
  have blank := isName.2 ' ' member
  revert blank
  decide

def checkName (value what : String) : Except Fault Unit :=
  match nameFault? what value with
  | some fault => .error fault
  | none => .ok ()

def checkNonempty {α : Type} (values : List α) (what : String) : Except Fault Unit :=
  if values.isEmpty then .error (.empty what) else .ok ()

/-- `condition` holds; `failure` is asked for only when it does not. -/
def require {ε : Type} (condition : Bool) (failure : Unit → ε) : Except ε Unit :=
  if condition then .ok () else .error (failure ())

end ModuleOpens
