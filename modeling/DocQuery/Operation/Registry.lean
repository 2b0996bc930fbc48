import DocQuery.Selection.Basic
import DocQuery.Url.Reader
/-! Operations and their names.  An operation turns a selection into another one, with the help of
as many texts as its arity says.  A registry holds operations in the order of their registration,
no two of one name. -/

namespace DocQuery

/-- Why an operation gives no selection, or is not registered. -/
inductive OperationError where
  | undefined (name : String)
  | arity (name : String) (expected received : Nat)
  | alreadyRegistered (name : String)
  /-- An argument that the operation has no use for, and what is wrong with it. -/
  | badArgument (operation message : String)
  | url (cause : Url.UrlError)
  | selection (cause : SelectionError)
  deriving DecidableEq, Repr

/-- Wording of the error. -/
def OperationError.message : OperationError → String
  | undefined name => s!"undefined method: {name}"
  | arity name expected received =>
    s!"method {name} expects {expected} parameters, but {received} received"
  | alreadyRegistered name => s!"operation {name} is already registered"
  | badArgument operation message => s!"invalid argument for {operation}: {message}"
  | url cause => s!"unable to resolve url: {cause.message}"
  | selection cause => cause.message

/-- The name of the error from when `eq` was the only operation that could report it. -/
@[deprecated OperationError.badArgument (since := "2026-11-20"), match_pattern]
abbrev OperationError.badIndex (operation message : String) : OperationError :=
  .badArgument operation message

/-- An operation. -/
structure Operation where
  arity : Nat
  run : Selection → Vector String arity → Except OperationError Selection

/-- Operations by name. -/
structure Registry where
  entries : List (String × Operation)
  nodup : (entries.map (·.1)).Nodup

namespace Registry

/-- The registry without operations. -/
def empty : Registry := ⟨[], List.nodup_nil⟩

variable (registry : Registry)

/-- The operation of a name. -/
def get? (name : String) : Option Operation := registry.entries.lookup name

/-- A name is registered exactly if it has an operation. -/
theorem get?_eq_none_iff {registry : Registry} {name : String} :
    registry.get? name = none ↔ name ∉ registry.entries.map (·.1) := by
  simp only [get?, List.lookup_eq_none_iff, List.mem_map, not_exists, not_and, bne_iff_ne, ne_eq]
  exact ⟨fun h p hp he => h p hp he.symm, fun h p hp he => h p hp he.symm⟩

/-- Registers an operation under a name that has none yet. -/
def register (name : String) (operation : Operation) : Except OperationError Registry :=
  match h : registry.get? name with
  | some _ => .error (.alreadyRegistered name)
  | none => .ok
    { entries := registry.entries ++ [(name, operation)]
      nodup := by
        have := get?_eq_none_iff.mp h
        rw [List.map_append, List.nodup_append]
        refine ⟨registry.nodup, by simp, fun a ha b hb => ?_⟩
        rintro rfl
        simp only [List.map_cons, List.map_nil, List.mem_singleton] at hb
        exact this (hb ▸ ha) }

/-- Names and arities in the order of registration. -/
def operations : List (String × Nat) := registry.entries.map fun (name, op) => (name, op.arity)

/-- Runs the operation of a name if there are as many arguments as it takes. -/
def invoke (name : String) (s : Selection) (args : List String) :
    Except OperationError Selection :=
  match registry.get? name with
  | none => .error (.undefined name)
  | some op =>
    if h : args.length = op.arity then op.run s ⟨args.toArray, by simpa using h⟩
    else .error (.arity name op.arity args.length)

end Registry

end DocQuery
