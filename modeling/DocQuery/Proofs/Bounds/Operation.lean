import DocQuery.Evaluation.Pipeline
import DocQuery.Operation.Builtin
import DocQuery.Proofs.Bounds.Arena
import DocQuery.Proofs.Bounds.Path
import DocQuery.Proofs.Bounds.Text
import DocQuery.Value

/-! Operations on lists of arguments.  An operation takes its arguments out of the list by index, and
only the check of their number, made before it is called, says that they are there.  The selectors of
two kinds are cut up by offset or by position on the way.  Each operation does what it does on as many
arguments as its arity says, and under any name and with any arguments a call is answered. -/

namespace DocQuery.Indexed

/-! ### Selectors -/

/-- The regular expression that a pattern with modifiers stands for. -/
def readModifiers (pattern modifiers : String) : Except ExpressionError RegexQuery :=
  match modifiers.toList.find? fun c => !"wims".toList.contains c with
  | some c => .error (.unknownModifier c)
  | none =>
    let has (c : Char) : Bool := modifiers.toList.contains c
    let flags : Regex.Flags :=
      { ignoreCase := has 'i', multiLine := has 'm', dotAll := has 's' }
    match Regex.ofText flags pattern with
    | .error e => .error (.regex pattern e)
    | .ok regex => .ok { pattern, regex, group := if has 'w' then 1 else 0 }

def readRegex (expression : String) : Option (Except String RegexQuery) := do
  let (pattern, modifiers) ← splitExpression? expression
  return (readModifiers pattern modifiers).mapError (·.message expression)

def badExpression (s : Selection) (expression message : String) : String :=
  s!"invalid {s.kind.name} expression {DocQuery.Text.quoted expression}: {message}"

/-- Narrows a selection. -/
def narrow (s : Selection) (selector : String) : Option (Except String Selection) :=
  if selector.isEmpty then some (.ok s)
  else
    match s with
    | .regex texts => do
      match ← readRegex selector with
      | .ok query => return .ok (.regex (texts.flatMap query.select))
      | .error message => return .error (badExpression s selector message)
    | .xpath d points => do
      match ← Path.ofText selector with
      | .ok path => return .ok (.xpath d (path.select points))
      | .error message => return .error (badExpression s selector message)
    | s => some ((s.find selector).mapError (·.message))

theorem readRegex_eq (expression : String) : readRegex expression =
    some ((RegexQuery.ofText expression).mapError (·.message expression)) := by
  unfold readRegex
  rw [splitExpression?_eq]
  rfl

theorem message_badExpression (s : Selection) (selector : String) (cause : ExpressionError) :
    (SelectionError.badExpression s.kind selector cause).message =
      badExpression s selector (cause.message selector) := rfl

theorem narrow_eq (s : Selection) (selector : String) :
    narrow s selector = some ((s.find selector).mapError (·.message)) := by
  unfold narrow
  by_cases hempty : selector.isEmpty
  · unfold Selection.find
    rw [if_pos hempty, if_pos hempty]
    rfl
  rw [if_neg hempty]
  cases s with
  | text content => rfl
  | json value => rfl
  | css d elements => rfl
  | regex texts =>
    have hmessage := message_badExpression (.regex texts) selector
    unfold Selection.find
    rw [if_neg hempty]
    dsimp only
    rw [readRegex_eq]
    cases RegexQuery.ofText selector with
    | ok query => rfl
    | error e => exact congrArg (some <| Except.error ·) (hmessage e).symm
  | xpath d points =>
    have hmessage := message_badExpression (.xpath d points) selector
    unfold Selection.find
    rw [if_neg hempty]
    dsimp only
    rw [Path.ofText_eq]
    cases XPath.readPath selector with
    | ok path => rfl
    | error e => exact congrArg (some <| Except.error ·) (hmessage (.xpath e)).symm

/-! ### The built-in operations -/

/-- An operation on a list of arguments. -/
abbrev Operate : Type := Selection → List String → Option (Except String Selection)

def findAs (kind : SelectionKind) : Operate := fun s args => do
  let expression ← args[0]?
  match s.asKind kind with
  | .error e => return .error e.message
  | .ok s => narrow s expression

def giveText (text : Selection → String) : Operate := fun s _ => some (.ok (.text (text s)))

def giveArgument : Operate := fun _ args => do
  let arg ← args[0]?
  return .ok (.text arg)

def giveAttribute : Operate := fun s args => do
  let name ← args[0]?
  return (Selection.text <$> s.attributeValue name).mapError (·.message)

def giveElement : Operate := fun s args => do
  let text ← args[0]?
  match readIndex (DocQuery.Text.trim text).toList with
  | .error cause =>
    let shown ← args[0]?
    return .error (Operation.notIndex shown cause).message
  | .ok index =>
    match s.at? index with
    | some element => return .ok element
    | none => return .error (SelectionError.notFound index s.size).message

def giveReplaced : Operate := fun s args => do
  let pattern ← args[0]?
  let replacement ← args[1]?
  return .ok (.text (DocQuery.Text.replaceAll s.raw pattern replacement))

def giveAddress : Operate := fun s args => do
  let base ← args[0]?
  return (Selection.text <$> Url.resolve base s.raw).mapError (OperationError.message ∘ .url)

/-- The operations with their arities. -/
def builtin : List (String × Nat × Operate) := [
  ("css", 1, findAs .css), ("json", 1, findAs .json), ("xpath", 1, findAs .xpath),
  ("regex", 1, findAs .regex), ("trim", 0, giveText fun s => DocQuery.Text.trim s.raw),
  ("template", 1, giveArgument), ("attr", 1, giveAttribute), ("eq", 1, giveElement),
  ("string", 0, giveText Selection.raw), ("text", 0, giveText Selection.textContent),
  ("link", 1, giveArgument), ("replace", 2, giveReplaced),
  ("absolute", 1, giveAddress)]

def invoke (name : String) : Operate := fun s args =>
  match builtin.lookup name with
  | none => some (.error (OperationError.undefined name).message)
  | some (arity, operate) =>
    if args.length = arity then operate s args
    else some (.error (OperationError.arity name arity args.length).message)

/-- Makes calls, each on the selection that the one before it gave. -/
def runPipeline (s : Selection) : List Call → Option (Except String Selection)
  | [] => some (.ok s)
  | call :: calls => do
    let args := (fillPlaceholder s call.args).1
    match ← invoke call.name s args with
    | .error message => return .error message
    | .ok next => runPipeline next calls

/-- The operation on lists does what the other one does on as many arguments as it takes. -/
structure Agrees (operation : Operation) (arity : Nat) (operate : Operate) : Prop where
  arity_eq : arity = operation.arity
  operate_eq : ∀ s (args : Vector String operation.arity),
    operate s args.toList = some ((operation.run s args).mapError (·.message))

theorem Agrees.of {arity : Nat} {operate : Operate}
    {run : Selection → Vector String arity → Except OperationError Selection}
    (h : ∀ s args, operate s args.toList = some ((run s args).mapError (·.message))) :
    Agrees ⟨arity, run⟩ arity operate := ⟨rfl, h⟩

theorem getElem?_toList {n : Nat} (args : Vector String n) (i : Nat) (h : i < n) :
    args.toList[i]? = some args[i] := by
  rw [List.getElem?_eq_getElem (by simpa using h), Vector.getElem_toList]

theorem agrees_findAs (kind : SelectionKind) : Agrees (.narrow kind) 1 (findAs kind) := by
  unfold Operation.narrow
  refine .of fun s args => ?_
  have harg := getElem?_toList args 0 (by decide)
  unfold findAs
  rw [harg]
  dsimp only [Option.bind_eq_bind, Option.bind_some]
  cases s.asKind kind with
  | error e => rfl
  | ok s =>
    dsimp only [Except.bind]
    rw [narrow_eq]
    cases s.find args[0] <;> rfl

theorem agrees_giveText (text : Selection → String) : Agrees (.ofText text) 0 (giveText text) :=
  ⟨rfl, fun _ _ => rfl⟩

theorem agrees_giveArgument : Agrees .constant 1 giveArgument := by
  unfold Operation.constant
  refine .of fun s args => ?_
  have harg := getElem?_toList args 0 (by decide)
  unfold giveArgument
  rw [harg]
  rfl

theorem agrees_giveAttribute : Agrees .attr 1 giveAttribute := by
  unfold Operation.attr
  refine .of fun s args => ?_
  have harg := getElem?_toList args 0 (by decide)
  unfold giveAttribute
  rw [harg]
  dsimp only [Option.bind_eq_bind, Option.bind_some]
  cases s.attributeValue args[0] <;> rfl

theorem agrees_giveElement : Agrees .eq 1 giveElement := by
  unfold Operation.eq
  refine .of fun s args => ?_
  have harg := getElem?_toList args 0 (by decide)
  unfold giveElement
  rw [harg]
  dsimp only [Option.bind_eq_bind, Option.bind_some]
  cases readIndex (DocQuery.Text.trim args[0]).toList with
  | error cause => rfl
  | ok index =>
    dsimp only
    cases s.at? index <;> rfl

theorem agrees_giveReplaced : Agrees .replace 2 giveReplaced := by
  unfold Operation.replace
  refine .of fun s args => ?_
  have hpattern := getElem?_toList args 0 (by decide)
  have hreplacement := getElem?_toList args 1 (by decide)
  unfold giveReplaced
  rw [hpattern, hreplacement]
  rfl

theorem agrees_giveAddress : Agrees .absolute 1 giveAddress := by
  unfold Operation.absolute
  refine .of fun s args => ?_
  have harg := getElem?_toList args 0 (by decide)
  unfold giveAddress
  rw [harg]
  dsimp only [Option.bind_eq_bind, Option.bind_some]
  cases Url.resolve args[0] s.raw <;> rfl

theorem agrees_builtin : List.Forall₂ (fun e e' => e.1 = e'.1 ∧ Agrees e.2 e'.2.1 e'.2.2)
    Registry.builtin.entries builtin :=
  .cons ⟨rfl, agrees_findAs .css⟩ <| .cons ⟨rfl, agrees_findAs .json⟩ <|
  .cons ⟨rfl, agrees_findAs .xpath⟩ <| .cons ⟨rfl, agrees_findAs .regex⟩ <|
  .cons ⟨rfl, agrees_giveText _⟩ <| .cons ⟨rfl, agrees_giveArgument⟩ <|
  .cons ⟨rfl, agrees_giveAttribute⟩ <| .cons ⟨rfl, agrees_giveElement⟩ <|
  .cons ⟨rfl, agrees_giveText _⟩ <| .cons ⟨rfl, agrees_giveText _⟩ <|
  .cons ⟨rfl, agrees_giveArgument⟩ <| .cons ⟨rfl, agrees_giveReplaced⟩ <|
  .cons ⟨rfl, agrees_giveAddress⟩ .nil

theorem agrees_lookup {entries : List (String × Operation)} {entries' : List (String × Nat × Operate)}
    (h : List.Forall₂ (fun e e' => e.1 = e'.1 ∧ Agrees e.2 e'.2.1 e'.2.2) entries entries')
    (name : String) : Option.Rel (fun o o' => Agrees o o'.1 o'.2) (entries.lookup name)
      (entries'.lookup name) := by
  induction h with
  | nil => exact .none
  | @cons e e' _ _ hentry _ ih =>
    obtain ⟨key, operation⟩ := e
    obtain ⟨key', entry⟩ := e'
    obtain ⟨hname, hagrees⟩ := hentry
    dsimp only at hname hagrees
    rw [List.lookup_cons, List.lookup_cons, ← hname]
    cases name == key with
    | true => exact .some hagrees
    | false => exact ih

/-- A call under any name and with any arguments stays inside the list of its arguments. -/
theorem invoke_eq (name : String) (s : Selection) (args : List String) :
    invoke name s args = some ((Registry.builtin.invoke name s args).mapError (·.message)) := by
  have hlookup := agrees_lookup agrees_builtin name
  unfold invoke Registry.invoke Registry.get?
  cases hoperation : Registry.builtin.entries.lookup name with
  | none =>
    rw [hoperation] at hlookup
    cases hentry : builtin.lookup name with
    | none => rfl
    | some entry =>
      rw [hentry] at hlookup
      cases hlookup
  | some operation =>
    rw [hoperation] at hlookup
    cases hentry : builtin.lookup name with
    | none =>
      rw [hentry] at hlookup
      cases hlookup
    | some entry =>
      obtain ⟨arity, operate⟩ := entry
      rw [hentry] at hlookup
      obtain ⟨harity, hoperate⟩ : Agrees operation arity operate := by
        cases hlookup
        assumption
      dsimp only
      by_cases hargs : args.length = operation.arity
      · rw [if_pos (hargs.trans harity.symm), dif_pos hargs]
        exact hoperate s ⟨args.toArray, by simpa using hargs⟩
      · rw [if_neg (fun h => hargs (h.trans harity)), dif_neg hargs, harity]
        rfl

theorem runPipeline_eq (s : Selection) (calls : List Call) : runPipeline s calls =
    some ((DocQuery.runPipeline .builtin s calls).2.mapError (·.message)) := by
  induction calls generalizing s with
  | nil => rfl
  | cons call calls ih =>
    unfold runPipeline DocQuery.runPipeline
    dsimp only
    rw [invoke_eq]
    cases Registry.builtin.invoke call.name s (fillPlaceholder s call.args).1 with
    | error e => rfl
    | ok next => exact ih next

/-! ### Values -/

/-- Adds the value of a child for the element at an index. -/
def push (value : Value) (index : Nat) (key : String) (item : Value) :
    Option (Except ValueError Value) :=
  match value with
  | .array items => some (.ok (.array (items ++ [item])))
  | .objects items =>
    if items.length < index then some (.error (.overflow index items.length))
    else do
      let items := if index = items.length then items ++ [[]] else items
      let items ← update? items index (Value.insertField key item)
      return .ok (.objects items)
  | value => some (.error (.wrongType "push" value.typeName))

theorem update?_eq_modify {items : List α} {index : Nat} (h : index < items.length) (change : α → α) :
    update? items index change = some (items.modify index change) := by
  unfold update?
  rw [List.modify_eq_set_getElem?, List.getElem?_eq_getElem h]
  rfl

/-- An object that is written into is there, if only since just before. -/
theorem push_eq (value : Value) (index : Nat) (key : String) (item : Value) :
    push value index key item = some (value.push index key item) := by
  unfold push Value.push
  cases value with
  | text s => rfl
  | number x => rfl
  | object fields => rfl
  | array items => rfl
  | objects items =>
    dsimp only
    by_cases hover : items.length < index
    · rw [if_pos hover, if_pos hover]
    rw [if_neg hover, if_neg hover]
    by_cases hlast : items.length = index
    · rw [if_pos hlast, if_pos hlast.symm, ← hlast]
      have hupdate := update?_append items [] [] (Value.insertField key item)
      rw [hupdate]
      rfl
    · rw [if_neg hlast, if_neg (Ne.symm hlast), update?_eq_modify (by omega)]
      rfl

end DocQuery.Indexed
