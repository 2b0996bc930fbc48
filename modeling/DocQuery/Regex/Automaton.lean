import DocQuery.Regex.Meaning
/-! Automata.  A state takes a character, checks a place, notes a position or branches, and then
goes on; of two branches the first is preferred.  A state is made after the states that follow it,
so that it knows their numbers; a loop keeps a place for its own state. -/

namespace DocQuery.Regex

open Unicode (Ranges)

/-- A state with the numbers of the states after it. -/
inductive State where
  | take (r : Ranges) (next : Nat)
  | check (l : Look) (next : Nat)
  | note (slot : Nat) (next : Nat)
  | branch (first second : Nat)
  | accept

/-- An automaton. -/
structure Automaton where
  states : Array State
  start : Nat
  /-- Number of groups, the whole match included. -/
  groups : Nat

namespace Automaton

/-- Making states. -/
abbrev Build : Type → Type := StateM (Array State)

/-- Adds a state. -/
def add (s : State) : Build Nat := do
  let n := (← get).size
  modify (·.push s)
  return n

/-- A branch into a body or out of it. -/
def branchOf (greedy : Bool) (body out : Nat) : State :=
  if greedy then .branch body out else .branch out body

/-- Puts `count` copies of a body before `next`. -/
def copies (body : Nat → Build Nat) : (count : Nat) → (next : Nat) → Build Nat
  | 0, next => return next
  | count + 1, next => do copies body count (← body next)

/-- Puts up to `count` copies of a body before `next`, each of which may be left out with those
after it. -/
def optionalCopies (body : Nat → Build Nat) (greedy : Bool) (out : Nat) :
    (count : Nat) → (next : Nat) → Build Nat
  | 0, next => return next
  | count + 1, next => do
    let b ← body next
    optionalCopies body greedy out count (← add (branchOf greedy b out))

/-- A body that is run through at least once, and then as often as wanted. -/
def loop (body : Nat → Build Nat) (greedy : Bool) (next : Nat) : Build (Nat × Nat) := do
  let again ← add .accept
  let b ← body again
  modify (·.setIfInBounds again (branchOf greedy b next))
  return (b, again)

/-- A body that is run through at least `min` times.  One that may match no character is entered by
a branch of its own, so that the preferences stay in order. -/
def atLeast (body : Nat → Build Nat) (mayBeEmpty greedy : Bool) (min next : Nat) : Build Nat := do
  let (b, again) ← loop body greedy next
  match min with
  | 0 => if mayBeEmpty then add (branchOf greedy b next) else return again
  | min + 1 => copies body min b

/-- Puts the states of a text before `next`. -/
def beforeText : List Char → (next : Nat) → Build Nat
  | [], next => return next
  | c :: cs, next => do add (.take (.ofPair c.toNat c.toNat) (← beforeText cs next))

mutual

/-- Puts the states of an expression before `next`. -/
def before (e : Expr) (next : Nat) : Build Nat :=
  match e with
  | .empty => return next
  | .text cs => beforeText cs next
  | .set r => add (.take r next)
  | .look l => add (.check l next)
  | .capture index body => do
    let close ← add (.note (2 * index + 1) next)
    let b ← before body close
    add (.note (2 * index) b)
  | .repetition min none greedy body => atLeast (before body) body.mayBeEmpty greedy min next
  | .repetition min (some max) greedy body => do
    copies (before body) min (← optionalCopies (before body) greedy next (max - min) next)
  | .concat items => beforeAll items next
  | .alternate branches => beforeAny branches next

/-- Puts the states of expressions, one after the other, before `next`. -/
def beforeAll (es : List Expr) (next : Nat) : Build Nat :=
  match es with
  | [] => return next
  | e :: es => do before e (← beforeAll es next)

/-- Puts the states of branches before `next`. -/
def beforeAny (es : List Expr) (next : Nat) : Build Nat :=
  match es with
  | [] => add (.take ⟨#[]⟩ next)
  | [e] => before e next
  | e :: es => do
    let second ← beforeAny es next
    let first ← before e next
    add (.branch first second)

end

/-- The automaton of an expression. -/
def of (e : Expr) : Automaton :=
  let (start, states) := (do
    let accept ← add .accept
    let close ← add (.note 1 accept)
    let body ← before e close
    add (.note 0 body) : Build Nat).run #[]
  { states, start, groups := e.lastGroup + 1 }

end Automaton

end DocQuery.Regex
