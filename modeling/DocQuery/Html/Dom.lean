import DocQuery.Html.Node
import DocQuery.Tree.Forest
/-! A document under construction.  Nodes are numbered in the order of their creation, the document
itself being `0`, and know their parent and their children; text next to text is joined when it is
put in.  `Dom.forest` reads the finished tree. -/

namespace DocQuery.Html

/-- A node under construction. -/
structure DomNode where
  data : Node
  parent : Option Nat := none
  children : Array Nat := #[]
  deriving Inhabited

/-- A document under construction. -/
structure Dom where
  nodes : Array DomNode

namespace Dom

/-- A document without content. -/
def empty : Dom := ⟨#[{ data := .document }]⟩

/-- Number of the document. -/
def root : Nat := 0

variable (dom : Dom)

/-- A node; one that does not exist reads as an empty text. -/
def node (id : Nat) : DomNode := dom.nodes.getD id { data := .text "" }

/-- What a node is. -/
def data (id : Nat) : Node := (dom.node id).data

/-- Parent of a node. -/
def parent (id : Nat) : Option Nat := (dom.node id).parent

/-- Children of a node. -/
def children (id : Nat) : Array Nat := (dom.node id).children

/-- Adds a node outside the tree. -/
def add (data : Node) : Dom × Nat :=
  (⟨dom.nodes.push { data }⟩, dom.nodes.size)

/-- Changes a node. -/
def update (id : Nat) (f : DomNode → DomNode) : Dom :=
  ⟨dom.nodes.modify id f⟩

/-- Takes a node out of its parent. -/
def detach (id : Nat) : Dom :=
  match dom.parent id with
  | none => dom
  | some p =>
    (dom.update p fun n => { n with children := n.children.filter (· != id) }).update id
      fun n => { n with parent := none }

/-- Puts a node behind the children of another. -/
def append (parent child : Nat) : Dom :=
  ((dom.detach child).update parent fun n => { n with children := n.children.push child }).update
    child fun n => { n with parent := some parent }

/-- Position of a node among its siblings. -/
def position (parent id : Nat) : Nat :=
  ((dom.children parent).findIdx? (· == id)).getD 0

/-- Puts a node before another one that has a parent. -/
def insertBefore (sibling child : Nat) : Dom :=
  let dom := dom.detach child
  match dom.parent sibling with
  | none => dom
  | some p =>
    let i := dom.position p sibling
    (dom.update p fun n =>
      { n with children := n.children.take i ++ #[child] ++ n.children.drop i }).update child
        fun n => { n with parent := some p }

/-- Adds a character to a text node. -/
def extendText (id : Nat) (c : Char) : Dom :=
  dom.update id fun n =>
    match n with
    | { data := .text s, parent, children } => { data := .text (s.push c), parent, children }
    | n => n

/-- Whether a node is text. -/
def isText (id : Nat) : Bool :=
  match dom.data id with
  | .text _ => true
  | _ => false

/-- Puts a character behind the children of a node. -/
def appendChar (parent : Nat) (c : Char) : Dom :=
  match (dom.children parent).back? with
  | some last =>
    if dom.isText last then dom.extendText last c
    else
      let (dom, id) := dom.add (.text (String.ofList [c]))
      dom.append parent id
  | none =>
    let (dom, id) := dom.add (.text (String.ofList [c]))
    dom.append parent id

/-- Puts a character before a node. -/
def insertCharBefore (sibling : Nat) (c : Char) : Dom :=
  match dom.parent sibling with
  | none => dom
  | some p =>
    let i := dom.position p sibling
    let previous := if i = 0 then none else (dom.children p)[i - 1]?
    match previous.filter dom.isText with
    | some id => dom.extendText id c
    | none =>
      let (dom, id) := dom.add (.text (String.ofList [c]))
      dom.insertBefore sibling id

/-- Moves all children of a node behind those of another. -/
def moveChildren (source target : Nat) : Dom :=
  (dom.children source).foldl (fun dom child => dom.append target child) dom

/-- The trees below some nodes.  `fuel` bounds their depth and number. -/
def forestOf : (fuel : Nat) → List Nat → Forest Node
  | 0, _ => .nil
  | _, [] => .nil
  | fuel + 1, id :: rest =>
    .cons (dom.data id) (forestOf fuel (dom.children id).toList) (forestOf fuel rest)

/-- The trees below the document.  Every step of the walk goes to a node not seen before. -/
def forest : Forest Node :=
  dom.forestOf (dom.nodes.size + 1) (dom.children root).toList

end Dom

end DocQuery.Html
