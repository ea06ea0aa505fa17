import SchemaHistory.Ascending
import SchemaHistory.Text.Order

/-!
Findings gathered by place. A tree holds messages of its own and a subtree for each route. Adding
findings under a route keeps those that are there, and it keeps the routes ascending, so findings are a
tree together with this order.
-/

namespace SchemaHistory

set_option autoImplicit false

inductive Findings.Tree where
  | node (messages : List String) (children : List (String × Findings.Tree))

namespace Findings.Tree

variable {tree other : Tree} {route : String}

def empty : Tree := .node [] []

def messages : Tree → List String
  | .node messages _ => messages

def children : Tree → List (String × Tree)
  | .node _ children => children

mutual

def isEmpty : Tree → Bool
  | .node messages children => messages.isEmpty && areEmpty children

def areEmpty : List (String × Tree) → Bool
  | [] => true
  | (_, child) :: rest => isEmpty child && areEmpty rest

end

mutual

def size : Tree → Nat
  | .node messages children => messages.length + sizes children

def sizes : List (String × Tree) → Nat
  | [] => 0
  | (_, child) :: rest => size child + sizes rest

end

mutual

/-- The messages under a route, each after its route. -/
def linesUnder (route : String) : Tree → List String
  | .node messages children =>
      messages.map (fun message => if route = "" then message else route ++ ": " ++ message) ++
        childLines route children

def childLines (route : String) : List (String × Tree) → List String
  | [] => []
  | (key, child) :: rest =>
      linesUnder (if route = "" then key else route ++ "/" ++ key) child ++ childLines route rest

end

/-- The messages of the place that a path of routes leads to. -/
def messagesAt : Tree → List String → List String
  | .node messages _, [] => messages
  | .node _ children, route :: path =>
      match children.lookup route with
      | some child => messagesAt child path
      | none => []

def addAll (tree : Tree) (messages : List String) : Tree :=
  .node (tree.messages ++ messages) tree.children

/-- Changes the subtree of a route, which is empty at first. -/
def alterAt (tree : Tree) (route : String) (change : Tree → Tree) : Tree :=
  .node tree.messages <|
    Ascending.alter Text.precedes route (fun child => change (child.getD empty)) tree.children

mutual

/-- The findings of two trees place by place, those of the first before those of the second. -/
def merge (tree : Tree) : Tree → Tree
  | .node messages children => mergeChildren (tree.addAll messages) children

def mergeChildren (tree : Tree) : List (String × Tree) → Tree
  | [] => tree
  | (route, child) :: rest =>
      mergeChildren
        (if child.isEmpty then tree else tree.alterAt route fun old => merge old child) rest

end

/-- Merges a tree under a route. An empty one leaves no trace. -/
def mergeAt (tree : Tree) (route : String) (other : Tree) : Tree :=
  if other.isEmpty then tree else tree.alterAt route (·.merge other)

mutual

def beq : Tree → Tree → Bool
  | .node messages children, .node messages' children' =>
      messages == messages' && beqChildren children children'

def beqChildren : List (String × Tree) → List (String × Tree) → Bool
  | [], [] => true
  | (route, child) :: rest, (route', child') :: rest' =>
      route == route' && beq child child' && beqChildren rest rest'
  | _, _ => false

end

/-- In the tree and in all its subtrees the routes ascend, so each of them is there once. -/
inductive Ordered : Tree → Prop where
  | node {messages : List String} {children : List (String × Tree)}
      (ascending : Ascending.Sorted Text.precedes children)
      (below : ∀ entry ∈ children, Ordered entry.2) : Ordered (.node messages children)

theorem Ordered.leaf (messages : List String) : (Tree.node messages []).Ordered :=
  .node List.Pairwise.nil (by simp)

theorem Ordered.addAll (ordered : tree.Ordered) (messages : List String) :
    (tree.addAll messages).Ordered := by
  cases ordered with
  | node ascending below => exact .node ascending below

theorem Ordered.alterAt {change : Tree → Tree} (ordered : tree.Ordered)
    (keeps : ∀ old : Tree, old.Ordered → (change old).Ordered) (route : String) :
    (tree.alterAt route change).Ordered := by
  cases ordered with
  | node ascending below =>
      refine .node (Ascending.sorted_alter Text.precedes_isStrict route _ ascending) ?_
      intro entry member
      rcases Ascending.mem_alter member with earlier | ⟨old, isChanged, had⟩
      · exact below entry earlier
      · rw [isChanged]
        apply keeps
        cases old with
        | none => exact .leaf []
        | some child => exact below (route, child) (had child rfl)

/-- What additions at the root keep, and grafts that are merged with something that has it, is kept by
merging any tree. -/
theorem merge_keeps (Holds : Tree → Prop)
    (ofAddAll : ∀ (tree : Tree) (messages : List String), Holds tree → Holds (tree.addAll messages))
    (ofGraft : ∀ (tree : Tree) (route : String) (child : Tree), Holds tree →
      (∀ old : Tree, Holds old → Holds (old.merge child)) → Holds (tree.mergeAt route child))
    {tree : Tree} (holds : Holds tree) (other : Tree) : Holds (tree.merge other) := by
  have both : (∀ tree other : Tree, Holds tree → Holds (tree.merge other)) ∧
      ∀ (tree : Tree) (children : List (String × Tree)),
        Holds tree → Holds (tree.mergeChildren children) := by
    apply merge.mutual_induct
    · intro tree messages children below holds
      rw [merge]
      exact below (ofAddAll tree messages holds)
    · intro tree holds
      exact holds
    · intro tree route child rest ofChild ofRest holds
      have here := ofGraft tree route child holds ofChild
      unfold mergeAt at here
      rw [mergeChildren]
      exact ofRest here
  exact both.1 tree other holds

theorem Ordered.mergeAt_of_merge (merged : ∀ old : Tree, old.Ordered → (old.merge other).Ordered)
    (ordered : tree.Ordered) (route : String) : (tree.mergeAt route other).Ordered := by
  unfold mergeAt
  split
  · exact ordered
  · exact ordered.alterAt merged route

theorem Ordered.merge (ordered : tree.Ordered) (other : Tree) : (tree.merge other).Ordered := by
  refine merge_keeps Ordered ?_ ?_ ordered other
  · intro tree messages ordered
    exact ordered.addAll messages
  · intro tree route child ordered merged
    exact Ordered.mergeAt_of_merge merged ordered route

theorem Ordered.mergeAt (ordered : tree.Ordered) (route : String) (other : Tree) :
    (tree.mergeAt route other).Ordered :=
  Ordered.mergeAt_of_merge (fun _ oldOrdered => oldOrdered.merge other) ordered route

end Findings.Tree

@[ext]
structure Findings where
  tree : Findings.Tree
  ordered : tree.Ordered

namespace Findings

def leaf (messages : List String) : Findings := ⟨.node messages [], .leaf messages⟩

def empty : Findings := leaf []

instance : Inhabited Findings := ⟨empty⟩

def isEmpty (findings : Findings) : Bool := findings.tree.isEmpty

def size (findings : Findings) : Nat := findings.tree.size

/-- One line for each message: those of a place before those below it. -/
def lines (findings : Findings) : List String := findings.tree.linesUnder ""

def render (findings : Findings) : String := "\n".intercalate findings.lines

def messagesAt (findings : Findings) (path : List String) : List String :=
  findings.tree.messagesAt path

def addAll (findings : Findings) (messages : List String) : Findings :=
  ⟨findings.tree.addAll messages, findings.ordered.addAll messages⟩

def add (findings : Findings) (message : String) : Findings := findings.addAll [message]

def addAt (findings : Findings) (route message : String) : Findings where
  tree := findings.tree.alterAt route (·.addAll [message])
  ordered := findings.ordered.alterAt (fun _ oldOrdered => oldOrdered.addAll [message]) route

def mergeAt (findings : Findings) (route : String) (other : Findings) : Findings :=
  ⟨findings.tree.mergeAt route other.tree, findings.ordered.mergeAt route other.tree⟩

def result (findings : Findings) : Except Findings Unit :=
  if findings.isEmpty then .ok () else .error findings

instance : BEq Findings := ⟨fun first second => first.tree.beq second.tree⟩

end Findings

end SchemaHistory
