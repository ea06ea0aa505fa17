import SchemaHistory.Proofs.Findings

/-!
Findings place by place. Merging a tree under a route puts the messages of each of its places behind
those that stand there already, and touches no place that is not below the route. So no message is lost,
repeated or moved, however many routes the two trees share and however deep they go.
-/

namespace SchemaHistory.Findings

set_option autoImplicit false

namespace Tree

/-- The tree that has nothing but these findings under the route. -/
def under (tree : Tree) (route : String) : Tree := .node [] [(route, tree)]

variable {tree other : Tree} {route : String}

theorem Ordered.bare {messages : List String} {children : List (String × Tree)}
    (ordered : (Tree.node messages children).Ordered) : (Tree.node [] children).Ordered := by
  cases ordered with
  | node ascending below => exact .node ascending below

theorem Ordered.cons {messages : List String} {child : Tree} {rest : List (String × Tree)}
    (ordered : (Tree.node messages ((route, child) :: rest)).Ordered) :
    Ascending.Sorted Text.precedes ((route, child) :: rest) ∧ child.Ordered ∧
      (Tree.node messages rest).Ordered := by
  cases ordered with
  | node ascending below =>
      refine ⟨ascending, below (route, child) List.mem_cons_self, ?_⟩
      refine .node (List.pairwise_cons.1 ascending).2 ?_
      intro entry member
      exact below entry (List.mem_cons_of_mem _ member)

theorem Ordered.under (ordered : tree.Ordered) (route : String) : (tree.under route).Ordered := by
  refine .node (List.pairwise_singleton _ _) ?_
  intro entry member
  rw [List.mem_singleton.1 member]
  exact ordered

theorem messagesAt_subset_gathered (tree : Tree) (path : List String) :
    tree.messagesAt path ⊆ tree.gathered := by
  induction path generalizing tree with
  | nil =>
      obtain ⟨messages, children⟩ := tree
      exact List.subset_append_left _ _
  | cons route path ih =>
      obtain ⟨messages, children⟩ := tree
      rw [messagesAt, gathered]
      apply List.subset_append_of_subset_right
      cases found : children.lookup route with
      | none => exact List.nil_subset _
      | some child =>
          exact List.Subset.trans (ih child) (gathered_subset_below (Ascending.mem_of_lookup found))

theorem messagesAt_of_isEmpty (isEmpty : tree.isEmpty = true) (path : List String) :
    tree.messagesAt path = [] := by
  have none := tree.messagesAt_subset_gathered path
  rw [gathered_eq_nil.2 isEmpty] at none
  exact List.subset_nil.1 none

theorem messagesAt_node (messages : List String) (children : List (String × Tree))
    (path : List String) :
    (node messages children).messagesAt path =
      (node messages []).messagesAt path ++ (node [] children).messagesAt path := by
  cases path with
  | nil => simp [messagesAt]
  | cons route path => simp [messagesAt]

theorem messagesAt_addAll (tree : Tree) (messages path : List String) :
    (tree.addAll messages).messagesAt path =
      tree.messagesAt path ++ (node messages []).messagesAt path := by
  obtain ⟨own, children⟩ := tree
  cases path with
  | nil => rfl
  | cons route path => simp [addAll, messagesAt, Tree.children]

theorem messagesAt_alterAt_self {change : Tree → Tree} (ordered : tree.Ordered)
    (route : String) (path : List String) :
    (tree.alterAt route change).messagesAt (route :: path) =
      (change ((tree.children.lookup route).getD Tree.empty)).messagesAt path := by
  cases ordered with
  | node ascending below =>
      simp only [alterAt, messagesAt, Tree.children]
      rw [Ascending.lookup_alter_self Text.precedes_isStrict (Text.precedes_irrefl route) _ ascending]

theorem ne_of_elsewhere {first : String} {path : List String}
    (elsewhere : (first :: path).head? ≠ some route) : first ≠ route := by
  intro same
  exact elsewhere (by rw [same, List.head?_cons])

theorem lookup_elsewhere {first : String} {path : List String}
    (elsewhere : (first :: path).head? ≠ some route) (child : Tree)
    (rest : List (String × Tree)) : ((route, child) :: rest).lookup first = rest.lookup first := by
  rw [List.lookup_cons, beq_eq_false_iff_ne.2 (ne_of_elsewhere elsewhere)]

theorem messagesAt_alterAt_other {change : Tree → Tree} {path : List String}
    (elsewhere : path.head? ≠ some route) (tree : Tree) :
    (tree.alterAt route change).messagesAt path = tree.messagesAt path := by
  obtain ⟨messages, children⟩ := tree
  cases path with
  | nil => rfl
  | cons first path =>
      have different : first ≠ route := ne_of_elsewhere elsewhere
      simp only [alterAt, messagesAt, Tree.children, Ascending.lookup_alter_other different]

theorem messagesAt_under_self (tree : Tree) (route : String) (path : List String) :
    (tree.under route).messagesAt (route :: path) = tree.messagesAt path := by
  simp [under, messagesAt]

theorem messagesAt_under_other {path : List String} (elsewhere : path.head? ≠ some route)
    (tree : Tree) : (tree.under route).messagesAt path = [] := by
  cases path with
  | nil => rfl
  | cons first path =>
      simp only [under, messagesAt, lookup_elsewhere elsewhere, List.lookup_nil]

/-- What a tree holds for a route is what the subtree holds that is looked up, or nothing. -/
theorem messagesAt_cons (tree : Tree) (route : String) (path : List String) :
    tree.messagesAt (route :: path) =
      ((tree.children.lookup route).getD Tree.empty).messagesAt path := by
  obtain ⟨messages, children⟩ := tree
  rw [messagesAt, Tree.children]
  cases children.lookup route with
  | none => exact (messagesAt_of_isEmpty rfl path).symm
  | some child => rfl

theorem Ordered.lookup (ordered : tree.Ordered) (route : String) :
    ((tree.children.lookup route).getD Tree.empty).Ordered := by
  cases ordered with
  | @node messages children ascending below =>
      rw [Tree.children]
      cases found : children.lookup route with
      | none => exact .leaf []
      | some child =>
          exact below (route, child) (Ascending.mem_of_lookup found)

theorem messagesAt_mergeAt_of_merge
    (merged : ∀ old : Tree, old.Ordered → ∀ path,
      (old.merge other).messagesAt path = old.messagesAt path ++ other.messagesAt path)
    (ordered : tree.Ordered) (route : String) (path : List String) :
    (tree.mergeAt route other).messagesAt path =
      tree.messagesAt path ++ (other.under route).messagesAt path := by
  by_cases elsewhere : path.head? ≠ some route
  · rw [messagesAt_under_other elsewhere, List.append_nil]
    unfold mergeAt
    split
    · rfl
    · exact messagesAt_alterAt_other elsewhere tree
  · obtain ⟨path, rfl⟩ := List.head?_eq_some_iff.1 (Decidable.not_not.1 elsewhere)
    rw [messagesAt_under_self]
    unfold mergeAt
    split
    · rename_i isEmpty
      rw [messagesAt_of_isEmpty isEmpty, List.append_nil]
    · rw [messagesAt_alterAt_self ordered, merged _ (ordered.lookup route), ← messagesAt_cons]

/-- The subtrees of an ordered tree hold together what each of them holds under its route. -/
theorem messagesAt_children {child : Tree} {rest : List (String × Tree)}
    (ascending : Ascending.Sorted Text.precedes ((route, child) :: rest)) (path : List String) :
    (node [] ((route, child) :: rest)).messagesAt path =
      (child.under route).messagesAt path ++ (node [] rest).messagesAt path := by
  by_cases elsewhere : path.head? ≠ some route
  · rw [messagesAt_under_other elsewhere, List.nil_append]
    cases path with
    | nil => rfl
    | cons first path => simp only [messagesAt, lookup_elsewhere elsewhere]
  · obtain ⟨path, rfl⟩ := List.head?_eq_some_iff.1 (Decidable.not_not.1 elsewhere)
    have onlyHere : rest.lookup route = none :=
      Ascending.lookup_eq_none_of_before (Text.precedes_irrefl route)
        (List.pairwise_cons.1 ascending).1
    rw [messagesAt_under_self]
    simp only [messagesAt, List.lookup_cons_self, onlyHere, List.append_nil]

-- The tree that is merged in shrinks, and the one that it is merged into stays ordered.
theorem messagesAt_merge (ordered : tree.Ordered) (otherOrdered : other.Ordered)
    (path : List String) :
    (tree.merge other).messagesAt path = tree.messagesAt path ++ other.messagesAt path := by
  have both :
      (∀ tree other : Tree, other.Ordered → tree.Ordered → ∀ path,
        (tree.merge other).messagesAt path =
          tree.messagesAt path ++ other.messagesAt path) ∧
      ∀ (tree : Tree) (children : List (String × Tree)), (node [] children).Ordered →
        tree.Ordered → ∀ path,
          (tree.mergeChildren children).messagesAt path =
            tree.messagesAt path ++ (node [] children).messagesAt path := by
    apply merge.mutual_induct
    · intro tree messages children ofChildren otherOrdered ordered path
      rw [merge, ofChildren otherOrdered.bare (ordered.addAll messages), messagesAt_addAll,
        messagesAt_node messages children, List.append_assoc]
    · intro tree _ _ path
      have nothing : (node [] []).messagesAt path = [] := messagesAt_of_isEmpty rfl path
      rw [mergeChildren, nothing, List.append_nil]
    · intro tree route child rest ofChild ofRest otherOrdered ordered path
      obtain ⟨ascending, childOrdered, restOrdered⟩ := otherOrdered.cons
      have here := messagesAt_mergeAt_of_merge (fun old => ofChild old childOrdered) ordered
        route path
      have stillOrdered := ordered.mergeAt route child
      unfold mergeAt at here stillOrdered
      rw [mergeChildren, ofRest restOrdered stillOrdered, here, messagesAt_children ascending,
        List.append_assoc]
  exact both.1 tree other otherOrdered ordered path

theorem messagesAt_mergeAt (ordered : tree.Ordered) (otherOrdered : other.Ordered) (route : String)
    (path : List String) :
    (tree.mergeAt route other).messagesAt path =
      tree.messagesAt path ++ (other.under route).messagesAt path :=
  messagesAt_mergeAt_of_merge
    (fun _ oldOrdered => messagesAt_merge oldOrdered otherOrdered) ordered route path

end Tree

variable {findings other : Findings} {route : String}

def under (findings : Findings) (route : String) : Findings :=
  ⟨findings.tree.under route, findings.ordered.under route⟩

theorem messagesAt_of_isEmpty (isEmpty : findings.isEmpty = true) (path : List String) :
    findings.messagesAt path = [] :=
  Tree.messagesAt_of_isEmpty isEmpty path

theorem messagesAt_addAll (findings : Findings) (messages path : List String) :
    (findings.addAll messages).messagesAt path =
      findings.messagesAt path ++ (leaf messages).messagesAt path :=
  findings.tree.messagesAt_addAll messages path

theorem messagesAt_leaf_below (messages : List String) (route : String) (path : List String) :
    (leaf messages).messagesAt (route :: path) = [] := rfl

theorem messagesAt_under_self (findings : Findings) (route : String) (path : List String) :
    (findings.under route).messagesAt (route :: path) = findings.messagesAt path :=
  findings.tree.messagesAt_under_self route path

theorem messagesAt_under_other {path : List String} (elsewhere : path.head? ≠ some route)
    (findings : Findings) : (findings.under route).messagesAt path = [] :=
  Tree.messagesAt_under_other elsewhere findings.tree

theorem messagesAt_mergeAt (findings : Findings) (route : String) (other : Findings)
    (path : List String) :
    (findings.mergeAt route other).messagesAt path =
      findings.messagesAt path ++ (other.under route).messagesAt path :=
  Tree.messagesAt_mergeAt findings.ordered other.ordered route path

theorem messagesAt_foldl_mergeAt {α : Type} (route : α → String) (findingsOf : α → Findings)
    (items : List α) (start : Findings) (path : List String) :
    (items.foldl (fun findings item => findings.mergeAt (route item) (findingsOf item))
        start).messagesAt path =
      start.messagesAt path ++
        items.flatMap fun item => ((findingsOf item).under (route item)).messagesAt path := by
  induction items generalizing start with
  | nil => rw [List.foldl_nil, List.flatMap_nil, List.append_nil]
  | cons item rest ih =>
      rw [List.foldl_cons, ih, messagesAt_mergeAt, List.flatMap_cons, List.append_assoc]

/-- Merging findings under a route appends their messages place by place below the route, leaves every
other place as it is, and adds as many messages as there are in them. Adding a message at a route is
merging the findings that have this message only. -/
theorem mergeAt_by_place (findings other : Findings) (route : String) :
    (∀ path, (findings.mergeAt route other).messagesAt (route :: path) =
        findings.messagesAt (route :: path) ++ other.messagesAt path) ∧
      (∀ path, path.head? ≠ some route →
        (findings.mergeAt route other).messagesAt path = findings.messagesAt path) ∧
      (findings.mergeAt route other).size = findings.size + other.size ∧
      ∀ message, findings.addAt route message = findings.mergeAt route (empty.add message) := by
  refine ⟨?_, ?_, findings.size_mergeAt route other, fun message => rfl⟩
  · intro path
    rw [messagesAt_mergeAt, messagesAt_under_self]
  · intro path elsewhere
    rw [messagesAt_mergeAt, messagesAt_under_other elsewhere, List.append_nil]

end SchemaHistory.Findings

namespace SchemaHistory.Cinema

open Findings

def earlyReport : Findings :=
  (empty.add "no checkpoint").mergeAt "1.0.0" ((empty.add "two films").mergeAt "Film" (empty.add "no title"))

def lateReport : Findings := (empty.addAt "Genre" "no name").addAt "Film" "no genre"

theorem reports_merged :
    (earlyReport.mergeAt "1.0.0" lateReport).messagesAt ["1.0.0", "Film"] =
        ["no title", "no genre"] ∧
      (earlyReport.mergeAt "1.0.0" lateReport).messagesAt ["1.0.0", "Genre"] = ["no name"] ∧
      (earlyReport.mergeAt "1.0.0" lateReport).messagesAt [] = ["no checkpoint"] ∧
      (earlyReport.mergeAt "2.0.0" lateReport).messagesAt ["1.0.0", "Film"] = ["no title"] ∧
      (earlyReport.mergeAt "1.0.0" lateReport).size = 5 := by
  obtain ⟨below, elsewhere, counted, -⟩ := mergeAt_by_place earlyReport lateReport "1.0.0"
  obtain ⟨-, elsewhereToo, -⟩ := mergeAt_by_place earlyReport lateReport "2.0.0"
  refine ⟨?_, ?_, ?_, ?_, ?_⟩
  · rw [below]
    rfl
  · rw [below]
    rfl
  · rw [elsewhere [] (by simp)]
    rfl
  · rw [elsewhereToo ["1.0.0", "Film"] (by simp)]
    rfl
  · rw [counted]
    rfl

end SchemaHistory.Cinema
