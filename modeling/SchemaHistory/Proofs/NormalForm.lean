import SchemaHistory.Proofs.MessagesByPlace

/-!
The normal form of findings. Gathering never leaves an empty subtree behind, although a route gets its
subtree before anything is put into it: what is empty is not merged, and what is merged is not empty. So
the messages by place say all there is to a tree, and two trees that report the same are the same tree,
in whatever order their routes were met.
-/

namespace SchemaHistory.Findings

set_option autoImplicit false

namespace Tree

/-- No subtree is empty, at any depth. -/
inductive Pruned : Tree → Prop where
  | node {messages : List String} {children : List (String × Tree)}
      (notEmpty : ∀ entry ∈ children, entry.2.isEmpty = false)
      (below : ∀ entry ∈ children, Pruned entry.2) : Pruned (.node messages children)

variable {tree other first second : Tree}

theorem beq_iff (first second : Tree) : first.beq second = true ↔ first = second := by
  have both : (∀ first second : Tree, beq first second = true ↔ first = second) ∧
      ∀ children others, beqChildren children others = true ↔ children = others := by
    apply beq.mutual_induct
    · intro messages children messages' children' below
      simp only [beq, Bool.and_eq_true, beq_iff_eq, below, node.injEq]
    · simp [beqChildren]
    · intro route child rest route' child' rest' ofChild ofRest
      simp only [beqChildren, Bool.and_eq_true, beq_iff_eq, ofChild, ofRest, List.cons.injEq,
        Prod.mk.injEq]
    · intro children others notNil notCons
      cases children with
      | nil =>
          cases others with
          | nil => exact absurd rfl (notNil rfl)
          | cons => simp [beqChildren]
      | cons =>
          cases others with
          | nil => simp [beqChildren]
          | cons => exact (notCons _ _ _ _ _ _ rfl rfl).elim
  exact both.1 first second

theorem Pruned.empty : Tree.empty.Pruned := .node (by simp) (by simp)

theorem Pruned.addAll (pruned : tree.Pruned) (messages : List String) :
    (tree.addAll messages).Pruned := by
  cases pruned with
  | node notEmpty below => exact .node notEmpty below

theorem Pruned.alterAt {change : Tree → Tree} (pruned : tree.Pruned)
    (keeps : ∀ old : Tree, old.Pruned → (change old).Pruned)
    (fills : ∀ old : Tree, (change old).isEmpty = false) (route : String) :
    (tree.alterAt route change).Pruned := by
  cases pruned with
  | node notEmpty below =>
      refine .node ?_ ?_
      · intro entry member
        rcases Ascending.mem_alter member with earlier | ⟨old, isChanged, -⟩
        · exact notEmpty entry earlier
        · rw [isChanged]
          exact fills _
      · intro entry member
        rcases Ascending.mem_alter member with earlier | ⟨old, isChanged, had⟩
        · exact below entry earlier
        · rw [isChanged]
          apply keeps
          cases old with
          | none => exact .empty
          | some child => exact below (route, child) (had child rfl)

theorem Pruned.mergeAt_of_merge (pruned : tree.Pruned) (route : String)
    (merged : ∀ old : Tree, old.Pruned → (old.merge other).Pruned) :
    (tree.mergeAt route other).Pruned := by
  unfold Tree.mergeAt
  split
  · exact pruned
  · rename_i filled
    refine pruned.alterAt merged ?_ route
    intro old
    rw [isEmpty_merge, Bool.eq_false_iff.2 filled, Bool.and_false]

theorem Pruned.merge (pruned : tree.Pruned) (other : Tree) :
    (tree.merge other).Pruned := by
  refine merge_keeps Pruned ?_ ?_ pruned other
  · intro tree messages pruned
    exact pruned.addAll messages
  · intro tree route child pruned merged
    exact pruned.mergeAt_of_merge route merged

theorem Pruned.mergeAt (pruned : tree.Pruned) (route : String) (other : Tree) :
    (tree.mergeAt route other).Pruned :=
  pruned.mergeAt_of_merge route fun _ oldPruned => oldPruned.merge other

theorem Pruned.isEmpty_iff (pruned : tree.Pruned) :
    tree.isEmpty = true ↔ tree = .empty := by
  cases pruned with
  | @node messages children notEmpty below =>
      cases children with
      | nil => simp [Tree.isEmpty, areEmpty, Tree.empty]
      | cons head rest =>
          have filled := notEmpty head List.mem_cons_self
          simp [Tree.isEmpty, areEmpty, Tree.empty, filled]

theorem Pruned.exists_message (pruned : tree.Pruned) (filled : tree.isEmpty = false) :
    ∃ path, tree.messagesAt path ≠ [] := by
  induction pruned with
  | @node messages children notEmpty below ih =>
      cases children with
      | nil =>
          refine ⟨[], ?_⟩
          simpa [Tree.isEmpty, areEmpty, messagesAt] using filled
      | cons head rest =>
          obtain ⟨route, child⟩ := head
          obtain ⟨path, here⟩ :=
            ih (route, child) List.mem_cons_self (notEmpty (route, child) List.mem_cons_self)
          refine ⟨route :: path, ?_⟩
          simpa [messagesAt] using here

theorem Pruned.lookup (pruned : tree.Pruned) (route : String) :
    ((tree.children.lookup route).getD Tree.empty).Pruned := by
  cases pruned with
  | @node messages children notEmpty below =>
      rw [Tree.children]
      cases found : children.lookup route with
      | none => exact .empty
      | some child => exact below (route, child) (Ascending.mem_of_lookup found)

theorem Pruned.lookup_eq_none_iff (pruned : tree.Pruned) (route : String) :
    tree.children.lookup route = none ↔ ∀ path, tree.messagesAt (route :: path) = [] := by
  cases pruned with
  | @node messages children notEmpty below =>
      simp only [messagesAt_cons, Tree.children]
      cases found : children.lookup route with
      | none => exact iff_of_true rfl (messagesAt_of_isEmpty rfl)
      | some child =>
          have member : (route, child) ∈ children := Ascending.mem_of_lookup found
          obtain ⟨path, here⟩ :=
            (below (route, child) member).exists_message (notEmpty (route, child) member)
          refine iff_of_false (by simp) ?_
          intro nothing
          exact here (nothing path)

theorem lookup_of_filled {children : List (String × Tree)} {route : String} {child : Tree}
    (filled : child.isEmpty = false) (isChild : child = (children.lookup route).getD Tree.empty) :
    children.lookup route = some child := by
  cases found : children.lookup route with
  | none =>
      rw [isChild, found] at filled
      cases filled
  | some other => rw [isChild, found, Option.getD_some]

-- The induction is on the first tree; the second one has the same routes, and below them the same.
theorem eq_of_messagesAt (ordered : first.Ordered) (pruned : first.Pruned)
    (otherOrdered : second.Ordered) (otherPruned : second.Pruned)
    (same : ∀ path, first.messagesAt path = second.messagesAt path) : first = second := by
  induction ordered generalizing second with
  | @node messages children ascending below ih =>
      obtain ⟨otherMessages, otherChildren⟩ := second
      have sameMessages : messages = otherMessages := same []
      have sameRoutes : ∀ route, children.lookup route = otherChildren.lookup route := by
        intro route
        cases found : children.lookup route with
        | none =>
            have nothing := (pruned.lookup_eq_none_iff route).1 found
            refine ((otherPruned.lookup_eq_none_iff route).2 ?_).symm
            intro path
            rw [← same, nothing]
        | some child =>
            have member : (route, child) ∈ children := Ascending.mem_of_lookup found
            cases pruned with
            | node notEmpty prunedBelow =>
                have sameChild : child = (otherChildren.lookup route).getD Tree.empty := by
                  apply ih (route, child) member (prunedBelow (route, child) member)
                    (otherOrdered.lookup route) (otherPruned.lookup route)
                  intro path
                  have here := same (route :: path)
                  rw [messagesAt_cons, messagesAt_cons] at here
                  rw [Tree.children, found, Option.getD_some] at here
                  exact here
                have filled : child.isEmpty = false := notEmpty (route, child) member
                exact (lookup_of_filled filled sameChild).symm
      have sameChildren : children = otherChildren := by
        cases otherOrdered with
        | node otherAscending _ =>
            exact Ascending.eq_of_lookup Text.precedes_isStrict Text.precedes_irrefl ascending
              otherAscending sameRoutes
      rw [sameMessages, sameChildren]

theorem empty_merge (ordered : other.Ordered) (pruned : other.Pruned) :
    Tree.empty.merge other = other := by
  apply eq_of_messagesAt ((Ordered.leaf []).merge other) (Pruned.empty.merge other) ordered pruned
  intro path
  rw [messagesAt_merge (.leaf []) ordered, messagesAt_of_isEmpty rfl, List.nil_append]

/-- A tree that is merged under a route before all others becomes the first subtree. -/
theorem mergeAt_in_front {messages : List String} {route : String} {child : Tree}
    {rest : List (String × Tree)}
    (ascending : Ascending.Sorted Text.precedes ((route, child) :: rest))
    (ordered : child.Ordered) (pruned : child.Pruned) (filled : child.isEmpty = false) :
    (node messages rest).mergeAt route child = node messages ((route, child) :: rest) := by
  have inFront := (List.pairwise_cons.1 ascending).1
  have notEmpty : ¬child.isEmpty = true := by simp [filled]
  rw [mergeAt, if_neg notEmpty, alterAt, Tree.children,
    Ascending.alter_of_before inFront, Option.getD_none, empty_merge ordered pruned]
  rfl

end Tree

/-- Made of empty findings by adding messages and merging findings that are made so. -/
inductive Built : Findings → Prop where
  | empty : Built .empty
  | add {findings : Findings} (built : Built findings) (message : String) :
      Built (findings.add message)
  | addAt {findings : Findings} (built : Built findings) (route message : String) :
      Built (findings.addAt route message)
  | mergeAt {findings other : Findings} (built : Built findings) (route : String)
      (otherBuilt : Built other) : Built (findings.mergeAt route other)

/-- What can be done under one route, in one step or in several. -/
inductive Acts (route : String) : (Findings → Findings) → Prop where
  | message (message : String) : Acts route fun findings => findings.addAt route message
  | tree {other : Findings} (built : Built other) :
      Acts route fun findings => findings.mergeAt route other
  | followed {act further : Findings → Findings} (acts : Acts route act)
      (actsFurther : Acts route further) : Acts route fun findings => further (act findings)

variable {findings other first second : Findings}

theorem Built.pruned (built : Built findings) : findings.tree.Pruned := by
  induction built with
  | empty => exact .empty
  | add _ message ih => exact ih.addAll [message]
  | addAt _ route message ih => exact ih.mergeAt route (Findings.empty.add message).tree
  | @mergeAt _ other _ route _ ih _ => exact ih.mergeAt route other.tree

theorem Built.leaf (messages : List String) : Built (leaf messages) := by
  have added : ∀ findings : Findings, Built findings → Built (findings.addAll messages) := by
    induction messages with
    | nil =>
        intro findings built
        rw [addAll_nil]
        exact built
    | cons message rest ih =>
        intro findings built
        have all : findings.addAll (message :: rest) = (findings.add message).addAll rest :=
          (addAll_addAll findings [message] rest).symm
        rw [all]
        exact ih _ (built.add message)
  exact added Findings.empty .empty

theorem Built.node {messages : List String} {children : List (String × Tree)}
    (ordered : (Tree.node messages children).Ordered)
    (notEmpty : ∀ entry ∈ children, entry.2.isEmpty = false)
    (below : ∀ entry ∈ children, ∀ ordered : entry.2.Ordered, Built ⟨entry.2, ordered⟩) :
    Built ⟨.node messages children, ordered⟩ := by
  induction children with
  | nil => exact .leaf messages
  | cons head rest ih =>
      obtain ⟨route, child⟩ := head
      obtain ⟨ascending, childOrdered, restOrdered⟩ := ordered.cons
      have childBuilt : Built ⟨child, childOrdered⟩ :=
        below (route, child) List.mem_cons_self childOrdered
      have restBuilt : Built ⟨.node messages rest, restOrdered⟩ := by
        apply ih restOrdered
        · intro entry member
          exact notEmpty entry (List.mem_cons_of_mem _ member)
        · intro entry member
          exact below entry (List.mem_cons_of_mem _ member)
      have inFront : (⟨.node messages rest, restOrdered⟩ : Findings).mergeAt route
          ⟨child, childOrdered⟩ = ⟨.node messages ((route, child) :: rest), ordered⟩ :=
        Findings.ext (Tree.mergeAt_in_front ascending childOrdered childBuilt.pruned
          (notEmpty (route, child) List.mem_cons_self))
      rw [← inFront]
      exact restBuilt.mergeAt route childBuilt

theorem built_of_pruned {tree : Tree} (pruned : tree.Pruned) (ordered : tree.Ordered) :
    Built ⟨tree, ordered⟩ := by
  induction pruned with
  | node notEmpty _ ih => exact Built.node ordered notEmpty ih

/-- The findings that can be built are those without empty subtrees. -/
theorem built_iff : Built findings ↔ findings.tree.Pruned :=
  ⟨Built.pruned, fun pruned => built_of_pruned pruned findings.ordered⟩

theorem Built.eq_of_messagesAt (built : Built first) (otherBuilt : Built second)
    (same : ∀ path, first.messagesAt path = second.messagesAt path) : first = second :=
  Findings.ext
    (Tree.eq_of_messagesAt first.ordered built.pruned second.ordered otherBuilt.pruned same)

theorem Built.isEmpty_iff (built : Built findings) : findings.isEmpty = true ↔ findings = .empty := by
  rw [Findings.ext_iff]
  exact built.pruned.isEmpty_iff

theorem Built.mergeAt_comm {route later : String} {child laterChild : Findings}
    (built : Built findings) (different : route ≠ later) (childBuilt : Built child)
    (laterBuilt : Built laterChild) :
    (findings.mergeAt route child).mergeAt later laterChild =
      (findings.mergeAt later laterChild).mergeAt route child := by
  apply ((built.mergeAt route childBuilt).mergeAt later laterBuilt).eq_of_messagesAt
    ((built.mergeAt later laterBuilt).mergeAt route childBuilt)
  intro path
  simp only [messagesAt_mergeAt]
  by_cases here : path.head? = some route
  · have notLater : path.head? ≠ some later := by
      rw [here]
      exact fun same => different (Option.some.inj same)
    rw [messagesAt_under_other notLater, List.append_nil, List.append_nil]
  · rw [messagesAt_under_other here, List.append_nil, List.append_nil]

theorem Acts.built {route : String} {act : Findings → Findings} (acts : Acts route act)
    (built : Built findings) : Built (act findings) := by
  induction acts generalizing findings with
  | message message => exact built.addAt route message
  | tree otherBuilt => exact built.mergeAt route otherBuilt
  | followed _ _ ih ihFurther => exact ihFurther (ih built)

/-- One merge under a route can be done before or after anything that is done under another route. -/
theorem Acts.comm_mergeAt {route later : String} {act : Findings → Findings} {child : Findings}
    (acts : Acts later act) (different : route ≠ later) (built : Built findings)
    (childBuilt : Built child) :
    act (findings.mergeAt route child) = (act findings).mergeAt route child := by
  induction acts generalizing findings with
  | message message => exact built.mergeAt_comm different childBuilt (Built.empty.add message)
  | tree otherBuilt => exact built.mergeAt_comm different childBuilt otherBuilt
  | followed acts _ ih ihFurther =>
      dsimp only
      rw [ih built, ihFurther (acts.built built)]

theorem Acts.comm {route later : String} {act actLater : Findings → Findings}
    (acts : Acts route act) (actsLater : Acts later actLater) (different : route ≠ later)
    (built : Built findings) : actLater (act findings) = act (actLater findings) := by
  induction acts generalizing findings with
  | message message => exact actsLater.comm_mergeAt different built (Built.empty.add message)
  | tree otherBuilt => exact actsLater.comm_mergeAt different built otherBuilt
  | followed acts _ ih ihFurther =>
      dsimp only
      rw [ihFurther (acts.built built), ih built]

/-- The findings that are built from empty ones are those with no empty subtree at any depth. So findings
that are built are empty only when they are the ones without anything, they equal others exactly when both
hold the same messages at every place, and what is done under different routes can be done in either
order. -/
theorem built_in_normal_form (built : Built first) (otherBuilt : Built second) :
    (∀ findings : Findings, Built findings ↔ findings.tree.Pruned) ∧
      (first.isEmpty = true ↔ first = .empty) ∧
      ((first == second) = true ↔ first = second) ∧
      (first = second ↔ ∀ path, first.messagesAt path = second.messagesAt path) ∧
      ∀ (route later : String) (act actLater : Findings → Findings), route ≠ later →
        Acts route act → Acts later actLater → actLater (act first) = act (actLater first) := by
  refine ⟨fun _ => built_iff, built.isEmpty_iff, ?_, ?_, ?_⟩
  · rw [Findings.ext_iff]
    exact Tree.beq_iff first.tree second.tree
  · constructor
    · intro same path
      rw [same]
    · exact built.eq_of_messagesAt otherBuilt
  · intro route later act actLater different acts actsLater
    exact acts.comm actsLater different built

end SchemaHistory.Findings

namespace SchemaHistory.Cinema

open Findings

theorem reports_in_either_order :
    Built earlyReport ∧ Built lateReport ∧ earlyReport.tree.Pruned ∧ earlyReport ≠ .empty ∧
      (earlyReport == lateReport) = false ∧
      (earlyReport.mergeAt "1.0.0" lateReport).mergeAt "2.0.0" earlyReport =
        (earlyReport.mergeAt "2.0.0" earlyReport).mergeAt "1.0.0" lateReport := by
  have early : Built earlyReport :=
    (Built.empty.add "no checkpoint").mergeAt "1.0.0"
      ((Built.empty.add "two films").mergeAt "Film" (Built.empty.add "no title"))
  have late : Built lateReport :=
    (Built.empty.addAt "Genre" "no name").addAt "Film" "no genre"
  obtain ⟨normalIff, emptyIff, equalIff, placesIff, eitherOrder⟩ := built_in_normal_form early late
  refine ⟨early, late, (normalIff earlyReport).1 early, ?_, ?_, ?_⟩
  · intro isEmpty
    cases emptyIff.2 isEmpty
  · rw [← Bool.not_eq_true, equalIff, placesIff]
    intro same
    cases same []
  · exact eitherOrder "1.0.0" "2.0.0" (·.mergeAt "1.0.0" lateReport) (·.mergeAt "2.0.0" earlyReport)
      (by decide) (.tree late) (.tree early)

end SchemaHistory.Cinema
