import Mathlib.Data.List.Perm.Basic
import SchemaHistory.Findings

/-!
Gathering findings loses none of them and makes none: after a merge a tree has its messages and those of
the other, whatever routes they share. In particular it is empty exactly when both of them are.
-/

namespace SchemaHistory.Findings

set_option autoImplicit false

namespace Tree

variable {tree other : Tree}

mutual

/-- All messages, those of a place before those below it. -/
def gathered : Tree → List String
  | .node messages children => messages ++ gatheredBelow children

def gatheredBelow : List (String × Tree) → List String
  | [] => []
  | (_, child) :: rest => gathered child ++ gatheredBelow rest

end

theorem length_gathered (tree : Tree) : tree.gathered.length = tree.size := by
  have both : (∀ tree : Tree, tree.gathered.length = tree.size) ∧
      ∀ children, (gatheredBelow children).length = sizes children := by
    apply size.mutual_induct
    · intro messages children below
      rw [gathered, size, List.length_append, below]
    · rfl
    · intro route child rest ofChild ofRest
      rw [gatheredBelow, sizes, List.length_append, ofChild, ofRest]
  exact both.1 tree

theorem gathered_eq_nil : tree.gathered = [] ↔ tree.isEmpty = true := by
  have both : (∀ tree : Tree, tree.gathered = [] ↔ tree.isEmpty = true) ∧
      ∀ children, gatheredBelow children = [] ↔ areEmpty children = true := by
    apply isEmpty.mutual_induct
    · intro messages children below
      rw [gathered, Tree.isEmpty, List.append_eq_nil_iff, Bool.and_eq_true, List.isEmpty_iff, below]
    · simp [gatheredBelow, areEmpty]
    · intro route child rest ofChild ofRest
      rw [gatheredBelow, areEmpty, List.append_eq_nil_iff, Bool.and_eq_true, ofChild, ofRest]
  exact both.1 tree

theorem gathered_subset_below {children : List (String × Tree)} {entry : String × Tree}
    (member : entry ∈ children) : entry.2.gathered ⊆ gatheredBelow children := by
  induction children with
  | nil => simp at member
  | cons head rest ih =>
      rw [gatheredBelow]
      rcases List.mem_cons.1 member with rfl | inside
      · exact List.subset_append_left _ _
      · exact List.subset_append_of_subset_right _ (ih inside)

theorem gathered_addAll (tree : Tree) (messages : List String) :
    (tree.addAll messages).gathered.Perm (tree.gathered ++ messages) := by
  obtain ⟨own, children⟩ := tree
  simp only [addAll, gathered, Tree.messages, Tree.children, List.append_assoc]
  exact List.Perm.append_left own List.perm_append_comm

theorem addAll_addAll (tree : Tree) (first second : List String) :
    (tree.addAll first).addAll second = tree.addAll (first ++ second) := by
  simp only [addAll, Tree.messages, Tree.children, List.append_assoc]

theorem addAll_nil (tree : Tree) : tree.addAll [] = tree := by
  obtain ⟨messages, children⟩ := tree
  rw [addAll, Tree.messages, Tree.children, List.append_nil]

theorem gatheredBelow_alter {route : String} {change : Option Tree → Tree} {added : List String}
    (adds : ∀ old, (change old).gathered.Perm ((old.getD empty).gathered ++ added))
    (children : List (String × Tree)) :
    (gatheredBelow (Ascending.alter Text.precedes route change children)).Perm
      (gatheredBelow children ++ added) := by
  have created : (change none).gathered.Perm added := by
    simpa [empty, gathered, gatheredBelow] using adds none
  induction children with
  | nil => simpa [Ascending.alter, gatheredBelow] using created
  | cons head rest ih =>
      obtain ⟨first, child⟩ := head
      rw [Ascending.alter]
      split
      · rw [gatheredBelow]
        exact (created.append_right _).trans List.perm_append_comm
      · split
        · have changed := adds (some child)
          rw [Option.getD_some] at changed
          rw [gatheredBelow, gatheredBelow, List.append_assoc]
          refine (changed.append_right _).trans ?_
          rw [List.append_assoc]
          exact List.Perm.append_left _ List.perm_append_comm
        · rw [gatheredBelow, gatheredBelow, List.append_assoc]
          exact ih.append_left _

theorem gathered_alterAt {change : Tree → Tree} {added : List String}
    (adds : ∀ old : Tree, (change old).gathered.Perm (old.gathered ++ added))
    (tree : Tree) (route : String) :
    (tree.alterAt route change).gathered.Perm (tree.gathered ++ added) := by
  obtain ⟨messages, children⟩ := tree
  simp only [alterAt, gathered, Tree.messages, Tree.children, List.append_assoc]
  exact (gatheredBelow_alter (fun old => adds (old.getD empty)) children).append_left messages

theorem gathered_mergeAt_of_merge
    (merged : ∀ old : Tree, (old.merge other).gathered.Perm (old.gathered ++ other.gathered))
    (tree : Tree) (route : String) :
    (tree.mergeAt route other).gathered.Perm (tree.gathered ++ other.gathered) := by
  unfold mergeAt
  split
  · rename_i isEmpty
    rw [gathered_eq_nil.2 isEmpty, List.append_nil]
  · exact gathered_alterAt merged tree route

-- The recursion of `merge` is on the other tree, with any tree that it may be merged into.
theorem gathered_merge (tree other : Tree) :
    (tree.merge other).gathered.Perm (tree.gathered ++ other.gathered) := by
  have both : (∀ tree other : Tree,
        (tree.merge other).gathered.Perm (tree.gathered ++ other.gathered)) ∧
      ∀ (tree : Tree) (children : List (String × Tree)),
        (tree.mergeChildren children).gathered.Perm
          (tree.gathered ++ gatheredBelow children) := by
    apply merge.mutual_induct
    · intro tree messages children below
      have own := tree.gathered_addAll messages
      rw [merge, gathered, ← List.append_assoc]
      exact below.trans (own.append_right _)
    · intro tree
      rw [mergeChildren, gatheredBelow, List.append_nil]
    · intro tree route child rest ofChild ofRest
      have here := gathered_mergeAt_of_merge ofChild tree route
      unfold mergeAt at here
      rw [mergeChildren, gatheredBelow, ← List.append_assoc]
      exact ofRest.trans (here.append_right _)
  exact both.1 tree other

theorem isEmpty_iff_of_gathered {messages : List String} (all : tree.gathered.Perm messages) :
    tree.isEmpty = true ↔ messages = [] := by
  rw [← gathered_eq_nil, ← List.length_eq_zero_iff, all.length_eq, List.length_eq_zero_iff]

theorem isEmpty_merge (tree other : Tree) :
    (tree.merge other).isEmpty = (tree.isEmpty && other.isEmpty) := by
  rw [Bool.eq_iff_iff, isEmpty_iff_of_gathered (tree.gathered_merge other),
    List.append_eq_nil_iff, gathered_eq_nil, gathered_eq_nil, Bool.and_eq_true]

end Tree

variable {findings other : Findings}

def gathered (findings : Findings) : List String := findings.tree.gathered

theorem length_gathered (findings : Findings) : findings.gathered.length = findings.size :=
  findings.tree.length_gathered

theorem gathered_eq_nil : findings.gathered = [] ↔ findings.isEmpty = true := Tree.gathered_eq_nil

theorem isEmpty_iff_of_gathered {messages : List String} (all : findings.gathered.Perm messages) :
    findings.isEmpty = true ↔ messages = [] :=
  Tree.isEmpty_iff_of_gathered all

theorem size_eq_zero : findings.size = 0 ↔ findings.isEmpty = true := by
  rw [← length_gathered, List.length_eq_zero_iff, gathered_eq_nil]

theorem gathered_addAll (findings : Findings) (messages : List String) :
    (findings.addAll messages).gathered.Perm (findings.gathered ++ messages) :=
  findings.tree.gathered_addAll messages

theorem addAll_addAll (findings : Findings) (first second : List String) :
    (findings.addAll first).addAll second = findings.addAll (first ++ second) :=
  Findings.ext (findings.tree.addAll_addAll first second)

theorem addAll_nil (findings : Findings) : findings.addAll [] = findings :=
  Findings.ext findings.tree.addAll_nil

theorem gathered_mergeAt (findings : Findings) (route : String) (other : Findings) :
    (findings.mergeAt route other).gathered.Perm (findings.gathered ++ other.gathered) :=
  Tree.gathered_mergeAt_of_merge (fun old => old.gathered_merge other.tree) findings.tree route

theorem size_mergeAt (findings : Findings) (route : String) (other : Findings) :
    (findings.mergeAt route other).size = findings.size + other.size := by
  have sameLength := (findings.gathered_mergeAt route other).length_eq
  rw [List.length_append] at sameLength
  rw [← length_gathered, ← length_gathered, ← length_gathered, sameLength]

theorem gathered_foldl_mergeAt {α : Type} (route : α → String) (findingsOf : α → Findings)
    (items : List α) (start : Findings) :
    (items.foldl (fun findings item => findings.mergeAt (route item) (findingsOf item))
      start).gathered.Perm (start.gathered ++ items.flatMap fun item => (findingsOf item).gathered) := by
  induction items generalizing start with
  | nil => rw [List.foldl_nil, List.flatMap_nil, List.append_nil]
  | cons item rest ih =>
      have here := start.gathered_mergeAt (route item) (findingsOf item)
      rw [List.foldl_cons, List.flatMap_cons, ← List.append_assoc]
      exact (ih _).trans (here.append_right _)

theorem isEmpty_addAll (findings : Findings) (messages : List String) :
    (findings.addAll messages).isEmpty = (findings.isEmpty && messages.isEmpty) := by
  rw [Bool.eq_iff_iff, isEmpty_iff_of_gathered (findings.gathered_addAll messages),
    List.append_eq_nil_iff, gathered_eq_nil, Bool.and_eq_true, List.isEmpty_iff]

theorem isEmpty_foldl_mergeAt {α : Type} (route : α → String) (findingsOf : α → Findings)
    (items : List α) (start : Findings) :
    (items.foldl (fun findings item => findings.mergeAt (route item) (findingsOf item)) start).isEmpty =
      (start.isEmpty && items.all fun item => (findingsOf item).isEmpty) := by
  have all := gathered_foldl_mergeAt route findingsOf items start
  rw [Bool.eq_iff_iff, isEmpty_iff_of_gathered all, List.append_eq_nil_iff, List.flatMap_eq_nil_iff,
    Bool.and_eq_true, List.all_eq_true]
  simp only [gathered_eq_nil]

theorem result_eq_ok {findings : Findings} : findings.result = .ok () ↔ findings.isEmpty = true := by
  unfold result
  split <;> simp_all

end SchemaHistory.Findings
