import Mathlib.Data.List.Lex
import SchemaHistory.Proofs.MessagesByPlace

/-!
The lines of a report. Every message is written on one line, after the routes that lead to its place. The
messages of a place come in the order in which they were added, before those of the places below it, and
places side by side come in the order of their routes.
-/

namespace SchemaHistory.Findings

set_option autoImplicit false

/-- A place is before those below it; of two places that part at a route, the one with the lesser route
there is before the other. -/
def Precedes (left right : List String) : Prop :=
  List.Lex (fun first second => Text.precedes first second = true) left right

/-- The first entry is of the place of the second or of one before it. -/
def NotAfter (earlier later : List String × String) : Prop :=
  earlier.1 = later.1 ∨ Precedes earlier.1 later.1

/-- The messages that the entries have for a place, in their order. -/
def messagesOf (entries : List (List String × String)) (path : List String) : List String :=
  (entries.filter (·.1 = path)).map Prod.snd

/-- The entries are the messages of the tree, each once: those of a place in its order, and the places
one after the other. -/
structure Lists (findings : Findings) (entries : List (List String × String)) : Prop where
  messages : ∀ path, messagesOf entries path = findings.messagesAt path
  inOrder : entries.Pairwise NotAfter

/-- The line of a message: its routes, without the empty ones in front, and the message. What has no
routes to be written stands alone. -/
def line (entry : List String × String) : String :=
  match entry.1.dropWhile (· = "") with
  | [] => entry.2
  | routes => "/".intercalate routes ++ ": " ++ entry.2

def written (path : List String) : String := "/".intercalate (path.dropWhile (· = ""))

theorem written_eq_empty_iff (path : List String) :
    written path = "" ↔ path.dropWhile (· = "") = [] := by
  constructor
  · intro nothing
    by_contra notNone
    have notEmpty := List.head_dropWhile_not (· = "") notNone
    unfold written at nothing
    cases routes : path.dropWhile (· = "") with
    | nil => exact notNone routes
    | cons first rest =>
        simp only [routes, List.head_cons, decide_eq_false_iff_not] at notEmpty nothing
        cases rest with
        | nil => simp [notEmpty] at nothing
        | cons second rest => simp [String.intercalate_cons_cons, notEmpty] at nothing
  · intro none
    rw [written, none, String.intercalate_nil]

theorem written_concat (path : List String) (route : String) :
    written (path ++ [route]) =
      if written path = "" then route else written path ++ "/" ++ route := by
  simp only [written_eq_empty_iff]
  unfold written
  rw [List.dropWhile_append]
  cases routes : path.dropWhile (· = "") with
  | nil =>
      by_cases isEmpty : route = ""
      · simp [isEmpty]
      · simp [isEmpty]
  | cons first rest =>
      have joined : "/".intercalate (first :: rest ++ [route]) =
          "/".intercalate (first :: rest) ++ "/" ++ "/".intercalate [route] :=
        String.intercalate_append_of_ne_nil (List.cons_ne_nil first rest) (List.cons_ne_nil route [])
      simpa using joined

theorem line_eq (entry : List String × String) :
    line entry = if written entry.1 = "" then entry.2 else written entry.1 ++ ": " ++ entry.2 := by
  simp only [written_eq_empty_iff]
  unfold line written
  cases routes : entry.1.dropWhile (· = "") with
  | nil => simp
  | cons first rest => simp

theorem messagesOf_append (left right : List (List String × String)) (path : List String) :
    messagesOf (left ++ right) path = messagesOf left path ++ messagesOf right path := by
  simp [messagesOf]

namespace Tree

variable {tree : Tree}

mutual

/-- All messages with the paths of their places, those of a place before those below it. -/
def placed : Tree → List (List String × String)
  | .node messages children => messages.map (fun message => ([], message)) ++ placedBelow children

def placedBelow : List (String × Tree) → List (List String × String)
  | [] => []
  | (route, child) :: rest =>
      child.placed.map (fun entry => (route :: entry.1, entry.2)) ++ placedBelow rest

end

theorem linesUnder_written (tree : Tree) (path : List String) :
    tree.linesUnder (written path) =
      tree.placed.map fun entry => line (path ++ entry.1, entry.2) := by
  have both : (∀ (tree : Tree) (path : List String), tree.linesUnder (written path) =
        tree.placed.map fun entry => line (path ++ entry.1, entry.2)) ∧
      ∀ (children : List (String × Tree)) (path : List String),
        childLines (written path) children =
          (placedBelow children).map fun entry => line (path ++ entry.1, entry.2) := by
    apply placed.mutual_induct
    · intro messages children below path
      simp only [linesUnder, placed, List.map_append, List.map_map, below, line_eq,
        Function.comp_def, List.append_nil]
    · intro path
      rfl
    · intro route child rest ofChild ofRest path
      have here := ofChild (path ++ [route])
      rw [written_concat] at here
      simp only [List.append_assoc, List.singleton_append] at here
      simp only [childLines, placedBelow, List.map_append, List.map_map, Function.comp_def, here,
        ofRest]
  exact both.1 tree path

theorem map_snd_placed (tree : Tree) : tree.placed.map Prod.snd = tree.gathered := by
  have both : (∀ tree : Tree, tree.placed.map Prod.snd = tree.gathered) ∧
      ∀ children, (placedBelow children).map Prod.snd = gatheredBelow children := by
    apply placed.mutual_induct
    · intro messages children below
      simp [placed, gathered, below, Function.comp_def]
    · rfl
    · intro route child rest ofChild ofRest
      simp [placedBelow, gatheredBelow, ← ofChild, ofRest, Function.comp_def]
  exact both.1 tree

theorem messagesOf_root (messages path : List String) :
    messagesOf (messages.map fun message => ([], message)) path =
      (node messages []).messagesAt path := by
  cases path with
  | nil => simp [messagesOf, messagesAt, List.filter_map, Function.comp_def]
  | cons route path => simp [messagesOf, messagesAt]

theorem messagesOf_under {child : Tree} {route : String}
    (ofChild : ∀ path, messagesOf child.placed path = child.messagesAt path) (path : List String) :
    messagesOf (child.placed.map fun entry => (route :: entry.1, entry.2)) path =
      (child.under route).messagesAt path := by
  by_cases elsewhere : path.head? ≠ some route
  · rw [messagesAt_under_other elsewhere, messagesOf, List.map_eq_nil_iff, List.filter_eq_nil_iff]
    intro entry member isHere
    obtain ⟨inner, -, rfl⟩ := List.mem_map.1 member
    rw [decide_eq_true_iff] at isHere
    exact elsewhere (by rw [← isHere, List.head?_cons])
  · obtain ⟨below, rfl⟩ := List.head?_eq_some_iff.1 (Decidable.not_not.1 elsewhere)
    rw [messagesAt_under_self, ← ofChild]
    simp [messagesOf, List.filter_map, Function.comp_def]

theorem messagesOf_placed (ordered : tree.Ordered) (path : List String) :
    messagesOf tree.placed path = tree.messagesAt path := by
  have both :
      (∀ tree : Tree, tree.Ordered → ∀ path,
        messagesOf tree.placed path = tree.messagesAt path) ∧
      ∀ children, (node [] children).Ordered → ∀ path,
        messagesOf (placedBelow children) path = (node [] children).messagesAt path := by
    apply placed.mutual_induct
    · intro messages children below ordered path
      rw [placed, messagesOf_append, messagesOf_root, below ordered.bare, ← messagesAt_node]
    · intro _ path
      exact (messagesAt_of_isEmpty rfl path).symm
    · intro route child rest ofChild ofRest ordered path
      obtain ⟨ascending, childOrdered, restOrdered⟩ := ordered.cons
      rw [placedBelow, messagesOf_append, messagesOf_under (ofChild childOrdered),
        ofRest restOrdered, messagesAt_children ascending]
  exact both.1 tree ordered path

theorem mem_placedBelow {children : List (String × Tree)} {entry : List String × String}
    (member : entry ∈ placedBelow children) :
    ∃ child ∈ children, ∃ below, entry.1 = child.1 :: below := by
  induction children with
  | nil => cases member
  | cons head rest ih =>
      rw [placedBelow, List.mem_append] at member
      rcases member with inFirst | later
      · obtain ⟨inner, -, rfl⟩ := List.mem_map.1 inFirst
        exact ⟨head, List.mem_cons_self, inner.1, rfl⟩
      · obtain ⟨child, isLater, below⟩ := ih later
        exact ⟨child, List.mem_cons_of_mem _ isLater, below⟩

-- Own messages come before all that is below, and a subtree before those with greater routes.
theorem placed_inOrder (ordered : tree.Ordered) : tree.placed.Pairwise NotAfter := by
  have both :
      (∀ tree : Tree, tree.Ordered → tree.placed.Pairwise NotAfter) ∧
      ∀ children, (node [] children).Ordered → (placedBelow children).Pairwise NotAfter := by
    apply placed.mutual_induct
    · intro messages children below ordered
      refine List.pairwise_append.2 ⟨?_, below ordered.bare, ?_⟩
      · rw [List.pairwise_map]
        exact List.pairwise_of_forall fun _ _ => Or.inl rfl
      · intro earlier isOwn later isBelow
        obtain ⟨message, -, rfl⟩ := List.mem_map.1 isOwn
        obtain ⟨child, -, path, isPath⟩ := mem_placedBelow isBelow
        rw [NotAfter, isPath]
        exact Or.inr .nil
    · intro _
      exact List.Pairwise.nil
    · intro route child rest ofChild ofRest ordered
      obtain ⟨ascending, childOrdered, restOrdered⟩ := ordered.cons
      refine List.pairwise_append.2 ⟨?_, ofRest restOrdered, ?_⟩
      · rw [List.pairwise_map]
        refine (ofChild childOrdered).imp ?_
        intro earlier later inOrder
        rcases inOrder with same | before
        · exact Or.inl (congrArg (route :: ·) same)
        · exact Or.inr (.cons before)
      · intro earlier isFirst later isLater
        obtain ⟨inner, -, rfl⟩ := List.mem_map.1 isFirst
        obtain ⟨other, isOther, path, isPath⟩ := mem_placedBelow isLater
        rw [NotAfter, isPath]
        exact Or.inr (.rel ((List.pairwise_cons.1 ascending).1 other isOther))
  exact both.1 tree ordered

end Tree

variable {findings : Findings} {entries others : List (List String × String)}

theorem precedes_asymm {left right : List String} (before : Precedes left right) :
    ¬Precedes right left := by
  have routes : Std.Asymm fun first second => Text.precedes first second = true := by
    refine ⟨?_⟩
    intro first second before after
    have itself := Text.precedes_isStrict.trans before after
    rw [Text.precedes_irrefl] at itself
    cases itself
  exact (List.Lex.asymm _).asymm left right before

theorem messagesOf_cons (path : List String) (message : String)
    (rest : List (List String × String)) (wanted : List String) :
    messagesOf ((path, message) :: rest) wanted =
      if path = wanted then message :: messagesOf rest wanted else messagesOf rest wanted := by
  by_cases here : path = wanted
  · simp [messagesOf, here]
  · simp [messagesOf, here]

theorem first_place {path wanted : List String} {message : String}
    {rest : List (List String × String)}
    (inOrder : ((path, message) :: rest).Pairwise NotAfter)
    (present : messagesOf ((path, message) :: rest) wanted ≠ []) :
    path = wanted ∨ Precedes path wanted := by
  rw [messagesOf_cons] at present
  split at present
  · exact Or.inl ‹path = wanted›
  · obtain ⟨found, isMessage⟩ := List.exists_mem_of_ne_nil _ present
    obtain ⟨entry, member, rfl⟩ := List.mem_map.1 isMessage
    obtain ⟨inRest, isWanted⟩ := List.mem_filter.1 member
    rw [decide_eq_true_iff] at isWanted
    rw [← isWanted]
    exact (List.pairwise_cons.1 inOrder).1 entry inRest

-- The first entries are equal as each of their places has messages in the other list.
theorem eq_of_messagesOf (inOrder : entries.Pairwise NotAfter)
    (othersInOrder : others.Pairwise NotAfter)
    (same : ∀ path, messagesOf entries path = messagesOf others path) : entries = others := by
  induction entries generalizing others with
  | nil =>
      cases others with
      | nil => rfl
      | cons other rest =>
          have here := same other.1
          rw [messagesOf_cons, if_pos rfl] at here
          cases here
  | cons entry rest ih =>
      obtain ⟨path, message⟩ := entry
      cases others with
      | nil =>
          have here := same path
          rw [messagesOf_cons, if_pos rfl] at here
          cases here
      | cons other otherRest =>
          obtain ⟨otherPath, otherMessage⟩ := other
          have samePath : path = otherPath := by
            have first : path = otherPath ∨ Precedes path otherPath :=
              first_place inOrder (by simp [same, messagesOf_cons])
            have firstToo : otherPath = path ∨ Precedes otherPath path :=
              first_place othersInOrder (by simp [← same, messagesOf_cons])
            rcases first with equal | before
            · exact equal
            · rcases firstToo with equal | after
              · exact equal.symm
              · exact absurd after (precedes_asymm before)
          subst samePath
          have sameMessage : message = otherMessage := by
            have here := same path
            rw [messagesOf_cons, messagesOf_cons, if_pos rfl, if_pos rfl] at here
            exact (List.cons.inj here).1
          have sameRest : rest = otherRest := by
            apply ih (List.pairwise_cons.1 inOrder).2 (List.pairwise_cons.1 othersInOrder).2
            intro wanted
            have there := same wanted
            rw [messagesOf_cons, messagesOf_cons] at there
            split at there
            · exact (List.cons.inj there).2
            · exact there
          rw [sameMessage, sameRest]

def placed (findings : Findings) : List (List String × String) := findings.tree.placed

theorem lists_placed (findings : Findings) : findings.Lists findings.placed :=
  ⟨Tree.messagesOf_placed findings.ordered, Tree.placed_inOrder findings.ordered⟩

theorem lines_eq (findings : Findings) : findings.lines = findings.placed.map line :=
  findings.tree.linesUnder_written []

theorem length_lines (findings : Findings) : findings.lines.length = findings.size := by
  rw [lines_eq, List.length_map, ← length_gathered, gathered, ← Tree.map_snd_placed, List.length_map,
    placed]

theorem lines_eq_nil_iff : findings.lines = [] ↔ findings.isEmpty = true := by
  rw [← List.length_eq_zero_iff, length_lines, size_eq_zero]

theorem Lists.unique (lists : findings.Lists entries) (otherLists : findings.Lists others) :
    entries = others := by
  apply eq_of_messagesOf lists.inOrder otherLists.inOrder
  intro path
  rw [lists.messages, otherLists.messages]

/-- A report has one line for each of its messages. It passes when there are none, and that is when the
tree is empty. The lines are those of the one list that has the messages of each place in their order, the
places before those below them and by their routes: a message of the root stands alone, and so does one
below empty routes only; any other follows its routes. -/
theorem lines_list_messages (findings : Findings) :
    findings.lines.length = findings.size ∧
      (findings.result = .ok () ↔ findings.lines = []) ∧
      (findings.lines = [] ↔ findings.isEmpty = true) ∧
      (∃ entries, findings.Lists entries) ∧
      ∀ entries, findings.Lists entries → findings.lines = entries.map line := by
  refine ⟨findings.length_lines, ?_, lines_eq_nil_iff, ⟨findings.placed, findings.lists_placed⟩, ?_⟩
  · rw [result_eq_ok, lines_eq_nil_iff]
  · intro entries lists
    rw [lists.unique findings.lists_placed, lines_eq]

end SchemaHistory.Findings

namespace SchemaHistory.Cinema

open Findings

/-- A report on a version without a name, and on a film that has a property without one. -/
def namelessReport : Findings :=
  ((empty.addAt "Film" "no title").mergeAt "" ((empty.add "no name").addAt "Genre" "no film")).mergeAt
    "Film" (empty.addAt "" "no type")

theorem namelessReport_lines :
    namelessReport.result ≠ .ok () ∧
      namelessReport.lines =
        ["no name", "Genre: no film", "Film: no title", "Film/: no type"] ∧
      ∃ entries, namelessReport.Lists entries ∧
        entries.map line = ["no name", "Genre: no film", "Film: no title", "Film/: no type"] := by
  have written : namelessReport.lines =
      ["no name", "Genre: no film", "Film: no title", "Film/: no type"] := rfl
  obtain ⟨-, passes, -, ⟨entries, lists⟩, sameLines⟩ := lines_list_messages namelessReport
  refine ⟨?_, written, entries, lists, ?_⟩
  · rw [ne_eq, passes, written]
    exact List.cons_ne_nil _ _
  · rw [← sameLines entries lists, written]

end SchemaHistory.Cinema
