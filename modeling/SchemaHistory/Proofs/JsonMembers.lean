import SchemaHistory.Json.Basic

/-!
What is read back from the members of a JSON object. A member that is left out because it holds its
default is read as that default, so leaving it out loses nothing.
-/

namespace SchemaHistory.Json

set_option autoImplicit false

variable {α β : Type} {json : Json} {key other : String}

section Members

variable {members others : List (String × Json)} {content : Json}

@[simp] theorem get?_nil : (object []).get? key = none := rfl

@[simp] theorem get?_cons :
    (object ((other, content) :: members)).get? key =
      if key = other then some content else (object members).get? key := by
  simp only [get?]
  by_cases same : key = other
  · rw [if_pos same, same, List.lookup_cons_self]
  · rw [if_neg same, List.lookup_cons, beq_eq_false_iff_ne.2 same]

@[simp] theorem get?_append :
    (object (members ++ others)).get? key =
      ((object members).get? key).or ((object others).get? key) :=
  List.lookup_append

@[simp] theorem get?_flag {value : Bool} :
    (object (flag other value)).get? key =
      if key = other then if value then some (.bool true) else none else none := by
  cases value <;> simp [flag]

@[simp] theorem get?_given {write : α → Json} {value : Option α} :
    (object (given other write value)).get? key =
      if key = other then value.map write else none := by
  cases value <;> simp [given]

@[simp] theorem get?_unless {left : Prop} [Decidable left] :
    (object (if left then [] else members)).get? key =
      if left then none else (object members).get? key := by
  split <;> rfl

end Members

theorem required?_of_get? {content : Json} {read : Json → Option α} {value : α}
    (found : json.get? key = some content) (inverse : read content = some value) :
    json.required? key read = some value := by
  rw [required?, found]
  exact inverse

theorem orDefault?_of_get? {content : Json} {read : Json → Option α} {value default : α}
    (found : json.get? key = some content) (inverse : read content = some value) :
    json.orDefault? key read default = some value := by
  rw [orDefault?, found]
  exact inverse

theorem orDefault?_flag {value : Bool}
    (found : json.get? key = if value then some (.bool true) else none) :
    json.orDefault? key bool? false = some value := by
  cases value <;> simp [orDefault?, found, bool?]

/-- No value is written as null, so a value that is there is not taken for one that is missing. -/
theorem optional?_given {read : Json → Option α} (write : α → Json) {value : Option α}
    (found : json.get? key = value.map write) (notNull : ∀ content, write content ≠ .null)
    (inverse : ∀ content, value = some content → read (write content) = some content) :
    json.optional? key read = some value := by
  cases value with
  | none => simp [optional?, found]
  | some content =>
      unfold optional?
      rw [found]
      split
      · rename_i missing
        cases missing
      · rename_i isNull
        exact absurd (Option.some.inj isNull) (notNull content)
      · rename_i written isWritten
        obtain rfl := Option.some.inj isWritten
        rw [inverse content rfl]
        rfl

theorem mapM_map_of_inverse {read : β → Option α} {write : α → β} {items : List α}
    (inverse : ∀ item ∈ items, read (write item) = some item) :
    (items.map write).mapM read = some items := by
  induction items with
  | nil => rfl
  | cons head rest ih =>
      have restRead := ih fun item member => inverse item (List.mem_cons_of_mem head member)
      rw [List.map_cons, List.mapM_cons, inverse head List.mem_cons_self, restRead]
      rfl

theorem list?_array {read : Json → Option α} {write : α → Json} {items : List α}
    (inverse : ∀ item ∈ items, read (write item) = some item) :
    list? read (.array (items.map write)) = some items :=
  mapM_map_of_inverse inverse

@[simp] theorem list?_textArray (texts : List String) : list? text? (textArray texts) = some texts :=
  list?_array fun _ _ => rfl

theorem orDefault?_list {read : Json → Option α} (write : α → Json) {items : List α}
    (found : json.get? key = if items = [] then none else some (.array (items.map write)))
    (inverse : ∀ item ∈ items, read (write item) = some item) :
    json.orDefault? key (list? read) [] = some items := by
  by_cases empty : items = []
  · rw [if_pos empty] at found
    rw [orDefault?, found, empty]
  · rw [if_neg empty] at found
    exact orDefault?_of_get? found (list?_array inverse)

end SchemaHistory.Json
