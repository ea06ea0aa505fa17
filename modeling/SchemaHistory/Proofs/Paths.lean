import Mathlib.Data.List.Basic
import Mathlib.Tactic.SplitIfs
import SchemaHistory.Output.Location

/-!
Where the path of a name in a directory leads. A path is a start, which is the root, a single dot or
nothing, and the steps from there; a name that is joined to a directory adds its own steps to those of the
directory. A name without slashes is one step, unless it is empty or a single dot, and two dots step up.
-/

namespace SchemaHistory.Location

set_option autoImplicit false

variable {path directory name : String}

/-- The root of an absolute path, or the dot that begins a path. -/
def start (path : String) : List Part :=
  if isAbsolute path then [.root] else if (pieces path).head? = some "." then [.here] else []

/-- The parts of a path after its start. -/
def steps (path : String) : List Part := ((pieces path).filter (!isIdle ·)).map part

theorem parts_eq (path : String) : parts path = start path ++ steps path := by
  unfold parts start steps
  split_ifs <;> rfl

theorem pieces_ne_nil (path : String) : pieces path ≠ [] := by
  rw [pieces, ne_eq, List.map_eq_nil_iff]
  exact List.splitOn_ne_nil '/' path.toList

theorem pieces_append_slash (stem tail : String) :
    pieces (stem ++ "/" ++ tail) = pieces stem ++ pieces tail := by
  have chars : (stem ++ "/" ++ tail).toList = stem.toList ++ '/' :: tail.toList := by simp
  rw [pieces, chars, List.splitOn_append_cons_self, List.map_append]
  rfl

theorem steps_append_slash (stem tail : String) :
    steps (stem ++ "/" ++ tail) = steps stem ++ steps tail := by
  rw [steps, pieces_append_slash, List.filter_append, List.map_append]
  rfl

theorem steps_slash (stem : String) : steps (stem ++ "/") = steps stem := by
  have nothingAdded := steps_append_slash stem ""
  rw [String.append_empty] at nothingAdded
  rw [nothingAdded]
  exact List.append_nil (steps stem)

theorem isAbsolute_append (notEmpty : directory ≠ "") (tail : String) :
    isAbsolute (directory ++ tail) = isAbsolute directory := by
  have notNil : directory.toList ≠ [] := by simpa using notEmpty
  unfold isAbsolute
  rw [String.toList_append, List.head?_append_of_ne_nil _ notNil]

theorem head?_pieces_append_slash (stem tail : String) :
    (pieces (stem ++ "/" ++ tail)).head? = (pieces stem).head? := by
  rw [pieces_append_slash, List.head?_append_of_ne_nil _ (pieces_ne_nil stem)]

theorem start_append_slash (stem tail : String) : start (stem ++ "/" ++ tail) = start (stem ++ "/") := by
  have notEmpty : stem ++ "/" ≠ "" := by simp
  have alone := head?_pieces_append_slash stem ""
  rw [String.append_empty] at alone
  unfold start
  rw [isAbsolute_append notEmpty, head?_pieces_append_slash, alone]

theorem start_slash (notEmpty : directory ≠ "") : start (directory ++ "/") = start directory := by
  have alone := head?_pieces_append_slash directory ""
  rw [String.append_empty] at alone
  unfold start
  rw [isAbsolute_append notEmpty, alone]

theorem parts_append_slash (stem tail : String) :
    parts (stem ++ "/" ++ tail) = parts (stem ++ "/") ++ steps tail := by
  rw [parts_eq, parts_eq, start_append_slash, steps_append_slash, steps_slash, List.append_assoc]

theorem parts_slash (notEmpty : directory ≠ "") : parts (directory ++ "/") = parts directory := by
  rw [parts_eq, parts_eq, start_slash notEmpty, steps_slash]

/-- There is one slash between the directory and the name, which the directory may have brought along. -/
theorem exists_stem_of_join (relative : isAbsolute name = false) (notEmpty : directory ≠ "") :
    ∃ stem, join directory name = stem ++ "/" ++ name ∧ parts (stem ++ "/") = parts directory := by
  have notAbsolute : ¬isAbsolute name = true := by simp [relative]
  unfold join
  rw [if_neg notAbsolute]
  split_ifs with ends
  · obtain ⟨stem, chars⟩ := List.getLast?_eq_some_iff.1 (ends.resolve_left notEmpty)
    have split : directory = String.ofList stem ++ "/" := by
      rw [← String.toList_inj, chars]
      simp
    exact ⟨String.ofList stem, by rw [split], by rw [split]⟩
  · exact ⟨directory, rfl, parts_slash notEmpty⟩

theorem join_empty (name : String) : join "" name = name := by
  cases absolute : isAbsolute name <;> simp [join, absolute]

theorem parts_join (relative : isAbsolute name = false) (notEmpty : directory ≠ "") :
    parts (join directory name) = parts directory ++ steps name := by
  obtain ⟨stem, joined, same⟩ := exists_stem_of_join relative notEmpty
  rw [joined, parts_append_slash, same]

theorem pieces_of_plain (plain : '/' ∉ name.toList) : pieces name = [name] := by
  rw [pieces, List.splitOn_eq_singleton plain]
  simp

theorem isAbsolute_of_plain (plain : '/' ∉ name.toList) : isAbsolute name = false := by
  unfold isAbsolute
  rw [decide_eq_false_iff_not]
  intro absolute
  exact plain (List.mem_of_mem_head? absolute)

theorem steps_of_plain (plain : '/' ∉ name.toList) (notIdle : isIdle name = false) :
    steps name = [part name] := by
  rw [steps, pieces_of_plain plain]
  simp [notIdle]

theorem parts_join_of_plain (plain : '/' ∉ name.toList) (notIdle : isIdle name = false)
    (directory : String) : parts (join directory name) = parts directory ++ [part name] := by
  have relative := isAbsolute_of_plain plain
  have step := steps_of_plain plain notIdle
  by_cases isEmpty : directory = ""
  · have notDot : name ≠ "." := by
      intro isDot
      rw [isDot] at notIdle
      cases notIdle
    rw [isEmpty, join_empty, parts_eq, step, start, pieces_of_plain plain, relative]
    simp [notDot]
    rfl
  · rw [parts_join relative isEmpty, step]

theorem parts_join_dot (notEmpty : directory ≠ "") : parts (join directory ".") = parts directory := by
  rw [parts_join rfl notEmpty]
  exact List.append_nil (parts directory)

theorem endsIdle_join (plain : '/' ∉ name.toList) (directory : String) :
    endsIdle (join directory name) = isIdle name := by
  have alone := pieces_of_plain plain
  unfold endsIdle
  by_cases isEmpty : directory = ""
  · rw [isEmpty, join_empty, alone]
    rfl
  · obtain ⟨stem, joined, -⟩ := exists_stem_of_join (isAbsolute_of_plain plain) isEmpty
    rw [joined, pieces_append_slash, alone, List.getLast?_concat]
    rfl

/-- The path leads to the name, and the directory is the one above it. -/
structure IsChild (path directory name : String) : Prop where
  named : (parts path).getLast? = some (.name name)
  above : (parts path).dropLast = parts directory

theorem isChild_iff : IsChild path directory name ↔ parts path = parts directory ++ [.name name] := by
  constructor
  · rintro ⟨named, above⟩
    rw [← above]
    exact (List.dropLast_append_getLast? _ named).symm
  · intro split
    exact ⟨by simp [split], by simp [split]⟩

/-- A name without slashes is that of a child of the directory, but for the single dot and two dots. -/
theorem isChild_join_iff (plain : '/' ∉ name.toList) (notEmpty : name ≠ "") (directory : String) :
    IsChild (join directory name) directory name ↔ name ≠ "." ∧ name ≠ ".." := by
  constructor
  · rintro ⟨named, above⟩
    constructor
    · rintro rfl
      by_cases isEmpty : directory = ""
      · rw [isEmpty] at named
        cases named
      · -- The path is that of the directory, which is not above itself.
        rw [parts_join_dot isEmpty] at named above
        have shorter := congrArg List.length above
        rw [List.length_dropLast] at shorter
        have none : parts directory = [] := List.length_eq_zero_iff.1 (by omega)
        rw [none] at named
        cases named
    · rintro rfl
      rw [parts_join_of_plain plain rfl] at named
      simp [part] at named
  · rintro ⟨notDot, notDots⟩
    have notIdle : isIdle name = false := by simp [isIdle, notEmpty, notDot]
    rw [isChild_iff, parts_join_of_plain plain notIdle, part, if_neg notDots]

end SchemaHistory.Location
