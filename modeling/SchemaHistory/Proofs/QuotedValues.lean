import Mathlib.Data.List.Forall2
import SchemaHistory.Markup.Document
import SchemaHistory.Proofs.Escaping

/-!
A document as a reader finds it: keys with values in double quotes, and text without quotes between them.
Each value is meant to say something, and is written either as it is meant or escaped. As long as no value
that is written has a quote, the reader finds the keys with these values and nothing else.
-/

namespace SchemaHistory

open Markup

set_option autoImplicit false

/-- A key with its value: what the value is to say, and how it is written. -/
structure Quoted where
  key : String
  meant : String
  written : String
  deriving DecidableEq

namespace Quoted

def verbatim (key text : String) : Quoted := ⟨key, text, text⟩

def escaped (key text : String) : Quoted := ⟨key, text, escape text⟩

/-- The value is safe as it is written, and it is read as it is meant. -/
def Faithful (value : Quoted) : Prop :=
  Safe value.written.toList ∧ unescape value.written = value.meant

theorem faithful_escaped (key text : String) : (escaped key text).Faithful := by
  refine ⟨?_, ?_⟩
  · simpa [escaped, escape] using safe_escapeChars text.toList
  · simp [escaped, escape, unescape, unescapeChars_escapeChars]

theorem faithful_verbatim_iff {key text : String} :
    (verbatim key text).Faithful ↔ Plain text.toList := by
  rw [← safe_and_same_iff_plain]
  refine and_congr_right fun _ => ?_
  rw [← String.toList_inj]
  simp [verbatim, unescape]

end Quoted

def Optionality.quotedEarly : Optionality → List Quoted
  | .said value => [.verbatim "optional" (yesNo value)]
  | _ => []

def Optionality.quotedLate : Optionality → List Quoted
  | .saidLast value => [.verbatim "optional" (yesNo value)]
  | _ => []

def quotedElementId (elementId : Option String) : List Quoted :=
  elementId.toList.map (.escaped "elementID")

def quotedDefault (defaultValue : Option DefaultValue) : List Quoted :=
  defaultValue.toList.map fun value => .escaped value.attributeName value.literal

def Attribute.quoted (column : Attribute) : List Quoted :=
  [.verbatim "name" column.name] ++ column.optionality.quotedEarly ++
    [.verbatim "attributeType" column.storage.name] ++
    (if column.isUnboxed then [.verbatim "usesScalarValueType" "YES"] else []) ++
    [.verbatim "syncable" "YES"] ++ column.optionality.quotedLate ++
    quotedElementId column.elementId ++ quotedDefault column.defaultValue

def Block.quotedOpening (block : Block) : List Quoted :=
  [.verbatim "name" block.storeName] ++ [.verbatim "representedClassName" block.className] ++
    [.verbatim "syncable" "YES"] ++ [.verbatim "codeGenerationType" "class"] ++
    quotedElementId block.elementId

def Block.quoted (block : Block) : List Quoted :=
  block.quotedOpening ++ block.attributes.flatMap Attribute.quoted

namespace Document

def quotedDeclaration : List Quoted :=
  [.verbatim "version" "1.0"] ++ [.verbatim "encoding" "UTF-8"] ++ [.verbatim "standalone" "yes"]

def quotedOpening (version : Version) : List Quoted :=
  [.verbatim "type" "com.apple.IDECoreDataModeler.DataModel"] ++
    [.verbatim "documentVersion" "1.0"] ++ [.verbatim "lastSavedToolsVersion" "14460.32"] ++
    [.verbatim "systemVersion" "18A391"] ++ [.verbatim "minimumToolsVersion" "Automatic"] ++
    [.verbatim "sourceLanguage" "Swift"] ++
    [.verbatim "userDefinedModelVersionIdentifier" version.dotted]

def quoted (document : Document) : List Quoted :=
  quotedDeclaration ++ quotedOpening document.version ++ document.blocks.flatMap Block.quoted

end Document

def keyEnds : List Char := [' ', '=', '"']

def ProperKey (key : String) : Prop := key.toList.filter (· ∈ keyEnds) = []

instance (key : String) : Decidable (ProperKey key) :=
  inferInstanceAs (Decidable (key.toList.filter (· ∈ keyEnds) = []))

/-- The text is made of these values in their order, and of pieces without quotes. -/
inductive Written : List Quoted → String → Prop where
  | gap (text : String) (unquoted : '"' ∉ text.toList) : Written [] text
  | value (value : Quoted) (properKey : ProperKey value.key) :
      Written [value] (pair value.key value.written)
  | append {values others : List Quoted} {text other : String} (first : Written values text)
      (second : Written others other) : Written (values ++ others) (text ++ other)

namespace Written

theorem verbatim {key : String} (text : String) (properKey : ProperKey key) :
    Written [.verbatim key text] (pair key text) :=
  value (.verbatim key text) properKey

theorem escaped {key : String} (text : String) (properKey : ProperKey key) :
    Written [.escaped key text] (pair key (escape text)) :=
  value (.escaped key text) properKey

theorem before {values : List Quoted} {text : String} (gapText : String)
    (unquoted : '"' ∉ gapText.toList) (written : Written values text) :
    Written values (gapText ++ text) :=
  append (gap gapText unquoted) written

theorem after {values : List Quoted} {text : String} (written : Written values text)
    (gapText : String) (unquoted : '"' ∉ gapText.toList) : Written values (text ++ gapText) := by
  simpa using append written (gap gapText unquoted)

theorem lines {values : List (List Quoted)} {texts : List String}
    (written : List.Forall₂ Written values texts) :
    Written values.flatten ("\n".intercalate texts) := by
  induction written with
  | nil => exact gap "" (by decide)
  | cons first others ih =>
      cases others with
      | nil => simpa using first
      | cons =>
          rw [String.intercalate_cons_cons]
          exact append (first.after "\n" (by decide)) ih

theorem map {α : Type} {values : α → List Quoted} {text : α → String}
    (written : ∀ item, Written (values item) (text item)) (items : List α) :
    List.Forall₂ Written (items.map values) (items.map text) := by
  rw [List.forall₂_map_left_iff, List.forall₂_map_right_iff]
  exact List.forall₂_same.2 fun item _ => written item

end Written

theorem Optionality.written_early (optionality : Optionality) :
    Written optionality.quotedEarly optionality.earlyPair := by
  cases optionality with
  | said value => exact .verbatim (yesNo value) (by decide)
  | unsaid => exact .gap "" (by decide)
  | saidLast value => exact .gap "" (by decide)

theorem Optionality.written_late (optionality : Optionality) :
    Written optionality.quotedLate optionality.latePair := by
  cases optionality with
  | saidLast value => exact .verbatim (yesNo value) (by decide)
  | unsaid => exact .gap "" (by decide)
  | said value => exact .gap "" (by decide)

theorem written_elementId (elementId : Option String) :
    Written (quotedElementId elementId) (elementIdPair elementId) := by
  cases elementId with
  | none => exact .gap "" (by decide)
  | some name => exact .escaped name (by decide)

theorem written_default (defaultValue : Option DefaultValue) :
    Written (quotedDefault defaultValue) ((defaultValue.map DefaultValue.pair).getD "") := by
  cases defaultValue with
  | none => exact .gap "" (by decide)
  | some value =>
      apply Written.escaped value.literal
      unfold DefaultValue.attributeName
      split_ifs <;> decide

theorem Attribute.written (column : Attribute) : Written column.quoted column.render := by
  have unboxed : Written (if column.isUnboxed then [.verbatim "usesScalarValueType" "YES"] else [])
      (if column.isUnboxed then pair "usesScalarValueType" "YES" else "") := by
    cases column.isUnboxed with
    | true => exact .verbatim "YES" (by decide)
    | false => exact .gap "" (by decide)
  -- The element is taken apart from its end, as it is put together.
  apply Written.after ?_ "/>" (by decide)
  apply Written.append ?_ (written_default column.defaultValue)
  apply Written.append ?_ (written_elementId column.elementId)
  apply Written.append ?_ column.optionality.written_late
  apply Written.append ?_ (.verbatim "YES" (by decide))
  apply Written.append ?_ unboxed
  apply Written.append ?_ (.verbatim column.storage.name (by decide))
  apply Written.append ?_ column.optionality.written_early
  exact .before "        <attribute" (by decide) (.verbatim column.name (by decide))

theorem Block.written_opening (block : Block) : Written block.quotedOpening block.opening := by
  apply Written.after ?_ ">" (by decide)
  apply Written.append ?_ (written_elementId block.elementId)
  apply Written.append ?_ (.verbatim "class" (by decide))
  apply Written.append ?_ (.verbatim "YES" (by decide))
  apply Written.append ?_ (.verbatim block.className (by decide))
  exact .before "    <entity" (by decide) (.verbatim block.storeName (by decide))

theorem Block.written (block : Block) : Written block.quoted block.render := by
  have ending : List.Forall₂ Written [[]] [closing] :=
    .cons (.gap closing (by decide)) .nil
  have body := List.rel_append (Written.map Attribute.written block.attributes) ending
  have lines := Written.lines (.cons block.written_opening body)
  simpa [quoted, render, List.flatMap_def] using lines

namespace Document

theorem written_declaration : Written quotedDeclaration declaration := by
  have pieces : declaration =
      "<?xml" ++ pair "version" "1.0" ++ pair "encoding" "UTF-8" ++ pair "standalone" "yes" ++ "?>" := by
    decide
  rw [pieces]
  apply Written.after ?_ "?>" (by decide)
  apply Written.append ?_ (.verbatim "yes" (by decide))
  apply Written.append ?_ (.verbatim "UTF-8" (by decide))
  exact .before "<?xml" (by decide) (.verbatim "1.0" (by decide))

theorem written_opening (version : Version) : Written (quotedOpening version) (opening version) := by
  apply Written.after ?_ ">" (by decide)
  apply Written.append ?_ (.verbatim version.dotted (by decide))
  apply Written.append ?_ (.verbatim "Swift" (by decide))
  apply Written.append ?_ (.verbatim "Automatic" (by decide))
  apply Written.append ?_ (.verbatim "18A391" (by decide))
  apply Written.append ?_ (.verbatim "14460.32" (by decide))
  apply Written.append ?_ (.verbatim "1.0" (by decide))
  exact .before "<model" (by decide)
    (.verbatim "com.apple.IDECoreDataModeler.DataModel" (by decide))

theorem written (document : Document) : Written document.quoted document.render := by
  have blocks := Written.lines (Written.map Block.written document.blocks)
  apply Written.after ?_ "\n\n</model>\n" (by decide)
  rw [quoted, List.flatMap_def]
  apply Written.append ?_ blocks
  apply Written.after ?_ "\n\n" (by decide)
  exact .append (written_declaration.after "\n" (by decide)) (written_opening document.version)

end Document

/-- Where a reader is, with the characters taken in, the last one first: outside of quotes with those of a
key, or inside with those of its value. -/
inductive Place where
  | outside (key : List Char)
  | inside (key value : List Char)

def readFrom : Place → List Char → List (List Char × List Char)
  | _, [] => []
  | .outside key, char :: rest =>
      if char = '"' then readFrom (.inside key []) rest
      else if char = ' ' then readFrom (.outside []) rest
      else if char = '=' then readFrom (.outside key) rest
      else readFrom (.outside (char :: key)) rest
  | .inside key value, char :: rest =>
      if char = '"' then (key.reverse, value.reverse) :: readFrom (.outside []) rest
      else readFrom (.inside key (char :: value)) rest

/-- The keys of a text with their values, in which the four entities are decoded. -/
def readAttributes (text : String) : List (String × String) :=
  (readFrom (.outside []) text.toList).map fun (key, value) =>
    (.ofList key, .ofList (unescapeChars value))

theorem readFrom_gap {gap : List Char} (unquoted : '"' ∉ gap) (key rest : List Char) :
    ∃ later, readFrom (.outside key) (gap ++ rest) = readFrom (.outside later) rest := by
  induction gap generalizing key with
  | nil => exact ⟨key, rfl⟩
  | cons char chars ih =>
      rw [List.mem_cons, not_or] at unquoted
      rw [List.cons_append, readFrom, if_neg (Ne.symm unquoted.1)]
      split_ifs <;> exact ih unquoted.2 _

theorem readFrom_key {chars : List Char} (proper : chars.filter (· ∈ keyEnds) = [])
    (key rest : List Char) :
    readFrom (.outside key) (chars ++ rest) = readFrom (.outside (chars.reverse ++ key)) rest := by
  induction chars generalizing key with
  | nil => rfl
  | cons char chars ih =>
      obtain ⟨notEnd, properRest⟩ := List.forall_mem_cons.1 (List.filter_eq_nil_iff.1 proper)
      simp only [keyEnds, decide_eq_true_eq, List.mem_cons, List.not_mem_nil, or_false, not_or]
        at notEnd
      obtain ⟨notBlank, notEqual, notQuote⟩ := notEnd
      rw [List.cons_append, readFrom, if_neg notQuote, if_neg notBlank, if_neg notEqual,
        ih (List.filter_eq_nil_iff.2 properRest)]
      simp

theorem readFrom_value {chars : List Char} (unquoted : '"' ∉ chars) (key value rest : List Char) :
    readFrom (.inside key value) (chars ++ '"' :: rest) =
      (key.reverse, value.reverse ++ chars) :: readFrom (.outside []) rest := by
  induction chars generalizing value with
  | nil => simp [readFrom]
  | cons char chars ih =>
      rw [List.mem_cons, not_or] at unquoted
      rw [List.cons_append, readFrom, if_neg (Ne.symm unquoted.1), ih unquoted.2]
      simp

theorem readFrom_pair {value : Quoted} (properKey : ProperKey value.key)
    (unquoted : '"' ∉ value.written.toList) (key rest : List Char) :
    readFrom (.outside key) ((pair value.key value.written).toList ++ rest) =
      (value.key.toList, value.written.toList) :: readFrom (.outside []) rest := by
  have chars : (pair value.key value.written).toList ++ rest =
      ' ' :: (value.key.toList ++ '=' :: '"' :: (value.written.toList ++ '"' :: rest)) := by
    simp [pair]
  have atBlank : ∀ later, readFrom (.outside key) (' ' :: later) = readFrom (.outside []) later := by
    simp [readFrom]
  have atQuote : ∀ later,
      readFrom (.outside value.key.toList.reverse) ('=' :: '"' :: later) =
        readFrom (.inside value.key.toList.reverse []) later := by
    simp [readFrom]
  rw [chars, atBlank, readFrom_key properKey, List.append_nil, atQuote, readFrom_value unquoted]
  simp

namespace Written

variable {values : List Quoted} {text : String}

/-- A reader that comes to the text outside of quotes finds its values and leaves it outside of quotes. -/
theorem reads (written : Written values text)
    (unquoted : ∀ value ∈ values, '"' ∉ value.written.toList) (key rest : List Char) :
    ∃ later, readFrom (.outside key) (text.toList ++ rest) =
      values.map (fun value => (value.key.toList, value.written.toList)) ++
        readFrom (.outside later) rest := by
  induction written generalizing key rest with
  | gap text unquotedGap => exact readFrom_gap unquotedGap key rest
  | value value properKey =>
      have unquotedValue := unquoted value List.mem_cons_self
      exact ⟨[], readFrom_pair properKey unquotedValue key rest⟩
  | @append values others text other _ _ ihFirst ihSecond =>
      have firstUnquoted : ∀ value ∈ values, '"' ∉ value.written.toList :=
        fun value member => unquoted value (List.mem_append_left others member)
      have secondUnquoted : ∀ value ∈ others, '"' ∉ value.written.toList :=
        fun value member => unquoted value (List.mem_append_right values member)
      obtain ⟨between, readsFirst⟩ := ihFirst firstUnquoted key (other.toList ++ rest)
      obtain ⟨later, readsSecond⟩ := ihSecond secondUnquoted between rest
      refine ⟨later, ?_⟩
      rw [String.toList_append, List.append_assoc, readsFirst, readsSecond, List.map_append,
        List.append_assoc]

/-- Where all values are faithful, what is read is what is meant. -/
theorem readAttributes_eq (written : Written values text)
    (faithful : ∀ value ∈ values, value.Faithful) :
    readAttributes text = values.map fun value => (value.key, value.meant) := by
  have unquoted : ∀ value ∈ values, '"' ∉ value.written.toList :=
    fun value member => (faithful value member).1.noQuote
  obtain ⟨later, readsAll⟩ := written.reads unquoted [] []
  have nothingLeft : readFrom (.outside later) [] = [] := rfl
  rw [List.append_nil, nothingLeft, List.append_nil] at readsAll
  rw [readAttributes, readsAll, List.map_map]
  apply List.map_congr_left
  intro value member
  have decoded : String.ofList (unescapeChars value.written.toList) = value.meant :=
    (faithful value member).2
  simp [decoded]

end Written

end SchemaHistory
