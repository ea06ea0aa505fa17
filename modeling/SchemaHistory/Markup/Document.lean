import SchemaHistory.Markup.Block

/-!
The document of a model: a header that names its version, and the blocks of all stored shapes.
-/

namespace SchemaHistory

set_option autoImplicit false

structure Document where
  version : Version
  blocks : List Block

namespace Document

def declaration : String := "<?xml version=\"1.0\" encoding=\"UTF-8\" standalone=\"yes\"?>"

def opening (version : Version) : String :=
  "<model" ++ Markup.pair "type" "com.apple.IDECoreDataModeler.DataModel" ++
    Markup.pair "documentVersion" "1.0" ++ Markup.pair "lastSavedToolsVersion" "14460.32" ++
    Markup.pair "systemVersion" "18A391" ++ Markup.pair "minimumToolsVersion" "Automatic" ++
    Markup.pair "sourceLanguage" "Swift" ++
    Markup.pair "userDefinedModelVersionIdentifier" version.dotted ++ ">"

def wrap (version : Version) (blocks : List String) : String :=
  declaration ++ "\n" ++ opening version ++ "\n\n" ++ "\n".intercalate blocks ++ "\n\n</model>\n"

def render (document : Document) : String :=
  wrap document.version (document.blocks.map Block.render)

end Document

end SchemaHistory
