import SchemaHistory.Output.Location
import SchemaHistory.Output.Sink

/-!
A sink that keeps a record of all writes and touches nothing else.
-/

namespace SchemaHistory

set_option autoImplicit false

structure WrittenFile where
  path : String
  content : String
  deriving DecidableEq

structure Recorder where
  /-- The writes, the oldest first. -/
  files : List WrittenFile := []
  deriving DecidableEq

namespace Recorder

def write (name content directory : String) (recorder : Recorder) : Recorder :=
  { recorder with
    files := recorder.files ++ [{ path := Location.join directory name, content }] }

def file? (recorder : Recorder) (path : String) : Option WrittenFile :=
  recorder.files.find? fun file => Location.same file.path path

def sink : Sink Recorder where
  write name content directory recorder := (.ok (), recorder.write name content directory)

end Recorder

end SchemaHistory
