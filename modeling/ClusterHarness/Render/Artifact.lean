import ClusterHarness.Error
import ClusterHarness.Json.Printer
import ClusterHarness.Render.Beans

/-!
# Rendered configurations

Node configurations in the two forms that are written for the engine, and writing them to files named
`<folder>/<name>.<extension>`.
-/

namespace ClusterHarness.Render

/-- The form of a rendered configuration. -/
inductive Format where
  | beans
  | json
  deriving Repr, DecidableEq

namespace Format

def extension : Format → String
  | .beans => "xml"
  | .json => "json"

/-- The text of a configuration. Nothing is checked. -/
def render : Format → Config.Node → String
  | .beans, n => Xml.documentText (nodeTree n)
  | .json, n => (Config.Node.codec.encode n).pretty

def path (format : Format) (folder name : String) : String :=
  Files.join folder (name ++ "." ++ format.extension)

/-- Writes a configuration: the files afterwards, and the path or what went wrong. The folder is made
first, and what has been made stays when the file cannot be written. -/
def write (format : Format) (n : Config.Node) (folder name : String) (files : Files) :
    Files × Except Error String :=
  let path := format.path folder name
  match files.makeFolders folder with
  | (files, .error fault) => (files, .error (.unwritten folder fault))
  | (files, .ok ()) =>
    match files.write path (format.render n) with
    | .error fault => (files, .error (.unwritten path fault))
    | .ok files => (files, .ok path)

end Format

end ClusterHarness.Render
