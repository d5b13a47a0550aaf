import PluginHost.FileTree
import PluginHost.Manifest.Decode

/-!
# Manifest files
-/

namespace PluginHost.Manifest

/-- Reads the manifest at a path. Paths in it count from the directory that it is in. -/
def Config.ofFile (files : FileTree) (p : Path) : Except Error Config :=
  match files.readText p with
  | .error e => .error (.file e)
  | .ok text => match Config.ofText text with
    | .error e => .error (.config e)
    | .ok c => .ok { c with baseDirectory := p.parent? }

end PluginHost.Manifest
