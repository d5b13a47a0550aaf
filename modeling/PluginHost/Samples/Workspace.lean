import PluginHost.FileTree
import PluginHost.Samples.Libraries
import PluginHost.Samples.LuaScripts
import PluginHost.Samples.PythonScripts

/-!
# A sample directory

A directory with plugins of every kind: the sample scripts, an empty directory, a directory of libraries two of which are none,
and a library whose name does not show what it is.
-/

namespace PluginHost.Samples

/-- The directory, as the current one of its files. -/
def workspace : FileTree where
  current := ["work"]
  nodes :=
    let plain := (Lua.texts ++ Python.texts).map fun (n, s) => (["work", n], Node.file s.toUTF8)
    let odd := (Lua.oddities ++ Python.oddities).map fun (n, bytes) => (["work", n], Node.file ⟨bytes.toArray⟩)
    [(["work"], .directory), (["work", "adir"], .directory), (["work", "p"], .directory),
      (["work", "p", "libc_plugin.so"], .library direct), (["work", "p", "second.so"], .library direct),
      (["work", "p", "libcpp_plugin.so"], .library aliased), (["work", "p", "libext_plugin.so"], .library extended),
      (["work", "p", "garbage.so"], .file "this is not a shared library\n".toUTF8),
      (["work", "p", "libhollow.so"], .file .empty),
      (["work", "bare.library"], .library direct)] ++ plain ++ odd

end PluginHost.Samples
