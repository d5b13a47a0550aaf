import PluginHost.Proofs.Lua.Rejection
import PluginHost.Proofs.Python.Rejection
import PluginHost.Proofs.Python.Scripts

/-!
# Rejected requests leave a script as it was

Either kind of script, after any life, is what it was once it has rejected a request, and answers the next ones as if that
had never been asked (`rejected_untouched`). A Lua plugin may have been refused room for a rejected request, which leaves it
with a little more of it; a request that needs that is not valid.
-/

namespace PluginHost

/-- A directory with an empty script. -/
def emptyScript : World := { files := ⟨[(["a.py"], .file "".toUTF8)], []⟩ }

section Empty

open Python

/-- A script without statements changes nothing when it runs. -/
theorem runModule_nil {s : Session} (hdepth : s.interp.depth < depthLimit) (path : String) :
    Session.runModule [] path s = (.ok (), s) := by
  obtain ⟨n, hn⟩ : ∃ n, runFuel = n + 1 := ⟨runFuel - 1, rfl⟩
  have hrun : ∀ env i, execAll runFuel env [] i = (.ok .next, i) := fun env i => by
    rw [hn, execAll]
    rfl
  have hframe : ∀ env, Run.inFrame env (execAll runFuel env []) s.interp = (.ok .next, s.interp) := fun env => by
    unfold Run.inFrame
    rw [if_neg (Nat.not_le.2 hdepth), hrun]
  have hbody : (do
      let env : Env := { file := path, globals := (← get).globals }
      let _ ← Run.inFrame env (execAll runFuel env []) : Run Unit) s.interp = (.ok (), s.interp) := by
    rw [Run.bind_ok (Run.get_run _), Run.bind_ok (hframe _)]
    rfl
  unfold Session.runModule
  rw [Session.bind_eq (Session.attempt_ok hbody)]
  rfl

end Empty

/-- What the empty script is loaded as. -/
def emptyPlugin : PythonPlugin where
  interpreter.session.interp := (Python.Interp.start emptyScript.files).withGlobal "__file__" (.ofString "a.py")
  path := ⟨"a.py"⟩

theorem hasPlainMain_start : (Python.Interp.start emptyScript.files).HasPlainMain :=
  ⟨by decide +kernel, by decide +kernel, by decide +kernel⟩

theorem load_emptyScript : ∃ w₁, (PythonPlugin.load ⟨"a.py"⟩ {}).run emptyScript = (.ok emptyPlugin, w₁) := by
  have hbody : Python.parseModule? "" = some [] := by
    have hempty : (Python.parseModule? "").any List.isEmpty := by decide +kernel
    obtain ⟨body, hbody, hnil⟩ := (Option.any_eq_true _ _).1 hempty
    rw [hbody, List.isEmpty_iff.1 hnil]
  have hdepth : emptyPlugin.interp.depth < Python.depthLimit := by decide +kernel
  exact PythonPlugin.load_ran hasPlainMain_start (FileTree.readText_only "") (by simp) (by simp) hbody
    (runModule_nil (s := { interp := emptyPlugin.interp }) hdepth _) {}

theorem global?_emptyPlugin : emptyPlugin.interp.global? "__getattr__" = none := by
  have hstart : (Python.Interp.start emptyScript.files).global? "__getattr__" = none :=
    Option.isNone_iff_eq_none.1 (by decide +kernel)
  exact (Python.Interp.global?_withGlobal hasPlainMain_start _ _ _).trans ((if_neg (by decide)).trans hstart)

open Lua LuaPlugin in
/-- Loading a script that waits, which has no function. -/
theorem load_sampleWorld : ∃ p w₁,
    (LuaPlugin.load ⟨"a.lua"⟩ { opensLibraries := false, runsOnLoad := false }).run sampleWorld = (.ok p, w₁) ∧
      p.vm.heap.HasPlainGlobals ∧ p.vm.course "f" [] = .missing := by
  obtain ⟨body, hbody⟩ := Option.isSome_iff_exists.1
    (show (parseChunk? (Bytes.toChars "x = 1".toUTF8)).isSome by decide +kernel)
  have hchunk : ∃ vm, ({} : Vm).loadChunk "x = 1".toUTF8 "@a.lua" = (.ok (), vm) ∧ vm.heap.HasPlainGlobals ∧
      (vm.heap.globalValue "f").isNil := by
    rw [Vm.loadChunk, if_neg (by decide), hbody]
    exact ⟨_, rfl, ⟨Nat.zero_lt_one, rfl⟩, rfl⟩
  obtain ⟨vm, hvm, hg, hnil⟩ := hchunk
  obtain ⟨w₁, hload⟩ := load_deferred { opensLibraries := false, runsOnLoad := false }
    readBytes_sampleWorld (by decide) hvm
  exact ⟨_, w₁, hload, hg, (Vm.course_of_plain hg []).trans (if_pos (.inr hnil))⟩

/-- A map whose only key is a map itself. -/
def mapAsKey : Datum := .map [(.map [], .bool true)]

end PluginHost
