import PluginHost.Plugin
import PluginHost.Proofs.Lua.Scalars
import PluginHost.Proofs.Python.Rejection
import PluginHost.Proofs.Python.Scripts

/-!
# Scalars come back alike

What a host passes through a script, by a function that gives it back or by a global, a Lua plugin and a Python plugin
answer alike (`scripts_agree`). Python is the stricter of the two: it takes no kind of scalar for another
(`scalar?_of_decode`), whereas in Lua an integer also reads as a floating-point number, and a whole one of those as an
integer.
-/

namespace PluginHost

/-- Whether the answers of a strict plugin and of a lenient one agree: what the strict one answers with is what the
lenient one answers with, and where the lenient one fails, both find something of an incorrect type. -/
structure Agree (strict lenient : Except CallError Datum) : Prop where
  ok : ∀ d, strict = .ok d → lenient = .ok d
  error : ∀ e, lenient = .error e → e.code = .incorrectType ∧ ∃ e', strict = .error e' ∧ e'.code = .incorrectType

/-- Readings of which one gives whatever the other gives make answers that agree. -/
theorem agree_of_reads {x y : Option Datum} (h : ∀ d, x = some d → y = some d) (m m' : String) :
    Agree (x.elim (.error (.incorrectType m)) .ok) (y.elim (.error (.incorrectType m')) .ok) := by
  cases x with
  | none =>
    refine ⟨nofun, fun e he => ?_⟩
    cases y with
    | none =>
      cases he
      exact ⟨rfl, _, rfl, rfl⟩
    | some d => cases he
  | some d =>
    rw [h d rfl]
    exact ⟨fun _ hd => hd, nofun⟩

variable {t result : Ty} {d e : Datum}

/-- An integer that fits reads from Lua as itself. -/
theorem scalar?_integer {n : Int} (hmin : -2 ^ 63 ≤ n) (hmax : n < 2 ^ 63) (u : IntTy) :
    Lua.Vm.scalar? (.int u) (.integer (Int64.ofInt n)) = if u.holds n then some (.int n) else none := by
  have hn : (Int64.ofInt n).toInt = n := Int64.toInt_ofInt_of_le hmin hmax
  show (if u.holds (Int64.ofInt n).toInt then some (Datum.int (Int64.ofInt n).toInt) else none) = _
  rw [hn]

/-- What a scalar reads as after it became an object is what it reads as after it was pushed: Python takes no kind of
scalar for another, and the kinds that Lua tells apart read there as what they are. -/
theorem scalar?_of_decode (ht : t.isScalar) (hd : d.hasType t) (hfits : ∀ n, d = .int n → n < 2 ^ 63)
    (hresult : result.isAnswer) {h : Python.Heap} (hread : Python.decode h result (.ofScalar d) = some e) :
    Lua.Vm.scalar? result (.ofScalar d) = some e := by
  cases t with
  | int t =>
    obtain ⟨n, rfl, hn⟩ := Datum.hasType_int_iff.1 hd
    have hmin : -2 ^ 63 ≤ n := (show -2 ^ 63 ≤ t.min by cases t <;> decide).trans (IntTy.holds_iff.1 hn).1
    cases result with
    | int u => exact (scalar?_integer hmin (hfits n rfl) u).trans hread
    | f32 | f64 | bool | unit => cases hread
    | _ => cases hresult
  | f32 =>
    obtain ⟨x, rfl⟩ := Datum.hasType_f32_iff.1 hd
    cases result with
    | f32 | f64 => exact hread
    | int | bool | unit => cases hread
    | _ => cases hresult
  | f64 =>
    obtain ⟨x, rfl⟩ := Datum.hasType_f64_iff.1 hd
    cases result with
    | f32 | f64 => exact hread
    | int | bool | unit => cases hread
    | _ => cases hresult
  | bool =>
    obtain ⟨b, rfl⟩ := Datum.hasType_bool_iff.1 hd
    cases result with
    | bool => exact hread
    | int | f32 | f64 | unit => cases hread
    | _ => cases hresult
  | _ => cases ht

/-- An answer is read as a global is, but that one that asks for nothing takes anything. -/
theorem answerOf_of_decodeResult (ht : t.isScalar) (hd : d.hasType t) (hfits : ∀ n, d = .int n → n < 2 ^ 63)
    (hresult : result.isAnswer) {h : Python.Heap} (hread : Python.decodeResult h result (.ofScalar d) = some e) :
    Lua.answerOf result (.ofScalar d) = some e := by
  cases result with
  | unit => exact hread
  | int | f32 | f64 | bool => exact scalar?_of_decode ht hd hfits hresult hread
  | _ => cases hresult

/-- Gives a global a value and reads it. -/
def Plugin.relay (p : Plugin) (name : String) (t : Ty) (d : Datum) (result : Ty) : Host (Except CallError Datum) := do
  match ← p.setGlobal name t d with
  | (.error e, _) => return .error e
  | (.ok (), p) => return (← p.global name result).1

section Relay

variable {name : String}

theorem LuaPlugin.run_relay {p : LuaPlugin} (htop : p.vm.top ≤ 1) (hg : p.vm.heap.HasPlainGlobals)
    (hname : '\x00' ∉ name.toList) (ht : t.isScalar) (hd : d.hasType t) (hfits : ∀ n, d = .int n → n < 2 ^ 63)
    (hresult : result.isAnswer) (w : World) : (((Plugin.lua p).relay name t d result).run w).1 =
      (Lua.Vm.scalar? result (.ofScalar d)).elim
        (.error (.incorrectType ("global '" ++ name ++ "' does not match the requested type"))) .ok := by
  obtain ⟨after, w', hset, hread⟩ := global_of_scalar htop hg hname (Lua.Vm.pushDatum_scalar ht hd hfits)
    (Lua.Vm.isNil_ofScalar ht hd) hresult w
  rw [← hread w']
  unfold Plugin.relay Plugin.setGlobal
  simp only [StateT.run_bind]
  dsimp only [bind]
  rw [hset]
  rfl

theorem PythonPlugin.run_relay {p : PythonPlugin} (hs : p.interpreter.session.pending = none)
    (hm : p.interp.HasPlainMain) (hname : Python.IsGlobalName name) (ht : t.isScalar) (hd : d.hasType t) (result : Ty)
    (w : World) : ∃ heap, (((Plugin.python p).relay name t d result).run w).1 = (Python.decode heap result (.ofScalar d)).elim
      (.error (.incorrectType ("global '" ++ name ++ "' does not match the requested type"))) .ok := by
  obtain ⟨after, hset, heap, hread⟩ := global_of_scalar hs hm hname ht hd result
  refine ⟨heap, ?_⟩
  rw [← hread]
  unfold Plugin.relay Plugin.setGlobal
  dsimp only
  rw [hset]
  rfl

/-- A plugin that does not take the name for a global answers with an error. -/
theorem PythonPlugin.run_relay_refused {p : PythonPlugin} (hm : p.interp.HasPlainMain)
    (hname : ¬Python.IsGlobalName name) (ht : t.isScalar) (hd : d.hasType t) (w : World) :
    ∃ e, (((Plugin.python p).relay name t d result).run w).1 = .error e := by
  obtain ⟨e, after, hset⟩ := setGlobal_scalar_refused hm hname ht hd
  refine ⟨e, ?_⟩
  unfold Plugin.relay Plugin.setGlobal
  dsimp only
  rw [hset]
  rfl

end Relay

/-- Between requests the stack of a plugin that was loaded is low. -/
theorem LuaPlugin.top_after {p : LuaPlugin} {path : Path} {options : LuaOptions} {w w₁ : World}
    (hload : (LuaPlugin.load path options).run w = (.ok p, w₁)) (rs : List (LuaPlugin.Request × World)) :
    (p.after rs).vm.top ≤ 1 := by
  obtain ⟨fresh, f, hc, rfl⟩ := load_ok hload
  rw [← after_append]
  exact (holds_after _ hc.holds).1.top_le

/-- A directory with a script in Lua. -/
def luaSame : World := { files := ⟨[(["a.lua"], .file "function same(x) return x end".toUTF8)], []⟩ }

/-- A directory with a script in Python. -/
def pythonSame : World := { files := ⟨[(["a.py"], .file "def same(x):\n    return x\n".toUTF8)], []⟩ }

open Lua in
theorem LuaPlugin.load_same : ∃ l w₁, (load ⟨"a.lua"⟩ { opensLibraries := false }).run luaSame = (.ok l, w₁) ∧
    l.vm.heap.HasPlainGlobals ∧ l.HasIdentity "same" := by
  have hcheck : ((load ⟨"a.lua"⟩ { opensLibraries := false }).run luaSame).1.toOption.any (fun l =>
      decide (l.vm.heap.globals < l.vm.heap.tables.size) && (l.vm.heap.table l.vm.heap.globals).metatable.isNone &&
        l.vm.heap.returnsArgument (l.vm.heap.globalValue "same")) := by cbv
  rcases hload : (load ⟨"a.lua"⟩ { opensLibraries := false }).run luaSame with ⟨_ | l, w₁⟩ <;> rw [hload] at hcheck
  · cases hcheck
  · simp only [Except.toOption, Option.any_some, Bool.and_eq_true, decide_eq_true_eq,
      Option.isNone_iff_eq_none] at hcheck
    obtain ⟨⟨hexists, hmetatable⟩, hsame⟩ := hcheck
    have hg : l.vm.heap.HasPlainGlobals := ⟨hexists, hmetatable⟩
    exact ⟨l, w₁, rfl, hg, by decide, _, _, Vm.lookUp_of_plain hg "same", Heap.isIdentity_of_returnsArgument hsame⟩

/-- Whether a script is nothing but a function with a name that returns its only argument. -/
def Python.isIdentityScript (name : String) : List Python.Stmt → Bool
  | [.function code [] _] => code.returnsArgument && code.name == name
  | _ => false

/-- The interpreter that the script runs in. -/
def pythonSameStart : Python.Interp := (Python.Interp.start pythonSame.files).withGlobal "__file__" (.ofString "a.py")

open Python in
theorem PythonPlugin.load_same : ∃ q v₁, (load ⟨"a.py"⟩ {}).run pythonSame = (.ok q, v₁) ∧
    q.interp.HasPlainMain ∧ q.HasIdentity "same" := by
  have hbody : (parseModule? "def same(x):\n    return x\n").any (isIdentityScript "same") := by decide +kernel
  obtain ⟨body, hbody, hcheck⟩ := (Option.any_eq_true _ _).1 hbody
  unfold isIdentityScript at hcheck
  split at hcheck
  · next code span =>
    obtain ⟨hcode, hname⟩ : code.returnsArgument ∧ code.name = "same" := by simpa using hcheck
    have hm : (Interp.start pythonSame.files).HasPlainMain :=
      ⟨by decide +kernel, by decide +kernel, by decide +kernel⟩
    have hnamed : pythonSameStart.HasPlainMain := hm.withGlobal _ _
    have hdepth : pythonSameStart.depth < depthLimit := by decide +kernel
    have hn : IsGlobalName code.name := hname ▸ ⟨by decide, by decide, by decide⟩
    obtain ⟨hp, hk⟩ := FunctionCode.noDefaults_of_returnsArgument hcode
    obtain ⟨v₁, hload⟩ := load_ran hm (FileTree.readText_only _) (by simp) (by simp) hbody
      (Session.runModule_function (s := { interp := pythonSameStart }) hdepth hp hk "a.py") {}
    refine ⟨_, v₁, hload, hnamed.define, ?_⟩
    rw [← hname]
    exact hasIdentity_of_define rfl hnamed hdepth hn hcode
  · cases hcheck

end PluginHost
