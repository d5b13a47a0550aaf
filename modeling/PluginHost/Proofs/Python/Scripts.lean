import PluginHost.Proofs.Python.Globals
import PluginHost.Proofs.Python.Scalars

/-!
# Small scripts

What it does to load a script (`PythonPlugin.load_ran`), to run one that is a definition (`Session.runModule_function`),
and to call a function that returns its only argument (`Interp.isIdentity_of_returnsArgument`).
-/

namespace PluginHost

namespace Python

open Run

/-! ## Functions -/

/-- Whether a function returns its only argument. -/
structure Function.ReturnsArgument (g : Function) (x : String) : Prop where
  params : g.code.params.map Param.name = [x]
  positionalOnly : g.code.positionalOnly = 0
  rest : g.code.rest = none
  keywordOnly : g.code.keywordOnly = []
  restKeywords : g.code.restKeywords = none
  yields : g.code.yields = false
  locals : g.code.locals.contains x
  body : ∃ span place, g.code.body = [.return (some (.name x span)) place]
  defaults : g.defaults = []
  keywordDefaults : g.keywordDefaults = []

theorem bindArguments_single (name x : String) (v : Value) (i : Interp) :
    bindArguments { name, params := [x] } [v] [] i = (.ok [(x, v)], i) := by
  simp [bindArguments, takeKeywords, pure_run]

/-- A variable of the running function. -/
theorem lookUp_local {env : Env} {id : Nat} {s : Scope} {x : String} {v : Value} {i : Interp}
    (hb : env.classBody = none) (hs : env.scope = some id) (hd : (i.heap.getD id default).data = .scope s)
    (hx : s.names.contains x) (hv : s.vars.find? (·.1 = x) = some (x, v)) : lookUp env x i = (.ok v, i) := by
  have hscope : scopeOf id i = (.ok s, i) := by
    unfold scopeOf
    rw [bind_ok (data_run id i), hd]
    rfl
  unfold lookUp
  rw [hb, hs]
  dsimp only
  rw [bind_ok (pure_run _ i)]
  dsimp only
  rw [bind_ok hscope, if_pos (by simpa using hx), hv]
  rfl

theorem execAll_return {env : Env} {x : String} {span place : Span} {v : Value} {i : Interp}
    (hx : lookUp env x i = (.ok v, i)) (n : Nat) :
    execAll (n + 3) env [.return (some (.name x span)) place] i = (.ok (.return v), i) := by
  have heval : eval (n + 1) env (.name x span) i = (.ok v, i) := by
    rw [eval]
    exact at_ok hx
  have hexec : exec (n + 2) env (.return (some (.name x span)) place) i = (.ok (.return v), i) := by
    rw [exec]
    exact bind_ok heval
  rw [execAll, bind_ok hexec]
  rfl

/-- A function that returns its only argument gives back what it is called with, unless it is called too deep. -/
theorem Interp.isIdentity_of_returnsArgument {i : Interp} {id : Nat} {x : String} {g : Function}
    (hdepth : i.depth < depthLimit) (hf : (i.heap.getD id default).data = .function g) (hg : g.ReturnsArgument x) :
    i.IsIdentity (.ref id) := by
  constructor
  · unfold isCallable
    dsimp only
    rw [bind_ok (object_run id i)]
    simp only [hf]
    rfl
  · intro v
    obtain ⟨n, hn⟩ : ∃ n, runFuel = n + 5 := ⟨runFuel - 5, rfl⟩
    obtain ⟨span, place, hbody⟩ := hg.body
    -- the variables of the call are the object that it makes
    let scope : Scope := { names := g.code.locals, globals := g.code.globals, vars := [(x, v)], parent := g.env.scope }
    have hnew : (i.heap.push { cls := 0, data := .scope scope }).getD i.heap.size default =
      { cls := 0, data := .scope scope } := by simp
    have hlook : ∀ env : Env, env.classBody = none → env.scope = some i.heap.size → ∀ depth frames,
        lookUp env x { i with heap := i.heap.push { cls := 0, data := .scope scope }, depth, frames } = (.ok v, _) :=
      fun env hb hs depth frames =>
        lookUp_local hb hs (congrArg Object.data hnew) hg.locals (by simp [scope])
    show ∃ i', callValue runFuel (.ref id) [v] [] i = _
    rw [hn, callValue, bind_ok (object_run id i)]
    simp only [hf]
    rw [callFunction, hg.params, hg.positionalOnly, hg.rest, hg.keywordOnly, hg.restKeywords, hg.yields, hg.defaults,
      hg.keywordDefaults, hbody, List.map_nil, bind_ok (bindArguments_single g.qualname x v i),
      bind_ok (alloc_run _ i), if_neg (by decide)]
    exact ⟨_, inFrame_ok hdepth (bind_ok (execAll_return (hlook _ rfl rfl _ _) n))⟩

/-! ## Definitions -/

/-- What is made of a definition without defaults. -/
def Function.ofCode (code : FunctionCode) (env : Env) : Function :=
  { code, env := { env with classBody := none, yields := none }, defaults := [], keywordDefaults := []
    qualname := env.path ++ code.name }

/-- Whether code returns its only argument. -/
def FunctionCode.returnsArgument : FunctionCode → Bool
  | .mk _ [.mk x none] 0 none [] none [.return (some (.name y _)) _] locals _ false => x = y && locals.contains x
  | _ => false

theorem FunctionCode.noDefaults_of_returnsArgument {code : FunctionCode} (hc : code.returnsArgument) :
    code.params.filterMap Param.default = [] ∧ code.keywordOnly = [] := by
  unfold returnsArgument at hc
  split at hc
  · exact ⟨rfl, rfl⟩
  · cases hc

theorem Function.returnsArgument_ofCode {code : FunctionCode} (hc : code.returnsArgument) (env : Env) :
    ∃ x, (ofCode code env).ReturnsArgument x := by
  unfold FunctionCode.returnsArgument at hc
  split at hc
  · next x y _ _ locals _ =>
    obtain ⟨rfl, hlocals⟩ : x = y ∧ locals.contains x := by simpa using hc
    exact ⟨x, rfl, rfl, rfl, rfl, rfl, rfl, hlocals, ⟨_, _, rfl⟩, rfl, rfl⟩
  · cases hc

/-- The object of such a function. -/
def Object.ofCode (code : FunctionCode) (env : Env) : Object :=
  { cls := BaseType.function.id, data := .function (.ofCode code env) }

section Definitions

variable {env : Env} {code : FunctionCode} (hp : code.params.filterMap Param.default = []) (hk : code.keywordOnly = [])
include hp hk

theorem makeFunction_run (n : Nat) (i : Interp) : makeFunction (n + 2) env code i =
    (.ok (.ref i.heap.size), { i with heap := i.heap.push (.ofCode code env) }) := by
  have hnone : ∀ i, evalItems (n + 1) env {} false [] i = (.ok [], i) := fun i => by
    rw [evalItems]
    rfl
  rw [makeFunction, hp, hk, bind_ok (hnone i), List.filterMap_nil, List.map_nil, bind_ok (hnone i)]
  rfl

omit hp hk in
theorem bindName_global (hb : env.classBody = none) (hs : env.scope = none) (name : String) (v : Value) (i : Interp) :
    bindName env name v i = setName env.globals name v i := by
  have hscope : bindingScope env name i = (.ok none, i) := by
    unfold bindingScope
    rw [hb, hs]
    dsimp only
    rw [owningScope]
    · rfl
    · nofun
  unfold bindName
  rw [bind_ok hscope]

theorem exec_function {span : Span} (hb : env.classBody = none) (hs : env.scope = none) (n : Nat) (i : Interp) :
    exec (n + 3) env (.function code [] span) i = (.ok .next, { i with
      heap := withName (i.heap.push (.ofCode code env)) env.globals code.name (.ref i.heap.size) }) := by
  have hnone : evalItems (n + 2) env {} false [] i = (.ok [], i) := by
    rw [evalItems]
    rfl
  have hset := (bindName_global hb hs code.name (.ref i.heap.size)
    { i with heap := i.heap.push (.ofCode code env) }).trans (setName_run ..)
  rw [exec, bind_ok hnone, bind_ok (makeFunction_run hp hk n i), List.zip_nil_left, List.reverse_nil, decorate,
    bind_ok (pure_run _ _), bind_ok hset]
  rfl

end Definitions

/-- An interpreter whose module has run a definition. -/
def Interp.define (i : Interp) (path : String) (code : FunctionCode) : Interp :=
  Interp.withGlobal { i with heap := i.heap.push (.ofCode code { file := path, globals := i.globals }) } code.name
    (.ref i.heap.size)

section Define

variable {i : Interp} {path : String} {code : FunctionCode} (hm : i.HasPlainMain)
include hm

theorem Interp.HasPlainMain.define : (i.define path code).HasPlainMain := by
  have hplaced := hm.append #[.ofCode code { file := path, globals := i.globals }]
  exact hplaced.withGlobal code.name (.ref i.heap.size)

theorem Interp.global?_define : (i.define path code).global? code.name = some (.ref i.heap.size) := by
  have hplaced := hm.append #[.ofCode code { file := path, globals := i.globals }]
  exact (Interp.global?_withGlobal hplaced code.name _ code.name).trans (if_pos rfl)

theorem Interp.getD_define : (i.define path code).heap.getD i.heap.size default =
    .ofCode code { file := path, globals := i.globals } := by
  refine (getD_withName_of_ne (lt_of_isDict hm.names).ne').trans ?_
  simp

end Define

/-- A script that is a definition makes the function and gives it its name. -/
theorem Session.runModule_function {s : Session} {code : FunctionCode} {span : Span}
    (hdepth : s.interp.depth < depthLimit) (hp : code.params.filterMap Param.default = []) (hk : code.keywordOnly = [])
    (path : String) : runModule [.function code [] span] path s =
      (.ok (), { s with interp := s.interp.define path code }) := by
  obtain ⟨n, hn⟩ : ∃ n, runFuel = n + 4 := ⟨runFuel - 4, rfl⟩
  have hrun : ∀ i, execAll (n + 4) { file := path, globals := s.interp.globals } [.function code [] span] i =
      (.ok .next, { i with
        heap := withName (i.heap.push (.ofCode code { file := path, globals := s.interp.globals })) s.interp.globals
          code.name (.ref i.heap.size) }) := by
    intro i
    rw [execAll, bind_ok (exec_function hp hk rfl rfl n i), execAll]
    rfl
  have hbody : (do
      let env : Env := { file := path, globals := (← get).globals }
      let _ ← Run.inFrame env (execAll runFuel env [.function code [] span]) : Run Unit) s.interp =
      (.ok (), s.interp.define path code) := by
    rw [bind_ok (Run.get_run _), hn, bind_ok (inFrame_ok hdepth (hrun _))]
    rfl
  unfold runModule
  rw [bind_eq (attempt_ok hbody)]
  rfl

end Python

/-! ## Loading -/

open Python

/-- Reading the only file of a directory. -/
theorem FileTree.readText_only (source : String) :
    (FileTree.mk [(["a.py"], .file source.toUTF8)] []).readText ⟨"a.py"⟩ = .ok source := by
  have hlocate : (FileTree.mk [(["a.py"], .file source.toUTF8)] []).locate ⟨"a.py"⟩ = .ok ["a.py"] := by
    have hpieces : (Path.mk "a.py").pieces = ["a.py"] := by decide +kernel
    have habsolute : (Path.mk "a.py").isAbsolute = false := by simp [Path.isAbsolute]
    rw [locate, hpieces, habsolute, if_neg (by simp), if_neg (by decide), if_neg (by decide)]
    rfl
  have hbytes : (FileTree.mk [(["a.py"], .file source.toUTF8)] []).readBytes ⟨"a.py"⟩ = .ok source.toUTF8 := by
    rw [readBytes, node, hlocate]
    rfl
  rw [readText, hbytes]
  dsimp only [bind, Except.bind]
  rw [Text.ofBytes?_toUTF8]

/-- Running a script that is well formed gives its module a name and runs it. -/
theorem PythonInterpreter.execute_ran {p : PythonInterpreter} (hm : p.session.interp.HasPlainMain) {source : String}
    {path : Path} (hsource : source.contains '\x00' = false) (hpath : path.text.contains '\x00' = false)
    {body : List Stmt} (hbody : parseModule? source = some body) {s : Session} (hrun : Session.runModule body path.text
      { p.session with interp := p.session.interp.withGlobal "__file__" (.ofString path.text) } = (.ok (), s))
    (w : World) : ∃ w₁, (p.execute source path).run w = ((.ok (), { p with session := s }), w₁) := by
  have hfile : IsGlobalName "__file__" := ⟨by decide, by decide, by decide⟩
  have hnamed := Session.setAttr_run (s := p.session) hm hfile (.ofString path.text)
  have hname : (p.run do Session.setAttr (← Session.main) "__file__" (.ofString path.text)) = (.ok (), { p with
      session := { p.session with interp := p.session.interp.withGlobal "__file__" (.ofString path.text) } }) := by
    unfold PythonInterpreter.run StateT.run
    rw [Session.bind_eq (Session.main_run _), hnamed]
  refine ⟨w, ?_⟩
  unfold PythonInterpreter.execute
  rw [if_neg (by simp [hsource, hpath]), hbody]
  dsimp only
  rw [hname]
  dsimp only
  unfold PythonInterpreter.run StateT.run
  rw [hrun]
  rfl

/-- Loading a script that is well formed runs it in a new interpreter. -/
theorem PythonPlugin.load_ran {w : World} {path : Path} {source : String}
    (hm : (Interp.start w.files).HasPlainMain) (hread : w.files.readText path = .ok source)
    (hsource : source.contains '\x00' = false) (hpath : path.text.contains '\x00' = false) {body : List Stmt}
    (hbody : parseModule? source = some body) {s : Session} (hrun : Session.runModule body path.text
      { interp := (Interp.start w.files).withGlobal "__file__" (.ofString path.text) } = (.ok (), s))
    (options : PythonOptions) :
    ∃ w₁, (load path options).run w = (.ok { interpreter := { session := s }, path }, w₁) := by
  obtain ⟨w₁, hstart⟩ : ∃ w₁, (PythonInterpreter.start options).run w = ({ session.interp := .start w.files }, w₁) := by
    unfold PythonInterpreter.start
    simp only [StateT.run_bind, StateT.run_get, pure_bind]
    split <;> exact ⟨_, rfl⟩
  obtain ⟨w₂, hexecute⟩ := PythonInterpreter.execute_ran (p := { session.interp := .start w.files })
    hm hsource hpath hbody hrun w₁
  unfold load
  simp only [StateT.run_bind, Host.files, StateT.run_get, StateT.run_pure, pure_bind, hread]
  dsimp only [bind]
  rw [hstart]
  dsimp only
  rw [hexecute]
  exact ⟨_, rfl⟩

/-- The name of a definition that returns its argument stands for a function that gives back what it is called with. -/
theorem PythonPlugin.hasIdentity_of_define {p : PythonPlugin} {i : Interp} {file : String} {code : FunctionCode}
    (hp : p.interp = i.define file code) (hm : i.HasPlainMain) (hdepth : i.depth < depthLimit)
    (hn : IsGlobalName code.name) (hcode : code.returnsArgument) : p.HasIdentity code.name := by
  obtain ⟨x, hg⟩ := Function.returnsArgument_ofCode hcode { file, globals := i.globals }
  have hplain : p.interp.HasPlainMain := hp ▸ hm.define
  have hfound : p.interp.global? code.name = some (.ref i.heap.size) := hp ▸ Interp.global?_define hm
  refine ⟨_, _, Session.getAttr?_global hplain hn hfound, ?_⟩
  show p.interp.IsIdentity _
  rw [hp]
  exact Interp.isIdentity_of_returnsArgument hdepth (congrArg Object.data (Interp.getD_define hm)) hg

end PluginHost
