/-!
# Sample scripts in Lua

The texts of scripts on which the host can be tried, one for each thing that a script may do.
-/

namespace PluginHost.Samples.Lua

/-- Keeps how many arguments the top level got. -/
def args : String := "args = select(\"#\", ...)
"

/-- Nothing but a comment. -/
def comment : String := "-- nothing here
"

/-- Counts, and answers values of each type. -/
def counter : String := "total = 0
initialized = false

function initialize()
    initialized = true
end

function loop(counter)
    total = total + counter
    return total
end

function echo(...) return ... end
function frac() return 1.5 end
function whole() return 2.0 end
function word() return \"word\" end
function boom() error(\"lua boom\", 0) end
ratio = 0.5
label = \"name\"
flag = true
small = 200
"

/-- Functions that fail, each in its own way. -/
def errors : String := "function text() error(\"plain\") end
function level0() error(\"no position\", 0) end
function level2() error(\"caller\", 2) end
function calls_level2() level2() end
function empty() error(\"\", 0) end
function table_value() error(\x7b code = 1 \x7d) end
function nil_value() error() end
function number_value() error(42) end
function boolean_value() error(false) end
function function_value() error(print) end
function thread_value() error(coroutine.create(print)) end
function userdata_value() error(io.stdout) end
function bytes_value() error(\"\\xff!\", 0) end
function nul_value() error(\"a\\0b\", 0) end
function long_value(n) error((\"x\"):rep(n), 0) end
function tostring_value() error(setmetatable(\x7b\x7d, \x7b __tostring = function() return \"custom\" end \x7d)) end
function assert_plain() assert(false) end
function assert_message() assert(nil, \"assert text\") end
function assert_object() assert(false, \x7b\x7d) end
function index_nil() local t = nil; return t.x end
function index_global() return missing_table.field end
function index_field() local t = \x7b\x7d; return t.a.b end
function call_nil() missing_function() end
function call_method() local t = \x7b\x7d; t:go() end
function arithmetic() local t = \x7b\x7d; return t + 1 end
function arithmetic_text() return \"abc\" + 1 end
function concat() return \"a\" .. \x7b\x7d end
function compare() return 1 < \"2\" end
function compare_tables() return \x7b\x7d < \x7b\x7d end
function length() return #nil end
function set_nil_key() local t = \x7b\x7d; t[nil] = 1 end
function set_nan_key() local t = \x7b\x7d; t[0/0] = 1 end
function int_division() return 1 // 0 end
function int_modulo() return 1 % 0 end
function no_integer() return 1 << 1.5 end
function for_limit() for i = 1, \"x\" do end end
function bad_argument() return (\"x\"):rep(\x7b\x7d) end
function overflow() return 1 + overflow() end
function caught()
    local ok, message = pcall(error, \"inner\", 0)
    return ok, message
end
function rethrown()
    local _, message = pcall(text)
    error(message, 0)
end
function in_coroutine()
    local co = coroutine.create(function() error(\"inside\", 0) end)
    return coroutine.resume(co)
end
function yields() coroutine.yield(1) end
function close_error()
    local x <close> = setmetatable(\x7b\x7d, \x7b __close = function() error(\"closing\", 0) end \x7d)
    return 1
end
function fine() return \"still works\" end
function expects_number(value) return value + 1 end
function relay(message, level) error(message, level) end
"

/-- Works with and without the standard library, as far as its functions do not use it. -/
def nolib : String := "value = 1
function uses_library() return type(value) end
function uses_nothing(a, b) return a * b + value end
function table_only() return \x7b 1, 2, 3 \x7d end
function text_method() return (\"x\"):upper() end
"

/-- Can be initialized but not run. -/
def noloop : String := "function initialize() end
"

/-- Prints when it is called. -/
def printing : String := "function initialize() print(\"init\") end
function loop(counter) print(\"loop\", counter) end
"

/-- Fails while it is loaded. -/
def raising : String := "before = 1
error('top level failure')
"

/-- Fails while it is loaded, with nothing as the error. -/
def raisingNil : String := "error()
"

/-- Its top level has results. -/
def returning : String := "x = 1
return 1, 2, 3
"

/-- Fails from the third round on. -/
def rounds : String := "rounds = 0

function initialize()
    rounds = 0
end

function loop(counter)
    rounds = rounds + 1
    if counter >= 2 then error(\"too many rounds\", 0) end
end
"

/-- Starts with a line for a shell. -/
def shebang : String := "#!/usr/bin/lua
x = 1
"

/-- Keeps state, some of it in surprising ways. -/
def state : String := "counter = 0
log = \x7b\x7d
gone = 1
zero = 0
no = false
callable = setmetatable(\x7b\x7d, \x7b __call = function(_, x) return x end \x7d)

function increment(by)
    counter = counter + (by or 1)
    return counter
end

function note(entry)
    log[#log + 1] = entry
    return #log
end

function history() return log end

function forget(index) log[index] = nil end

function make_counter()
    local n = 0
    next_value = function()
        n = n + 1
        return n
    end
end

function replace()
    increment = function() return \"replaced\" end
end

function remove(name) _G[name] = nil end

function get(name) return _G[name] end

function put(name, value) _G[name] = value end

function defaults()
    setmetatable(_G, \x7b __index = function(_, name) return \"default \" .. name end \x7d)
end

function guard_globals()
    writes = \x7b\x7d
    setmetatable(_G, \x7b __newindex = function(_, name, value)
        rawset(writes, name, value)
    end \x7d)
end

function shadow(name, value)
    rawset(_G, name, value)
end

function accumulate(values)
    for _, value in ipairs(values) do
        counter = counter + value
    end
    return counter
end

function partial()
    counter = counter + 100
    error(\"after change\", 0)
end

function loop(value)
    counter = value
    return value
end

function initialize() counter = 0 end
"

/-- Is not well formed. -/
def malformed : String := "function broken(
"

/-- A bit of everything. -/
def test : String := "counter = 0
greeting = \"hello\"
not_a_function = 42

function accept_number_string_bool(number, text, flag)
    return math.type(number) == \"integer\" and type(text) == \"string\" and type(flag) == \"boolean\"
end

function serialize_array(values)
    local out = \"\"
    for index, value in ipairs(values) do
        out = out .. index .. \":\" .. value .. \",\"
    end
    return out
end

function access_table(map, key)
    return map[key]
end

function return_array()
    return \x7b \"a\", \"b\", \"c\" \x7d
end

function return_gap_array()
    return \x7b [1] = \"a\", [3] = \"c\" \x7d
end

function return_map()
    return \x7b one = 1, two = 2 \x7d
end

function identity(value)
    return value
end

function values(base)
    return base, base * 2, base * 3
end

function increment()
    counter = counter + 1
    return counter
end

function fail(message)
    error(message)
end

function half(value)
    return value / 2
end
"

/-- Values of every type. -/
def types : String := "function int() return 7 end
function neg() return -1 end
function maxint() return math.maxinteger end
function minint() return math.mininteger end
function float_int() return 3.0 end
function neg_zero() return -0.0 end
function frac() return 2.5 end
function inf() return 1/0 end
function neg_inf() return -1/0 end
function nan() return 0/0 end
function two53() return 2.0^53 end
function two63() return 2.0^63 end
function minus_two63() return -2.0^63 end
function tenth() return 0.1 end
function huge() return 1e300 end
function numeric_string() return \"12\" end
function text() return \"h\\u\x7be9\x7dllo \\u\x7b1F600\x7d\" end
function empty_text() return \"\" end
function nul_text() return \"a\\0b\" end
function bad_utf8() return \"\\xff\\xfe\" end
function yes() return true end
function no() return false end
function nothing() end
function explicit_nil() return nil end
function many() return 1, \"two\", 3.5, true, nil, 6 end
function a_function() return many end
function a_thread() return coroutine.create(many) end
function a_userdata() return io.stdout end
function empty_table() return \x7b\x7d end
function mixed() return \x7b 1, 2, x = 3 \x7d end
function gap() return \x7b [1] = \"a\", [2] = \"b\", [4] = \"d\" \x7d end
function zero_based() return \x7b [0] = \"z\", \"a\", \"b\" \x7d end
function negative_keys() return \x7b [-1] = 1, [1] = 2 \x7d end
function float_keys() return \x7b [1.0] = \"a\", [2.0] = \"b\" \x7d end
function frac_keys() return \x7b [1.5] = \"a\" \x7d end
function bool_keys() return \x7b [true] = 1, [false] = 0 \x7d end
function string_number_keys() return \x7b [\"1\"] = \"a\", [\"2\"] = \"b\" \x7d end
function hole() return \x7b 1, nil, 3 \x7d end
function trailing_nil() return \x7b 1, 2, nil \x7d end
function mixed_values() return \x7b 1, \"two\", 3 \x7d end
function float_values() return \x7b 1.0, 2.0, 3.0 \x7d end
function half_values() return \x7b 1.0, 2.5 \x7d end
function nested() return \x7b \x7b 1, 2 \x7d, \x7b\x7d, \x7b 3 \x7d \x7d end
function nested_gap() return \x7b \x7b 1 \x7d, \x7b [2] = 5 \x7d \x7d end
function record() return \x7b id = \x7b 1 \x7d, tags = \x7b 2, 3 \x7d \x7d end
function byte_values() return \x7b 0, 127, 128, 255, 256 \x7d end
function bad_utf8_key() return \x7b [\"\\xff\"] = 1 \x7d end
function table_keys() return \x7b [\x7b 1, 2 \x7d] = \"pair\" \x7d end
function long_list(n)
    local out = \x7b\x7d
    for i = 1, n do out[i] = i * i end
    return out
end
function reversed_list(n)
    local out = \x7b\x7d
    for i = n, 1, -1 do out[i] = i end
    return out
end
function deep(n)
    local out = 0
    for _ = 1, n do out = \x7b out \x7d end
    return out
end
function metatable_list()
    return setmetatable(\x7b\x7d, \x7b __index = \x7b 1, 2, 3 \x7d, __len = function() return 3 end \x7d)
end
function kind(value) return math.type(value) or type(value) end
function count(...) return select(\"#\", ...) end
function first(...) return (...) end
function last(...) return (select(-1, ...)) end
function pass(...) return ... end
function length(value) return #value end
function keys(map)
    local out = \x7b\x7d
    for key in pairs(map) do out[#out + 1] = key end
    table.sort(out)
    return out
end
function size(map)
    local n = 0
    for _ in pairs(map) do n = n + 1 end
    return n
end
function at(container, key) return container[key] end
function key_kinds(map)
    local seen = \x7b\x7d
    for key in pairs(map) do seen[math.type(key) or type(key)] = true end
    return seen
end
function as_text(value) return tostring(value) end
function add(a, b) return a + b end
function div(a, b) return a / b end
function idiv(a, b) return a // b end
function join(a, b) return a .. b end
function byte(text, i) return text:byte(i) end
a_list = \x7b \"x\", \"y\" \x7d
a_map = \x7b x = 1, y = 2 \x7d
a_false = false
a_float = 1.25
a_whole = 4.0
a_bytes = \"\\x80\"
"

/-- The texts by file name. -/
def texts : List (String × String) :=
  [("args.lua", args),
    ("comment.lua", comment),
    ("counter.lua", counter),
    ("errors.lua", errors),
    ("nolib.lua", nolib),
    ("noloop.lua", noloop),
    ("printing.lua", printing),
    ("raises.lua", raising),
    ("raises_nil.lua", raisingNil),
    ("returns.lua", returning),
    ("rounds.lua", rounds),
    ("shebang.lua", shebang),
    ("state.lua", state),
    ("syntax.lua", malformed),
    ("test.lua", test),
    ("types.lua", types)]

/-- The scripts whose bytes are no plain text, by file name: a byte order mark, bytes that spell nothing, a compiled chunk, a
NUL, and nothing at all. -/
def oddities : List (String × List UInt8) :=
  [("bom.lua", [0xEF, 0xBB, 0xBF] ++ "x = 1\n".toUTF8.toList),
    ("bytes.lua", "x = \"".toUTF8.toList ++ [0xFF] ++ "\"\n-- ".toUTF8.toList ++ [0xFE] ++ "\n".toUTF8.toList),
    ("binary.lua", [0x1B] ++ "LuaTgarbage".toUTF8.toList),
    ("nul.lua", "x = 1 \x00 y = 2".toUTF8.toList),
    ("empty.lua", [])]

end PluginHost.Samples.Lua
