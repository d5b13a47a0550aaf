/-!
# Sample scripts in Python

The texts of scripts on which the host can be tried, one for each thing that a script may do.
-/

namespace PluginHost.Samples.Python

/-- Nothing but a comment. -/
def comment : String := "# nothing here
"

/-- Counts, and answers values of each type. -/
def counter : String := "total = 0
initialized = False
ratio = 0.5
label = \"name\"
flag = True
small = 200


def initialize():
    global initialized
    initialized = True


def loop(counter):
    global total
    total += counter
    return total


def echo(*args):
    return args[0] if args else None


def frac():
    return 1.5


def whole():
    return 2.0


def boom():
    raise ValueError(\"python boom\")
"

/-- Functions that fail, each in its own way. -/
def errors : String := "import sys


class Custom(Exception):
    pass


class Outer:
    class Inner(Exception):
        pass


class NoText(Exception):
    def __str__(self):
        raise ValueError(\"no text\")


class WrongText(Exception):
    def __str__(self):
        return 5


def value_error():
    raise ValueError(\"bad value\")


def bare():
    raise ValueError


def no_message():
    raise ValueError()


def two_arguments():
    raise ValueError(\"a\", 2)


def custom():
    raise Custom(\"mine\")


def nested_class():
    raise Outer.Inner(\"inner\")


def no_text():
    raise NoText()


def wrong_text():
    raise WrongText()


def key_error():
    raise KeyError(\"missing\")


def unicode_message():
    raise ValueError(\"h\\u00e9 \\U0001F600\")


def multiline():
    raise ValueError(\"a\\nb\")


def surrogate():
    raise ValueError(\"\\ud800\")


def leave():
    sys.exit(3)


def interrupt():
    raise KeyboardInterrupt


def stop():
    raise StopIteration(\"end\")


def inner(value):
    raise ValueError(value)


def outer(value):
    inner(value)


def chained():
    try:
        inner(\"first\")
    except ValueError as error:
        raise RuntimeError(\"second\") from error


def caught():
    try:
        inner(\"x\")
    except ValueError as error:
        return str(error)


def name_error():
    undefined_name


def failing_assert():
    assert False, \"asserted\"


def with_return(value):
    if value > 2:
        raise ValueError(\"too big\")
    return value


def expects_two(a, b):
    return [a, b]


def finally_runs():
    global cleaned
    try:
        inner(\"x\")
    finally:
        cleaned = True


cleaned = False


class Formatter:
    def __init__(self, result):
        self.result = result

    def format_tb(self, traceback):
        if self.result is None:
            raise ValueError(\"no format\")
        return self.result


def hide_traceback():
    sys.modules[\"traceback\"] = None


def empty_traceback():
    sys.modules[\"traceback\"] = object()


def fake_traceback(lines):
    sys.modules[\"traceback\"] = Formatter(lines)
"

/-- Leaves while it is loaded. -/
def exiting : String := "import sys
sys.exit(0)
"

/-- Imports what is not there. -/
def importing : String := "import no_such_module_anywhere
"

/-- Is indented where it must not be. -/
def indented : String := "\tx = 1
"

/-- Fails while it is loaded. -/
def raising : String := "before = 1
raise RuntimeError('top level failure')
"

/-- Returns outside of a function. -/
def returning : String := "return 1
"

/-- Keeps state, some of it in surprising ways. -/
def state : String := "counter = 0
log = []
gone = 1
builtin_name = len


def increment(by=1):
    global counter
    counter += by
    return counter


def note(entry):
    log.append(entry)
    return len(log)


def history():
    return log


def remove(name):
    del globals()[name]


def replace():
    global increment
    increment = lambda: \"replaced\"


def module_name():
    return __name__


def file_name():
    return __file__


def modules():\n    import json
    json.marker = getattr(json, \"marker\", 0) + 1
    return json.marker


def partial():
    global counter
    counter += 100
    raise ValueError(\"after change\")


def loop(value):
    global counter
    counter = value
    return value


def initialize():
    global counter
    counter = 0


def __getattr__(name):
    if name.startswith(\"dynamic_\"):
        return name[8:]
    if name == \"explode\":
        raise RuntimeError(\"exploding attribute\")
    raise AttributeError(name)
"

/-- Is not well formed. -/
def malformed : String := "def broken(:
"

/-- A bit of everything. -/
def test : String := "counter = 0
greeting = \"hello\"
not_callable = 42


def accept_int_string_bool_float(i, s, b, f):
    return type(i) is int and type(s) is str and type(b) is bool and type(f) is float


def accept_dict(d, key):
    return d[key]


def accept_list(items):
    result = \"\"
    for item in items:
        result += item + \",\"
    return result


def identity(x):
    return x


def encode(text):
    return text.encode()


def as_tuple(items):
    return tuple(items)


def values(base):
    return (base, base * 2, base * 3)


def increment():
    global counter
    counter += 1
    return counter


def fail(message):
    raise ValueError(message)


def spin(iterations):
    total = 0
    for i in range(iterations):
        total += i
    return total
"

/-- Values of every type. -/
def types : String := "import collections\nimport enum\nimport sys


class MyInt(int):
    pass


class MyStr(str):
    pass


class MyList(list):
    pass


class MyDict(dict):
    pass


class Level(enum.IntEnum):
    LOW = 1
    HIGH = 2


class Indexable:
    def __index__(self):
        return 5

    def __float__(self):
        return 5.0

    def __str__(self):
        return \"indexable\"


class Callable:
    def __call__(self, *args):
        return len(args)


class BadStr:
    def __str__(self):
        raise RuntimeError(\"no text\")


Point = collections.namedtuple(\"Point\", \"x y\")


def integer(): return 7
def negative(): return -1
def big(): return 2 ** 63
def bigger(): return 2 ** 64
def min64(): return -(2 ** 63)
def below64(): return -(2 ** 63) - 1
def enormous(): return 10 ** 40
def byte(): return 255
def fraction(): return 2.5
def whole(): return 3.0
def tenth(): return 0.1
def infinite(): return float(\"inf\")
def nan(): return float(\"nan\")
def huge(): return 1e300
def true(): return True
def false(): return False
def none(): return None
def no_return(): pass
def text(): return \"h\\u00e9llo \\U0001F600\"
def empty_text(): return \"\"
def nul_text(): return \"a\\0b\"
def surrogate(): return \"\\ud800\"
def data(): return b\"abc\"
def array(): return bytearray(b\"abc\")
def my_int(): return MyInt(9)
def my_str(): return MyStr(\"sub\")
def my_list(): return MyList([1, 2])
def my_dict(): return MyDict(a=1)
def enum_value(): return Level.HIGH
def indexable(): return Indexable()
def complex_number(): return 1 + 2j
def point(): return Point(3, 4)
def empty_list(): return []
def empty_tuple(): return ()
def empty_dict(): return \x7b\x7d
def one_tuple(): return (1,)
def pair(): return (1, \"two\")
def triple(): return (1, 2.5, True)
def quad(): return (1, \"b\", None, [4])
def five(): return (1, 2, 3, 4, 5)
def list_pair(): return [1, \"two\"]
def int_list(): return [1, 2, 3]
def mixed_list(): return [1, \"two\", 3]
def bool_list(): return [True, False]
def int_bool_list(): return [1, True]
def with_none(): return [1, None, 3]
def nested(): return [[1, 2], [], (3,)]
def a_set(): return \x7b1\x7d
def a_range(): return range(3)
def a_generator(): return (x for x in [1])
def str_dict(): return \x7b\"b\": 2, \"a\": 1\x7d
def int_dict(): return \x7b2: \"b\", 1: \"a\"\x7d
def bool_key(): return \x7bTrue: 1\x7d
def mixed_keys(): return \x7b\"a\": 1, 2: 2\x7d
def mixed_dict(): return \x7b\"a\": 1, \"b\": \"two\"\x7d
def tuple_keys(): return \x7b(1, 2): \"x\", (): \"y\"\x7d
def pair_keys(): return \x7b(1, \"a\"): 1.5\x7d
def none_key(): return \x7bNone: 1\x7d
def nested_dict(): return \x7b\"a\": \x7b\"x\": [1]\x7d, \"b\": \x7b\x7d\x7d
def ordered(): return collections.OrderedDict(z=1, a=2)
def default_dict(): return collections.defaultdict(int, \x7b\"k\": 1\x7d)
def long_list(n): return [i * i for i in range(n)]
def deep(n):
    out = 0
    for _ in range(n):
        out = [out]
    return out


def kind(value): return type(value).__name__
def kinds(value): return [type(item).__name__ for item in value]
def key_kinds(value): return sorted(type(item).__name__ for item in value)
def show(value): return repr(value)
def count(*args): return len(args)
def show_all(*args): return repr(args)
def identity(value): return value
def optional(value=5): return value
def keyword(*, value): return value
def at(container, key): return container[key]
def keys(value): return list(value)
def add(a, b): return a + b
def length(value): return len(value)
def same(value): return value is argument
def recursion_limit(): return sys.getrecursionlimit() > 0


argument = [1, 2]
a_list = [\"x\", \"y\"]
a_dict = \x7b\"x\": 1\x7d
a_class = MyInt
an_instance = Callable()
bad_str = BadStr()
a_none = None
a_lambda = lambda: \"lambda\"
greeting = \"hi\"
ratio = 0.25
"

/-- The texts by file name. -/
def texts : List (String × String) :=
  [("comment.py", comment),
    ("counter.py", counter),
    ("errors.py", errors),
    ("exits.py", exiting),
    ("imports.py", importing),
    ("indent.py", indented),
    ("raises.py", raising),
    ("returns.py", returning),
    ("state.py", state),
    ("syntax.py", malformed),
    ("test.py", test),
    ("types.py", types)]

/-- The scripts whose bytes are no plain text, by file name: a byte order mark, a byte that spells nothing, a NUL, line ends of
another system, and nothing at all. -/
def oddities : List (String × List UInt8) :=
  [("bom.py", [0xEF, 0xBB, 0xBF] ++ "x = 1\n".toUTF8.toList),
    ("bytes.py", "x = \"".toUTF8.toList ++ [0xFF] ++ "\"\n".toUTF8.toList),
    ("nul.py", "x = 1\n\x00".toUTF8.toList),
    ("crlf.py", "x = 1\r\ny = \"a\"\r\ndef f():\r\n    return x\r\n".toUTF8.toList),
    ("empty.py", [])]

end PluginHost.Samples.Python
