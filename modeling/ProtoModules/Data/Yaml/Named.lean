import ProtoModules.Data.Value

/-! Things that a YAML text can name without holding them: the constants and functions that every program
of the format's home language has, and a few of its system's. Only the constants have values that
settings know; a name that is not listed stands for nothing. -/

namespace ProtoModules.Data.Yaml

def namedConstants : List (String × Value) :=
  [("None", .null), ("True", .bool true), ("False", .bool false), ("__debug__", .bool true),
    ("__name__", .text "builtins"), ("__package__", .text "")]

def namedThings : List String :=
  ["ArithmeticError", "AssertionError", "AttributeError", "BaseException", "BaseExceptionGroup",
    "BlockingIOError", "BrokenPipeError", "BufferError", "BytesWarning", "ChildProcessError",
    "ConnectionAbortedError", "ConnectionError", "ConnectionRefusedError", "ConnectionResetError",
    "DeprecationWarning", "EOFError", "Ellipsis", "EncodingWarning", "EnvironmentError", "Exception",
    "ExceptionGroup", "FileExistsError", "FileNotFoundError", "FloatingPointError", "FutureWarning",
    "GeneratorExit", "IOError", "ImportError", "ImportWarning", "IndentationError", "IndexError",
    "InterruptedError", "IsADirectoryError", "KeyError", "KeyboardInterrupt", "LookupError",
    "MemoryError", "ModuleNotFoundError", "NameError", "NotADirectoryError", "NotImplemented",
    "NotImplementedError", "OSError", "OverflowError", "PendingDeprecationWarning",
    "PermissionError", "ProcessLookupError", "RecursionError", "ReferenceError", "ResourceWarning",
    "RuntimeError", "RuntimeWarning", "StopAsyncIteration", "StopIteration", "SyntaxError",
    "SyntaxWarning", "SystemError", "SystemExit", "TabError", "TimeoutError", "TypeError",
    "UnboundLocalError", "UnicodeDecodeError", "UnicodeEncodeError", "UnicodeError",
    "UnicodeTranslateError", "UnicodeWarning", "UserWarning", "ValueError", "Warning",
    "ZeroDivisionError", "__build_class__", "__doc__", "__import__", "__loader__", "__spec__", "abs",
    "aiter", "all", "anext", "any", "ascii", "bin", "bool", "breakpoint", "bytearray", "bytes",
    "callable", "chr", "classmethod", "compile", "complex", "copyright", "credits", "delattr", "dict",
    "dir", "divmod", "enumerate", "eval", "exec", "exit", "filter", "float", "format", "frozenset",
    "getattr", "globals", "hasattr", "hash", "help", "hex", "id", "input", "int", "isinstance",
    "issubclass", "iter", "len", "license", "list", "locals", "map", "max", "memoryview", "min",
    "next", "object", "oct", "open", "ord", "pow", "print", "property", "quit", "range", "repr",
    "reversed", "round", "set", "setattr", "slice", "sorted", "staticmethod", "str", "sum", "super",
    "tuple", "type", "vars", "zip"]

def namedFunctions : List String :=
  ["os.system", "os.getcwd", "os.popen", "os.remove", "os.listdir", "os.getenv", "os.path.join",
    "os.path.exists", "sys.exit", "subprocess.Popen", "subprocess.run", "subprocess.call",
    "subprocess.check_output", "json.loads", "json.dumps", "time.time", "time.sleep",
    "collections.OrderedDict", "datetime.date", "datetime.datetime", "pathlib.Path"]

/-- What a name stands for; the things that every program has may be named with their module. -/
def named? (name : String) : Option Value :=
  let plain := if name.startsWith "builtins." then (name.drop "builtins.".length).toString else name
  match namedConstants.lookup plain with
  | some v => some v
  | none =>
    if namedThings.contains plain || namedFunctions.contains name then some (.other false) else none

end ProtoModules.Data.Yaml
