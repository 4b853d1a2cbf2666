import Rollout.Log.Level
import Rollout.Log.SetupFault
import Rollout.Log.Thing
import Rollout.Text.Pieces

/-!
The names of things that settings do not hold themselves.

A dotted name starts with the name of a module, and every further part names something in what the
parts before it name. A part that names nothing there is taken for the name of a module inside.
-/

set_option autoImplicit false
set_option relaxedAutoImplicit false

namespace Rollout.Log

namespace HandlerKind

def all : List HandlerKind := [
  .bare, .null, .stream, .complaint, .file, .watchedFile, .rotatingFile, .timedFile, .buffer,
  .memory, .socket, .datagram, .systemLog, .mail, .web, .queue]

def name : HandlerKind → String
  | .bare => "Handler"
  | .null => "NullHandler"
  | .stream => "StreamHandler"
  | .complaint => "_StderrHandler"
  | .file => "FileHandler"
  | .watchedFile => "WatchedFileHandler"
  | .rotatingFile => "RotatingFileHandler"
  | .timedFile => "TimedRotatingFileHandler"
  | .buffer => "BufferingHandler"
  | .memory => "MemoryHandler"
  | .socket => "SocketHandler"
  | .datagram => "DatagramHandler"
  | .systemLog => "SysLogHandler"
  | .mail => "SMTPHandler"
  | .web => "HTTPHandler"
  | .queue => "QueueHandler"

def isSimple : HandlerKind → Bool
  | .bare | .null | .stream | .complaint | .file => true
  | _ => false

end HandlerKind

namespace Names

def home : String := "logging"

def handlersHome : String := "logging.handlers"

def packages : List String := [home]

def functions : List String := [
  "abs", "all", "any", "ascii", "bin", "breakpoint", "callable", "chr", "compile", "delattr",
  "dir", "divmod", "eval", "exec", "format", "getattr", "globals", "hasattr", "hash", "hex",
  "id", "input", "isinstance", "issubclass", "iter", "aiter", "len", "locals", "max", "min",
  "next", "anext", "oct", "ord", "pow", "print", "repr", "round", "setattr", "sorted", "sum",
  "vars", "memoryview", "bytearray", "bytes", "classmethod", "complex", "enumerate", "filter",
  "float", "frozenset", "property", "map", "object", "range", "reversed", "slice",
  "staticmethod", "super", "type", "zip", "open", "quit", "exit", "copyright", "credits",
  "license", "help", "__import__"]

/-- Modules that can be named although nothing is known of what they hold. -/
def otherModules : List String := [
  "abc", "argparse", "array", "ast", "asyncio", "atexit", "base64", "bisect", "calendar",
  "codecs", "collections", "configparser", "contextlib", "copy", "csv", "datetime", "decimal",
  "difflib", "enum", "errno", "fnmatch", "fractions", "functools", "gc", "getpass", "glob",
  "gzip", "hashlib", "heapq", "hmac", "html", "http", "importlib", "inspect", "io", "ipaddress",
  "itertools", "json", "keyword", "linecache", "locale", "math", "mimetypes", "multiprocessing",
  "numbers", "operator", "pathlib", "pickle", "platform", "pprint", "queue", "random", "re",
  "sched", "secrets", "select", "shlex", "shutil", "signal", "site", "socket", "sqlite3", "ssl",
  "stat", "statistics", "string", "struct", "subprocess", "sysconfig", "tempfile", "textwrap",
  "threading", "time", "timeit", "token", "tokenize", "traceback", "types", "typing",
  "unicodedata", "unittest", "urllib", "uuid", "warnings", "weakref", "xml", "zipfile", "zlib",
  "yaml", "sequencer"]

/-- The kinds of faults that can be named wherever a name can stand. -/
def faultKinds : List String := [
  "BaseException", "BaseExceptionGroup", "Exception", "GeneratorExit", "KeyboardInterrupt",
  "SystemExit", "ArithmeticError", "AssertionError", "AttributeError", "BufferError", "EOFError",
  "ImportError", "LookupError", "MemoryError", "NameError", "OSError", "ReferenceError",
  "RuntimeError", "StopAsyncIteration", "StopIteration", "SyntaxError", "SystemError",
  "TypeError", "ValueError", "Warning", "FloatingPointError", "OverflowError",
  "ZeroDivisionError", "BytesWarning", "DeprecationWarning", "EncodingWarning", "FutureWarning",
  "ImportWarning", "PendingDeprecationWarning", "ResourceWarning", "RuntimeWarning",
  "SyntaxWarning", "UnicodeWarning", "UserWarning", "BlockingIOError", "ChildProcessError",
  "ConnectionError", "FileExistsError", "FileNotFoundError", "InterruptedError",
  "IsADirectoryError", "NotADirectoryError", "PermissionError", "ProcessLookupError",
  "TimeoutError", "IndentationError", "IndexError", "KeyError", "ModuleNotFoundError",
  "NotImplementedError", "RecursionError", "UnboundLocalError", "UnicodeError",
  "BrokenPipeError", "ConnectionAbortedError", "ConnectionRefusedError", "ConnectionResetError",
  "TabError", "UnicodeDecodeError", "UnicodeEncodeError", "UnicodeTranslateError",
  "ExceptionGroup", "EnvironmentError", "IOError"]

def handlerEntry (kind : HandlerKind) : String × Thing := (kind.name, .maker (.handler kind))

def functionEntries (names : List String) : List (String × Thing) :=
  names.map fun name => (name, .function name)

def moduleEntries (names : List String) : List (String × Thing) :=
  names.map fun name => (name, .module name)

def homeEntries : List (String × Thing) :=
  weights.map (fun (name, weight) => (name, Thing.whole weight)) ++
    ["raiseExceptions", "logThreads", "logMultiprocessing", "logProcesses"].map
      (fun name => (name, Thing.value (.bool true))) ++
    [("BASIC_FORMAT", .text "%(levelname)s:%(name)s:%(message)s"), ("__name__", .text home),
      ("handlers", .module handlersHome), ("config", .module "logging.config")] ++
    ((HandlerKind.all.filter HandlerKind.isSimple).map handlerEntry) ++
    [("Formatter", .maker .layout), ("Filter", .maker .filter)] ++
    moduleEntries [
      "sys", "os", "time", "io", "re", "traceback", "warnings", "weakref", "collections",
      "threading", "atexit"] ++
    functionEntries [
      "GenericAlias", "Template", "getLevelNamesMapping", "getLevelName", "addLevelName",
      "currentframe", "LogRecord", "setLogRecordFactory", "getLogRecordFactory", "makeLogRecord",
      "PercentStyle", "StrFormatStyle", "StringTemplateStyle", "BufferingFormatter", "Filterer",
      "PlaceHolder", "setLoggerClass", "getLoggerClass", "Manager", "Logger", "RootLogger",
      "LoggerAdapter", "basicConfig", "getLogger", "critical", "fatal", "error", "exception",
      "warning", "warn", "info", "debug", "log", "disable", "shutdown", "captureWarnings"] ++
    [("lastResort", .other "_StderrHandler"), ("root", .other "RootLogger")]

def handlersEntries : List (String × Thing) :=
  ((HandlerKind.all.filter fun kind => !kind.isSimple).map handlerEntry) ++
    [("DEFAULT_TCP_LOGGING_PORT", .whole 9020), ("DEFAULT_UDP_LOGGING_PORT", .whole 9021),
      ("DEFAULT_HTTP_LOGGING_PORT", .whole 9022), ("DEFAULT_SOAP_LOGGING_PORT", .whole 9023),
      ("SYSLOG_UDP_PORT", .whole 514), ("SYSLOG_TCP_PORT", .whole 514),
      ("logging", .module home)] ++
    moduleEntries [
      "io", "socket", "os", "pickle", "struct", "time", "re", "queue", "threading", "copy"]

/-- What the module of the system's streams holds. -/
def systemEntries : List (String × Thing) := [
  ("stdout", .stream .out), ("stderr", .stream .err), ("stdin", .other "_io.TextIOWrapper"),
  ("__stdout__", .stream .away), ("__stderr__", .stream .away),
  ("__stdin__", .other "_io.TextIOWrapper"), ("maxsize", .whole 9223372036854775807),
  ("maxunicode", .whole 1114111), ("byteorder", .text "little"), ("platform", .text "linux"),
  ("argv", .other "list"), ("path", .other "list"), ("modules", .other "dict"),
  ("version_info", .other "sys.version_info"), ("version", .other "str"),
  ("executable", .other "str"), ("exec_prefix", .other "str"), ("base_prefix", .other "str"),
  ("flags", .other "sys.flags"), ("float_info", .other "sys.float_info"),
  ("hash_info", .other "sys.hash_info"), ("int_info", .other "sys.int_info"),
  ("hexversion", .other "int"), ("api_version", .whole 1013), ("meta_path", .other "list"),
  ("path_hooks", .other "list"), ("warnoptions", .list []), ("dont_write_bytecode", .other "bool"),
  ("implementation", .other "types.SimpleNamespace"), ("float_repr_style", .text "short"),
  ("builtin_module_names", .other "tuple"), ("stdlib_module_names", .other "frozenset")] ++
    functionEntries [
      "exit", "exc_info", "excepthook", "displayhook", "getdefaultencoding", "getrecursionlimit",
      "getrefcount", "getsizeof", "getswitchinterval", "gettrace", "getprofile", "intern",
      "is_finalizing", "setprofile", "setrecursionlimit", "setswitchinterval", "settrace",
      "getfilesystemencoding", "getfilesystemencodeerrors", "addaudithook", "audit",
      "breakpointhook", "call_tracing", "exception", "get_int_max_str_digits",
      "set_int_max_str_digits", "unraisablehook", "getallocatedblocks", "_getframe"]

def systemFunctions : List String := [
  "access", "chdir", "chmod", "chown", "close", "cpu_count", "dup", "environb", "execv", "fdopen",
  "fork", "fspath", "fstat", "getegid", "geteuid", "getgid", "getloadavg", "getlogin", "getpgid",
  "getpid", "getppid", "getuid", "isatty", "kill", "link", "listdir", "lseek", "lstat", "makedirs",
  "mkdir", "mkfifo", "nice", "open", "pipe", "popen", "putenv", "read", "readlink", "remove",
  "removedirs", "rename", "replace", "rmdir", "scandir", "setsid", "spawnv", "stat", "strerror",
  "symlink", "sync", "system", "times", "truncate", "umask", "uname", "unlink", "unsetenv",
  "urandom", "utime", "wait", "waitpid", "walk", "write"]

def filesEntries : List (String × Thing) := [
  ("name", .text "posix"), ("linesep", .text "\n"), ("curdir", .text "."), ("pardir", .text ".."),
  ("sep", .text "/"), ("pathsep", .text ":"), ("extsep", .text "."), ("altsep", .nothing),
  ("devnull", .text "/dev/null"), ("defpath", .text "/bin:/usr/bin"), ("F_OK", .whole 0),
  ("path", .module "os.path"), ("environ", .other "os._Environ"),
  ("getenv", .function "os.getenv"), ("getcwd", .function "posix.getcwd"),
  ("sys", .module "sys")] ++
    functionEntries systemFunctions

def pathEntries : List (String × Thing) :=
  [("join", .function "posixpath.join"), ("os", .module "os"), ("sep", .text "/")] ++
    functionEntries [
      "abspath", "basename", "commonpath", "commonprefix", "dirname", "exists", "expanduser",
      "expandvars", "getsize", "isabs", "isdir", "isfile", "islink", "lexists", "normpath",
      "realpath", "relpath", "split", "splitext"]

def commonEntries : List (String × Thing) :=
  [("tuple", .maker .tuple), ("list", .maker .list), ("set", .maker .set), ("dict", .maker .map),
    ("str", .maker .text), ("int", .maker .whole), ("bool", .maker .truth),
    ("Ellipsis", .other "ellipsis"), ("NotImplemented", .other "NotImplementedType")] ++
    functionEntries functions ++ faultKinds.map fun name => (name, .other "type")

def fullModule (name : String) : String := if name == "os.path" then "posixpath" else name

def entriesOf (module : String) : List (String × Thing) :=
  if module == home then homeEntries
  else if module == handlersHome then handlersEntries
  else if module == "logging.config" then
    [("DEFAULT_LOGGING_CONFIG_PORT", .whole 9030), ("logging", .module home)]
  else if module == "sys" then systemEntries
  else if module == "os" then filesEntries
  else if module == "os.path" then pathEntries
  else if module == "builtins" then commonEntries
  else []

def part? (thing : Thing) (name : String) : Option Thing :=
  match thing with
  | .module module => (entriesOf module).find? (·.1 == name) |>.map (·.2)
  | _ => none

def isModule (name : String) : Bool :=
  [home, handlersHome, "logging.config", "sys", "os", "os.path", "builtins"].contains name ||
    otherModules.contains name

/-- The fault of a module that is not inside another, the names of whose parts are given. -/
def missing (outer : String) : List String → SetupFault
  | [] => .noModule outer none
  | name :: rest =>
    let inner := outer ++ "." ++ name
    if isModule inner then missing inner rest
    else .noModule inner (if packages.contains outer then none else some outer)

/-- What parts of a name stand for in a thing; `first` and `used` are the parts before them. -/
def walk (first : String) (used : List String) (thing : Thing) :
    List String → Except SetupFault Thing
  | [] => .ok thing
  | name :: rest =>
    match part? thing name with
    | some part => walk first (used ++ [name]) part rest
    | none => .error (missing first (used ++ [name]))

def resolve (text : String) : Except SetupFault Thing :=
  match Text.piecesOf '.' text with
  | [] => .error (.refused .emptyModule)
  | first :: rest =>
    if first.isEmpty then .error (.refused .emptyModule)
    else if isModule first then walk first [] (.module first) rest
    else .error (.noModule first none)

example : (resolve "sys.nope").toOption.isNone := by decide +kernel

end Names

end Rollout.Log
