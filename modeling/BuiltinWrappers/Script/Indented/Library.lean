import BuiltinWrappers.Script.Indented.Library.Collections
import BuiltinWrappers.Script.Indented.Library.Commands
import BuiltinWrappers.Script.Indented.Library.Contents
import BuiltinWrappers.Script.Indented.Library.Files
import BuiltinWrappers.Script.Indented.Library.Kinds
import BuiltinWrappers.Script.Indented.Library.Numbers
import BuiltinWrappers.Script.Indented.Library.Options
import BuiltinWrappers.Script.Indented.Library.Runs
import BuiltinWrappers.Script.Indented.Library.System
import BuiltinWrappers.Script.Indented.Library.Texts
import BuiltinWrappers.Script.Indented.Library.Times

/-!
# Libraries of indented scripts

The libraries that are written in the language of the scripts themselves, by name.
-/

namespace BuiltinWrappers.Script.Indented.Library

/-- The texts of all libraries by their names. -/
def catalog : List (String × String) :=
  [("__future__", features), ("abc", wantedMethods), ("argparse", describedOptions),
   ("ast", literals), ("atexit", lastActs), ("base64", textCodings), ("binascii", digitCodings),
   ("bisect", halving), ("calendar", calendars), ("codecs", codings),
   ("collections", collections), ("collections.abc", collectionKinds),
   ("concurrent", taskLibraries), ("concurrent.futures", results), ("configparser", settings),
   ("contextlib", contexts), ("copy", copies), ("csv", tables), ("dataclasses", fields),
   ("datetime", dates), ("difflib", differences), ("enum", choices), ("errno", faultNumbers),
   ("fcntl", locks), ("filecmp", comparisons), ("fileinput", inputLines),
   ("fnmatch", namePatterns), ("fractions", quotients), ("functools", functions),
   ("gc", leftovers), ("getopt", plainOptions), ("getpass", userNames), ("glob", nameSearch),
   ("grp", userGroups), ("hashlib", digests), ("heapq", heaps), ("hmac", keyedDigests),
   ("html", markup), ("importlib", loading), ("importlib.util", loadingFiles),
   ("inspect", inspection), ("io", channels), ("itertools", iteration), ("json", records),
   ("keyword", keywords), ("linecache", linesByNumber), ("locale", locales),
   ("logging", messages), ("logging.handlers", messageFiles), ("math", functionsOfNumbers),
   ("multiprocessing", processes), ("numbers", numberKinds), ("operator", signs),
   ("optparse", namedOptions), ("os", operatingSystem), ("pathlib", pathObjects),
   ("platform", platforms), ("posixpath", paths), ("pprint", layout), ("pwd", users),
   ("queue", queues), ("random", chance), ("re", patterns), ("resource", limits),
   ("runpy", otherScripts), ("secrets", secrets), ("shlex", commandWords), ("shutil", fileWork),
   ("signal", signals), ("socket", connections), ("stat", modes), ("statistics", averages),
   ("string", characterClasses), ("struct", layouts), ("subprocess", commands), ("sys", system),
   ("tempfile", passingFiles), ("textwrap", paragraphs), ("threading", threads), ("time", times),
   ("timeit", timing), ("traceback", faultTexts), ("types", kinds), ("typing", hints),
   ("unicodedata", characters), ("urllib", addressLibraries), ("urllib.error", addressFaults),
   ("urllib.parse", addresses), ("uuid", uniqueNumbers), ("warnings", cautions),
   ("weakref", weakPlaces), ("zlib", checks)]

def aliases : List (String × String) :=
  [("os.path", "posixpath"), ("_collections_abc", "collections.abc"),
   ("json.decoder", "json"), ("json.encoder", "json")]

def withoutMargin (text : String) : List Char :=
  ['\n'].intercalate ((text.toList.splitOn '\n').map fun line =>
    (line.dropWhile (· ≠ '|')).tail)

def text? (name : String) : Option (List Char) := (catalog.lookup name).map withoutMargin

end BuiltinWrappers.Script.Indented.Library
