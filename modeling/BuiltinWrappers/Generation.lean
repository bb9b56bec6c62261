import BuiltinWrappers.Fault
import BuiltinWrappers.Header
import BuiltinWrappers.Host

/-!
# Generation

Both headers are rendered in memory before either is written, so a fault up to
then changes nothing.  The hook runs on each header, in the order in which they
were written, once both are complete.
-/

namespace BuiltinWrappers

/-! ## Rendering -/

namespace Catalog

def ofFile (host : Host) (path : String) : Except Fault Catalog :=
  match host.readText path with
  | .error cause => .error (.unreadableInput path cause)
  | .ok text => .ok (ofText text.toList)

def wrapperText (catalog : Catalog) (name : String) : Except Fault String :=
  match catalog.wrapper name with
  | .error obstacle => .error (.notWrappable name obstacle)
  | .ok wrapper => .ok wrapper.render

end Catalog

/-- Both texts, or the fault of the first delegated name that has no wrapper. -/
def Settings.headerTexts (settings : Settings) (catalog : Catalog) :
    Except Fault HeaderTexts := do
  let wrappers ← settings.delegated.mapM catalog.wrapperText
  return {
    runtime := runtimeText settings.wrapperPrefix wrappers
    compiler := compilerText settings.wrapperPrefix settings.listedNames
    wrapperCount := wrappers.length }

/-! ## Writing -/

structure WrittenHeader where
  header : Header
  path : String
  bytes : Nat
  deriving DecidableEq, Repr

structure Report where
  files : List WrittenHeader
  scanned : Nat
  wrappers : Nat
  deriving DecidableEq, Repr

def Report.byteCount (report : Report) : Nat :=
  (report.files.map WrittenHeader.bytes).foldl (· + ·) 0

namespace HeaderTexts

def written (texts : HeaderTexts) (root : String) (header : Header) : WrittenHeader :=
  ⟨header, header.pathIn root, (texts.text header).utf8ByteSize⟩

def writeOne (texts : HeaderTexts) (root : String) (header : Header) (host : Host) :
    Except SystemFault Host :=
  host.write (header.pathIn root) (texts.text header)

/--
Write the runtime header and then the compiler header, and run the hook on both.
If the second cannot be written, the first stays.
-/
def write (texts : HeaderTexts) (root : String) (hook : Hook) (host : Host) :
    Except Fault (List WrittenHeader) × Host :=
  match texts.writeOne root .runtime host with
  | .error cause => (.error (.inputOutput cause), host)
  | .ok first =>
      match texts.writeOne root .compiler first with
      | .error cause => (.error (.inputOutput cause), first)
      | .ok second =>
          let files := [Header.runtime, .compiler].map (texts.written root)
          (.ok files, files.foldl (fun host file => hook file.path host) second)

end HeaderTexts

/-! ## The whole pass -/

namespace Settings

/-- What a pass reads and renders before it writes anything. -/
def prepare (settings : Settings) (input : String) (host : Host) :
    Except Fault (Catalog × HeaderTexts) := do
  let catalog ← Catalog.ofFile host input
  let texts ← settings.headerTexts catalog
  return (catalog, texts)

def generate (settings : Settings) (input : String) (hook : Hook) (host : Host) :
    Except Fault Report × Host :=
  match settings.prepare input host with
  | .error fault => (.error fault, host)
  | .ok (catalog, texts) =>
      match texts.write settings.root hook host with
      | (.error fault, host) => (.error fault, host)
      | (.ok files, host) => (.ok ⟨files, catalog.size, texts.wrapperCount⟩, host)

end Settings

end BuiltinWrappers
