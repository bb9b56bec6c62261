import BuiltinWrappers.Script.Utility

/-!
# Utilities on files

Making, showing, copying, moving, linking and removing files and directories.
-/

namespace BuiltinWrappers.Script

open Text (Octets)
open Job

/-! ## Paths -/

def withoutTrailingSlashes (path : Octets) : Octets :=
  match (path.reverse.dropWhile (· = '/')).reverse with
  | [] => path.take 1
  | kept => kept

def lastName (path : Octets) : Octets :=
  match withoutTrailingSlashes path with
  | ['/'] => ['/']
  | kept => (kept.splitOn '/').getLastD []

def within (directory name : Octets) : Octets :=
  if directory.getLast? = some '/' then directory ++ name else directory ++ '/' :: name

def nodeAt (path : Octets) : Job (Option Node) := do
  match ← locate path with
  | .ok (_, node) => return node
  | .error _ => return none

def entryAt (path : Octets) : Job (Option Node) := do
  match ← locateEntry path with
  | .ok (_, node) => return node
  | .error _ => return none

def isDirectoryPath (path : Octets) : Job Bool := return (← host).isDirectoryPath path.toString

def attempt (change : Host → Except SystemFault Host) : Job (Except SystemFault PUnit) := do
  match change (← host) with
  | .error fault => return .error fault
  | .ok host =>
      setHost host
      return .ok ()

def cannot (attempt : String) (path : Octets) (fault : SystemFault) : Job PUnit := do
  complain (attempt.toList ++ ' ' :: quote path ++ ": ".toList ++ wording fault)
  fail

/-! ## Showing files -/

def visibleOctet (octet : Char) : Octets :=
  let code := octet.toNat
  let lower (code : Nat) : Octets :=
    if code < 32 then ['^', Char.ofNat (code + 64)]
    else if code = 127 then ['^', '?']
    else [Char.ofNat code]
  if octet = '\n' ∨ octet = '\t' then [octet]
  else if code < 128 then lower code
  else 'M' :: '-' :: lower (code - 128)

def rightAligned (width : Nat) (text : Octets) : Octets :=
  List.replicate (width - text.length) ' ' ++ text

structure CatState where
  number : Nat := 1
  afterBlank : Bool := false
  output : Octets := []

def catLine (options : Options) (state : CatState) (line : Octets) : CatState :=
  let blank := line = ['\n']
  if blank ∧ state.afterBlank ∧ options.has 's' then state
  else
    let ended := line.getLast? = some '\n'
    let body := if ended then line.dropLast else line
    let body := if options.hasAny "vetA" then body.flatMap visibleOctet else body
    let body := if options.hasAny "TtA" then
        body.flatMap fun octet => if octet = '\t' then ['^', 'I'] else [octet]
      else body
    let stop := if ended then (if options.hasAny "EeA" then ['$', '\n'] else ['\n']) else []
    let numbered := (options.has 'b' && !blank) || (options.has 'n' && !options.has 'b')
    let front :=
      if numbered then rightAligned 6 (Text.decimalText state.number) ++ ['\t'] else []
    { number := if numbered then state.number + 1 else state.number
      afterBlank := blank
      output := state.output ++ front ++ body ++ stop }

def catOptions : OptionSet where
  flags := "nbsEeTtAvu"
  long := [("number", 'n'), ("number-nonblank", 'b'), ("squeeze-blank", 's'),
    ("show-ends", 'E'), ("show-tabs", 'T'), ("show-all", 'A'), ("show-nonprinting", 'v')]

/--
Whether a path leads to the file that the output goes to, and would be read after
something was put into it.
-/
def isTarget (path : Octets) : Job Bool := do
  let work ← get
  let printed := work.printed.foldl (fun count (complaint, text) =>
    if complaint then count else count + text.length) 0
  let location : Option Location ←
    if path = ['-'] then pure work.source
    else
      match ← locate path with
      | .ok (location, some (.file _ _)) => pure (some location)
      | _ => pure none
  match work.target, location with
  | some target, some location =>
      return (work.host.namesOf target).contains location && 0 < work.targetPosition + printed
  | _, _ => return false

def cat : Utility := fun arguments => do
  let options ← options catOptions arguments
  let paths := if options.operands.isEmpty then [['-']] else options.operands
  let plain := options.given.isEmpty
  let _ ← paths.foldlM (fun (state : CatState) path => do
    if ← isTarget path then
      complain (path ++ ": input file is output file".toList)
      fail
      return state
    else
      match ← read path with
      | .error fault =>
          complain (path ++ ": ".toList ++ wording fault)
          fail
          return state
      | .ok content =>
          if plain then
            print content
            return state
          else
            let state := (wholeLines content).foldl (catLine options) { state with output := [] }
            print state.output
            return state) {}

def tee : Utility := fun arguments => do
  let options ← options
    { flags := "aip", long := [("append", 'a'), ("ignore-interrupts", 'i')] } arguments
  let text ← readInput
  print text
  options.operands.forM fun path => do
    let before ← if options.has 'a' then read path else pure (.ok [])
    match ← write path ((before.toOption.getD []) ++ text) with
    | .ok () => pure ()
    | .error fault =>
        complain (path ++ ": ".toList ++ wording fault)
        fail

/-! ## Making files and directories -/

def touch : Utility := fun arguments => do
  let options ← options
    { flags := "acmfh", valued := "drt"
      long := [("no-create", 'c'), ("date", 'd'), ("reference", 'r')] } arguments
  needOperand options "missing file operand"
  options.operands.forM fun path => do
    match ← locate path with
    | .ok (_, some _) => pure ()
    | .ok (location, none) =>
        if !options.has 'c' then
          let host ← host
          setHost (host.store location (host.newFile .empty))
    | .error fault => cannot "cannot touch" path fault

def makeParents (path : Octets) : Job (Except SystemFault PUnit) := do
  let names := path.splitOn '/'
  let paths := (List.range names.length).map fun count => ['/'].intercalate (names.take (count + 1))
  let present := (paths.filter (· ≠ [])).map Octets.toString
  let (outcome, host) := (← host).haveDirectories present
  setHost host
  if path.isEmpty then return .error .notFound
  else return outcome.map fun _ => PUnit.unit

def makeDirectory (mode : Nat) (path : Octets) : Job (Except SystemFault PUnit) :=
  attempt fun host => host.makeDirectory path.toString mode

/-- The first name of a pattern that nothing has yet; its trailing signs are replaced. -/
def freshName (directory front rear : Octets) (width : Nat) : Job Octets := do
  let host ← host
  let candidates := (List.range 1000).map fun index =>
    let digits := Text.decimalText index
    front ++ List.replicate (width - digits.length) 'A' ++ digits ++ rear
  let free := candidates.find? fun name =>
    match host.locate (within directory name).toString with
    | .ok (_, some _) => false
    | _ => true
  return free.getD front

def mktemp : Utility := fun arguments => do
  let options ← options
    { flags := "dqut", valued := "ps"
      long := [("directory", 'd'), ("dry-run", 'u'), ("quiet", 'q'), ("tmpdir", 'p'),
        ("suffix", 's')] } arguments
  let temporary := ((← get).environment.lookup "TMPDIR".toList).getD "/tmp".toList
  let template := options.operands.headD "tmp.XXXXXXXXXX".toList
  let rear := (options.value? 's').getD []
  let directory :=
    match options.value? 'p' with
    | some directory => if directory.isEmpty then temporary else directory
    | none => if options.operands.isEmpty ∨ options.has 't' then temporary else []
  if directory = "/tmp".toList then let _ ← makeParents directory
  let (above, name) :=
    if template.contains '/' then
      let last := lastName template
      (template.take (template.length - last.length), last)
    else ([], template)
  let stem := (name.reverse.dropWhile (· ≠ 'X')).reverse
  let rear := name.drop stem.length ++ rear
  let front := (stem.reverse.dropWhile (· = 'X')).reverse
  if stem.length - front.length < 3 then
    abort 1 ("too few X's in template ".toList ++ quote template)
  let place := if directory.isEmpty then above else within directory above
  let fresh ← freshName (if place.isEmpty then ['.'] else place) front rear
    (stem.length - front.length)
  let path := if place.isEmpty then fresh else within place fresh
  if options.has 'u' then printLine path
  else
    let outcome ← if options.has 'd' then makeDirectory 0o700 path else write path []
    match outcome with
    | .ok () =>
        if !options.has 'd' then
          let _ ← attempt fun host => host.setMode path.toString 0o600
        printLine path
    | .error fault =>
        let kind := if options.has 'd' then "failed to create directory via template"
          else "failed to create file via template"
        cannot kind template fault

def truncate : Utility := fun arguments => do
  let options ← options
    { flags := "c", valued := "sr", long := [("size", 's'), ("no-create", 'c')] } arguments
  let size := options.value? 's' |>.getD ['0']
  options.operands.forM fun path => do
    let before := ((← read path).toOption).getD []
    let size :=
      match size with
      | '+' :: digits => before.length + Text.ofDigits 10 digits
      | '-' :: digits => before.length - Text.ofDigits 10 digits
      | digits => Text.ofDigits 10 digits
    let content := before.take size ++ List.replicate (size - before.length) '\x00'
    match ← write path content with
    | .ok () => pure ()
    | .error fault =>
        complain ("cannot open ".toList ++ quote path ++ " for writing: ".toList ++ wording fault)
        fail

/-! ## Removing -/

def isDotName (path : Octets) : Bool :=
  let name := lastName path
  name = ['.'] || name = ['.', '.']

def removeOne (options : Options) (path : Octets) : Job PUnit := do
  let forced := options.has 'f'
  let recursive := options.hasAny "rR"
  if isDotName path ∧ recursive then
    complain ("refusing to remove '.' or '..' directory: skipping ".toList ++ quote path)
    fail
  else
    match ← locateEntry path with
    | .error fault =>
        if !(forced ∧ (fault = .notFound ∨ fault = .notDirectory)) then
          cannot "cannot remove" path fault
    | .ok (_, none) => if !forced then cannot "cannot remove" path .notFound
    | .ok (location, some (.directory _)) =>
        let host ← host
        if recursive then setHost (host.remove location)
        else if options.has 'd' then
          if (host.tree.children location).isEmpty then setHost (host.remove location)
          else cannot "cannot remove" path .notEmpty
        else cannot "cannot remove" path .isDirectory
    | .ok (location, some _) =>
        setHost ((← host).remove location)
        if options.has 'v' then printLine ("removed ".toList ++ quote path)

def rm : Utility := fun arguments => do
  let options ← options
    { flags := "frRidvI"
      long := [("force", 'f'), ("recursive", 'r'), ("dir", 'd'), ("verbose", 'v'),
        ("interactive", 'i')] } arguments
  if !options.has 'f' then needOperand options "missing operand"
  options.operands.forM (removeOne options)

def removeDirectory (path : Octets) : Job (Except SystemFault PUnit) :=
  attempt fun host => host.removeDirectory path.toString

def upwards : (fuel : Nat) → Octets → List Octets
  | 0, _ => []
  | fuel + 1, path =>
      let above := withoutTrailingSlashes (path.take (path.length - (lastName path).length))
      if above.isEmpty ∨ above = ['/'] then [path] else path :: upwards fuel above

def rmdir : Utility := fun arguments => do
  let options ← options
    { flags := "pvi"
      long := [("parents", 'p'), ("verbose", 'v'), ("ignore-fail-on-non-empty", 'i')] } arguments
  needOperand options "missing operand"
  options.operands.forM fun path => do
    let paths := if options.has 'p' then upwards path.length (withoutTrailingSlashes path)
      else [path]
    let _ ← paths.foldlM (fun (goesOn : Bool) path => do
      if !goesOn then return false
      match ← removeDirectory path with
      | .ok () => return true
      | .error fault =>
          if !(options.has 'i' ∧ fault = .notEmpty) then
            cannot "failed to remove" path fault
          return false) true

/-! ## Copying, moving and linking -/

def destinations (options : Options) (action : String) : Job (List (Octets × Octets)) := do
  match options.value? 't' with
  | some directory =>
      return options.operands.map fun path => (path, within directory (lastName path))
  | none =>
      match options.operands with
      | [] => needOperand options "missing file operand"; return []
      | [only] =>
          if action = "link" then return [(only, lastName only)]
          else misuse 1 ("missing destination file operand after ".toList ++ quote only)
      | operands =>
          let sources := operands.dropLast
          let last := operands.getLastD []
          if !options.has 'T' ∧ (← isDirectoryPath last) then
            return sources.map fun path => (path, within last (lastName path))
          else
            match sources with
            | [source] => return [(source, last)]
            | _ =>
                let fault : SystemFault :=
                  if (← nodeAt last).isSome then .notDirectory else .notFound
                abort 1 ("target ".toList ++ quote last ++ ": ".toList ++ wording fault)

def complainSame (source target : Octets) : Job PUnit := do
  complain (quote source ++ " and ".toList ++ quote target ++ " are the same file".toList)
  fail

def complainOverDirectory (source target : Octets) : Job PUnit := do
  complain ("cannot overwrite directory ".toList ++ quote target ++
    " with non-directory ".toList ++ quote source)
  fail

def complainOverFile (source target : Octets) : Job PUnit := do
  complain ("cannot overwrite non-directory ".toList ++ quote target ++
    " with directory ".toList ++ quote source)
  fail

def report (options : Options) (action : String) (source target : Octets) : Job PUnit := do
  if options.has 'v' then
    printLine (action.toList ++ quote source ++ " -> ".toList ++ quote target)

def areSame (first second : Octets) : Job Bool := do
  let host ← host
  match ← locate first, ← locate second with
  | .ok (one, some _), .ok (other, some _) => return (host.namesOf one).contains other
  | _, _ => return false

/-! ## Copying -/

/-- What is done with a target that is in the way, as the options say. -/
structure CopyStyle where
  keepsLinks : Bool
  followsAll : Bool
  keepsModes : Bool
  forced : Bool

def CopyStyle.ofOptions (options : Options) : CopyStyle where
  keepsLinks := (options.hasAny "Pda" || options.hasAny "rR") && !options.hasAny "LH"
  followsAll := options.has 'L'
  keepsModes := options.hasAny "pa"
  forced := options.hasAny "f"

def CopyStyle.newMode (style : CopyStyle) (host : Host) (mode : Nat) : Nat :=
  if style.keepsModes then mode else host.maskedMode (mode &&& 0o777)

def copyFile (style : CopyStyle) (source target : Octets) (content : ByteArray) (mode : Nat) :
    Job PUnit := do
  match ← locate target with
  | .error fault =>
      let fault := if target.getLast? = some '/' ∧ fault = .notFound then .notDirectory else fault
      cannot "cannot create regular file" target fault
  | .ok (location, none) =>
      if (← entryAt target).any Node.isLink then
        complain ("not writing through dangling symlink ".toList ++ quote target)
        fail
      else
        let host ← host
        let mode := style.newMode host mode
        setHost (host.store location (.file content mode))
  | .ok (location, some (.file _ before)) =>
      setHost ((← host).store location (.file content (if style.keepsModes then mode else before)))
  | .ok (_, some _) => complainOverDirectory source target

def copyLink (source target : Octets) (node : Node) : Job PUnit := do
  match ← locateEntry target with
  | .error fault => cannot "cannot create symbolic link" target fault
  | .ok (_, some (.directory _)) => complainOverDirectory source target
  | .ok (location, _) =>
      let host := (← host).remove location
      setHost { host with tree := host.tree.set location node }

def copyTree (style : CopyStyle) : (fuel : Nat) → (source target : Location) → Host → Host
  | 0, _, _, host => host
  | fuel + 1, source, target, host =>
      (host.tree.below source).foldl (fun host (place, node) =>
        let copy := FileTree.movedPlace source target place
        match node, host.tree.node? copy with
        | .directory _, some (.directory _) => host
        | .directory mode, _ =>
            { host with tree := host.tree.set copy (.directory (style.newMode host mode)) }
        | .file content mode, some (.file _ before) =>
            host.store copy (.file content (if style.keepsModes then mode else before))
        | .file content mode, _ => host.store copy (.file content (style.newMode host mode))
        | .link path, _ =>
            match host.tree.resolve place.dropLast path with
            | .ok aim =>
                if style.followsAll ∧ (host.tree.node? aim).isSome then
                  copyTree style fuel aim copy host
                else { host with tree := host.tree.set copy node }
            | .error _ => { host with tree := host.tree.set copy node }) host

def copyDirectory (style : CopyStyle) (source target : Octets) (place : Location) :
    Job PUnit := do
  let host ← host
  match ← locate (withoutTrailingSlashes target) with
  | .error fault => cannot "cannot create directory" target fault
  | .ok (_, some (.file _ _)) => complainOverFile source target
  | .ok (location, _) =>
      if place.isPrefixOf location then
        complain ("cannot copy a directory, ".toList ++ quote source ++
          ", into itself, ".toList ++ quote target)
        fail
      else setHost (copyTree style FileTree.mostLinks place location host)

def copyOne (options : Options) (source target : Octets) : Job PUnit := do
  let style := CopyStyle.ofOptions options
  match ← if style.keepsLinks then locateEntry source else locate source with
  | .error fault => cannot "cannot stat" source fault
  | .ok (_, none) => cannot "cannot stat" source .notFound
  | .ok (place, some (.directory _)) =>
      if options.hasAny "rRa" then
        copyDirectory style source target place
        report options "" source target
      else
        complain ("-r not specified; omitting directory ".toList ++ quote source)
        fail
  | .ok (place, some node) =>
      if options.has 'n' ∧ (← entryAt target).isSome then return
      else if options.has 's' then
        match ← attempt fun host => host.makeLink source.toString target.toString with
        | .ok () => return
        | .error fault => cannot "cannot create symbolic link" target fault
      else if options.has 'l' then
        match ← locateEntry target with
        | .ok (location, none) => setHost ((← host).addName place location)
        | .ok (_, some _) => cannot "cannot create hard link" target .alreadyExists
        | .error fault => cannot "cannot create hard link" target fault
      else if ← areSame source target then complainSame source target
      else
        match node with
        | .file content mode => copyFile style source target content mode
        | _ => copyLink source target node
        report options "" source target

def cp : Utility := fun arguments => do
  let options ← options
    { flags := "rRafnpviudPLHTsl", valued := "tS"
      long := [("recursive", 'r'), ("archive", 'a'), ("force", 'f'), ("no-clobber", 'n'),
        ("verbose", 'v'), ("update", 'u'), ("preserve", 'p'), ("target-directory", 't'),
        ("no-target-directory", 'T'), ("dereference", 'L'), ("no-dereference", 'P'),
        ("symbolic-link", 's'), ("link", 'l')] } arguments
  (← destinations options "copy").forM fun (source, target) => copyOne options source target

/-! ## Moving -/

def moveOne (options : Options) (source target : Octets) : Job PUnit := do
  let current ← host
  match ← locateEntry (withoutTrailingSlashes source) with
  | .error fault => cannot "cannot stat" source fault
  | .ok (_, none) => cannot "cannot stat" source .notFound
  | .ok (old, some node) =>
      let cannotMove (fault : SystemFault) : Job PUnit := do
        complain ("cannot move ".toList ++ quote source ++ " to ".toList ++ quote target ++
          ": ".toList ++ wording fault)
        fail
      match ← locateEntry (if node.isDirectory then withoutTrailingSlashes target else target) with
      | .error fault => cannotMove fault
      | .ok (new, before) =>
          if old = new then complainSame source target
          else if options.has 'n' ∧ before.isSome then return
          else if old.isPrefixOf new then
            complain ("cannot move ".toList ++ quote source
              ++ " to a subdirectory of itself, ".toList ++ quote target)
            fail
          else
            match node.isDirectory, before with
            | true, some (.file _ _) | true, some (.link _) => complainOverFile source target
            | false, some (.directory _) =>
                complain ("cannot overwrite directory ".toList ++ quote target ++
                  " with non-directory".toList)
                fail
            | _, _ =>
                if before.any Node.isDirectory ∧ !(current.tree.children new).isEmpty then
                  cannotMove .notEmpty
                else
                  setHost (current.move old new)
                  report options "renamed " source target

def mv : Utility := fun arguments => do
  let options ← options
    { flags := "fnviuT", valued := "tS"
      long := [("force", 'f'), ("no-clobber", 'n'), ("verbose", 'v'), ("update", 'u'),
        ("target-directory", 't'), ("no-target-directory", 'T')] } arguments
  (← destinations options "move").forM fun (source, target) => moveOne options source target

/-! ## Giving names -/

/-- Give a file a second name, or make a link that holds a path. -/
def linkOne (options : Options) (source target : Octets) : Job PUnit := do
  let symbolic := options.has 's'
  let refuse (fault : SystemFault) : Job PUnit :=
    cannot ("failed to create " ++ (if symbolic then "symbolic" else "hard") ++ " link") target
      fault
  match ← if options.has 'L' then locate source else locateEntry source with
  | .ok (_, none) | .error _ =>
      if !symbolic then
        cannot "failed to access" source .notFound
        return
  | .ok (_, some (.directory _)) =>
      if !symbolic then
        complain (source ++ ": hard link not allowed for directory".toList)
        fail
        return
  | .ok _ => pure ()
  match ← locateEntry target with
  | .error fault => refuse fault
  | .ok (new, before) =>
      if before.any fun node => !options.has 'f' || node.isDirectory then refuse .alreadyExists
      else if symbolic then
        let host := (← host).remove new
        setHost { host with tree := host.tree.set new (.link source.toString) }
        report options "" target source
      else
        match ← if options.has 'L' then locate source else locateEntry source with
        | .ok (location, some _) =>
            if (← host).namesOf location |>.contains new then complainSame source target
            else
              setHost ((← host).addName location new)
              report options "" target source
        | _ => return

def ln : Utility := fun arguments => do
  let options ← options
    { flags := "sfnvirLPT", valued := "tS"
      long := [("symbolic", 's'), ("force", 'f'), ("no-dereference", 'n'), ("verbose", 'v'),
        ("target-directory", 't'), ("no-target-directory", 'T'), ("relative", 'r'),
        ("logical", 'L'), ("physical", 'P')] } arguments
  let options :=
    if options.has 'n' ∧ ((← entryAt (options.operands.getLastD [])).any Node.isLink) then
      { options with given := ('T', []) :: options.given }
    else options
  (← destinations options "link").forM fun (source, target) => linkOne options source target

end BuiltinWrappers.Script
