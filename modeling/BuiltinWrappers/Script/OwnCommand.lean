import BuiltinWrappers.Script.Expansion
import BuiltinWrappers.Script.Test
import BuiltinWrappers.Script.Utility.Catalog

/-!
# Commands of the shell itself

The commands that a shell carries out by itself, since they change its own
state: its directory, its variables, its parameters and its modes.
-/

namespace BuiltinWrappers.Script

open Text (Octets)

namespace OwnCommand

def blame (name : String) (status : Nat) (text : Octets) : Act Unit := do
  Act.complain (name.toList ++ ": ".toList ++ text)
  Act.setStatus status

def misuse : Act Nat := return if (← Act.dialect) = .plain then 2 else 1

def succeed : Act Unit := Act.setStatus 0

/-! ## Directories -/

def leadsHere (host : Host) (path : Octets) : Bool :=
  match host.locate path.toString with
  | .ok (location, _) => path.head? = some '/' && location = host.workingDirectory
  | .error _ => false

def workingPath : Act Octets := do
  let host ← Act.host
  let known := (← Act.shell).directory
  return if leadsHere host known then known else locationPath host.workingDirectory

def extendNames (isThere : List Octets → Bool) (names : List Octets) :
    List Octets → Option (List Octets)
  | [] => some names
  | name :: rest =>
      if name = [] ∨ name = ['.'] then extendNames isThere names rest
      else if name = ['.', '.'] then
        if isThere names then extendNames isThere names.dropLast rest else none
      else extendNames isThere (names ++ [name]) rest

def namesPath (names : List Octets) : Octets := '/' :: ['/'].intercalate names

def pathFromHere? (path : Octets) : Act (Option Octets) := do
  let host ← Act.host
  let dialect ← Act.dialect
  let here ← workingPath
  let start := if path.head? = some '/' then [] else here
  let isThere (names : List Octets) : Bool :=
    dialect = .plain || host.isDirectoryPath (namesPath names).toString
  let names? := extendNames isThere [] (start.splitOn '/' ++ path.splitOn '/')
  return names?.map namesPath

def complainOfDirectory (path : Octets) (fault : SystemFault) : Act Unit := do
  match ← Act.dialect with
  | .plain => blame "cd" 2 ("can't cd to ".toList ++ path)
  | .extended => blame "cd" 1 (path ++ ": ".toList ++ fault.wording.toList)

def changeTo (path : Octets) (physical showing : Bool) : Act Unit := do
  let host ← Act.host
  let path? ← pathFromHere? path
  let known := if physical then none else path?
  match host.locate (known.getD path).toString with
  | .ok (location, some (.directory _)) =>
      let before ← workingPath
      Act.setHost { host with workingDirectory := location }
      Act.changeShell fun shell => { shell with directory := known.getD [] }
      Act.setVariable "OLDPWD".toList before
      Act.setVariable "PWD".toList (← workingPath)
      succeed
      if showing then Act.print ((← workingPath) ++ ['\n'])
  | .ok (location, none) =>
      if location = [] then succeed else complainOfDirectory path .notFound
  | .ok (_, some _) => complainOfDirectory path .notDirectory
  | .error fault => complainOfDirectory path fault

def isDirectoryOption (word : Octets) : Bool :=
  word = ['-', 'L'] || word = ['-', 'P'] || word = ['-', 'e'] || word = ['-', '-']

def cd (arguments : List Octets) : Act Unit := do
  let options := arguments.takeWhile isDirectoryOption
  let physical := (options.filter (· ≠ ['-', '-'])).getLast? = some ['-', 'P']
  match arguments.dropWhile isDirectoryOption with
  | [] =>
      match ← Act.value? "HOME".toList with
      | some home => changeTo home physical false
      | none => if (← Act.dialect) = .plain then succeed else blame "cd" 1 "HOME not set".toList
  | [['-']] =>
      match ← Act.value? "OLDPWD".toList with
      | some old => changeTo old physical true
      | none => blame "cd" (← misuse) "OLDPWD not set".toList
  | path :: others =>
      if others ≠ [] ∧ (← Act.dialect) = .extended then
        blame "cd" 1 "too many arguments".toList
      else changeTo path physical false

def pwd (arguments : List Octets) : Act Unit := do
  succeed
  if arguments.getLast? = some ['-', 'P'] then
    Act.print (locationPath (← Act.host).workingDirectory ++ ['\n'])
  else Act.print ((← workingPath) ++ ['\n'])

def octalMask (mask : Nat) : Octets :=
  let digits := Nat.toDigits 8 mask
  List.replicate (4 - digits.length) '0' ++ digits

def symbolicMask (mask : Nat) : Octets :=
  let left := Permission.without 0o777 mask
  let letters (skipped : Nat) : Octets :=
    ((modeLetters left).drop skipped |>.take 3).filter (· ≠ '-')
  "u=".toList ++ letters 0 ++ ",g=".toList ++ letters 3 ++ ",o=".toList ++ letters 6

def umask (arguments : List Octets) : Act Unit := do
  succeed
  let host ← Act.host
  match arguments with
  | [] => Act.print (octalMask host.creationMask ++ ['\n'])
  | [['-', 'S']] => Act.print (symbolicMask host.creationMask ++ ['\n'])
  | word :: _ =>
      let mask? :=
        if word.all (Text.isDigitOf 8) then some (Text.ofDigits 8 word)
        else
          (Permission.changed? 0 false (Permission.without 0o777 host.creationMask) word).map
            (Permission.without 0o777)
      match mask? with
      | some mask => Act.setHost { host with creationMask := mask &&& 0o777 }
      | none => blame "umask" (← misuse) ("Illegal mode: ".toList ++ word)

/-! ## Variables -/

def splitAssignment (word : Octets) : Octets × Option Octets :=
  let name := word.takeWhile (· ≠ '=')
  if name.length < word.length then (name, some (word.drop (name.length + 1))) else (name, none)

/-- A value in quotes, as it could stand in a script. -/
def inQuotes (dialect : Dialect) (value : Octets) : Octets :=
  match dialect with
  | .plain =>
      '\'' :: value.flatMap (fun character =>
        if character = '\'' then "'\"'\"'".toList else [character]) ++ ['\'']
  | .extended =>
      '"' :: value.flatMap (fun character =>
        if ['"', '\\', '$', '\x60'].contains character then ['\\', character]
        else [character]) ++ ['"']

def listVariables (word : String) (chosen : Variable → Bool) : Act Unit := do
  let shell ← Act.shell
  let entries := (shell.bindings.filter fun entry => chosen entry.2).mergeSort
    fun first second => byOctets first.1 second.1
  let lines := entries.map fun (name, variableAt) =>
    word.toList ++ ' ' :: name ++
      ((variableAt.value?.map fun value => '=' :: inQuotes shell.dialect value).getD []) ++ ['\n']
  succeed
  Act.print lines.flatten

structure Marking where
  first : Variable → Variable := fun variableAt => variableAt
  then_ : Variable → Variable := fun variableAt => variableAt

/-- Change the variables that are named, which get the values given along with them. -/
def markVariables (word : String) (marking : Marking) (words : List Octets) : Act Unit := do
  succeed
  words.forM fun word_ => do
    let (name, value) := splitAssignment word_
    let appending := value.isSome && name.getLast? = some '+' && (← Act.dialect) = .extended
    let name := if appending then name.dropLast else name
    let (base, inner?) :=
      match Expansion.elementOf? name with
      | some (base, inner) => (base, some inner)
      | none => (name, none)
    if !isName base then
      match ← Act.dialect with
      | .plain => Act.refuse 2 (word.toList ++ ": ".toList ++ name ++ ": bad variable name".toList)
      | .extended => blame word 1 ('\x60' :: word_ ++ "': not a valid identifier".toList)
    else
      let change (mark : Variable → Variable) : Act Unit := do
        let variableAt := ((← Act.shell).bindings.lookup base).getD {}
        Act.putVariable base (mark variableAt)
      change marking.first
      if let some value := value then
        let refers := (((← Act.shell).bindings.lookup base).bind Variable.refersTo).isSome
        if refers then change fun variableAt => { variableAt with refersTo := some value }
        else
          let subscript ← inner?.mapM (Expansion.subscriptOf base)
          let before : Octets :=
            match appending, Expansion.holding (← Act.shell) base subscript with
            | true, .one text => text
            | _, _ => []
          Expansion.assignAt base subscript (before ++ value)
      change marking.then_

def export_ (arguments : List Octets) : Act Unit := do
  match arguments with
  | [] | [['-', 'p']] =>
      let word := if (← Act.dialect) = .plain then "export" else "declare -x"
      listVariables word Variable.exported
  | ['-', 'n'] :: words =>
      let mark (variableAt : Variable) : Variable := { variableAt with exported := false }
      markVariables "export" { then_ := mark } words
  | words =>
      let words := if words.head? = some ['-', '-'] then words.tail else words
      let mark (variableAt : Variable) : Variable := { variableAt with exported := true }
      markVariables "export" { then_ := mark } words

def readonly (arguments : List Octets) : Act Unit := do
  match arguments with
  | [] | [['-', 'p']] =>
      let word := if (← Act.dialect) = .plain then "readonly" else "declare -r"
      listVariables word Variable.readOnly
  | words =>
      let words := words.filter fun word => !([['-', 'a'], ['-', 'A'], ['-', '-']].contains word)
      let mark (variableAt : Variable) : Variable := { variableAt with readOnly := true }
      markVariables "readonly" { then_ := mark } words

def unsetOne (word : Octets) : Act Unit := do
  match Expansion.elementOf? word with
  | some (name, inner) =>
      let subscript ← Expansion.subscriptOf name inner
      Act.changeVariable name (·.removeAt subscript)
  | none =>
      match ← Act.variableNamed? word with
      | some variableAt =>
          if variableAt.readOnly then
            match ← Act.dialect with
            | .plain => Act.refuse 2 ("unset: ".toList ++ word ++ ": is read only".toList)
            | .extended =>
                blame "unset" 1 (word ++ ": cannot unset: readonly variable".toList)
          else Act.dropVariable word
      | none =>
          if (← Act.dialect) = .extended then
            Act.changeShell fun shell =>
              { shell with functions := shell.functions.filter (·.1 ≠ word) }

def unset (arguments : List Octets) : Act Unit := do
  succeed
  match arguments with
  | ['-', 'f'] :: words =>
      Act.changeShell fun shell =>
        { shell with functions := shell.functions.filter fun entry => !words.contains entry.1 }
  | ['-', 'v'] :: words | words => words.forM unsetOne

/-! ## Parameters and modes -/

def shift (arguments : List Octets) : Act Unit := do
  let shell ← Act.shell
  match (arguments.head?.getD ['1'] |> Text.integer?) with
  | some count =>
      if count < 0 ∨ shell.arguments.length < count then
        match shell.dialect with
        | .plain => Act.refuse 2 "shift: can't shift that many".toList
        | .extended => Act.setStatus 1
      else
        succeed
        Act.changeShell fun shell =>
          { shell with arguments := shell.arguments.drop count.toNat }
  | none => Act.refuse 2 ("shift: Illegal number: ".toList ++ arguments.headD [])

def setMode? (letter : Char) (on : Bool) (modes : Modes) : Option Modes :=
  match letter with
  | 'a' => some { modes with exportsAll := on }
  | 'e' => some { modes with errorsEnd := on }
  | 'f' => some { modes with plainPaths := on }
  | 'u' => some { modes with unsetIsError := on }
  | 'x' => some { modes with traces := on }
  | 'n' => some { modes with onlyReads := on }
  | 'C' => some { modes with keepsFiles := on }
  | 'v' | 'm' | 'b' | 'h' | 'B' | 'E' | 'T' | 'H' | 'i' | 'l' | 'I' | 'V' => some modes
  | _ => none

def modeLetter? (name : String) : Option Char :=
  match name with
  | "allexport" => some 'a'
  | "errexit" => some 'e'
  | "noglob" => some 'f'
  | "nounset" => some 'u'
  | "xtrace" => some 'x'
  | "noexec" => some 'n'
  | "noclobber" => some 'C'
  | "verbose" => some 'v'
  | "monitor" => some 'm'
  | "notify" => some 'b'
  | "ignoreeof" | "vi" | "emacs" | "nolog" | "debug" => some 'I'
  | _ => none

def setNamedMode? (dialect : Dialect) (name : String) (on : Bool) (modes : Modes) :
    Option Modes :=
  match name, dialect with
  | "pipefail", .extended => some { modes with pipesFail := on }
  | "posix", .extended | "errtrace", .extended | "functrace", .extended
  | "braceexpand", .extended | "history", .extended => some modes
  | name, _ => (modeLetter? name).bind fun letter => setMode? letter on modes

/-- What is left of words that begin with options for modes, once these are set. -/
def setModes : (fuel : Nat) → List Octets → Act (Option (List Octets))
  | 0, words => return some words
  | fuel + 1, words => do
      let badOption (text : Octets) : Act (Option (List Octets)) := do
        match ← Act.dialect with
        | .plain => Act.refuse 2 ("set: Illegal option ".toList ++ text)
        | .extended =>
            blame "set" 2 (text ++ ": invalid option".toList)
            return none
      match words with
      | ['-', '-'] :: rest => return some (['-', '-'] :: rest)
      | ['-'] :: rest => return some rest
      | (sign :: letters) :: rest =>
          if sign ≠ '-' ∧ sign ≠ '+' then return some words
          else
            let on := sign = '-'
            let plain := letters.filter (· ≠ 'o')
            let modes := (← Act.shell).modes
            let changed := plain.foldl (fun modes letter =>
              modes.bind (setMode? letter on)) (some modes)
            match changed with
            | none => badOption (sign :: plain)
            | some modes =>
                if letters.contains 'o' then
                  match rest with
                  | name :: rest =>
                      match setNamedMode? (← Act.dialect) (String.ofList name) on modes with
                      | none => badOption (sign :: 'o' :: ' ' :: name)
                      | some modes =>
                          Act.changeShell fun shell => { shell with modes }
                          setModes fuel rest
                  | [] => return none
                else
                  Act.changeShell fun shell => { shell with modes }
                  setModes fuel rest
      | words => return some words

def set_ (arguments : List Octets) : Act Unit := do
  if arguments.isEmpty then
    let shell ← Act.shell
    let entries := shell.bindings.mergeSort fun first second => byOctets first.1 second.1
    succeed
    Act.print (entries.flatMap fun (name, variableAt) =>
      match variableAt.value? with
      | some value => name ++ '=' :: inQuotes .plain value ++ ['\n']
      | none => [])
  else
    succeed
    match ← setModes (arguments.length + 1) arguments with
    | none => return
    | some (['-', '-'] :: words) =>
        Act.changeShell fun shell => { shell with arguments := words }
    | some [] =>
        if arguments = [['-']] then return else return
    | some words => Act.changeShell fun shell => { shell with arguments := words }

/-- Switch the modes that only the extended language has. -/
def shopt (arguments : List Octets) : Act Unit := do
  succeed
  match arguments with
  | (sign :: letter :: _) :: names =>
      if sign = '-' ∧ (letter = 's' ∨ letter = 'u') then
        let on := letter = 's'
        names.forM fun name =>
          Act.changeShell fun shell =>
            let modes := shell.modes
            match String.ofList name with
            | "nullglob" => { shell with modes := { modes with dropsUnmatched := on } }
            | "dotglob" => { shell with modes := { modes with matchesHidden := on } }
            | "globstar" => { shell with modes := { modes with matchesDeep := on } }
            | "nocasematch" => { shell with modes := { modes with ignoresCase := on } }
            | _ => shell
  | _ => return

/-! ## Reading lines -/

/-- A character of a line that is read; one behind a backslash separates nothing. -/
structure ReadCharacter where
  character : Char
  covered : Bool

def readLine (raw : Bool) (delimiter : Char) :
    Octets → List ReadCharacter × Octets × Bool
  | [] => ([], [], false)
  | '\\' :: character :: rest =>
      if raw then
        if character = delimiter then ([⟨'\\', false⟩], rest, true)
        else
          let (line, rest, ended) := readLine raw delimiter (character :: rest)
          (⟨'\\', false⟩ :: line, rest, ended)
      else
        let (line, rest, ended) := readLine raw delimiter rest
        (if character = '\n' then line else ⟨character, true⟩ :: line, rest, ended)
  | character :: rest =>
      if character = delimiter then ([], rest, true)
      else
        let (line, rest, ended) := readLine raw delimiter rest
        (⟨character, false⟩ :: line, rest, ended)

namespace ReadCharacter

def isBlankIn (separators : Octets) (item : ReadCharacter) : Bool :=
  !item.covered && separators.contains item.character && Cutting.isBlank item.character

def separates (separators : Octets) (item : ReadCharacter) : Bool :=
  !item.covered && separators.contains item.character

def text (items : List ReadCharacter) : Octets := items.map ReadCharacter.character

def skipSeparator (separators : Octets) (items : List ReadCharacter) : List ReadCharacter :=
  let rest := items.dropWhile (isBlankIn separators)
  match rest with
  | item :: after =>
      if separates separators item then after.dropWhile (isBlankIn separators) else rest
  | [] => []

def trimEnd (separators : Octets) (items : List ReadCharacter) : List ReadCharacter :=
  (items.reverse.dropWhile (isBlankIn separators)).reverse

def share (separators : Octets) : (names : Nat) → List ReadCharacter → List Octets
  | 0, _ => []
  | 1, items =>
      let field := items.takeWhile (!separates separators ·)
      let after := skipSeparator separators (items.drop field.length)
      if after.isEmpty then [text field] else [text (trimEnd separators items)]
  | names + 1, items =>
      let field := items.takeWhile (!separates separators ·)
      text field :: share separators names (skipSeparator separators (items.drop field.length))

end ReadCharacter

def readOptions : OptionSet where
  flags := "res"
  valued := "pdnatNu"
  inFront := true

def read (arguments : List Octets) : Act Unit := do
  match readOptions.parse arguments with
  | .error _ => blame "read" 2 "invalid option".toList
  | .ok options =>
      let dialect ← Act.dialect
      let names := options.operands
      if names.isEmpty ∧ dialect = .plain then blame "read" 2 "arg count".toList
      else
        let descriptor :=
          (((options.value? 'u').bind Text.integer?).map Int.toNat).getD 0
        let input ← Act.pending descriptor
        let delimiter := ((options.value? 'd').map fun value => value.headD '\x00').getD '\n'
        let limit := ((options.value? 'n') <|> (options.value? 'N')).bind Text.integer?
        let (line, rest, ended) :=
          match limit with
          | some count =>
              let (line, rest, ended) := readLine (options.has 'r') delimiter
                (input.take count.toNat)
              (line, rest ++ input.drop count.toNat, ended || count.toNat ≤ input.length)
          | none => readLine (options.has 'r') delimiter input
        Act.leavePending descriptor rest.length
        let separators ← Act.valueOr "IFS" Expansion.defaultSeparators
        match options.value? 'a', names with
        | some name, _ =>
            let atoms := line.map fun item =>
              Atom.octet item.character item.covered true
            let texts := (fieldsOf separators atoms).map Field.text
            Act.changeVariable name fun variableAt =>
              variableAt.setTexts texts
        | none, [] => Act.setVariable "REPLY".toList (ReadCharacter.text line)
        | none, names =>
            let items := line.dropWhile (ReadCharacter.isBlankIn separators)
            let texts := ReadCharacter.share separators names.length items
            (names.zip texts).forM fun (name, text) => Act.setVariable name text
        Act.setStatus (if ended then 0 else 1)

def mapfile (arguments : List Octets) : Act Unit := do
  let set : OptionSet := { flags := "t", valued := "ndOsuCc", inFront := true }
  match set.parse arguments with
  | .error _ => blame "mapfile" 2 "invalid option".toList
  | .ok options =>
      let number (letter : Char) : Option Nat :=
        ((options.value? letter).bind Text.integer?).map Int.toNat
      let descriptor := (number 'u').getD 0
      let input ← Act.pending descriptor
      let delimiter := ((options.value? 'd').map fun value => value.headD '\x00').getD '\n'
      let parts := (partsEndingIn delimiter input).drop ((number 's').getD 0)
      let taken :=
        match number 'n' with
        | some count => if count = 0 then parts else parts.take count
        | none => parts
      Act.leavePending descriptor ((parts.drop taken.length).flatten).length
      let lines := taken.map fun part =>
        if options.has 't' ∧ part.getLast? = some delimiter then part.dropLast else part
      let name := options.operands.headD "MAPFILE".toList
      match number 'O' with
      | none => Act.changeVariable name (·.setTexts lines)
      | some start =>
          lines.zipIdx.forM fun (line, index) =>
            Act.changeVariable name (·.put (some (.index (start + index : Nat))) line)
      succeed

/-! ## Options of scripts -/

def getopts (arguments : List Octets) : Act Unit := do
  match arguments with
  | options :: name :: words => do
      let shell ← Act.shell
      let words := if words.isEmpty then shell.arguments else words
      let silent := options.head? = some ':'
      let index := (((← Act.value? "OPTIND".toList).bind Text.integer?).map Int.toNat).getD 1
      let offset := if shell.optionOffset = 0 then 1 else shell.optionOffset
      let finish (index offset : Nat) : Act Unit := do
        Act.setVariable "OPTIND".toList (Text.decimalText index)
        Act.changeShell fun shell => { shell with optionOffset := offset }
      let word := (words[index - 1]?).getD []
      let letter? := if word.head? = some '-' ∧ 1 < word.length then word[offset]? else none
      match if word = ['-', '-'] then none else letter? with
      | none =>
          finish (if word = ['-', '-'] then index + 1 else index) 0
          Act.setVariable name ['?']
          Act.setStatus 1
      | some letter =>
          let isLastLetter := offset + 1 = word.length
          let known := options.dropWhile (· ≠ letter)
          succeed
          if known.isEmpty ∨ letter = ':' then
            if silent then Act.setVariable "OPTARG".toList [letter]
            else
              Act.dropVariable "OPTARG".toList
              let _ ← Act.write 2 ("Illegal option -".toList ++ [letter, '\n'])
            Act.setVariable name ['?']
            if isLastLetter then finish (index + 1) 0 else finish index (offset + 1)
          else if known.tail.head? = some ':' then
            if !isLastLetter then
              Act.setVariable name [letter]
              Act.setVariable "OPTARG".toList (word.drop (offset + 1))
              finish (index + 1) 0
            else
              match words[index]? with
              | some value =>
                  Act.setVariable name [letter]
                  Act.setVariable "OPTARG".toList value
                  finish (index + 2) 0
              | none =>
                  finish (index + 1) 0
                  if silent then
                    Act.setVariable name [':']
                    Act.setVariable "OPTARG".toList [letter]
                  else
                    Act.setVariable name ['?']
                    Act.dropVariable "OPTARG".toList
                    let _ ← Act.write 2
                      ("No arg for -".toList ++ letter :: " option\n".toList)
          else
            Act.setVariable name [letter]
            Act.dropVariable "OPTARG".toList
            if isLastLetter then finish (index + 1) 0 else finish index (offset + 1)
  | _ => blame "getopts" 2 "Usage: getopts optstring var [arg...]".toList

/-! ## Variables of functions -/

/-- Keep what a variable holds until the function that is called ends; whether it did not yet. -/
def hide (name : Octets) : Act Bool := do
  let shell ← Act.shell
  let before := shell.bindings.lookup name
  match shell.hidden with
  | frame :: frames =>
      if (frame.lookup name).isSome then return false
      else
        Act.setShell { shell with hidden := ((name, before) :: frame) :: frames }
        return true
  | [] => return false

def attributesOf (letters : Octets) (on : Bool) : Marking where
  first variableAt :=
    let letterCase : Option LetterCase :=
      if letters.contains 'l' then if on then some .lower else none
      else if letters.contains 'u' then if on then some .upper else none
      else variableAt.letterCase
    { variableAt with
      keyed :=
        if letters.contains 'A' ∧ on then some (variableAt.keyed.getD []) else variableAt.keyed
      isList := variableAt.isList || (letters.contains 'a' && on)
      isInteger := if letters.contains 'i' then on else variableAt.isInteger
      letterCase
      refersTo :=
        if letters.contains 'n' then if on then some (variableAt.refersTo.getD []) else none
        else variableAt.refersTo
      exported := if letters.contains 'x' then on else variableAt.exported }
  then_ variableAt := { variableAt with readOnly := variableAt.readOnly || letters.contains 'r' }

def declaringOptions (arguments : List Octets) : List Octets :=
  arguments.takeWhile fun word =>
    (word.head? = some '-' || word.head? = some '+') && 1 < word.length

def lettersOf (sign : Char) (options : List Octets) : Octets :=
  (options.filter fun word => word.head? = some sign).flatMap List.tail

def markAs (word : String) (options words : List Octets) : Act Unit := do
  let off := lettersOf '+' options
  if !off.isEmpty then markVariables word (attributesOf off false) words
  else markVariables word (attributesOf (lettersOf '-' options) true) words

def local_ (arguments : List Octets) : Act Unit := do
  let shell ← Act.shell
  if shell.calls = 0 then
    match shell.dialect with
    | .plain => Act.refuse 2 "local: not in a function".toList
    | .extended => blame "local" 1 "can only be used in a function".toList
  else
    succeed
    let options := declaringOptions arguments
    let words := arguments.drop options.length
    words.forM fun word => do
      let (name, _) := splitAssignment word
      let fresh ← hide name
      if fresh ∧ shell.dialect = .extended then Act.putVariable name {}
    match shell.dialect with
    | .extended => markAs "local" options words
    | .plain =>
        words.forM fun word => do
          let (name, value) := splitAssignment word
          if let some value := value then
            Act.putVariable name
              { ((← Act.variableNamed? name).getD {} : Variable) with values := [(0, value)] }

def shownDeclaration (name : Octets) (variableAt : Variable) : Octets :=
  let letters := variableAt.attributes
  let front := "declare -".toList ++ (if letters.isEmpty then ['-'] else letters) ++ ' ' :: name
  if variableAt.isList ∨ variableAt.keyed.isSome then
    let pairs := variableAt.entries.map fun (key, text) =>
      '[' :: Quoting.key key ++ "]=".toList ++ Quoting.double text
    let gap := if variableAt.keyed.isSome then [' '] else []
    front ++ "=(".toList ++ [' '].intercalate pairs ++ gap ++ [')']
  else
    match variableAt.refersTo, variableAt.value? with
    | some other, _ => front ++ '=' :: Quoting.double other
    | none, some text => front ++ '=' :: Quoting.double text
    | none, none => front

def showDeclarations (letters : Octets) (names : List Octets) : Act Unit := do
  let shell ← Act.shell
  succeed
  if names.isEmpty then
    let wanted := letters.filter (· ≠ 'p')
    let chosen := shell.bindings.filter fun (_, variableAt) =>
      wanted.all fun letter => variableAt.attributes.contains letter
    let sorted := chosen.mergeSort fun first second => byOctets first.1 second.1
    sorted.forM fun (name, variableAt) => Act.print (shownDeclaration name variableAt ++ ['\n'])
  else
    names.forM fun name => do
      match shell.bindings.lookup name with
      | some variableAt => Act.print (shownDeclaration name variableAt ++ ['\n'])
      | none => blame "declare" 1 (name ++ ": not found".toList)

def declare_ (arguments : List Octets) : Act Unit := do
  let shell ← Act.shell
  let options := declaringOptions arguments
  let letters := lettersOf '-' options
  let words := arguments.drop options.length
  if letters.contains 'p' then showDeclarations letters words
  else if letters.contains 'f' ∨ letters.contains 'F' then
    succeed
    words.forM fun name => do
      if (shell.functions.lookup name).isNone then Act.setStatus 1
      else if letters.contains 'F' then Act.print (name ++ ['\n'])
  else
    if 0 < shell.calls ∧ !letters.contains 'g' then
      words.forM fun word => do
        let (name, _) := splitAssignment word
        if ← hide name then Act.putVariable name {}
    markAs "declare" options words

/-! ## Calculations and tests -/

def let_ (arguments : List Octets) : Act Unit := do
  let values ← arguments.mapM Expansion.calculate
  Act.setStatus (if values.getLastD 0 = 0 then 1 else 0)

def testSetting : Act Test.Setting := do
  let shell ← Act.shell
  return {
    dialect := shell.dialect
    host := ← Act.host
    isSet := fun word =>
      match Expansion.elementOf? word with
      | none => ((shell.variableNamed? word).bind Variable.value?).isSome
      | some (name, inner) =>
          match shell.variableNamed? name, Text.integer? inner with
          | some variableAt, index =>
              (variableAt.textUnder? inner).isSome ||
                (variableAt.keyed.isNone && (index.bind variableAt.textAt?).isSome)
          | none, _ => false
    system := systemNode? }

def test (name : String) (arguments : List Octets) : Act Unit := do
  match Test.holds (← testSetting) arguments with
  | .ok holds => Act.setStatus (if holds then 0 else 1)
  | .error fault => blame name 2 (fault.text (← Act.dialect))

def bracket (arguments : List Octets) : Act Unit := do
  if arguments.getLast? = some [']'] then test "[" arguments.dropLast
  else
    let reason := if (← Act.dialect) = .plain then "missing ]" else "missing \x60]'"
    blame "[" 2 reason.toList

def printf (dialect : Dialect) (arguments : List Octets) : Act Unit := do
  let print (words : List Octets) : Act Unit :=
    Act.useUtility "printf".toList (printFormatted dialect) words
  match dialect, arguments with
  | .extended, ['-', 'v'] :: name :: words =>
      let (text, status) ← Act.collected (print words)
      let (base, subscript) ← Expansion.aimOfText name
      Expansion.assignAt base subscript text
      Act.setStatus status
  | _, words => print words

/-! ## Which commands there are -/

def specialNames : List String :=
  [":", ".", "break", "continue", "eval", "exec", "exit", "export", "readonly", "return",
   "set", "shift", "times", "trap", "unset"]

/-- The commands that are carried out without running others. -/
def simple? (dialect : Dialect) (name : String) : Option (List Octets → Act Unit) :=
  let useUtility (utility : Utility) : Option (List Octets → Act Unit) :=
    some (Act.useUtility name.toList utility)
  match name with
  | ":" | "true" | "wait" | "jobs" | "times" | "hash" | "ulimit" | "alias"
  | "unalias" | "fg" | "bg" => some fun _ => succeed
  | "false" => some fun _ => Act.setStatus 1
  | "umask" => some umask
  | "cd" | "chdir" => if name = "chdir" ∧ dialect = .extended then none else some cd
  | "pwd" => some pwd
  | "export" => some export_
  | "readonly" => some readonly
  | "unset" => some unset
  | "shift" => some shift
  | "set" => some set_
  | "read" => some read
  | "getopts" => some getopts
  | "local" => some local_
  | "test" => some (test "test")
  | "[" => some bracket
  | "echo" => useUtility (echo dialect)
  | "printf" => some (printf dialect)
  | _ =>
      if dialect = .plain then none
      else
        match name with
        | "declare" | "typeset" => some declare_
        | "let" => some let_
        | "shopt" => some shopt
        | "mapfile" | "readarray" => some mapfile
        | "enable" | "disown" | "complete" | "bind" => some fun _ => succeed
        | _ => none

def controlNames (dialect : Dialect) : List String :=
  [".", "break", "command", "continue", "eval", "exec", "exit", "kill", "return", "trap",
   "type"] ++
    if dialect = .extended then ["source", "builtin"] else []

def isOwn (dialect : Dialect) (name : Octets) : Bool :=
  (simple? dialect (String.ofList name)).isSome ||
    (controlNames dialect).contains (String.ofList name)

end OwnCommand

end BuiltinWrappers.Script
