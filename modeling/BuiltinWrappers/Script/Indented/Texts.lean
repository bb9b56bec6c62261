import BuiltinWrappers.Script.Indented.Form
import BuiltinWrappers.Text.Alphabetic
import BuiltinWrappers.Text.LetterCase

/-!
# Texts in indented scripts

What can be asked of a text or of octets.
-/

namespace BuiltinWrappers.Script.Indented

open Text (Octets)

namespace Texts

/-! ## Cutting and joining -/

def isSpace (character : Char) : Bool :=
  Text.isBlank character || (28 ≤ character.toNat && character.toNat ≤ 31)

def isOctetSpace (character : Char) : Bool :=
  character = ' ' || (9 ≤ character.toNat && character.toNat ≤ 13)

def strippedLeft (drops : Char → Bool) (text : List Char) : List Char := text.dropWhile drops

def strippedRight (drops : Char → Bool) (text : List Char) : List Char :=
  (text.reverse.dropWhile drops).reverse

def stripped (drops : Char → Bool) (text : List Char) : List Char :=
  strippedRight drops (strippedLeft drops text)

def place? (part : List Char) : List Char → Option Nat
  | [] => if part.isEmpty then some 0 else none
  | character :: rest =>
      if part.isPrefixOf (character :: rest) then some 0
      else (place? part rest).map (· + 1)

def lastPlace? (part text : List Char) : Option Nat :=
  (place? part.reverse text.reverse).map fun place => text.length - place - part.length

def cut (separator : List Char) : (times : Nat) → List Char → List (List Char)
  | 0, text => [text]
  | times + 1, text =>
      match place? separator text with
      | none => [text]
      | some place => text.take place :: cut separator times (text.drop (place + separator.length))

def words (isBlank : Char → Bool) : (times : Nat) → List Char → List (List Char)
  | 0, text =>
      let rest := strippedLeft isBlank text
      if rest.isEmpty then [] else [rest]
  | times + 1, text =>
      let text := strippedLeft isBlank text
      let word := text.takeWhile (!isBlank ·)
      if word.isEmpty then [] else word :: words isBlank times (text.drop word.length)

def replaced (old new : List Char) : (times : Nat) → List Char → List Char
  | 0, text => text
  | times + 1, text =>
      match old, text with
      | [], [] => new
      | [], character :: rest => new ++ character :: replaced old new times rest
      | old, text =>
          match place? old text with
          | none => text
          | some place =>
              text.take place ++ new ++ replaced old new times (text.drop (place + old.length))

def occurrences (part : List Char) : (fuel : Nat) → List Char → Nat
  | 0, _ => 0
  | fuel + 1, text =>
      match place? part text with
      | none => 0
      | some place => 1 + occurrences part fuel (text.drop (place + max 1 part.length))

def isLineBreak (octets : Bool) (character : Char) : Bool :=
  character = '\n' || character = '\r' || (!octets && (character = '\x0b' || character = '\x0c' ||
    character = '\x1c' || character = '\x1d' || character = '\x1e' || character = '\u0085' ||
    character = '\u2028' || character = '\u2029'))

def lines (octets keeps : Bool) : (current : List Char) → List Char → List (List Char)
  | [], [] => []
  | current, [] => [current.reverse]
  | current, '\r' :: '\n' :: rest =>
      (current.reverse ++ if keeps then ['\r', '\n'] else []) :: lines octets keeps [] rest
  | current, character :: rest =>
      if isLineBreak octets character then
        (current.reverse ++ if keeps then [character] else []) :: lines octets keeps [] rest
      else lines octets keeps (character :: current) rest

def withoutTabs (width : Nat) (text : List Char) : List Char :=
  (text.foldl (fun (column, found) character =>
    if character = '\t' then
      let gap := if width = 0 then 0 else width - column % width
      (column + gap, List.replicate gap ' ' ++ found)
    else
      let column := if character = '\n' ∨ character = '\r' then 0 else column + 1
      (column, character :: found)) ((0, []) : Nat × List Char)).2.reverse

/-! ## Letters -/

def isLetter (octets : Bool) (character : Char) : Bool :=
  character.isAlpha || (!octets && 127 < character.toNat && Text.isAlphabetic character)

def upper (octets : Bool) (text : List Char) : List Char :=
  if octets then text.map Char.toUpper else text.flatMap Text.toCapital

def lower (octets : Bool) (text : List Char) : List Char :=
  if octets then text.map Char.toLower else text.map Text.toSmall

def titled (octets : Bool) : (afterLetter : Bool) → List Char → List Char
  | _, [] => []
  | afterLetter, character :: rest =>
      (if afterLetter then lower octets [character] else upper octets [character]) ++
        titled octets (isLetter octets character) rest

def isUpper (octets : Bool) (character : Char) : Bool :=
  if octets then character.isUpper else Text.isCapital character

def isLower (octets : Bool) (character : Char) : Bool :=
  if octets then character.isLower else Text.isSmall character

/-- Whether capitals begin the words of a text and stand nowhere else. -/
def isTitled (octets : Bool) : (afterLetter : Bool) → List Char → Bool
  | _, [] => true
  | afterLetter, character :: rest =>
      (if isUpper octets character then !afterLetter
        else if isLower octets character then afterLetter else true) &&
        isTitled octets (isLetter octets character) rest

def isIdentifier (text : List Char) : Bool :=
  text.head?.any (fun first => isLetter false first || first = '_') &&
    text.all fun character => isLetter false character || character.isDigit || character = '_'

/-! ## Filling -/

def centered (fill : Char) (width : Nat) (text : List Char) : List Char :=
  let gap := width - text.length
  let left := gap / 2 + (if gap % 2 = 1 ∧ width % 2 = 1 then 1 else 0)
  List.replicate left fill ++ text ++ List.replicate (gap - left) fill

def zeroFilled (width : Nat) (text : List Char) : List Char :=
  match text with
  | '-' :: digits => '-' :: Form.filledLeft '0' (width - 1) digits
  | '+' :: digits => '+' :: Form.filledLeft '0' (width - 1) digits
  | digits => Form.filledLeft '0' width digits

/-! ## Octets in hexadecimal -/

def hexadecimalOctets? : (fuel : Nat) → List Char → Option Octets
  | 0, _ => none
  | _ + 1, [] => some []
  | fuel + 1, ' ' :: rest | fuel + 1, '\n' :: rest => hexadecimalOctets? fuel rest
  | fuel + 1, high :: low :: rest => do
      let value := 16 * (← Text.digitValue? 16 high) + (← Text.digitValue? 16 low)
      return Char.ofNat value :: (← hexadecimalOctets? fuel rest)
  | _ + 1, [_] => none

end Texts

variable [Evaluator]

namespace Arguments

/-! ## Arguments by place or name -/

def value? (arguments : Arguments) (index : Nat) (name : String) : Option Value :=
  (arguments.plain[index]?) <|> arguments.named.lookup name

def value (arguments : Arguments) (index : Nat) (name : String) : Eval Value := do
  match arguments.value? index name with
  | some value => return value
  | none => Eval.typeFault ("missing required argument '" ++ name ++ "'")

def asInteger (value : Value) : Eval Int := do
  match (← Kinds.core value).asInteger? with
  | some number => return number
  | none =>
      match ← Protocol.answer? value "__index__" [] with
      | some (.integer number) => return number
      | _ =>
          Eval.typeFault ("'" ++ (← Kinds.nameOf value) ++
            "' object cannot be interpreted as an integer")

def integer (arguments : Arguments) (index : Nat) (name : String) (usual : Int) : Eval Int := do
  match arguments.value? index name with
  | none | some .nothing => return usual
  | some value => asInteger value

def truth (arguments : Arguments) (index : Nat) (name : String) (usual : Bool) : Eval Bool := do
  match arguments.value? index name with
  | none => return usual
  | some value => Protocol.isTrue value

def text (arguments : Arguments) (index : Nat) (name usual : String) : Eval String := do
  match arguments.value? index name with
  | none | some .nothing => return usual
  | some value =>
      match ← Kinds.core value with
      | .text characters => return String.ofList characters
      | core =>
          Eval.typeFault (name ++ " must be str, not " ++ core.plainKind)

end Arguments

namespace Texts

/-! ## Methods -/

def charactersOf (octets : Bool) (value : Value) : Eval (List Char) := do
  let core ← Kinds.core value
  match octets, core with
  | false, .text characters => return characters
  | true, core =>
      match ← Protocol.octetsOf? core, core with
      | some octets, _ => return octets
      | none, .integer number =>
          if number < 0 ∨ 255 < number then Eval.valueFault "byte must be in range(0, 256)"
          return [Char.ofNat number.toNat]
      | none, _ =>
          Eval.typeFault ("a bytes-like object is required, not '" ++
            (← Kinds.nameOf value) ++ "'")
  | false, _ => Eval.typeFault ("must be str, not " ++ (← Kinds.nameOf value))

def choices (octets : Bool) (value : Value) : Eval (List (List Char)) := do
  match value with
  | .tuple values => values.mapM (charactersOf octets)
  | value => return [← charactersOf octets value]

def window (arguments : Arguments) (text : List Char) : Eval (Option (Nat × List Char)) := do
  let size : Int := text.length
  let place (index : Nat) (usual : Int) : Eval Int := do
    match arguments.plain[index]? with
    | none | some .nothing => return usual
    | some value =>
        let number ← Arguments.asInteger value
        return if number < 0 then max 0 (number + size) else number
  let start ← place 1 0
  let stop ← place 2 size
  if size < start then return none
  return some (start.toNat, (text.take (min stop size).toNat).drop start.toNat)

def limit (arguments : Arguments) (index : Nat) (name : String) (usual : Nat) : Eval Nat := do
  let number ← arguments.integer index name (-1)
  return if number < 0 then usual else number.toNat

def translated (element : Value → Value → Eval Value) (table : Value) (character : Char) :
    Eval (List Char) := do
  try
    match ← element table (.ofNat character.toNat) with
    | .nothing => return []
    | .text characters => return characters
    | .integer code => return [Char.ofNat code.toNat]
    | _ => Eval.typeFault "character mapping must return integer, None or str"
  catch
    | .fault fault =>
        if ← Protocol.isFaultOf "LookupError" fault then return [character]
        throw (.fault fault)
    | leap => throw leap

/-- A table of what characters become. -/
def newTable (octets : Bool) (arguments : Arguments) : Eval Value := do
  match arguments.plain, octets with
  | [first, second], true =>
      let (old, new) := (← charactersOf true first, ← charactersOf true second)
      return .bytes ((List.range 256).map fun code =>
        (((old.zip new).find? fun entry => entry.1.toNat = code).map Prod.snd).getD
          (Char.ofNat code))
  | [.dictionary address], _ =>
      let entries := (← Eval.entriesAt address).map fun (key, value) =>
        match key with
        | .text [character] => (Value.ofNat character.toNat, value)
        | key => (key, value)
      Eval.newDictionary entries
  | first :: second :: rest, _ =>
      let (old, new) := (← charactersOf false first, ← charactersOf false second)
      if old.length ≠ new.length then
        Eval.valueFault "the first two maketrans arguments must have equal length"
      let dropped ←
        match rest with
        | third :: _ => charactersOf false third
        | [] => pure []
      let entries : List (Value × Value) :=
        (old.zip new).map (fun (one, other) => (.ofNat one.toNat, .ofNat other.toNat)) ++
          dropped.map fun character => (.ofNat character.toNat, .nothing)
      Eval.newDictionary (← Protocol.insertAll [] entries)
  | _, _ => Eval.typeFault "if you give only one argument to maketrans it must be a dict"

def joined (octets : Bool) (separator : List Char) (source : Value) : Eval (List Char) := do
  let values ← Protocol.items source
  let parts ← values.zipIdx.mapM fun (value, index) => do
    match octets, ← Kinds.core value with
    | false, .text characters => return characters
    | true, core =>
        match ← Protocol.octetsOf? core with
        | some octets => return octets
        | none => Eval.typeFault ("sequence item " ++ Nat.repr index ++
            ": expected a bytes-like object, " ++ (← Kinds.nameOf value) ++ " found")
    | false, _ => Eval.typeFault ("sequence item " ++ Nat.repr index ++
        ": expected str instance, " ++ (← Kinds.nameOf value) ++ " found")
  return separator.intercalate parts

def noMethod {α : Type} (object : Value) (name : String) : Eval α := do
  Eval.fail "AttributeError"
    ("'" ++ (← Kinds.nameOf object) ++ "' object has no attribute '" ++ name ++ "'")

def judged? (octets : Bool) (self : List Char) (name : String) : Option Bool :=
  let all (holds : Char → Bool) : Option Bool := some (!self.isEmpty && self.all holds)
  match name with
  | "isdigit" | "isdecimal" | "isnumeric" => all Char.isDigit
  | "isalpha" => all (isLetter octets)
  | "isalnum" => all fun character => isLetter octets character || character.isDigit
  | "isspace" => all (if octets then isOctetSpace else isSpace)
  | "isupper" => some (self.any (isUpper octets) && !self.any (isLower octets))
  | "islower" => some (self.any (isLower octets) && !self.any (isUpper octets))
  | "istitle" => some (self.any (isUpper octets) && isTitled octets false self)
  | "isascii" => some (self.all (·.toNat < 128))
  | "isprintable" => some (self.all Text.isPrintable)
  | "isidentifier" => some (isIdentifier self)
  | _ => none

def changed? (octets : Bool) (self : List Char) (name : String) : Option (List Char) :=
  match name with
  | "upper" => some (upper octets self)
  | "lower" | "casefold" => some (lower octets self)
  | "capitalize" => some (upper octets (self.take 1) ++ lower octets (self.drop 1))
  | "title" => some (titled octets false self)
  | "swapcase" => some (self.flatMap fun character =>
      if isUpper octets character then lower octets [character] else upper octets [character])
  | _ => none

def method (element : Value → Value → Eval Value) (octets : Bool) (self : List Char)
    (name : String) (arguments : Arguments) : Eval Value := do
  let made (text : List Char) : Value := if octets then .bytes text else .text text
  let isBlank := if octets then isOctetSpace else isSpace
  let first : Eval Value := arguments.value 0 "object"
  let part : Eval (List Char) := do charactersOf octets (← first)
  let stripped (strip : (Char → Bool) → List Char → List Char) : Eval Value := do
    match arguments.value? 0 "chars" with
    | none | some .nothing => return made (strip isBlank self)
    | some value => return made (strip (← charactersOf octets value).contains self)
  let found (missing : Bool) (place? : List Char → List Char → Option Nat) : Eval Value := do
    let part ← part
    match (← window arguments self).bind fun (start, within) =>
        (place? part within).map (start + ·) with
    | some place => return .ofNat place
    | none => if missing then return .integer (-1) else Eval.valueFault "substring not found"
  let cutAround (find : List Char → List Char → Option Nat) (fromEnd : Bool) : Eval Value := do
    let separator ← part
    if separator.isEmpty then Eval.valueFault "empty separator"
    match find separator self with
    | some place => return .tuple [made (self.take place), made separator,
        made (self.drop (place + separator.length))]
    | none =>
        return if fromEnd then .tuple [made [], made [], made self]
          else .tuple [made self, made [], made []]
  let filled (fill : Char → Nat → List Char → List Char) : Eval Value := do
    let width ← Arguments.asInteger (← first)
    let filler ←
      match arguments.plain[1]? with
      | some value => pure ((← charactersOf octets value).headD ' ')
      | none => pure ' '
    return made (fill filler width.toNat self)
  let separator? : Eval (Option (List Char)) := do
    match arguments.value? 0 "sep" with
    | none | some .nothing => return none
    | some value =>
        let separator ← charactersOf octets value
        if separator.isEmpty then Eval.valueFault "empty separator"
        return some separator
  if let some result := judged? octets self name then return .truth result
  if let some result := changed? octets self name then return made result
  match name with
  | "strip" => stripped Texts.stripped
  | "lstrip" => stripped strippedLeft
  | "rstrip" => stripped strippedRight
  | "split" =>
      let limit ← limit arguments 1 "maxsplit" self.length
      match ← separator? with
      | none => Eval.newList ((words isBlank limit self).map made)
      | some separator => Eval.newList ((cut separator limit self).map made)
  | "rsplit" =>
      let limit ← limit arguments 1 "maxsplit" self.length
      let turned (parts : List (List Char)) := (parts.map fun part => made part.reverse).reverse
      match ← separator? with
      | none => Eval.newList (turned (words isBlank limit self.reverse))
      | some separator =>
          Eval.newList (turned (cut separator.reverse limit self.reverse))
  | "splitlines" =>
      let keeps ← arguments.truth 0 "keepends" false
      Eval.newList ((lines octets keeps [] self).map made)
  | "join" => return made (← joined octets self (← first))
  | "replace" =>
      let limit ← limit arguments 2 "count" (self.length + 1)
      return made (replaced (← part)
        (← charactersOf octets (← arguments.value 1 "new")) limit self)
  | "startswith" =>
      let parts ← choices octets (← first)
      return .truth ((← window arguments self).any fun (_, within) =>
        parts.any (·.isPrefixOf within))
  | "endswith" =>
      let parts ← choices octets (← first)
      return .truth ((← window arguments self).any fun (_, within) =>
        parts.any (·.isSuffixOf within))
  | "removeprefix" =>
      let part ← part
      return made (if part.isPrefixOf self then self.drop part.length else self)
  | "removesuffix" =>
      let part ← part
      return made (if part ≠ [] ∧ part.isSuffixOf self then
        self.take (self.length - part.length) else self)
  | "find" => found true place?
  | "rfind" => found true lastPlace?
  | "index" => found false place?
  | "rindex" => found false lastPlace?
  | "count" =>
      let part ← part
      match ← window arguments self with
      | none => return .integer 0
      | some (_, within) =>
          return .ofNat (if part.isEmpty then within.length + 1
            else occurrences part within.length within)
  | "partition" => cutAround place? false
  | "rpartition" => cutAround lastPlace? true
  | "ljust" => filled Form.filledRight
  | "rjust" => filled Form.filledLeft
  | "center" => filled centered
  | "zfill" => return made (zeroFilled (← Arguments.asInteger (← first)).toNat self)
  | "expandtabs" =>
      return made (withoutTabs (← arguments.integer 0 "tabsize" 8).toNat self)
  | "encode" =>
      return .bytes (← Coding.encode (← arguments.text 0 "encoding" "utf-8")
        (← arguments.text 1 "errors" "strict") self)
  | "decode" =>
      return .text (← Coding.decode (← arguments.text 0 "encoding" "utf-8")
        (← arguments.text 1 "errors" "strict") self)
  | "hex" =>
      let parts := self.map fun octet => Protocol.hexadecimal 2 octet.toNat
      match arguments.plain.head? with
      | some (.text mark) => return .text (mark.intercalate parts)
      | _ => return .text parts.flatten
  | "fromhex" =>
      match ← first with
      | .text characters =>
          match hexadecimalOctets? (characters.length + 1) characters with
          | some octets => return .bytes octets
          | none => Eval.valueFault "non-hexadecimal number found in fromhex() arg at position 0"
      | _ => Eval.typeFault "fromhex() argument must be str"
  | "format" =>
      let fields : Forms.Fields := { plain := arguments.plain, named := arguments.named }
      let (text, _) ← Forms.filledTemplate element fields (2 * self.length + 2) 0 [] self
      return .text text
  | "format_map" =>
      let fields : Forms.Fields := { plain := [], named := [], mapping := some (← first) }
      let (text, _) ← Forms.filledTemplate element fields (2 * self.length + 2) 0 [] self
      return .text text
  | "maketrans" => newTable octets arguments
  | "translate" =>
      let table ← first
      if octets then
        let dropped ←
          match arguments.value? 1 "delete" with
          | some value => charactersOf true value
          | none => pure []
        let kept := self.filter (!dropped.contains ·)
        match table with
        | .nothing => return .bytes kept
        | table =>
            let codes := (← charactersOf true table).toArray
            return .bytes (kept.map fun octet => (codes[octet.toNat]?).getD octet)
      else
        return .text (← self.mapM (translated element table)).flatten
  | name => noMethod (made []) name

end Texts

end BuiltinWrappers.Script.Indented
