import BuiltinWrappers.Script.Escapes
import BuiltinWrappers.Script.Utility.Files
import BuiltinWrappers.Text.Pattern

/-!
# Utilities on lines

Taking parts of a text, putting its lines in order, counting them and changing
their characters.
-/

namespace BuiltinWrappers.Script

open Text (Octets)
open Job

/-! ## Counts on the command line -/

def unitSize (letters : Octets) : Nat :=
  match String.ofList letters with
  | "b" => 512
  | "k" | "K" | "KiB" => 1024
  | "kB" | "KB" => 1000
  | "M" | "MiB" => 1048576
  | _ => 1

def countOf (text : Octets) : Nat :=
  Text.ofDigits 10 (text.takeWhile Char.isDigit) * unitSize (text.dropWhile Char.isDigit)

def spellCount (arguments : List Octets) : List Octets :=
  match arguments with
  | ('-' :: digit :: rest) :: others =>
      if digit.isDigit then "-n".toList :: (digit :: rest) :: others else arguments
  | _ => arguments

def headed (options : Options) (paths : List Octets) (act : Octets → Job PUnit) : Job PUnit := do
  let titled := (options.has 'v' || 1 < paths.length) && !options.has 'q'
  let _ ← paths.foldlM (fun (first : Bool) path => do
    match ← read path with
    | .error fault =>
        complain ("cannot open ".toList ++ quote path ++ " for reading: ".toList ++ wording fault)
        fail
        return first
    | .ok content =>
        if titled then
          let name := if path = ['-'] then "standard input".toList else path
          print ((if first then [] else ['\n']) ++ "==> ".toList ++ name ++ " <==\n".toList)
        act content
        return false) true

/-! ## Heads and tails -/

def sliceOptions : OptionSet where
  flags := "qvzf"
  valued := "nc"
  long := [("lines", 'n'), ("bytes", 'c'), ("quiet", 'q'), ("silent", 'q'), ("verbose", 'v')]

def countedParts (options : Options) (text : Octets) : List Octets :=
  if options.has 'c' then text.map fun octet => [octet] else wholeLines text

def headPart (options : Options) (text : Octets) : Octets :=
  let count := (options.value? 'c' <|> options.value? 'n').getD "10".toList
  let parts := countedParts options text
  match count with
  | '-' :: digits => (parts.take (parts.length - countOf digits)).flatten
  | digits => (parts.take (countOf digits)).flatten

def isCount (text : Octets) : Bool :=
  let digits := if text.head? = some '-' ∨ text.head? = some '+' then text.tail else text
  digits.head?.any Char.isDigit && (digits.dropWhile Char.isDigit).all Char.isAlpha

def checkCounts (options : Options) : Job PUnit := do
  if let some text := (options.given.find? fun entry =>
      (entry.1 = 'n' || entry.1 = 'c') && !isCount entry.2) then
    let measure := if text.1 = 'n' then "lines" else "bytes"
    abort 1 ("invalid number of ".toList ++ measure.toList ++ ": ".toList ++ quote text.2)

def head : Utility := fun arguments => do
  let options ← options sliceOptions (spellCount arguments)
  checkCounts options
  if options.operands.isEmpty then
    let text := (← get).input
    let part := headPart options text
    print part
    modify fun work => { work with input := text.drop part.length, inputRead := true }
  else headed options options.operands fun text => print (headPart options text)

def tailPart (options : Options) (text : Octets) : Octets :=
  let count := (options.value? 'c' <|> options.value? 'n').getD "10".toList
  let parts := countedParts options text
  match count with
  | '+' :: digits => (parts.drop (countOf digits - 1)).flatten
  | '-' :: digits | digits => (parts.drop (parts.length - countOf digits)).flatten

def tail : Utility := fun arguments => do
  let arguments :=
    match arguments with
    | ('+' :: digits) :: others => "-n".toList :: ('+' :: digits) :: others
    | _ => spellCount arguments
  let options ← options sliceOptions arguments
  checkCounts options
  let paths := if options.operands.isEmpty then [['-']] else options.operands
  headed options paths fun text => print (tailPart options text)

/-! ## Columns -/

structure Span where
  first : Nat
  last : Option Nat

def Span.holds (span : Span) (position : Nat) : Bool :=
  span.first ≤ position && span.last.all (position ≤ ·)

def span? (text : Octets) : Option Span :=
  match text.splitOn '-' with
  | [only] => some ⟨Text.ofDigits 10 only, some (Text.ofDigits 10 only)⟩
  | [first, last] =>
      some ⟨if first.isEmpty then 1 else Text.ofDigits 10 first,
        if last.isEmpty then none else some (Text.ofDigits 10 last)⟩
  | _ => none

def chosen {α : Type} (spans : List Span) (complement : Bool) (items : List α) : List α :=
  (items.zipIdx 1).filterMap fun (item, position) =>
    if spans.any (Span.holds · position) != complement then some item else none

def cutLine (options : Options) (spans : List Span) (line : Octets) : Option Octets :=
  let complement := options.has 'C'
  if options.has 'f' then
    let delimiter := ((options.value? 'd').bind List.head?).getD '\t'
    if !line.contains delimiter then if options.has 's' then none else some line
    else
      let joint := (options.value? 'o').getD [delimiter]
      some (joint.intercalate (chosen spans complement (line.splitOn delimiter)))
  else some (chosen spans complement line)

def cut : Utility := fun arguments => do
  let options ← options
    { flags := "snzC", valued := "bcfdo"
      long := [("bytes", 'b'), ("characters", 'c'), ("fields", 'f'), ("delimiter", 'd'),
        ("only-delimited", 's'), ("output-delimiter", 'o'), ("complement", 'C')] } arguments
  match options.value? 'f' <|> options.value? 'c' <|> options.value? 'b' with
  | none => misuse 1 "you must specify a list of bytes, characters, or fields".toList
  | some list =>
      match (list.splitOn ',').mapM span? with
      | none => misuse 1 "invalid field value".toList
      | some spans =>
          forFiles options.operands fun _ text =>
            print (unlines ((linesOf text).filterMap (cutLine options spans)))

/-! ## Characters for characters -/

def codeRange (low high : Char) : List Char :=
  (List.range (high.toNat + 1 - low.toNat)).map fun index => Char.ofNat (low.toNat + index)

def classMembers (name : List Char) : List Char :=
  (List.range 256).map Char.ofNat |>.filter (Text.isOfClass name)

def setCharacters : (fuel : Nat) → List Text.Glyph → List Char
  | 0, _ | _, [] => []
  | fuel + 1, ⟨'[', true⟩ :: ⟨':', true⟩ :: rest =>
      match Text.className? (rest.map Text.Glyph.character) with
      | some (name, _) => classMembers name ++ setCharacters fuel (rest.drop (name.length + 2))
      | none => '[' :: ':' :: setCharacters fuel rest
  | fuel + 1, ⟨low, _⟩ :: ⟨'-', true⟩ :: ⟨high, _⟩ :: rest =>
      codeRange low high ++ setCharacters fuel rest
  | fuel + 1, ⟨character, _⟩ :: rest => character :: setCharacters fuel rest

def setGlyphs : (fuel : Nat) → Octets → List Text.Glyph
  | 0, _ | _, [] => []
  | fuel + 1, '\\' :: rest =>
      match (EscapeStyle.format .plain).escape? rest with
      | some (['\\', character], rest) => ⟨character, false⟩ :: setGlyphs fuel rest
      | some (meant, rest) => meant.map (⟨·, false⟩) ++ setGlyphs fuel rest
      | none => []
  | fuel + 1, character :: rest => ⟨character, true⟩ :: setGlyphs fuel rest

def characterSet (text : Octets) : List Char :=
  let glyphs := setGlyphs (text.length + 1) text
  setCharacters (glyphs.length + 1) glyphs

def squeeze (squeezed : Char → Bool) : Octets → Octets
  | first :: second :: rest =>
      if first = second ∧ squeezed first then squeeze squeezed (second :: rest)
      else first :: squeeze squeezed (second :: rest)
  | text => text

def exchanged (source target : List Char) (complement : Bool) (character : Char) : Char :=
  let last := target.getLastD character
  if complement then if source.contains character then character else last
  else
    match source.reverse.idxOf? character with
    | none => character
    | some index => target[source.length - 1 - index]?.getD last

def tr : Utility := fun arguments => do
  let options ← options
    { flags := "cCdst", inFront := true
      long := [("complement", 'c'), ("delete", 'd'), ("squeeze-repeats", 's')] } arguments
  needOperand options "missing operand"
  let first := characterSet (options.operands.headD [])
  let second := characterSet (options.operands.getD 1 [])
  let complement := options.hasAny "cC"
  let inFirst (character : Char) : Bool := first.contains character != complement
  let text ← readInput
  if options.has 'd' then
    let kept := text.filter (!inFirst ·)
    print (if options.has 's' then squeeze second.contains kept else kept)
  else if options.operands.length < 2 then
    if options.has 's' then print (squeeze inFirst text)
    else misuse 1 ("missing operand after ".toList ++ quote (options.operands.headD []))
  else
    let changed := text.map (exchanged first second complement)
    print (if options.has 's' then squeeze second.contains changed else changed)

/-! ## Counting -/

def wordCount : (inWord : Bool) → Octets → Nat
  | _, [] => 0
  | inWord, character :: rest =>
      if Text.isSpaceCharacter character then wordCount false rest
      else if inWord then wordCount true rest
      else wordCount true rest + 1

def counts (options : Options) (text : Octets) : List Nat :=
  let all := !options.hasAny "lwcmL"
  let longest := ((linesOf text).map List.length).foldl max 0
  (if all || options.has 'l' then [text.count '\n'] else []) ++
    (if all || options.has 'w' then [wordCount false text] else []) ++
    (if options.has 'm' then [text.length] else []) ++
    (if all || options.has 'c' then [text.length] else []) ++
    (if options.has 'L' then [longest] else [])

def countLine (width : Nat) (numbers : List Nat) (name : Octets) : Octets :=
  let shown := numbers.map fun number => rightAligned width (Text.decimalText number)
  let line := [' '].intercalate shown
  if name.isEmpty then line else line ++ ' ' :: name

def wc : Utility := fun arguments => do
  let options ← options
    { flags := "lwcmL"
      long := [("lines", 'l'), ("words", 'w'), ("bytes", 'c'), ("chars", 'm')] } arguments
  let paths := if options.operands.isEmpty then [[]] else options.operands
  let fromFile := (← get).inputIsFile
  let texts ← paths.filterMapM fun path => do
    match ← read (if path.isEmpty then ['-'] else path) with
    | .ok text => return some (path, text)
    | .error fault =>
        complain (path ++ ": ".toList ++ wording fault)
        fail
        return none
  let columns := (counts options []).length
  let total := (texts.map fun entry => entry.2.length).foldl (· + ·) 0
  let width :=
    if columns = 1 ∧ paths.length = 1 then 1
    else
      let streamed := paths.any (fun path => path.isEmpty || path = ['-']) && !fromFile
      max (if streamed then 7 else 1) (Text.decimalText total).length
  texts.forM fun (path, text) => printLine (countLine width (counts options text) path)
  if 1 < paths.length then
    let whole := texts.flatMap Prod.snd
    printLine (countLine width (counts options whole) "total".toList)

/-! ## Putting lines in order -/

structure SortKey where
  firstField : Nat
  firstOffset : Nat
  lastField : Option Nat
  lastOffset : Nat
  letters : List Char

def splitNumber (text : Octets) : Nat × Octets :=
  (Text.ofDigits 10 (text.takeWhile Char.isDigit), text.dropWhile Char.isDigit)

def fieldPlace (text : Octets) : Nat × Nat × Octets :=
  let (field, rest) := splitNumber text
  match rest with
  | '.' :: rest =>
      let (offset, rest) := splitNumber rest
      (field, offset, rest)
  | rest => (field, 0, rest)

def sortKey (text : Octets) : SortKey :=
  let (firstField, firstOffset, rest) := fieldPlace text
  let letters := rest.takeWhile (· ≠ ',')
  match rest.dropWhile (· ≠ ',') with
  | ',' :: rest =>
      let (lastField, lastOffset, more) := fieldPlace rest
      ⟨firstField, firstOffset, some lastField, lastOffset, letters ++ more⟩
  | _ => ⟨firstField, firstOffset, none, 0, letters⟩

/-- The fields of a line; without a separator each begins with the blanks in front of it. -/
def blankFields : (fuel : Nat) → Octets → List Octets
  | 0, _ | _, [] => []
  | fuel + 1, text =>
      let blanks := text.takeWhile fun character => character = ' ' || character = '\t'
      let rest := text.drop blanks.length
      let word := rest.takeWhile fun character => character ≠ ' ' && character ≠ '\t'
      (blanks ++ word) :: blankFields fuel (rest.drop word.length)

def lineFields (separator : Option Char) (line : Octets) : List Octets :=
  match separator with
  | some separator => line.splitOn separator
  | none => blankFields (line.length + 1) line

def dropBlanks (text : Octets) : Octets :=
  text.dropWhile fun character => character = ' ' || character = '\t'

def keyText (separator : Option Char) (key : SortKey) (line : Octets) : Octets :=
  let fields := lineFields separator line
  let joint := separator.toList
  let lastField := key.lastField.getD fields.length
  let inner := (fields.take lastField).drop (key.firstField - 1)
  let inner :=
    match key.lastField, key.lastOffset, inner.getLast? with
    | some _, offset + 1, some last => inner.dropLast ++ [last.take (offset + 1)]
    | _, _, _ => inner
  let text := joint.intercalate inner
  let text := if key.letters.contains 'b' then dropBlanks text else text
  text.drop (key.firstOffset - 1)

def numericValue (text : Octets) : Int × Octets :=
  let text := dropBlanks text
  let negative := text.head? = some '-'
  let text := if negative then text.tail else text
  let whole : Int := Text.ofDigits 10 (text.takeWhile Char.isDigit)
  let fraction :=
    match text.dropWhile Char.isDigit with
    | '.' :: rest => rest.takeWhile Char.isDigit
    | _ => []
  let fraction := (fraction.reverse.dropWhile (· = '0')).reverse
  if negative then (-whole, fraction) else (whole, fraction)

def compareTexts (first second : Octets) : Ordering :=
  if first = second then .eq else if first < second then .lt else .gt

def compareBy (letters : List Char) (first second : Octets) : Ordering :=
  let prepare (text : Octets) : Octets :=
    let text := if letters.contains 'd' then
        text.filter fun character => character.isAlphanum || character = ' ' || character = '\t'
      else text
    if letters.contains 'f' then text.map Char.toUpper else text
  let order :=
    if letters.contains 'n' ∨ letters.contains 'g' ∨ letters.contains 'h' then
      let (one, oneFraction) := numericValue first
      let (two, twoFraction) := numericValue second
      (compare one two).then (compareTexts oneFraction twoFraction)
    else compareTexts (prepare first) (prepare second)
  if letters.contains 'r' then order.swap else order

def compareLines (options : Options) (keys : List SortKey) (first second : Octets) : Ordering :=
  let general := "ndfbrgh".toList.filter options.has
  let separator := (options.value? 't').bind List.head?
  let byKeys := keys.foldl (fun (order : Ordering) key =>
    let key := if key.letters.isEmpty then { key with letters := general } else key
    order.then (compareBy key.letters (keyText separator key first)
      (keyText separator key second))) .eq
  let order :=
    if keys.isEmpty then
      let strip (text : Octets) := if general.contains 'b' then dropBlanks text else text
      compareBy general (strip first) (strip second)
    else byKeys
  if options.hasAny "su" then order
  else
    let last := compareTexts first second
    order.then (if options.has 'r' then last.swap else last)

def withoutRepeats (same : Octets → Octets → Bool) : List Octets → List Octets
  | first :: second :: lines =>
      if same first second then withoutRepeats same (first :: lines)
      else first :: withoutRepeats same (second :: lines)
  | lines => lines
termination_by lines => lines.length

def sort : Utility := fun arguments => do
  let options ← options
    { flags := "rnufbscCdghmizRV", valued := "ktoST"
      long := [("reverse", 'r'), ("numeric-sort", 'n'), ("unique", 'u'), ("ignore-case", 'f'),
        ("ignore-leading-blanks", 'b'), ("stable", 's'), ("key", 'k'), ("field-separator", 't'),
        ("output", 'o'), ("check", 'c')] } arguments
  let keys := (options.values 'k').map sortKey
  let lines := linesOf (← readAll options.operands)
  let order := compareLines options keys
  let same (first second : Octets) : Bool := order first second = .eq
  if options.hasAny "cC" then
    let disordered := (lines.zip lines.tail).any fun (first, second) =>
      order first second = .gt || (options.has 'u' && same first second)
    if disordered then fail
  else
    let sorted := lines.mergeSort fun first second => order first second ≠ .gt
    let sorted := if options.has 'u' then withoutRepeats same sorted else sorted
    match options.value? 'o' with
    | none => print (unlines sorted)
    | some path =>
        match ← write path (unlines sorted) with
        | .ok () => pure ()
        | .error fault => abort 2 ("open failed: ".toList ++ path ++ ": ".toList ++ wording fault)

def groupRepeats (same : Octets → Octets → Bool) (lines : List Octets) : List (Nat × Octets) :=
  lines.foldr (fun line groups =>
    match groups with
    | (count, other) :: rest =>
        if same line other then (count + 1, line) :: rest else (1, line) :: groups
    | [] => [(1, line)]) []

def uniq : Utility := fun arguments => do
  let options ← options
    { flags := "cduiDz", valued := "fsw"
      long := [("count", 'c'), ("repeated", 'd'), ("unique", 'u'), ("ignore-case", 'i'),
        ("skip-fields", 'f'), ("skip-chars", 's'), ("check-chars", 'w')] } arguments
  let number (letter : Char) : Option Nat := (options.value? letter).map (Text.ofDigits 10)
  let key (line : Octets) : Octets :=
    let line :=
      match number 'f' with
      | some count => ((blankFields (line.length + 1) line).drop count).flatten
      | none => line
    let line := line.drop ((number 's').getD 0)
    let line := line.take ((number 'w').getD line.length)
    if options.has 'i' then line.map Char.toLower else line
  let text ← readAll (options.operands.take 1)
  let groups := groupRepeats (fun first second => key first = key second) (linesOf text)
  let groups := groups.filter fun (count, _) =>
    (!options.has 'd' || 1 < count) && (!options.has 'u' || count = 1)
  let lines := groups.map fun (count, line) =>
    if options.has 'c' then rightAligned 7 (Text.decimalText count) ++ ' ' :: line else line
  match options.operands with
  | [_, path] =>
      match ← write path (unlines lines) with
      | .ok () => pure ()
      | .error fault => abort 1 (path ++ ": ".toList ++ wording fault)
  | _ => print (unlines lines)

def tac : Utility := fun arguments => do
  let options ← options { flags := "br" } arguments
  forFiles options.operands fun _ text => print ((wholeLines text).reverse.flatten)

def rev : Utility := fun arguments => do
  let options ← options { flags := "" } arguments
  forFiles options.operands fun _ text => print (unlines ((linesOf text).map List.reverse))

/-! ## Side by side and in numbers -/

def pasted (delimiters : List Char) (columns : List (List Octets)) : List Octets :=
  let height := (columns.map List.length).foldl max 0
  (List.range height).map fun row =>
    let cells := columns.map fun column => column[row]?.getD []
    (cells.zipIdx.map fun (cell, index) =>
      if index = 0 then cell
      else (delimiters[(index - 1) % delimiters.length]?.toList) ++ cell).flatten

def paste : Utility := fun arguments => do
  let options ← options
    { flags := "sz", valued := "d", long := [("delimiters", 'd'), ("serial", 's')] } arguments
  let delimiters := characterSet ((options.value? 'd').getD ['\t'])
  let paths := if options.operands.isEmpty then [['-']] else options.operands
  let shares := paths.count ['-']
  let input ← if shares = 0 then pure [] else do pure (linesOf (← readInput))
  let (_, columns) ← paths.foldlM (fun (share, columns) path => do
    if path = ['-'] then
      let column := input.zipIdx.filterMap fun (line, index) =>
        if index % shares = share then some line else none
      return (share + 1, columns ++ [column])
    else return (share, columns ++ [linesOf (← readAll [path])])) (0, [])
  if options.has 's' then
    columns.forM fun column =>
      print (unlines (pasted delimiters (column.map fun cell => [cell])))
  else print (unlines (pasted delimiters columns))

def numberedLines (options : Options) (lines : List Octets) : List Octets :=
  let style := (options.value? 'b').getD ['t']
  let width := ((options.value? 'w').map (Text.ofDigits 10)).getD 6
  let joint := (options.value? 's').getD ['\t']
  let start := ((options.value? 'v').map (Text.ofDigits 10)).getD 1
  let (_, numbered) := lines.foldl (fun (number, output) line =>
    if style = ['a'] ∨ !line.isEmpty then
      (number + 1, (rightAligned width (Text.decimalText number) ++ joint ++ line) :: output)
    else (number, (List.replicate (width + joint.length) ' ' ++ line) :: output)) (start, [])
  numbered.reverse

def nl : Utility := fun arguments => do
  let options ← options
    { flags := "p", valued := "bwsvin"
      long := [("body-numbering", 'b'), ("number-width", 'w'), ("number-separator", 's')] }
    arguments
  print (unlines (numberedLines options (linesOf (← readAll options.operands))))

def foldLine (width : Nat) : (fuel : Nat) → Octets → List Octets
  | 0, line => [line]
  | fuel + 1, line =>
      if line.length ≤ width ∨ width = 0 then [line]
      else line.take width :: foldLine width fuel (line.drop width)

def fold : Utility := fun arguments => do
  let options ← options
    { flags := "bs", valued := "w", long := [("width", 'w'), ("spaces", 's')] } arguments
  let width := ((options.value? 'w').map (Text.ofDigits 10)).getD 80
  forFiles options.operands fun _ text =>
    print (unlines ((linesOf text).flatMap fun line => foldLine width line.length line))

def columnsOf : (fuel : Nat) → List Octets → List Octets → List (Nat × Octets)
  | 0, _, _ => []
  | _, [], second => second.map (2, ·)
  | _, first, [] => first.map (1, ·)
  | fuel + 1, one :: first, two :: second =>
      if one = two then (3, one) :: columnsOf fuel first second
      else if one < two then (1, one) :: columnsOf fuel first (two :: second)
      else (2, two) :: columnsOf fuel (one :: first) second

def comm : Utility := fun arguments => do
  let options ← options { flags := "123z" } arguments
  match options.operands with
  | [one, two] =>
      let first := linesOf (← readAll [one])
      let second := linesOf (← readAll [two])
      let shown (column : Nat) : Bool := !options.has (Char.ofNat (column + '0'.toNat))
      let lines := (columnsOf (first.length + second.length) first second).filterMap
        fun (column, line) =>
          if !shown column then none
          else
            let before := (List.range column).drop 1 |>.filter shown
            some (List.replicate before.length '\t' ++ line)
      print (unlines lines)
  | _ => misuse 1 "missing operand".toList

def cmp : Utility := fun arguments => do
  let options ← options
    { flags := "slb", long := [("silent", 's'), ("quiet", 's')] } arguments
  match options.operands with
  | one :: two :: _ =>
      match ← read one, ← read two with
      | .ok first, .ok second =>
          if first ≠ second then
            setStatus 1
            let common := (first.zip second).takeWhile fun (left, right) => left = right
            if !options.has 's' then
              if common.length = min first.length second.length then
                let shorter := if first.length < second.length then one else two
                complain ("EOF on ".toList ++ shorter)
              else
                let line := (first.take common.length).count '\n' + 1
                printLine (one ++ ' ' :: two ++ " differ: char ".toList ++
                  Text.decimalText (common.length + 1) ++ ", line ".toList ++
                  Text.decimalText line)
      | .error fault, _ => abort 2 (one ++ ": ".toList ++ wording fault)
      | _, .error fault => abort 2 (two ++ ": ".toList ++ wording fault)
  | _ => misuse 2 "missing operand".toList

end BuiltinWrappers.Script
