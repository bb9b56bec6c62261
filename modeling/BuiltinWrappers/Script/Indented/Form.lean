import BuiltinWrappers.Script.Indented.Attributes

/-!
# Forms

How values are put into texts: with a width and a fill, with so many digits, in
another base, or in the fields of a template.
-/

namespace BuiltinWrappers.Script.Indented

open Text (Octets)

/-- How a value is to be put into a text. -/
structure Form where
  fill : Char := ' '
  alignment : Option Char := none
  sign : Option Char := none
  alternate : Bool := false
  width : Nat := 0
  grouping : Option Char := none
  precision : Option Nat := none
  type : Option Char := none

namespace Form

/-! ## Reading forms -/

def isAlignment (character : Char) : Bool := ['<', '>', '^', '='].contains character

def takeAlignment (form : Form) (text : List Char) : Form × List Char :=
  match text with
  | fill :: alignment :: rest =>
      if isAlignment alignment then ({ form with fill, alignment := some alignment }, rest)
      else if isAlignment fill then
        ({ form with alignment := some fill }, alignment :: rest)
      else (form, text)
  | [alignment] =>
      if isAlignment alignment then ({ form with alignment := some alignment }, [])
      else (form, text)
  | [] => (form, text)

def parse? (text : List Char) : Option Form :=
  let (form, text) := takeAlignment {} text
  let (form, text) : Form × List Char :=
    match text with
    | '+' :: rest => ({ form with sign := some '+' }, rest)
    | '-' :: rest => (form, rest)
    | ' ' :: rest => ({ form with sign := some ' ' }, rest)
    | text => (form, text)
  let text := if text.head? = some 'z' then text.tail else text
  let (form, text) : Form × List Char :=
    match text with
    | '#' :: rest => ({ form with alternate := true }, rest)
    | text => (form, text)
  let (form, text) : Form × List Char :=
    match text with
    | '0' :: rest =>
        if form.alignment.isNone then ({ form with fill := '0', alignment := some '=' }, rest)
        else (if form.fill = ' ' then { form with fill := '0' } else form, rest)
    | text => (form, text)
  let digits := text.takeWhile Char.isDigit
  let form := { form with width := Text.ofDigits 10 digits }
  let (form, text) : Form × List Char :=
    match text.drop digits.length with
    | ',' :: rest => ({ form with grouping := some ',' }, rest)
    | '_' :: rest => ({ form with grouping := some '_' }, rest)
    | text => (form, text)
  let (form, text) : Form × List Char :=
    match text with
    | '.' :: rest =>
        let digits := rest.takeWhile Char.isDigit
        if digits.isEmpty then (form, text)
        else ({ form with precision := some (Text.ofDigits 10 digits) }, rest.drop digits.length)
    | text => (form, text)
  match text with
  | [] => some form
  | [type] => some { form with type := some type }
  | _ => none

/-! ## Filling -/

def filledLeft (fill : Char) (width : Nat) (text : List Char) : List Char :=
  List.replicate (width - text.length) fill ++ text

def filledRight (fill : Char) (width : Nat) (text : List Char) : List Char :=
  text ++ List.replicate (width - text.length) fill

def aligned (form : Form) (usual : Char) (front text : List Char) : List Char :=
  let whole := front ++ text
  match form.alignment.getD usual with
  | '<' => filledRight form.fill form.width whole
  | '^' =>
      let gap := form.width - whole.length
      List.replicate (gap / 2) form.fill ++ whole ++ List.replicate (gap - gap / 2) form.fill
  | '=' => front ++ filledLeft form.fill (form.width - front.length) text
  | _ => filledLeft form.fill form.width whole

/-! ## Numbers -/

def groups (mark : Char) (size : Nat) (digits : List Char) : List Char :=
  (digits.reverse.zipIdx.flatMap fun (digit, index) =>
    if index % size = 0 ∧ index ≠ 0 then [mark, digit] else [digit]).reverse

def signText (form : Form) (isNegative : Bool) : List Char :=
  if isNegative then ['-'] else form.sign.toList

def upper (text : List Char) : List Char := text.map Char.toUpper

def ofInteger? (form : Form) (value : Int) : Option (List Char) := do
  let size := value.natAbs
  let (front, digits) ←
    match form.type with
    | none | some 'd' | some 'n' => some ([], Text.decimalText size)
    | some 'x' => some (['0', 'x'], Nat.toDigits 16 size)
    | some 'X' => some (['0', 'X'], upper (Nat.toDigits 16 size))
    | some 'o' => some (['0', 'o'], Nat.toDigits 8 size)
    | some 'b' => some (['0', 'b'], Nat.toDigits 2 size)
    | some 'c' => some ([], [Char.ofNat size])
    | _ => none
  if form.precision.isSome then none
  let step := if form.type = none ∨ form.type = some 'd' then 3 else 4
  let digits := (form.grouping.map fun mark => groups mark step digits).getD digits
  let front := if form.alternate then front else []
  let usual := if form.type = some 'c' then '<' else '>'
  return form.aligned usual (form.signText (value < 0) ++ front) digits

def isRealType (type : Option Char) : Bool :=
  match type with
  | none => true
  | some type => "eEfFgGn%".toList.contains type

def realDigits (form : Form) (value : Float) (numerator denominator : Nat) : List Char :=
  let lower := (form.type.map Char.toLower)
  match lower with
  | some 'f' => Floating.fixed (form.precision.getD 6) numerator denominator
  | some 'e' => Floating.exponential (form.precision.getD 6) numerator denominator
  | some '%' => Floating.fixed (form.precision.getD 6) (100 * numerator) denominator ++ ['%']
  | some _ => Floating.general (form.precision.getD 6) form.alternate numerator denominator
  | none =>
      match form.precision with
      | none => Floating.text value.abs
      | some precision =>
          let digits := Floating.general precision form.alternate numerator denominator
          if digits.all Char.isDigit ∧ digits.length < max precision 1 then
            digits ++ ['.', '0']
          else if digits.all Char.isDigit then
            Floating.exponential (max precision 1 - 1) numerator denominator
          else digits

def groupedReal (form : Form) (digits : List Char) : List Char :=
  match form.grouping with
  | none => digits
  | some mark =>
      let whole := digits.takeWhile Char.isDigit
      groups mark 3 whole ++ digits.drop whole.length

def ofReal? (form : Form) (value : Float) : Option (List Char) :=
  if !isRealType form.type then none
  else
    let text :=
      match Floating.quotient? value with
      | some (numerator, denominator) =>
          form.groupedReal (form.realDigits value numerator.natAbs denominator)
      | none => if value.isNaN then "nan".toList else "inf".toList
    let text := if form.type.any Char.isUpper then upper text else text
    some (form.aligned '>' (form.signText (Floating.isNegative value && !value.isNaN)) text)

def ofText? (form : Form) (text : List Char) : Option (List Char) :=
  match form.type with
  | none | some 's' =>
      if (form.alignment = some '=' ∧ form.fill ≠ '0') ∨ form.sign.isSome ∨
          form.grouping.isSome then none
      else
        let text := (form.precision.map fun limit => text.take limit).getD text
        let form := if form.alignment = some '=' then { form with alignment := some '<' } else form
        some (form.aligned '<' [] text)
  | _ => none

end Form

variable [Evaluator]

namespace Forms

/-! ## Single values -/

def unknownForm {α : Type} (form : Form) (value : Value) : Eval α := do
  let letter := form.type.getD ' '
  Eval.valueFault ("Unknown format code '" ++ String.ofList [letter] ++ "' for object of type '" ++
    (← Kinds.nameOf value) ++ "'")

def formedCore (value : Value) (text : List Char) : Eval (List Char) := do
  match Form.parse? text with
  | none => Eval.valueFault "Invalid format specifier"
  | some form =>
      let result? ←
        match value with
        | .text characters => pure (form.ofText? characters)
        | .real value => pure (form.ofReal? value)
        | value =>
            match value.asInteger? with
            | some number =>
                if form.type.any ("eEfFgG%".toList.contains ·) then
                  pure (form.ofReal? (Protocol.toReal value))
                else pure (form.ofInteger? number)
            | none =>
                Eval.typeFault ("unsupported format string passed to " ++
                  (← Kinds.nameOf value) ++ ".__format__")
      match result? with
      | some text => return text
      | none => unknownForm form value

def formed (value : Value) (form : List Char) : Eval (List Char) := do
  match ← Protocol.answer? value "__format__" [.text form] with
  | some found => Protocol.needText found
  | none =>
      if form.isEmpty then Protocol.textOf value
      else
        match value, ← Kinds.core value with
        | .entity _, .text characters =>
            match ← Protocol.answer? value "__str__" [] with
            | some found => formedCore found form
            | none => formedCore (.text characters) form
        | _, core => formedCore core form

def plainlyShown (text : List Char) : List Char :=
  text.flatMap fun character =>
    if character.toNat < 128 then [character]
    else if character.toNat < 256 then
      '\\' :: 'x' :: Protocol.hexadecimal 2 character.toNat
    else if character.toNat < 65536 then
      '\\' :: 'u' :: Protocol.hexadecimal 4 character.toNat
    else '\\' :: 'U' :: Protocol.hexadecimal 8 character.toNat

def converted (letter : Option Char) (value : Value) : Eval Value := do
  match letter with
  | some 'r' => return .text (← Evaluator.shown value)
  | some 'a' => return .text (plainlyShown (← Evaluator.shown value))
  | some 's' => return .text (← Protocol.textOf value)
  | _ => return value

/-! ## Templates -/

abbrev Getter := Value → Value → Eval Value

def followed (element : Getter) : (fuel : Nat) → Value → List Char → Eval Value
  | 0, value, _ | _, value, [] => return value
  | fuel + 1, value, '.' :: rest => do
      let name := rest.takeWhile fun character => character ≠ '.' && character ≠ '['
      followed element fuel (← Attributes.lookUp value (String.ofList name)) (rest.drop name.length)
  | fuel + 1, value, '[' :: rest => do
      let key := rest.takeWhile (· ≠ ']')
      let key' : Value :=
        if key ≠ [] ∧ key.all Char.isDigit then .ofNat (Text.ofDigits 10 key) else .text key
      followed element fuel (← element value key') (rest.drop (key.length + 1))
  | _ + 1, _, _ => Eval.valueFault "Only '.' or '[' may follow ']' in format field specifier"

structure Fields where
  plain : List Value
  named : List (String × Value)
  mapping : Option Value := none

def fieldValue (element : Getter) (fields : Fields) (automatic : Nat) (field : List Char) :
    Eval Value := do
  let name := field.takeWhile fun character => character ≠ '.' && character ≠ '['
  let placed (index : Nat) : Eval Value := do
    match fields.plain[index]? with
    | some value => return value
    | none =>
        Eval.fail "IndexError"
          ("Replacement index " ++ Nat.repr index ++ " out of range for positional args tuple")
  let first ←
    if name.isEmpty then placed automatic
    else if name.all Char.isDigit then placed (Text.ofDigits 10 name)
    else
      match fields.mapping with
      | some mapping => element mapping (.text name)
      | none =>
          match fields.named.lookup (String.ofList name) with
          | some value => pure value
          | none => Eval.raise "KeyError" [.text name]
  followed element (field.length + 1) first (field.drop name.length)

def fieldText? : (depth : Nat) → List Char → Option (List Char × List Char)
  | _, [] => none
  | 0, '\x7d' :: rest => some ([], rest)
  | depth, character :: rest =>
      let depth :=
        if character = '\x7b' then depth + 1 else if character = '\x7d' then depth - 1 else depth
      (fieldText? depth rest).map fun (inner, rest) => (character :: inner, rest)

/-- A template with its fields filled in, and how many of them were numbered by their places. -/
def filledTemplate (element : Getter) (fields : Fields) :
    (fuel : Nat) → (automatic : Nat) → (found : List Char) → List Char → Eval (List Char × Nat)
  | 0, _, _, _ => Eval.valueFault "Max string recursion exceeded"
  | _ + 1, automatic, found, [] => return (found.reverse, automatic)
  | fuel + 1, automatic, found, '\x7b' :: '\x7b' :: rest =>
      filledTemplate element fields fuel automatic ('\x7b' :: found) rest
  | fuel + 1, automatic, found, '\x7d' :: '\x7d' :: rest =>
      filledTemplate element fields fuel automatic ('\x7d' :: found) rest
  | _ + 1, _, _, '\x7d' :: _ =>
      Eval.valueFault "Single '\x7d' encountered in format string"
  | fuel + 1, automatic, found, '\x7b' :: rest => do
      match fieldText? 0 rest with
      | none => Eval.valueFault "expected '\x7d' before end of string"
      | some (inner, rest) =>
          let field := inner.takeWhile fun character => character ≠ ':' && character ≠ '!'
          let behind := inner.drop field.length
          let (letter, behind) :=
            match behind with
            | '!' :: letter :: behind => (some letter, behind)
            | behind => (none, behind)
          let value ← fieldValue element fields automatic field
          let isNumbered := (field.takeWhile fun character =>
            character ≠ '.' && character ≠ '[').isEmpty
          let automatic := if isNumbered then automatic + 1 else automatic
          let value ← converted letter value
          let (form, automatic) ←
            filledTemplate element fields fuel automatic [] behind.tail
          let text ← formed value form
          filledTemplate element fields fuel automatic (text.reverse ++ found) rest
  | fuel + 1, automatic, found, character :: rest =>
      filledTemplate element fields fuel automatic (character :: found) rest

/-! ## Percent signs -/

def numberOrStar (values : List Value) (text : List Char) :
    Eval (Option Int × List Value × List Char) := do
  match text with
  | '*' :: rest =>
      match values with
      | .integer value :: values => return (some value, values, rest)
      | _ => Eval.typeFault "* wants int"
  | text =>
      let digits := text.takeWhile Char.isDigit
      return (if digits.isEmpty then none else some (Text.ofDigits 10 digits), values,
        text.drop digits.length)

def percentForm (values : List Value) (text : List Char) :
    Eval (Form × List Value × List Char) := do
  let flags := text.takeWhile ("-0+ #".toList.contains ·)
  let (width, values, text) ← numberOrStar values (text.drop flags.length)
  let (precision, values, text) ←
    match text with
    | '.' :: rest =>
        let (precision, values, rest) ← numberOrStar values rest
        pure (some (precision.getD 0), values, rest)
    | text => pure (none, values, text)
  let text := text.dropWhile ("hlL".toList.contains ·)
  let turned := width.any (· < 0)
  let isLeft := flags.contains '-' || turned
  let zeros := flags.contains '0' && !isLeft
  return ({
    fill := if zeros then '0' else ' '
    alignment := some (if isLeft then '<' else if zeros then '=' else '>')
    sign := if flags.contains '+' then some '+' else if flags.contains ' ' then some ' ' else none
    alternate := flags.contains '#'
    width := (width.getD 0).natAbs
    precision := precision.map Int.toNat }, values, text)

def needNumber (letter : Char) (value : Value) : Eval Int := do
  match value with
  | .real number =>
      if "di".toList.contains letter ∨ letter = 'u' then
        return (Floating.truncated? number).getD 0
      Eval.typeFault ("%" ++ String.ofList [letter] ++
        " format: an integer is required, not float")
  | value =>
      match (← Kinds.core value).asInteger? with
      | some number => return number
      | none => Eval.typeFault ("%" ++ String.ofList [letter] ++
          " format: a real number is required, not " ++ (← Kinds.nameOf value))

def percentInteger (form : Form) (letter : Char) (value : Int) : Option (List Char) :=
  let type := if letter = 'i' ∨ letter = 'u' then 'd' else letter
  match form.precision with
  | none => { form with type := some type }.ofInteger? value
  | some precision =>
      match ({ type := some type } : Form).ofInteger? value.natAbs with
      | some digits =>
          some ({ form with fill := ' ' }.aligned '>' (form.signText (value < 0))
            (Form.filledLeft '0' precision digits))
      | none => none

def percentValue (octets : Bool) (form : Form) (letter : Char) (value : Value) :
    Eval (Option (List Char)) := do
  let aligned (text : List Char) : Option (List Char) :=
    let form := if form.alignment = some '=' then { form with alignment := some '>', fill := ' ' }
      else form
    let text := (form.precision.map fun limit => text.take limit).getD text
    some (form.aligned '>' [] text)
  match letter with
  | 's' | 'b' =>
      if octets then
        match ← Protocol.octetsOf? value with
        | some found => return aligned found
        | none => return aligned (encoded (← Protocol.textOf value))
      return aligned (← Protocol.textOf value)
  | 'r' => return aligned (← Evaluator.shown value)
  | 'a' => return aligned (plainlyShown (← Evaluator.shown value))
  | 'c' =>
      match value with
      | .text [character] | .bytes [character] => return aligned [character]
      | value => return aligned [Char.ofNat (← needNumber 'c' value).toNat]
  | letter =>
      if "diuxXo".toList.contains letter then
        return percentInteger form letter (← needNumber letter value)
      else if "eEfFgG".toList.contains letter then
        let number ←
          match ← Kinds.core value with
          | .real number => pure number
          | core =>
              match core.asInteger? with
              | some _ => pure (Protocol.toReal core)
              | none => Eval.typeFault ("must be real number, not " ++ (← Kinds.nameOf value))
        return { form with type := some letter }.ofReal? number
      else return none

/-- A text with its percent signs filled in by values. -/
def percentFilled (octets : Bool) (element : Getter) (mapping : Option Value) :
    (fuel : Nat) → (found : List Char) → List Value → List Char → Eval (List Char)
  | 0, found, _, _ => return found.reverse
  | _ + 1, found, values, [] => do
      if !values.isEmpty ∧ mapping.isNone then
        Eval.typeFault "not all arguments converted during string formatting"
      return found.reverse
  | fuel + 1, found, values, '%' :: '%' :: rest =>
      percentFilled octets element mapping fuel ('%' :: found) values rest
  | fuel + 1, found, values, '%' :: rest => do
      let (key, rest) :=
        match rest with
        | '(' :: rest =>
            let key := rest.takeWhile (· ≠ ')')
            (some key, rest.drop (key.length + 1))
        | rest => (none, rest)
      let (form, values, rest) ← percentForm values rest
      let (value, values) ←
        match key, mapping, values with
        | some key, some mapping, values =>
            pure (← element mapping (if octets then .bytes key else .text key), values)
        | some _, none, _ => Eval.typeFault "format requires a mapping"
        | none, _, value :: values => pure (value, values)
        | none, _, [] => Eval.typeFault "not enough arguments for format string"
      match rest with
      | [] => Eval.valueFault "incomplete format"
      | letter :: rest =>
          match ← percentValue octets form letter value with
          | some text => percentFilled octets element mapping fuel (text.reverse ++ found) values rest
          | none => Eval.valueFault ("unsupported format character '" ++ String.ofList [letter] ++ "'")
  | fuel + 1, found, values, character :: rest =>
      percentFilled octets element mapping fuel (character :: found) values rest

end Forms

end BuiltinWrappers.Script.Indented
