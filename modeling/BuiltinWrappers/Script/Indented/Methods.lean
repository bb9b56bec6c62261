import BuiltinWrappers.Script.Indented.Sorting

/-!
# Methods of predefined kinds

What lists, dictionaries, sets, numbers and channels do when they are asked by
name.
-/

namespace BuiltinWrappers.Script.Indented

open Text (Octets)

variable [Evaluator]

namespace Methods

def noMethod {α : Type} (object : Value) (name : String) : Eval α := Texts.noMethod object name

/-! ## Lists -/

def placeOf? (value : Value) (start : Nat) : List Value → Eval (Option Nat)
  | [] => return none
  | other :: others => do
      if ← Protocol.contains value [other] then return some start
      placeOf? value (start + 1) others

def countOf (value : Value) (values : List Value) : Eval Nat :=
  return (← values.filterM fun other => Protocol.contains value [other]).length

def placeBetween (arguments : Arguments) (name : String) (values : List Value) : Eval Nat := do
  let value ← arguments.value 0 "value"
  let size : Int := values.length
  let bound (index : Nat) (usual : Int) : Eval Nat := do
    let number ← arguments.integer index "" usual
    return (if number < 0 then max 0 (number + size) else number).toNat
  let start ← bound 1 0
  let stop ← bound 2 size
  match ← placeOf? value start ((values.take stop).drop start) with
  | some place => return place
  | none =>
      Eval.valueFault (String.ofList (← Evaluator.shown value) ++ " is not in " ++ name)

def insertionPlace (size : Nat) (index : Int) : Nat :=
  let size : Int := size
  (max 0 (min size (if index < 0 then index + size else index))).toNat

def listMethod (address : Nat) (name : String) (arguments : Arguments) : Eval Value := do
  let values ← Eval.listAt address
  let changed (values : List Value) : Eval Value := do
    Eval.put address (.list values)
    return .nothing
  let first : Eval Value := arguments.value 0 "object"
  match name with
  | "append" => changed (values ++ [← first])
  | "extend" =>
      let more ← Protocol.items (← first)
      changed ((← Eval.listAt address) ++ more)
  | "insert" =>
      let place := insertionPlace values.length (← Arguments.asInteger (← first))
      changed (values.take place ++ (← arguments.value 1 "object") :: values.drop place)
  | "pop" =>
      if values.isEmpty then Eval.fail "IndexError" "pop from empty list"
      match Elements.placeOf? values.length (← arguments.integer 0 "index" (-1)) with
      | some place =>
          Eval.put address (.list (values.eraseIdx place))
          return (values[place]?).getD .nothing
      | none => Eval.fail "IndexError" "pop index out of range"
  | "remove" =>
      match ← placeOf? (← first) 0 values with
      | some place => changed (values.eraseIdx place)
      | none => Eval.valueFault "list.remove(x): x not in list"
  | "index" => return .ofNat (← placeBetween arguments "list" values)
  | "clear" => changed []
  | "count" => return .ofNat (← countOf (← first) values)
  | "sort" =>
      let sorted ← Sorting.sorted values arguments
      changed sorted
  | "reverse" => changed values.reverse
  | "copy" => Eval.newList values
  | name => noMethod (.list address) name

def octetsMethod (address : Nat) (name : String) (arguments : Arguments) : Eval Value := do
  let octets ← Eval.octetsAt address
  let changed (octets : Octets) : Eval Value := do
    Eval.put address (.octets octets)
    return .nothing
  let first : Eval Value := arguments.value 0 "object"
  match name with
  | "append" => changed (octets ++ [← Elements.octetOf (← first)])
  | "extend" => changed (octets ++ (← (← Protocol.items (← first)).mapM Elements.octetOf))
  | "insert" =>
      let place := insertionPlace octets.length (← Arguments.asInteger (← first))
      let octet ← Elements.octetOf (← arguments.value 1 "object")
      changed (octets.take place ++ octet :: octets.drop place)
  | "pop" =>
      match Elements.placeOf? octets.length (← arguments.integer 0 "index" (-1)) with
      | some place =>
          Eval.put address (.octets (octets.eraseIdx place))
          return Elements.ofOctet ((octets[place]?).getD '\x00')
      | none => Eval.fail "IndexError" "pop index out of range"
  | "clear" => changed []
  | "reverse" => changed octets.reverse
  | "copy" => return .octets (← Eval.allocate (.octets octets))
  | name =>
      match ← Texts.method Elements.element true octets name arguments with
      | .bytes octets => return .octets (← Eval.allocate (.octets octets))
      | value => return value

/-! ## Dictionaries -/

def pairs (value : Value) : Eval (List (Value × Value)) := do
  match ← Kinds.core value with
  | .dictionary address => Eval.entriesAt address
  | _ =>
      match ← Attributes.lookUp? value "keys" with
      | some function =>
          (← Protocol.items (← Protocol.call function [])).mapM fun key => do
            return (key, ← Elements.element value key)
      | none =>
          (← Protocol.items value).zipIdx.mapM fun (pair, index) => do
            match ← Protocol.items pair with
            | [key, value] => return (key, value)
            | parts =>
                Eval.valueFault ("dictionary update sequence element #" ++ Nat.repr index ++
                  " has length " ++ Nat.repr parts.length ++ "; 2 is required")

def givenEntries (arguments : Arguments) : Eval (List (Value × Value)) := do
  let entries ←
    match arguments.plain with
    | [] => pure []
    | [value] => pairs value
    | _ => Eval.typeFault "dict expected at most 1 argument"
  return entries ++ Eval.namedEntries arguments.named

def dictionaryMethod (object : Value) (address : Nat) (name : String) (arguments : Arguments) :
    Eval Value := do
  let entries ← Eval.entriesAt address
  let first : Eval Value := arguments.value 0 "key"
  let default? := arguments.value? 1 "default"
  match name with
  | "get" =>
      let key ← first
      Protocol.needKey key
      return (← Protocol.find? key entries).getD (default?.getD .nothing)
  | "keys" => return .view .keys address
  | "values" => return .view .values address
  | "items" => return .view .entries address
  | "pop" =>
      let key ← first
      match ← Protocol.find? key entries, default? with
      | some value, _ =>
          Eval.putEntries address (← Protocol.erase key entries)
          return value
      | none, some value => return value
      | none, none => Eval.raise "KeyError" [key]
  | "popitem" =>
      match entries.getLast? with
      | some (key, value) =>
          Eval.putEntries address entries.dropLast
          return .tuple [key, value]
      | none => Eval.raise "KeyError" [.ofString "popitem(): dictionary is empty"]
  | "setdefault" =>
      let key ← first
      match ← Protocol.find? key entries with
      | some value => return value
      | none =>
          let value := default?.getD .nothing
          Eval.putEntries address (← Protocol.insert key value entries)
          return value
  | "update" =>
      let more ← givenEntries arguments
      Eval.putEntries address (← Protocol.insertAll (← Eval.entriesAt address) more)
      return .nothing
  | "copy" => Eval.newDictionary entries
  | "clear" =>
      Eval.putEntries address []
      return .nothing
  | name => noMethod object name

def fromKeys (arguments : Arguments) : Eval Value := do
  let keys ← Protocol.items (← arguments.value 0 "iterable")
  let value := (arguments.value? 1 "value").getD .nothing
  Eval.newDictionary (← Protocol.insertAll [] (keys.map (·, value)))

/-! ## Sets -/

def setMethod (isFrozen : Bool) (address : Nat) (name : String) (arguments : Arguments) :
    Eval Value := do
  let values ← Eval.listAt address
  let self : Value := if isFrozen then .frozenSet address else .set address
  let changed (values : List Value) : Eval Value := do
    Eval.put address (.set values)
    return .nothing
  let joined (operator : BinaryOperator) : Eval (List Value) := do
    arguments.plain.foldlM (fun values other => do
      let others ← Protocol.distinct (← Protocol.items other)
      return (← Operators.onSets operator values others).getD values) values
  let fresh (values : List Value) : Eval Value := do
    let made ← Eval.allocate (.set values)
    return if isFrozen then .frozenSet made else .set made
  let other : Eval (List Value) := do
    Protocol.distinct (← Protocol.items (← arguments.value 0 "other"))
  match name with
  | "add" =>
      let value ← arguments.value 0 "object"
      Protocol.needKey value
      if ← Protocol.contains value values then return .nothing
      changed (values ++ [value])
  | "discard" | "remove" =>
      let value ← arguments.value 0 "object"
      if name = "remove" ∧ !(← Protocol.contains value values) then
        Eval.raise "KeyError" [value]
      changed (← values.filterM fun other => do return !(← Protocol.contains value [other]))
  | "pop" =>
      match Protocol.inPlaces values with
      | [] => Eval.raise "KeyError" [.ofString "pop from an empty set"]
      | value :: rest =>
          Eval.put address (.set rest)
          return value
  | "update" => changed (← joined .either)
  | "intersection_update" => changed (← joined .both)
  | "difference_update" => changed (← joined .subtract)
  | "symmetric_difference_update" => changed (← joined .exclusive)
  | "union" => fresh (← joined .either)
  | "intersection" => fresh (← joined .both)
  | "difference" => fresh (← joined .subtract)
  | "symmetric_difference" => fresh (← joined .exclusive)
  | "isdisjoint" =>
      let others ← other
      return .truth (← values.filterM fun value => Protocol.contains value others).isEmpty
  | "issubset" => return .truth (← Protocol.isPartOf (← other) values)
  | "issuperset" => return .truth (← Protocol.isPartOf values (← other))
  | "copy" => if isFrozen then return self else fresh values
  | "clear" => changed []
  | name => noMethod self name

/-! ## Numbers -/

def bitLength (value : Int) : Nat := if value = 0 then 0 else value.natAbs.log2 + 1

def toOctets (value : Int) (arguments : Arguments) : Eval Value := do
  let length ← arguments.integer 0 "length" 1
  let order ← arguments.text 1 "byteorder" "big"
  let isSigned ← arguments.truth 2 "signed" false
  let limit : Int := Operators.power 2 (8 * length.toNat)
  if value < 0 ∧ !isSigned then
    Eval.fail "OverflowError" "can't convert negative int to unsigned"
  let tooBig :=
    if isSigned then limit ≤ 2 * value ∨ 2 * value < -limit else limit ≤ value
  if tooBig then Eval.fail "OverflowError" "int too big to convert"
  let size := (Int.emod value limit).toNat
  let octets := (List.range length.toNat).map fun index => Char.ofNat (size / Nat.pow 256 index % 256)
  return .bytes (if order = "little" then octets else octets.reverse)

def ofOctets (arguments : Arguments) : Eval Value := do
  let given ← arguments.value 0 "bytes"
  let octets ←
    match ← Protocol.octetsOf? given with
    | some octets => pure octets
    | none => (← Protocol.items given).mapM Elements.octetOf
  let order ← arguments.text 1 "byteorder" "big"
  let isSigned ← arguments.truth 2 "signed" false
  let octets := if order = "little" then octets.reverse else octets
  let value : Int := octets.foldl (fun value octet => 256 * value + octet.toNat) 0
  let limit : Int := Operators.power 2 (8 * octets.length)
  return .integer (if isSigned ∧ limit ≤ 2 * value then value - limit else value)

def integerMethod (value : Int) (name : String) (arguments : Arguments) : Eval Value := do
  match name with
  | "bit_length" => return .ofNat (bitLength value)
  | "bit_count" =>
      return .ofNat ((Nat.toDigits 2 value.natAbs).filter (· = '1')).length
  | "to_bytes" => toOctets value arguments
  | "from_bytes" => ofOctets arguments
  | "conjugate" => return .integer value
  | "as_integer_ratio" => return .tuple [.integer value, .integer 1]
  | name => noMethod (.integer value) name

def realMethod (value : Float) (name : String) : Eval Value := do
  match name with
  | "is_integer" =>
      return .truth ((Floating.quotient? value).any fun (numerator, denominator) =>
        numerator % denominator = 0)
  | "as_integer_ratio" =>
      match Floating.quotient? value with
      | some (numerator, denominator) =>
          let common := Nat.gcd numerator.natAbs denominator
          return .tuple [.integer (numerator / common), .integer (denominator / common)]
      | none => Eval.fail "OverflowError" "cannot convert to integer ratio"
  | "conjugate" => return .real value
  | "hex" =>
      match Floating.parts value with
      | .finite negative significand exponent =>
          if significand = 0 then return .text (Floating.signed negative "0x0.0p+0".toList)
          let isNormal := Binary64.leastNormal ≤ significand
          let digits := Protocol.hexadecimal 13
            (if isNormal then significand - Binary64.leastNormal else significand)
          let power := exponent + 52
          return .text (Floating.signed negative
            ((if isNormal then "0x1." else "0x0.").toList ++ digits ++ 'p' ::
              (if power < 0 then [] else ['+']) ++ Text.integerText power))
      | _ => return .text (Floating.text value)
  | name => noMethod (.real value) name

/-! ## Channels -/

def channelMethod (address : Nat) (name : String) (arguments : Arguments) : Eval Value := do
  let limit : Eval (Option Nat) := do
    match arguments.plain.head? with
    | none | some .nothing => return none
    | some value =>
        let number ← Arguments.asInteger value
        return if number < 0 then none else some number.toNat
  let done (act : Eval PUnit) : Eval Value := do
    act
    return .nothing
  match name with
  | "read" | "read1" =>
      match ← limit with
      | some count => Channel.readSome address count
      | none => Channel.readAll address
  | "readline" => Channel.readLine address (← limit)
  | "readlines" => Eval.newList (← Channel.readLines address)
  | "readinto" =>
      match ← arguments.value 0 "buffer" with
      | .octets buffer =>
          let room := (← Eval.octetsAt buffer).length
          match ← Channel.readSome address room with
          | .bytes octets =>
              let rest := (← Eval.octetsAt buffer).drop octets.length
              Eval.put buffer (.octets (octets ++ rest))
              return .ofNat octets.length
          | _ => Channel.unsupported "readinto"
      | _ => Eval.typeFault "readinto() argument must be read-write bytes-like object"
  | "write" =>
      let value ← arguments.value 0 "text"
      match value with
      | .entity _ => Channel.write address (← Kinds.core value)
      | value => Channel.write address value
  | "writelines" => done do
      (← Protocol.items (← arguments.value 0 "lines")).forM fun line => do
        let _ ← Channel.write address line
  | "close" | "detach" => done (Channel.close address)
  | "flush" => done do
      let _ ← Channel.at_ address
      Channel.flush address
  | "seek" =>
      Channel.seek address (← arguments.integer 0 "offset" 0) (← arguments.integer 1 "whence" 0)
  | "tell" => Channel.tell address
  | "truncate" => Channel.truncate address (← limit)
  | "isatty" => return .truth false
  | "readable" => return .truth (← Channel.at_ address).isReadable
  | "writable" => return .truth (← Channel.at_ address).isWritable
  | "seekable" =>
      return .truth (match (← Channel.at_ address).goal with
        | .stream _ => false
        | _ => true)
  | "fileno" =>
      let channel ← Channel.at_ address
      if channel.goal = .memory then Channel.unsupported "fileno"
      return .ofNat channel.number
  | "getvalue" | "getbuffer" =>
      let channel ← Channel.at_ address
      if channel.goal ≠ .memory then noMethod (.channel address) name
      if channel.isBinary then return .bytes channel.content
      return .text (← Coding.decode "utf-8" "strict" channel.content)
  | "reconfigure" => done do
      let channel ← Channel.at_ address
      Channel.flush address
      Channel.save address { channel with
        pending := []
        encoding := ← arguments.text 9 "encoding" channel.encoding
        handling := ← arguments.text 9 "errors" channel.handling
        isByLine := ← arguments.truth 9 "line_buffering" channel.isByLine
        isDirect := ← arguments.truth 9 "write_through" channel.isDirect
        lineEnds := match arguments.named.lookup "newline" with
          | some (.text characters) => some (String.ofList characters)
          | _ => channel.lineEnds }
  | "__enter__" =>
      let _ ← Channel.at_ address
      return .channel address
  | "__exit__" => done (Channel.close address)
  | name => noMethod (.channel address) name

/-! ## Bodies that hand out values -/

def handedOut : Handout → Eval Value
  | .given value => return value
  | .finished .nothing => Eval.raise "StopIteration" []
  | .finished result => Eval.raise "StopIteration" [result]

def generatorMethod (address : Nat) (name : String) (arguments : Arguments) : Eval Value := do
  match name with
  | "send" => handedOut (← Evaluator.resume address (← arguments.value 0 "value"))
  | "throw" =>
      let fault ←
        match arguments.plain with
        | [.kind kind] => Eval.newFault kind []
        | [.family address] => Protocol.call (.family address) []
        | [value] => pure value
        | kind :: value :: _ => Protocol.call kind [value]
        | [] => Eval.typeFault "throw expected at least 1 argument, got 0"
      handedOut (← Evaluator.interrupt address fault)
  | "close" =>
      match ← Eval.object? address with
      | some (.generator generator) =>
          if generator.isStarted ∧ !generator.frames.isEmpty then
            let fault ← Eval.newFault "GeneratorExit" []
            try
              match ← Evaluator.interrupt address fault with
              | .given _ => Eval.fail "RuntimeError" "generator ignored GeneratorExit"
              | .finished _ => pure ()
            catch
              | .fault fault =>
                  if !((← Protocol.isFaultOf "GeneratorExit" fault) ||
                      (← Protocol.isFaultOf "StopIteration" fault)) then
                    throw (.fault fault)
              | leap => throw leap
          else Eval.put address (.generator { generator with frames := [], isStarted := true })
          return .nothing
      | _ => return .nothing
  | name => noMethod (.generator address) name

/-! ## All kinds -/

/-- A method of a value, by the kind that the value is of. -/
def named (object core : Value) (name : String) (arguments : Arguments) : Eval Value := do
  match core with
  | .text characters => Texts.method Elements.element false characters name arguments
  | .bytes octets => Texts.method Elements.element true octets name arguments
  | .octets address => octetsMethod address name arguments
  | .list address => listMethod address name arguments
  | .dictionary address => dictionaryMethod object address name arguments
  | .set address => setMethod false address name arguments
  | .frozenSet address => setMethod true address name arguments
  | .view part address =>
      let values := (← Eval.entriesAt address).map (Protocol.entryValue part)
      setMethod true (← Eval.allocate (.set values)) name arguments
  | .tuple values =>
      match name with
      | "count" => return .ofNat (← countOf (← arguments.value 0 "value") values)
      | "index" => return .ofNat (← placeBetween arguments "tuple" values)
      | name => noMethod object name
  | .range _ _ _ =>
      let values ← Protocol.items core
      match name with
      | "count" => return .ofNat (← countOf (← arguments.value 0 "value") values)
      | "index" => return .ofNat (← placeBetween arguments "range" values)
      | name => noMethod object name
  | .integer value => integerMethod value name arguments
  | .truth value => integerMethod (if value then 1 else 0) name arguments
  | .real value => realMethod value name
  | .channel address => channelMethod address name arguments
  | .generator address => generatorMethod address name arguments
  | .slice start stop step =>
      if name ≠ "indices" then noMethod object name
      let count ← arguments.integer 0 "length" 0
      let (first, amount, step) ← Elements.sliceOf count.toNat start stop step
      return .tuple [.integer first, .integer (first + step * amount), .integer step]
  | .accessor reader writer remover =>
      let function ← arguments.value 0 "function"
      match name with
      | "getter" => return .accessor function writer remover
      | "setter" => return .accessor reader function remover
      | "deleter" => return .accessor reader writer function
      | name => noMethod object name
  | .closure _ =>
      if name ≠ "__get__" then noMethod object name
      match arguments.plain with
      | .nothing :: _ | [] => return core
      | inner :: _ => return .bound inner core
  | _ => noMethod object name

end Methods

end BuiltinWrappers.Script.Indented
