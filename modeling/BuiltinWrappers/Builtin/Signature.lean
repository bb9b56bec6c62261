/-!
# Type signatures

A signature spells each C type by one-character codes in three phases:
qualifiers before the base type, base types, and pointers and qualifiers after
it.  A unit takes as many codes as it can in each phase, so the next unit
begins where the phase falls.
-/

namespace BuiltinWrappers.Signature

/-! ## The three phases -/

def qualifierWord? : Char → Option String
  | 'X' => some "_Complex"
  | 'L' => some "long"
  | 'S' => some "signed"
  | 'U' => some "unsigned"
  | _ => none

def baseWord? : Char → Option String
  | 'v' => some "void"
  | 'b' => some "boolean"
  | 'c' => some "char"
  | 's' => some "short"
  | 'i' => some "int"
  | 'h' => some "half"
  | 'f' => some "float"
  | 'd' => some "double"
  | 'z' => some "size_t"
  | 'w' => some "wchar_t"
  | _ => none

def pointerWord? : Char → Option String
  | '*' => some "*"
  | 'C' => some "const"
  | 'D' => some "volatile"
  | _ => none

/-! ## One unit -/

/-- The words of the longest run of codes that one phase knows, and what follows. -/
def takeWords (word? : Char → Option String) : List Char → List String × List Char
  | [] => ([], [])
  | code :: codes =>
      match word? code with
      | none => ([], code :: codes)
      | some word =>
          let (words, rest) := takeWords word? codes
          (word :: words, rest)

/--
The first unit of a signature and what follows it.  Codes that no phase accepts
give the empty unit with the signature unchanged.
-/
def takeUnit? (codes : List Char) : Option (String × List Char) :=
  if codes.isEmpty then none
  else
    let (qualifiers, afterQualifiers) := takeWords qualifierWord? codes
    let (bases, afterBases) := takeWords baseWord? afterQualifiers
    let (pointers, rest) := takeWords pointerWord? afterBases
    some (" ".intercalate (qualifiers ++ bases ++ pointers), rest)

/-! ## Reading type by type -/

structure TypeReader where
  remainder : List Char
  deriving DecidableEq, Repr

namespace TypeReader

/-- The next type, or none and the reader unchanged when no code can be read. -/
def next (reader : TypeReader) : Option String × TypeReader :=
  match takeUnit? reader.remainder with
  | none => (none, reader)
  | some (type, rest) =>
      if rest.length < reader.remainder.length then (some type, ⟨rest⟩)
      else (none, reader)

theorem length_lt_of_next {reader after : TypeReader} {type : String}
    (h : reader.next = (some type, after)) :
    after.remainder.length < reader.remainder.length := by
  unfold next at h
  split at h
  · simp at h
  next rest _ =>
    split at h
    next hshorter =>
      obtain ⟨-, rfl⟩ := Prod.mk.injEq .. ▸ h
      exact hshorter
    · simp at h

/-- Each type in turn, with the reader as it stands after that type. -/
def steps (reader : TypeReader) : List (String × TypeReader) :=
  match _ : reader.next with
  | (none, _) => []
  | (some type, after) => (type, after) :: steps after
termination_by reader.remainder.length
decreasing_by exact length_lt_of_next ‹_›

/-- The reader once no further type can be read. -/
def exhausted (reader : TypeReader) : TypeReader :=
  (reader.steps.map Prod.snd).getLastD reader

end TypeReader

def types (signature : String) : List String :=
  (TypeReader.mk signature.toList).steps.map Prod.fst

/-! ## Examples -/

example : types "dXd" = ["double", "_Complex double"] := by cbv

example : types "LLdXv*C." = ["long long double", "_Complex void * const"] := by cbv

end BuiltinWrappers.Signature
