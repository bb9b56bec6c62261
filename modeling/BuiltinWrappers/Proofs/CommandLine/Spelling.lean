import BuiltinWrappers.Proofs.CommandLine.Reading

/-!
# Ways to write a command line

The same choices can be written in any order and in many spellings.  Whichever is
taken, the parser gives the choices back, or a conflict if one of them repeats or
two of them contradict each other.
-/

namespace BuiltinWrappers.CommandLine

/-! ## Spellings -/

/-- An option that takes a value. -/
inductive ValueOption where
  | root
  | settingsFile
  deriving DecidableEq, Repr

def ValueOption.slot : ValueOption → Slot
  | .root => .root
  | .settingsFile => .settingsFile

def ValueOption.variable : ValueOption → String
  | .root => "CHPL_HOME"
  | .settingsFile => "CLANG_BUILTIN_GEN_CONFIG"

def ValueOption.name : ValueOption → String
  | .root => "chpl-home"
  | .settingsFile => "config"

def Switch.name : Switch → String
  | .skipLicense => "no-license"
  | .quiet => "quiet"
  | .verbose => "verbose"

def Switch.letter? : Switch → Option Char
  | .skipLicense => none
  | .quiet => some 'q'
  | .verbose => some 'v'

/-- How a group of short options ends, which is where a settings file may be given. -/
inductive Ending where
  | none
  | apart (value : String)
  | glued (value : String)
  | equals (value : String)
  deriving DecidableEq, Repr

namespace Ending

def letters : Ending → List Char
  | .none => []
  | .apart _ => ['c']
  | .glued value => 'c' :: value.toList
  | .equals value => 'c' :: '=' :: value.toList

def arguments : Ending → List String
  | .apart value => [value]
  | _ => []

def items : Ending → List Item
  | .none => []
  | .apart value | .glued value | .equals value => [.value .settingsFile value]

end Ending

/-- A piece of a command line that is complete in itself. -/
inductive Part where
  | input (value : String)
  | apart (option : ValueOption) (value : String)
  | joined (option : ValueOption) (value : String)
  | flag (switch : Switch)
  | group (switches : List Switch) (ending : Ending)
  deriving DecidableEq, Repr

namespace Part

def arguments : Part → List String
  | .input value => [value]
  | .apart option value => ["--" ++ option.name, value]
  | .joined option value => ["--" ++ option.name ++ "=" ++ value]
  | .flag switch => ["--" ++ switch.name]
  | .group switches ending =>
      .ofList ('-' :: (switches.filterMap Switch.letter? ++ ending.letters)) :: ending.arguments

def items : Part → List Item
  | .input value => [.value .input value]
  | .apart option value | .joined option value => [.value option.slot value]
  | .flag switch => [.raised switch]
  | .group switches ending => switches.map .raised ++ ending.items

end Part

def Ending.Allowed : Ending → Prop
  | .none => True
  | .apart value => StandsAlone value
  | .glued value => value ≠ "" ∧ value.toList.head? ≠ some '='
  | .equals value => value ≠ ""

def Part.Allowed : Part → Prop
  | .input value => StandsAlone value
  | .apart _ value => StandsAlone value
  | .joined _ value => value ≠ ""
  | .flag _ => True
  | .group switches ending =>
      (∀ switch ∈ switches, switch.letter?.isSome) ∧ (switches ≠ [] ∨ ending ≠ .none) ∧
        ending.Allowed

/-- A whole command line, with an input behind two dashes at its end or without one. -/
structure Line where
  parts : List Part
  lastInput : Option String := none
  deriving DecidableEq, Repr

namespace Line

def arguments (line : Line) : List String :=
  line.parts.flatMap Part.arguments ++ line.lastInput.elim [] (["--", ·])

def items (line : Line) : List Item :=
  line.parts.flatMap Part.items ++ line.lastInput.toList.map (.value .input)

structure Allowed (line : Line) : Prop where
  parts : ∀ part ∈ line.parts, part.Allowed
  lastInput : ∀ value ∈ line.lastInput, value ≠ ""
  oneInput : (valuesFor .input line.items).length ≤ 1

end Line

theorem Ending.filled_items {ending : Ending} (h : ending.Allowed) :
    ∀ item ∈ ending.items, item.Filled := by
  cases ending with
  | none => simp [items]
  | apart value => exact List.forall_mem_singleton.mpr h.ne_empty
  | glued value => exact List.forall_mem_singleton.mpr h.1
  | equals value => exact List.forall_mem_singleton.mpr h

theorem Part.filled_items {part : Part} (h : part.Allowed) : ∀ item ∈ part.items, item.Filled := by
  cases part with
  | input value => exact List.forall_mem_singleton.mpr h.ne_empty
  | apart option value => exact List.forall_mem_singleton.mpr h.ne_empty
  | joined option value => exact List.forall_mem_singleton.mpr h
  | flag switch => exact List.forall_mem_singleton.mpr trivial
  | group switches ending =>
      have hswitches : ∀ item ∈ switches.map Item.raised, item.Filled := by simp [Item.Filled]
      exact List.forall_mem_append.mpr ⟨hswitches, ending.filled_items h.2.2⟩

namespace Reading

variable {reading : Reading} {inputs : Nat}

/-! ## Reading the parts -/

theorem name_valueOption (option : ValueOption) :
    '=' ∉ option.name.toList ∧ option.name.toList ≠ [] ∧
      longOption? option.name = some (.slot option.slot) := by
  cases option <;> decide

theorem name_switch (switch : Switch) :
    '=' ∉ switch.name.toList ∧ switch.name.toList ≠ [] ∧
      longOption? switch.name = some (.flag switch.flag) := by
  cases switch <;> decide

/-! ## Groups of short options -/

theorem short_switch (reading : Reading) {switch : Switch} {letter : Char}
    (h : switch.letter? = some letter) (rest : List Char) :
    reading.short (letter :: rest) = reading.flag switch.flag >>= (·.short rest) := by
  have hletter : shortOption? letter = some (.flag switch.flag) := by
    cases switch <;> simp only [Switch.letter?, Option.some.injEq, reduceCtorEq] at h <;>
      subst h <;> rfl
  rw [Reading.short, hletter]

theorem agrees_letters {switches : List Switch}
    (hletters : ∀ switch ∈ switches, switch.letter?.isSome) {rest : List Char} {items : List Item}
    {readOn : Reading → Except UsageFault Reading}
    (hrest : ∀ reading : Reading, reading.Ready inputs →
      Agrees inputs (reading.short rest >>= readOn)
        (reading.settle >>= items.foldlM Item.record))
    (hready : reading.Ready inputs) :
    Agrees inputs (reading.short (switches.filterMap Switch.letter? ++ rest) >>= readOn)
      (reading.settle >>= (switches.map Item.raised ++ items).foldlM Item.record) := by
  induction switches generalizing reading with
  | nil => exact hrest reading hready
  | cons switch switches ih =>
      obtain ⟨hswitch, hswitches⟩ := List.forall_mem_cons.mp hletters
      obtain ⟨letter, hletter⟩ := Option.isSome_iff_exists.mp hswitch
      have hfirst := agrees_settled hready (.raised switch) rfl
      rw [← flag_eq] at hfirst
      rw [List.filterMap_cons_some hletter, List.cons_append, short_switch reading hletter]
      simp only [List.map_cons, List.cons_append, List.foldlM_cons]
      simpa only [bind_assoc] using hfirst.bind fun after hafter => ih hswitches hafter

theorem agrees_ending {ending : Ending} (h : ending.Allowed) (hready : reading.Ready inputs) :
    Agrees inputs (reading.short ending.letters >>= ending.arguments.foldlM Reading.argument)
      (reading.settle >>= ending.items.foldlM Item.record) := by
  cases ending with
  | none =>
      simp only [Ending.items, List.foldlM_nil, bind_pure]
      exact .ready hready
  | apart value =>
      have hread := agrees_slot_argument hready .settingsFile (by decide) h
      simpa [Ending.letters, Ending.arguments, Ending.items, Reading.short, shortOption?]
        using hread
  | glued value =>
      obtain ⟨hne, hequals⟩ := h
      have hread := agrees_settled hready (.value .settingsFile value) rfl
      rw [← slot_some_eq] at hread
      have hshort : reading.short ('c' :: value.toList) =
          reading.slot .settingsFile (some value) := by
        cases hvalue : value.toList with
        | nil => exact absurd (String.toList_eq_nil_iff.mp hvalue) hne
        | cons first rest =>
            have hfirst : first ≠ '=' := by simpa [hvalue] using hequals
            have htext : String.ofList (first :: rest) = value := by
              rw [← hvalue, String.ofList_toList]
            rw [Reading.short]
            simp [shortOption?, hfirst, htext]
      simpa [Ending.letters, Ending.arguments, Ending.items, hshort] using hread
  | equals value =>
      have hread := agrees_settled hready (.value .settingsFile value) rfl
      rw [← slot_some_eq] at hread
      simpa [Ending.letters, Ending.arguments, Ending.items, Reading.short, shortOption?]
        using hread

theorem slot_ne_input (option : ValueOption) : option.slot ≠ .input := by
  cases option <;> decide

theorem agrees_input (hready : reading.Ready 0) {value : String} (h : StandsAlone value) :
    Agrees 1 (reading.argument value) (reading.settle >>= (Item.value .input value).record) := by
  have hnone : reading.holdsInput = false := by simpa using hready.inputs
  rw [argument_input hready h, positional_eq hnone]
  exact agrees_pending hready value (by decide) (fun _ => le_rfl)

theorem agrees_apart (hready : reading.Ready inputs) (option : ValueOption) {value : String}
    (h : StandsAlone value) :
    Agrees inputs (reading.argument ("--" ++ option.name) >>= (·.argument value))
      (reading.settle >>= (Item.value option.slot value).record) := by
  obtain ⟨hequals, hne, hoption⟩ := name_valueOption option
  have hread : reading.argument ("--" ++ option.name) = reading.slot option.slot none := by
    rw [argument_long hready hne (by simp), long_name reading hequals, hoption]
  rw [hread]
  exact agrees_slot_argument hready option.slot (slot_ne_input option) h

theorem agrees_joined (hready : reading.Ready inputs) (option : ValueOption) (value : String) :
    Agrees inputs (reading.argument ("--" ++ option.name ++ "=" ++ value))
      (reading.settle >>= (Item.value option.slot value).record) := by
  obtain ⟨hequals, -, hoption⟩ := name_valueOption option
  have hread : reading.argument ("--" ++ option.name ++ "=" ++ value) =
      reading.slot option.slot (some value) := by
    have htext : ("--" ++ option.name ++ "=" ++ value).toList =
        '-' :: '-' :: (option.name.toList ++ '=' :: value.toList) := by simp
    rw [argument_long hready (by simp) htext, long_name_equals reading hequals, hoption]
  rw [hread, slot_some_eq]
  exact agrees_settled hready _ (if_neg (slot_ne_input option))

theorem agrees_flag (hready : reading.Ready inputs) (switch : Switch) :
    Agrees inputs (reading.argument ("--" ++ switch.name))
      (reading.settle >>= (Item.raised switch).record) := by
  obtain ⟨hequals, hne, hflag⟩ := name_switch switch
  have hread : reading.argument ("--" ++ switch.name) = reading.flag switch.flag := by
    rw [argument_long hready hne (by simp), long_name reading hequals, hflag]
  rw [hread, flag_eq]
  exact agrees_settled hready (.raised switch) rfl

theorem agrees_group (hready : reading.Ready inputs) {switches : List Switch} {ending : Ending}
    (h : (Part.group switches ending).Allowed) :
    Agrees inputs ((Part.group switches ending).arguments.foldlM Reading.argument reading)
      (reading.settle >>= (Part.group switches ending).items.foldlM Item.record) := by
  obtain ⟨hletters, hne, hending⟩ := h
  obtain ⟨first, rest, htext, hfirst⟩ : ∃ first rest,
      switches.filterMap Switch.letter? ++ ending.letters = first :: rest ∧ first ≠ '-' := by
    cases switches with
    | nil =>
        cases ending with
        | none => simp at hne
        | _ => exact ⟨'c', _, rfl, by decide⟩
    | cons switch switches =>
        obtain ⟨letter, hletter⟩ := Option.isSome_iff_exists.mp (hletters switch List.mem_cons_self)
        refine ⟨letter, switches.filterMap Switch.letter? ++ ending.letters, ?_, ?_⟩
        · simp [List.filterMap_cons_some hletter]
        · rintro rfl
          cases switch <;> simp [Switch.letter?] at hletter
  have hread : reading.argument (.ofList ('-' :: first :: rest)) =
      reading.short (first :: rest) := argument_short hready hfirst String.toList_ofList
  rw [Part.arguments, List.foldlM_cons, htext, hread, ← htext]
  exact agrees_letters hletters (fun _ hthen => agrees_ending hending hthen) hready

theorem agrees_part {part : Part} (h : part.Allowed) (hready : reading.Ready inputs)
    (hinputs : inputs + (valuesFor .input part.items).length ≤ 1) :
    Agrees (inputs + (valuesFor .input part.items).length)
      (part.arguments.foldlM Reading.argument reading)
      (reading.settle >>= part.items.foldlM Item.record) := by
  cases part with
  | input value =>
      obtain rfl : inputs = 0 := by simpa [Part.items] using hinputs
      simpa [Part.arguments, Part.items] using agrees_input hready h
  | apart option value =>
      simpa [Part.arguments, Part.items, slot_ne_input] using
        agrees_apart hready option h
  | joined option value =>
      simpa [Part.arguments, Part.items, slot_ne_input] using
        agrees_joined hready option value
  | flag switch =>
      simpa [Part.arguments, Part.items] using agrees_flag hready switch
  | group switches ending =>
      have hnone : valuesFor .input (Part.group switches ending).items = [] := by
        rw [Part.items, valuesFor_append, valuesFor_map_raised]
        cases ending <;> simp [Ending.items]
      rw [hnone]
      exact agrees_group hready h

theorem agrees_parts {parts : List Part} (h : ∀ part ∈ parts, part.Allowed)
    (hready : reading.Ready inputs)
    (hinputs : inputs + (valuesFor .input (parts.flatMap Part.items)).length ≤ 1) :
    Agrees (inputs + (valuesFor .input (parts.flatMap Part.items)).length)
      ((parts.flatMap Part.arguments).foldlM Reading.argument reading)
      (reading.settle >>= (parts.flatMap Part.items).foldlM Item.record) := by
  induction parts generalizing reading inputs with
  | nil =>
      simp only [List.flatMap_nil, List.foldlM_nil, bind_pure]
      exact .ready hready
  | cons part parts ih =>
      obtain ⟨hpart, hparts⟩ := List.forall_mem_cons.mp h
      rw [List.flatMap_cons, valuesFor_append, List.length_append, ← Nat.add_assoc] at hinputs ⊢
      have hfirst := agrees_part hpart hready (by omega)
      rw [List.flatMap_cons, List.foldlM_append]
      simp only [List.foldlM_append]
      simpa only [bind_assoc] using hfirst.bind fun after hafter => ih hparts hafter hinputs

theorem onlyPositional_argument (hready : reading.Ready inputs) :
    reading.argument "--" = .ok { reading with onlyPositional := true } := by
  rw [Reading.argument, if_neg (by simp [hready.options])]
  rfl

theorem settle_lastInput (hready : reading.Ready 0) (value : String) :
    (["--", value].foldlM Reading.argument reading >>= settle) =
      reading.settle >>= (Item.value .input value).record := by
  have hnone : ({ reading with onlyPositional := true } : Reading).holdsInput = false := by
    simpa [holdsInput] using hready.inputs
  rw [List.foldlM_cons, onlyPositional_argument hready]
  change (Reading.argument { reading with onlyPositional := true } value >>= pure) >>= settle = _
  rw [bind_pure, Reading.argument, if_pos rfl, positional_eq hnone]
  change (reading.settle.map _ >>= settle) = _
  cases reading.settle <;> rfl

theorem Agrees.settle {read : Except UsageFault Reading} {outcome : Except UsageFault Invocation}
    (h : Agrees inputs read outcome) : read >>= Reading.settle = outcome := by
  cases h <;> rfl

theorem Agrees.settle_lastInput {read : Except UsageFault Reading}
    {outcome : Except UsageFault Invocation} (h : Agrees 0 read outcome) (value : String) :
    (read >>= ["--", value].foldlM Reading.argument) >>= Reading.settle =
      outcome >>= (Item.value .input value).record := by
  cases h with
  | fault fault => rfl
  | ready hready => exact Reading.settle_lastInput hready value

end Reading

theorem settle_arguments {line : Line} (h : line.Allowed) :
    (line.arguments.foldlM Reading.argument {} >>= Reading.settle) =
      line.items.foldlM Item.record {} := by
  have hstart : ({} : Reading).Ready 0 := ⟨by simp, rfl, by decide⟩
  have hone := h.oneInput
  rw [Line.items, valuesFor_append, List.length_append] at hone
  have hparts : Reading.Agrees _ ((line.parts.flatMap Part.arguments).foldlM Reading.argument {})
      ((line.parts.flatMap Part.items).foldlM Item.record {}) :=
    Reading.agrees_parts h.parts hstart (by omega)
  rw [Line.arguments, Line.items]
  cases hlast : line.lastInput with
  | none => simpa using hparts.settle
  | some value =>
      have hnone : (valuesFor .input (line.parts.flatMap Part.items)).length = 0 := by
        simpa [hlast] using hone
      rw [hnone] at hparts
      simpa [List.foldlM_append] using hparts.settle_lastInput value

/-! ## Variables of the environment -/

/-- An option that is not given would take an empty variable. -/
def MeetsEmptyVariable (environment : Environment) (invocation : Invocation) : Prop :=
  ∃ option : ValueOption, get option.slot invocation = none ∧
    environment[option.variable]? = some ""

def filled (environment : Environment) (invocation : Invocation) : Invocation :=
  { invocation with
    root := invocation.root.or environment["CHPL_HOME"]?
    settingsFile := invocation.settingsFile.or environment["CLANG_BUILTIN_GEN_CONFIG"]? }

theorem fillFrom_root (environment : Environment) (invocation : Invocation) :
    fillFrom environment invocation .root =
      if invocation.root = none ∧ environment["CHPL_HOME"]? = some "" then .error .invalidValue
      else .ok { invocation with root := invocation.root.or environment["CHPL_HOME"]? } := by
  obtain ⟨input, root, settingsFile, skipLicense, quiet, verbosity⟩ := invocation
  simp only [fillFrom, slotVariable?, Option.bind_some, get]
  cases root <;> cases environment["CHPL_HOME"]? <;> simp [store, get, set]

theorem fillFrom_settingsFile (environment : Environment) (invocation : Invocation) :
    fillFrom environment invocation .settingsFile =
      if invocation.settingsFile = none ∧
          environment["CLANG_BUILTIN_GEN_CONFIG"]? = some "" then .error .invalidValue
      else .ok { invocation with settingsFile :=
        invocation.settingsFile.or environment["CLANG_BUILTIN_GEN_CONFIG"]? } := by
  obtain ⟨input, root, settingsFile, skipLicense, quiet, verbosity⟩ := invocation
  simp only [fillFrom, slotVariable?, Option.bind_some, get]
  cases settingsFile <;> cases environment["CLANG_BUILTIN_GEN_CONFIG"]? <;> simp [store, get, set]

theorem foldlM_fillFrom_eq (environment : Environment) (invocation : Invocation) :
    [Slot.root, .settingsFile].foldlM (fillFrom environment) invocation =
      fillFrom environment invocation .root >>= (fillFrom environment · .settingsFile) := by
  simp

def complete (environment : Environment) (given : Invocation) : Except UsageFault Invocation := do
  let invocation ← [Slot.root, .settingsFile].foldlM (fillFrom environment) given
  if invocation.quiet ∧ 0 < invocation.verbosity then .error .argumentConflict
  else return invocation

theorem parse_eq (arguments : List String) (environment : Environment) :
    parse arguments environment =
      (arguments.foldlM Reading.argument {} >>= Reading.settle) >>= complete environment := by
  rw [bind_assoc]
  rfl

theorem complete_of_meetsEmptyVariable {environment : Environment} {invocation : Invocation}
    (h : MeetsEmptyVariable environment invocation) :
    complete environment invocation = .error .invalidValue := by
  rw [complete, foldlM_fillFrom_eq, fillFrom_root]
  by_cases hroot : invocation.root = none ∧ environment["CHPL_HOME"]? = some ""
  · rw [if_pos hroot]
    rfl
  · obtain ⟨option, hempty⟩ := h
    cases option with
    | root => exact absurd hempty hroot
    | settingsFile =>
        have hfill := (fillFrom_settingsFile environment
          { invocation with root := invocation.root.or environment["CHPL_HOME"]? }).trans
            (if_pos hempty)
        rw [if_neg hroot]
        change fillFrom environment _ .settingsFile >>= _ = _
        rw [hfill]
        rfl

theorem complete_of_not_meetsEmptyVariable {environment : Environment} {invocation : Invocation}
    (h : ¬MeetsEmptyVariable environment invocation) :
    complete environment invocation =
      if invocation.quiet ∧ 0 < invocation.verbosity then .error .argumentConflict
      else .ok (filled environment invocation) := by
  have hroot : ¬(invocation.root = none ∧ environment["CHPL_HOME"]? = some "") :=
    fun hempty => h ⟨.root, hempty⟩
  have hfill := (fillFrom_settingsFile environment
    { invocation with root := invocation.root.or environment["CHPL_HOME"]? }).trans
      (if_neg fun hempty => h ⟨.settingsFile, hempty⟩)
  rw [complete, foldlM_fillFrom_eq, fillFrom_root, if_neg hroot]
  change fillFrom environment _ .settingsFile >>= _ = _
  rw [hfill]
  rfl

/-! ## What a line asks for -/

namespace Line

/-- Some option other than to be verbose stands there twice. -/
def Repeats (line : Line) : Prop :=
  (∃ option : ValueOption, 1 < (valuesFor option.slot line.items).length) ∨
    ∃ switch ≠ .verbose, 1 < timesRaised switch line.items

/-- Some option is repeated that may not be, or quiet and verbose are both there. -/
def Conflicts (line : Line) : Prop :=
  line.Repeats ∨ (0 < timesRaised .quiet line.items ∧ 0 < timesRaised .verbose line.items)

/-- An option that does not stand there has an empty variable. -/
def LacksValue (line : Line) (environment : Environment) : Prop :=
  ∃ option : ValueOption, valuesFor option.slot line.items = [] ∧
    environment[option.variable]? = some ""

def invocation (line : Line) (environment : Environment) : Invocation where
  input := (valuesFor .input line.items).head?
  root := (valuesFor .root line.items).head?.or environment["CHPL_HOME"]?
  settingsFile :=
    (valuesFor .settingsFile line.items).head?.or environment["CLANG_BUILTIN_GEN_CONFIG"]?
  skipLicense := 0 < timesRaised .skipLicense line.items
  quiet := 0 < timesRaised .quiet line.items
  verbosity := min (timesRaised .verbose line.items) 255

theorem filled_items {line : Line} (h : line.Allowed) : ∀ item ∈ line.items, item.Filled := by
  intro item hitem
  rcases List.mem_append.mp hitem with hparts | hlast
  · obtain ⟨part, hpart, hitem⟩ := List.mem_flatMap.mp hparts
    exact part.filled_items (h.parts part hpart) item hitem
  · obtain ⟨value, hvalue, rfl⟩ := List.mem_map.mp hlast
    exact h.lastInput value (Option.mem_toList.mp hvalue)

theorem repeats_iff_exceeds {line : Line} (h : line.Allowed) :
    line.Repeats ↔ Exceeds {} line.items := by
  constructor
  · rintro (⟨option, htwice⟩ | ⟨switch, hswitch, htwice⟩)
    · exact .value option.slot (by cases option <;> exact htwice)
    · cases switch with
      | verbose => contradiction
      | skipLicense => exact .skipLicense (by simpa using htwice)
      | quiet => exact .quiet (by simpa using htwice)
  · rintro (⟨slot, htwice⟩ | htwice | htwice)
    · cases slot with
      | input => exact absurd h.oneInput (Nat.not_le.mpr htwice)
      | root => exact .inl ⟨.root, htwice⟩
      | settingsFile => exact .inl ⟨.settingsFile, htwice⟩
    · exact .inr ⟨.skipLicense, by decide, by simpa using htwice⟩
    · exact .inr ⟨.quiet, by decide, by simpa using htwice⟩

variable {line : Line} {given : Invocation}

theorem valuesFor_items (h : Records {} line.items given) (slot : Slot) :
    valuesFor slot line.items = (get slot given).toList := by
  rw [h.values slot]
  cases slot <;> rfl

theorem meetsEmptyVariable_iff (h : Records {} line.items given) (environment : Environment) :
    MeetsEmptyVariable environment given ↔ line.LacksValue environment := by
  simp only [MeetsEmptyVariable, LacksValue, valuesFor_items h, Option.toList_eq_nil_iff]

theorem quiet_eq (h : Records {} line.items given) :
    given.quiet = decide (0 < timesRaised .quiet line.items) := by
  have htimes := h.quiet
  cases hgiven : given.quiet <;> simp [hgiven] at htimes <;> simp [← htimes]

theorem skipLicense_eq (h : Records {} line.items given) :
    given.skipLicense = decide (0 < timesRaised .skipLicense line.items) := by
  have htimes := h.skipLicense
  cases hgiven : given.skipLicense <;> simp [hgiven] at htimes <;> simp [← htimes]

theorem verbosity_eq (h : Records {} line.items given) :
    given.verbosity = min (timesRaised .verbose line.items) 255 := by
  simpa [mostVerbose] using h.verbosity

theorem contradicts_iff (h : Records {} line.items given) :
    (0 < timesRaised .quiet line.items ∧ 0 < timesRaised .verbose line.items) ↔
      given.quiet ∧ 0 < given.verbosity := by
  rw [quiet_eq h, verbosity_eq h]
  simp

theorem filled_eq (h : Records {} line.items given) (environment : Environment) :
    filled environment given = line.invocation environment := by
  simp [filled, invocation, valuesFor_items h, skipLicense_eq h, quiet_eq h, verbosity_eq h, get]

end Line

/--
The arguments of a line are parsed into what the line asks for, an option that does
not stand there taking its variable.  They are a conflict exactly if options repeat
or contradict each other, as long as no variable that is needed is empty.
-/
theorem parse_arguments {line : Line} (hallowed : line.Allowed) (environment : Environment) :
    (¬line.Conflicts → ¬line.LacksValue environment →
      parse line.arguments environment = .ok (line.invocation environment)) ∧
    (line.Conflicts → ¬line.LacksValue environment →
      parse line.arguments environment = .error .argumentConflict) ∧
    (¬line.Conflicts → line.LacksValue environment →
      parse line.arguments environment = .error .invalidValue) := by
  rw [parse_eq, settle_arguments hallowed]
  have hverbosity : ({} : Invocation).verbosity ≤ mostVerbose := by decide
  rcases foldlM_record_outcome (line.filled_items hallowed) hverbosity with
    ⟨given, hfold, hrecords⟩ | ⟨hfold, hexceeds⟩
  · have hrepeats : ¬line.Repeats :=
      fun h => hrecords.not_exceeds ((line.repeats_iff_exceeds hallowed).mp h)
    have hempty := Line.meetsEmptyVariable_iff hrecords environment
    rw [hfold]
    change (¬line.Conflicts → _ → complete environment given = _) ∧
      (_ → _ → complete environment given = _) ∧ (_ → _ → complete environment given = _)
    by_cases hlacks : line.LacksValue environment
    · rw [complete_of_meetsEmptyVariable (hempty.mpr hlacks)]
      exact ⟨fun _ h => absurd hlacks h, fun _ h => absurd hlacks h, fun _ _ => rfl⟩
    · rw [complete_of_not_meetsEmptyVariable (mt hempty.mp hlacks),
        Line.filled_eq hrecords environment]
      have hconflicts : line.Conflicts ↔ given.quiet ∧ 0 < given.verbosity :=
        (or_iff_right hrepeats).trans (Line.contradicts_iff hrecords)
      refine ⟨fun h _ => if_neg (mt hconflicts.mpr h), fun h _ => if_pos (hconflicts.mp h),
        fun _ h => absurd h hlacks⟩
  · have hrepeats : line.Repeats := (line.repeats_iff_exceeds hallowed).mpr hexceeds
    rw [hfold]
    exact ⟨fun h => absurd (.inl hrepeats) h, fun _ _ => rfl, fun h => absurd (.inl hrepeats) h⟩

def gluedLine : Line where
  parts := [.group [.verbose, .verbose] (.glued "x.toml"), .joined .root "/opt"]
  lastInput := some "-in.def"

def quietTwice : Line where
  parts := [.flag .quiet, .apart .root "-", .group [.quiet] .none]

theorem parse_arguments_gluedLine :
    gluedLine.Allowed ∧
      parse ["-vvcx.toml", "--chpl-home=/opt", "--", "-in.def"] ∅ =
        .ok ⟨some "-in.def", some "/opt", some "x.toml", false, false, 2⟩ ∧
    quietTwice.Allowed ∧
      parse ["--quiet", "--chpl-home", "-", "-q"] ∅ = .error .argumentConflict := by
  have hglued : gluedLine.Allowed := by
    refine ⟨?_, by decide, by decide⟩
    simp [gluedLine, Part.Allowed, Ending.Allowed, Switch.letter?]
  have hquiet : quietTwice.Allowed := by
    refine ⟨?_, by decide, by decide⟩
    have hdash : StandsAlone "-" := ⟨by decide, .inl rfl⟩
    simp [quietTwice, Part.Allowed, Ending.Allowed, Switch.letter?, hdash]
  have hfree : ¬gluedLine.Conflicts := by
    rintro ((⟨option, h⟩ | ⟨switch, hswitch, h⟩) | ⟨h, -⟩)
    · cases option <;> revert h <;> decide
    · cases switch <;> revert hswitch h <;> decide
    · revert h
      decide
  have hconflicts : quietTwice.Conflicts := .inl (.inr ⟨.quiet, by decide, by decide⟩)
  have hset (line : Line) : ¬line.LacksValue ∅ := by simp [Line.LacksValue]
  exact ⟨hglued, (parse_arguments hglued ∅).1 hfree (hset _), hquiet,
    (parse_arguments hquiet ∅).2.1 hconflicts (hset _)⟩

end BuiltinWrappers.CommandLine
