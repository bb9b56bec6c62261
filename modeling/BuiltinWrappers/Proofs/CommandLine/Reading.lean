import BuiltinWrappers.Proofs.CommandLine.Items

/-!
# Reading and recording

A value that waits to be settled may hide a fault until the next option is read.
So a reading is compared with what is recorded by what it settles to.
-/

namespace BuiltinWrappers.CommandLine

/-- A value that can be an argument of its own is not taken for an option. -/
structure StandsAlone (value : String) : Prop where
  ne_empty : value ≠ ""
  dash : value = "-" ∨ value.toList.head? ≠ some '-'

/-! ## Reading one part -/

namespace Reading

def holdsInput (reading : Reading) : Bool :=
  reading.invocation.input.isSome || reading.pending.any (·.1 = .input)

/-- Between two parts no option waits for its value, and options may follow. -/
structure Ready (reading : Reading) (inputs : Nat) : Prop where
  complete : ∀ slot, reading.pending ≠ some (slot, none)
  options : reading.onlyPositional = false
  inputs : reading.holdsInput.toNat ≤ inputs

/--
A reading agrees with what is recorded if both end in the same fault, or the reading
goes on and settles to what is recorded.  It may settle to a fault that still waits.
-/
inductive Agrees (inputs : Nat) : Except UsageFault Reading → Except UsageFault Invocation → Prop
  | fault (fault : UsageFault) : Agrees inputs (.error fault) (.error fault)
  | ready {reading : Reading} (h : reading.Ready inputs) :
      Agrees inputs (.ok reading) reading.settle

variable {reading : Reading} {inputs more : Nat} {invocation : Invocation}

theorem Agrees.bind {read : Except UsageFault Reading} {outcome : Except UsageFault Invocation}
    (h : Agrees inputs read outcome) {readOn : Reading → Except UsageFault Reading}
    {recordOn : Invocation → Except UsageFault Invocation}
    (hnext : ∀ reading : Reading, reading.Ready inputs →
      Agrees more (readOn reading) (reading.settle >>= recordOn)) :
    Agrees more (read >>= readOn) (outcome >>= recordOn) := by
  cases h with
  | fault fault => exact .fault fault
  | ready hready => exact hnext _ hready

theorem input_of_settle (h : reading.settle = .ok invocation) :
    invocation.input.isSome = reading.holdsInput := by
  obtain ⟨current, pending, onlyPositional⟩ := reading
  rcases pending with _ | ⟨slot, _ | value⟩
  · obtain rfl := Except.ok.inj h
    simp [holdsInput]
  · simp [settle] at h
  · obtain rfl := eq_set_of_store h
    cases slot <;> simp [holdsInput, set]

theorem input_of_record {before after : Invocation} {item : Item}
    (hitem : item.valueFor? .input = none) (h : item.record before = .ok after) :
    after.input = before.input := by
  cases item with
  | value slot text =>
      have hslot : slot ≠ .input := by
        rintro rfl
        simp [Item.valueFor?] at hitem
      rw [eq_set_of_store h]
      exact input_set_of_ne hslot text before
  | raised switch =>
      cases switch <;> simp only [Item.record, Switch.flag, raise] at h
      case verbose => rw [← Except.ok.inj h]
      all_goals
        split at h
        · contradiction
        · rw [← Except.ok.inj h]

theorem agrees_settled (hready : reading.Ready inputs) (item : Item)
    (hitem : item.valueFor? .input = none) :
    Agrees inputs ((reading.settle >>= item.record).map reading.settled)
      (reading.settle >>= item.record) := by
  cases hrecord : reading.settle >>= item.record with
  | error fault => exact .fault fault
  | ok after =>
      obtain ⟨before, hsettle, hafter⟩ := bind_eq_ok_iff.mp hrecord
      have hinput : (reading.settled after).holdsInput = reading.holdsInput := by
        rw [← input_of_settle hsettle, ← input_of_record hitem hafter]
        simp [settled, holdsInput]
      have hsettled : (reading.settled after).Ready inputs :=
        ⟨by simp [settled], hready.options, hinput ▸ hready.inputs⟩
      exact .ready hsettled

theorem agrees_pending (hready : reading.Ready inputs) {slot : Slot} (value : String)
    (hmore : inputs ≤ more) (hslot : slot = .input → 1 ≤ more) :
    Agrees more
      (reading.settle.map fun invocation =>
        { reading with invocation, pending := some (slot, some value) })
      (reading.settle >>= (Item.value slot value).record) := by
  cases hsettle : reading.settle with
  | error fault => exact .fault fault
  | ok before =>
      let waiting : Reading :=
        { reading with invocation := before, pending := some (slot, some value) }
      have hinputs : waiting.holdsInput.toNat ≤ more := by
        have hbefore := hready.inputs
        rw [← input_of_settle hsettle] at hbefore
        by_cases hinput : slot = .input
        · exact (Bool.toNat_le _).trans (hslot hinput)
        · simpa [waiting, holdsInput, hinput] using hbefore.trans hmore
      have hwaiting : waiting.Ready more := ⟨by simp [waiting], hready.options, hinputs⟩
      exact .ready hwaiting

theorem flag_eq (reading : Reading) (switch : Switch) :
    reading.flag switch.flag =
      (reading.settle >>= (Item.raised switch).record).map reading.settled := by
  rw [Reading.flag]
  cases reading.settle with
  | error fault => rfl
  | ok invocation =>
      change (do return reading.settled (← raise switch.flag invocation)) =
        (raise switch.flag invocation).map reading.settled
      cases raise switch.flag invocation <;> rfl

theorem slot_some_eq (reading : Reading) (slot : Slot) (value : String) :
    reading.slot slot (some value) =
      (reading.settle >>= (Item.value slot value).record).map reading.settled := by
  rw [Reading.slot]
  cases reading.settle with
  | error fault => rfl
  | ok invocation =>
      change (do return reading.settled (← store slot value invocation)) =
        (store slot value invocation).map reading.settled
      cases store slot value invocation <;> rfl

theorem slot_none_plain (reading : Reading) (slot : Slot) (value : String) :
    (reading.slot slot none >>= (·.plain value)) = reading.settle.map fun invocation =>
      { reading with invocation, pending := some (slot, some value) } := by
  rw [Reading.slot]
  cases reading.settle <;> rfl

theorem positional_eq (h : reading.holdsInput = false) (value : String) :
    reading.positional value = reading.settle.map fun invocation =>
      { reading with invocation, pending := some (.input, some value) } := by
  have hnone : ¬(reading.invocation.input.isSome ∨ reading.pending.any (·.1 = .input)) := by
    simpa [holdsInput] using h
  rw [Reading.positional, if_neg hnone]
  cases reading.settle <;> rfl

/-! ## Which reader takes an argument -/

theorem argument_long (hready : reading.Ready inputs) {argument : String} {text : List Char}
    (hne : text ≠ []) (h : argument.toList = '-' :: '-' :: text) :
    reading.argument argument = reading.long text := by
  obtain ⟨first, rest, rfl⟩ := List.exists_cons_of_ne_nil hne
  rw [Reading.argument, if_neg (by simp [hready.options]), h]
  rfl

theorem argument_short (hready : reading.Ready inputs) {argument : String} {first : Char}
    {rest : List Char} (hfirst : first ≠ '-') (h : argument.toList = '-' :: first :: rest) :
    reading.argument argument = reading.short (first :: rest) := by
  rw [Reading.argument, if_neg (by simp [hready.options]), h]
  split <;> simp_all

theorem argument_plain (hoptions : reading.onlyPositional = false) {value : String}
    (h : StandsAlone value) : reading.argument value = reading.plain value := by
  rw [Reading.argument, if_neg (by simp [hoptions])]
  rcases h.dash with rfl | hdash
  · rfl
  · split <;> simp_all

theorem argument_input (hready : reading.Ready inputs) {value : String} (h : StandsAlone value) :
    reading.argument value = reading.positional value := by
  rw [argument_plain hready.options h]
  unfold Reading.plain
  split
  next slot hpending => exact absurd hpending (hready.complete slot)
  · rfl

theorem onlyPositional_of_slot {slot : Slot} {after : Reading}
    (h : reading.slot slot none = .ok after) : after.onlyPositional = reading.onlyPositional := by
  obtain ⟨before, -, hafter⟩ := bind_eq_ok_iff.mp h
  rw [← pure_eq_ok_iff.mp hafter]

theorem agrees_slot_argument (hready : reading.Ready inputs) (slot : Slot) (hslot : slot ≠ .input)
    {value : String} (h : StandsAlone value) :
    Agrees inputs (reading.slot slot none >>= (·.argument value))
      (reading.settle >>= (Item.value slot value).record) := by
  have hplain : (reading.slot slot none >>= (·.argument value)) =
      reading.slot slot none >>= (·.plain value) := by
    cases hread : reading.slot slot none with
    | error fault => rfl
    | ok after =>
        exact argument_plain ((onlyPositional_of_slot hread).trans hready.options) h
  rw [hplain, slot_none_plain]
  exact agrees_pending hready value le_rfl (fun hinput => absurd hinput hslot)

/-! ## Long options -/

theorem ne_equals_of_mem {name : String} (hname : '=' ∉ name.toList) :
    ∀ character ∈ name.toList, decide (character ≠ '=') = true := by
  intro character hmem
  simpa using ne_of_mem_of_not_mem hmem hname

theorem long_name (reading : Reading) {name : String} (hname : '=' ∉ name.toList) :
    reading.long name.toList =
      match longOption? name with
      | none => .error .unknownArgument
      | some (.slot slot) => reading.slot slot none
      | some (.flag flag) => reading.flag flag := by
  have hall := ne_equals_of_mem hname
  rw [Reading.long, List.takeWhile_eq_self_iff.mpr hall, List.dropWhile_eq_nil_iff.mpr hall,
    String.ofList_toList]
  rfl

theorem long_name_equals (reading : Reading) {name value : String} (hname : '=' ∉ name.toList) :
    reading.long (name.toList ++ '=' :: value.toList) =
      match longOption? name with
      | none => .error .unknownArgument
      | some (.slot slot) => reading.slot slot (some value)
      | some (.flag _) => .error .tooManyValues := by
  have hall := ne_equals_of_mem hname
  rw [Reading.long, List.takeWhile_append_of_pos hall, List.dropWhile_append_of_pos hall,
    List.takeWhile_cons_of_neg (by simp), List.dropWhile_cons_of_neg (by simp), List.append_nil,
    String.ofList_toList]
  dsimp only
  rw [String.ofList_toList]
  rfl

end Reading

end BuiltinWrappers.CommandLine
