import BuiltinWrappers.CommandLine
import BuiltinWrappers.Proofs.Steps
import Mathlib

/-!
# What a command line gives

A command line gives values for slots and raises flags, one after the other.  All of
that ends up in the invocation, unless something is given again that may be given
only once.
-/

namespace BuiltinWrappers.CommandLine

/-! ## What a command line gives -/

/-- A flag that does not ask for a text about the program itself. -/
inductive Switch where
  | skipLicense
  | quiet
  | verbose
  deriving DecidableEq, Repr

def Switch.flag : Switch → Flag
  | .skipLicense => .skipLicense
  | .quiet => .quiet
  | .verbose => .verbose

inductive Item where
  | value (slot : Slot) (text : String)
  | raised (switch : Switch)
  deriving DecidableEq, Repr

namespace Item

def record (invocation : Invocation) : Item → Except UsageFault Invocation
  | .value slot text => store slot text invocation
  | .raised switch => raise switch.flag invocation

def valueFor? (slot : Slot) : Item → Option String
  | .value other text => if other = slot then some text else none
  | .raised _ => none

end Item

def valuesFor (slot : Slot) (items : List Item) : List String :=
  items.filterMap (Item.valueFor? slot)

@[simp]
theorem valuesFor_nil (slot : Slot) : valuesFor slot [] = [] := rfl

@[simp]
theorem valuesFor_value (slot other : Slot) (text : String) (items : List Item) :
    valuesFor slot (.value other text :: items) =
      if other = slot then text :: valuesFor slot items else valuesFor slot items := by
  by_cases hother : other = slot <;> simp [valuesFor, Item.valueFor?, hother]

@[simp]
theorem valuesFor_raised (slot : Slot) (switch : Switch) (items : List Item) :
    valuesFor slot (.raised switch :: items) = valuesFor slot items :=
  List.filterMap_cons_none rfl

def timesRaised (switch : Switch) (items : List Item) : Nat :=
  items.count (.raised switch)

/-! ## Recording items one after the other -/

/-- What one invocation holds more than another is what the items give. -/
structure Records (before : Invocation) (items : List Item) (after : Invocation) : Prop where
  values : ∀ slot, (get slot after).toList = (get slot before).toList ++ valuesFor slot items
  skipLicense : after.skipLicense.toNat =
    before.skipLicense.toNat + timesRaised .skipLicense items
  quiet : after.quiet.toNat = before.quiet.toNat + timesRaised .quiet items
  verbosity : after.verbosity = min (before.verbosity + timesRaised .verbose items) mostVerbose

/-- Some choice other than to be verbose is made twice. -/
inductive Exceeds (before : Invocation) (items : List Item) : Prop
  | value (slot : Slot) (h : 1 < ((get slot before).toList ++ valuesFor slot items).length)
  | skipLicense (h : 1 < before.skipLicense.toNat + timesRaised .skipLicense items)
  | quiet (h : 1 < before.quiet.toNat + timesRaised .quiet items)

theorem Records.not_exceeds {before after : Invocation} {items : List Item}
    (h : Records before items after) : ¬Exceeds before items := by
  rintro (⟨slot, htwice⟩ | htwice | htwice)
  · rw [← h.values slot] at htwice
    cases hget : get slot after <;> simp [hget] at htwice
  · rw [← h.skipLicense] at htwice
    exact absurd (Bool.toNat_le after.skipLicense) (by omega)
  · rw [← h.quiet] at htwice
    exact absurd (Bool.toNat_le after.quiet) (by omega)

theorem get_set_self (slot : Slot) (value : String) (invocation : Invocation) :
    get slot (set slot value invocation) = some value := by
  cases slot <;> rfl

theorem get_set_of_ne {slot other : Slot} (h : other ≠ slot) (value : String)
    (invocation : Invocation) : get other (set slot value invocation) = get other invocation := by
  cases slot <;> cases other <;> first | rfl | contradiction

theorem input_set_of_ne {slot : Slot} (h : slot ≠ .input) (value : String)
    (invocation : Invocation) : (set slot value invocation).input = invocation.input := by
  cases slot <;> first | rfl | contradiction

theorem store_eq {slot : Slot} {value : String} (hne : value ≠ "") (invocation : Invocation) :
    store slot value invocation =
      if (get slot invocation).isSome then .error .argumentConflict
      else .ok (set slot value invocation) := by
  rw [store, if_neg hne]

theorem eq_set_of_store {slot : Slot} {value : String} {invocation after : Invocation}
    (h : store slot value invocation = .ok after) : after = set slot value invocation := by
  unfold store at h
  split at h
  · contradiction
  · split at h
    · contradiction
    · exact (Except.ok.inj h).symm

theorem valuesFor_map_raised (slot : Slot) (switches : List Switch) :
    valuesFor slot (switches.map .raised) = [] := by
  induction switches with
  | nil => rfl
  | cons switch switches ih => rwa [List.map_cons, valuesFor_raised]

theorem valuesFor_append (slot : Slot) (items others : List Item) :
    valuesFor slot (items ++ others) = valuesFor slot items ++ valuesFor slot others :=
  List.filterMap_append

theorem timesRaised_append (switch : Switch) (items others : List Item) :
    timesRaised switch (items ++ others) = timesRaised switch items + timesRaised switch others :=
  List.count_append

variable {before between after : Invocation} {items others : List Item}

theorem Records.append (h : Records before items between) (hothers : Records between others after) :
    Records before (items ++ others) after where
  values := by
    intro slot
    rw [hothers.values slot, h.values slot, valuesFor_append, List.append_assoc]
  skipLicense := by rw [hothers.skipLicense, h.skipLicense, timesRaised_append, Nat.add_assoc]
  quiet := by rw [hothers.quiet, h.quiet, timesRaised_append, Nat.add_assoc]
  verbosity := by
    rw [hothers.verbosity, h.verbosity, timesRaised_append]
    omega

theorem Exceeds.append (h : Exceeds before items) (others : List Item) :
    Exceeds before (items ++ others) := by
  rcases h with ⟨slot, htwice⟩ | htwice | htwice
  · refine .value slot ?_
    rw [valuesFor_append, ← List.append_assoc, List.length_append]
    omega
  · exact .skipLicense (by rw [timesRaised_append]; omega)
  · exact .quiet (by rw [timesRaised_append]; omega)

theorem Records.append_exceeds (h : Records before items between)
    (hothers : Exceeds between others) :
    Exceeds before (items ++ others) := by
  rcases hothers with ⟨slot, htwice⟩ | htwice | htwice
  · rw [h.values slot, List.append_assoc, ← valuesFor_append] at htwice
    exact .value slot htwice
  · rw [h.skipLicense, Nat.add_assoc, ← timesRaised_append] at htwice
    exact .skipLicense htwice
  · rw [h.quiet, Nat.add_assoc, ← timesRaised_append] at htwice
    exact .quiet htwice

def Item.Filled : Item → Prop
  | .value _ text => text ≠ ""
  | .raised _ => True

theorem store_outcome {slot : Slot} {text : String} (h : text ≠ "")
    (hverbosity : before.verbosity ≤ mostVerbose) :
    (∃ after, store slot text before = .ok after ∧ Records before [.value slot text] after) ∨
      store slot text before = .error .argumentConflict ∧ Exceeds before [.value slot text] := by
  have hstore : store slot text before = _ := store_eq h before
  cases hget : get slot before with
  | some old =>
      refine .inr ⟨by simpa [hget] using hstore, .value slot ?_⟩
      simp [hget]
  | none =>
      refine .inl ⟨set slot text before, by simpa [hget] using hstore, ?_⟩
      constructor
      · intro other
        by_cases hother : other = slot
        · subst hother
          simp [get_set_self, hget]
        · simp [get_set_of_ne hother, Ne.symm hother]
      all_goals cases slot <;> simp [set, timesRaised, hverbosity]

theorem raise_outcome (switch : Switch) (hverbosity : before.verbosity ≤ mostVerbose) :
    (∃ after, raise switch.flag before = .ok after ∧ Records before [.raised switch] after) ∨
      raise switch.flag before = .error .argumentConflict ∧ Exceeds before [.raised switch] := by
  cases switch with
  | verbose =>
      refine .inl ⟨_, rfl, ?_⟩
      constructor
      · intro slot
        cases slot <;> simp [get]
      all_goals simp [timesRaised]
  | quiet =>
      cases hquiet : before.quiet with
      | true =>
          refine .inr ⟨by simp [Switch.flag, raise, hquiet], .quiet ?_⟩
          simp [hquiet, timesRaised]
      | false =>
          refine .inl ⟨_, by simp [Switch.flag, raise, hquiet]; rfl, ?_⟩
          constructor
          · intro slot
            cases slot <;> simp [get]
          all_goals simp [timesRaised, hquiet, hverbosity]
  | skipLicense =>
      cases hskip : before.skipLicense with
      | true =>
          refine .inr ⟨by simp [Switch.flag, raise, hskip], .skipLicense ?_⟩
          simp [hskip, timesRaised]
      | false =>
          refine .inl ⟨_, by simp [Switch.flag, raise, hskip]; rfl, ?_⟩
          constructor
          · intro slot
            cases slot <;> simp [get]
          all_goals simp [timesRaised, hskip, hverbosity]

/-- A filled item is recorded, unless its choice was made before. -/
theorem record_outcome {item : Item} (h : item.Filled)
    (hverbosity : before.verbosity ≤ mostVerbose) :
    (∃ after, item.record before = .ok after ∧ Records before [item] after) ∨
      item.record before = .error .argumentConflict ∧ Exceeds before [item] := by
  cases item with
  | value slot text => exact store_outcome h hverbosity
  | raised switch => exact raise_outcome switch hverbosity

/-- Filled items are recorded, unless a choice is made twice. -/
theorem foldlM_record_outcome (h : ∀ item ∈ items, item.Filled)
    (hverbosity : before.verbosity ≤ mostVerbose) :
    (∃ after, items.foldlM Item.record before = .ok after ∧ Records before items after) ∨
      items.foldlM Item.record before = .error .argumentConflict ∧ Exceeds before items := by
  induction items generalizing before with
  | nil =>
      refine .inl ⟨before, rfl, ?_⟩
      constructor <;> simp [timesRaised, hverbosity]
  | cons item items ih =>
      obtain ⟨hitem, hitems⟩ := List.forall_mem_cons.mp h
      rw [List.foldlM_cons, ← List.singleton_append]
      rcases record_outcome hitem hverbosity with ⟨between, hrecord, hfirst⟩ | ⟨hrecord, hfirst⟩
      · have hbetween : between.verbosity ≤ mostVerbose := by
          rw [hfirst.verbosity]
          omega
        rw [hrecord]
        rcases ih hitems hbetween with ⟨after, hfold, hrest⟩ | ⟨hfold, hrest⟩
        · exact .inl ⟨after, hfold, hfirst.append hrest⟩
        · exact .inr ⟨hfold, hfirst.append_exceeds hrest⟩
      · rw [hrecord]
        exact .inr ⟨rfl, hfirst.append items⟩

end BuiltinWrappers.CommandLine
