import BuiltinWrappers.Proofs.Host.EnvironmentFile

/-!
# What an environment file assigns

The lines before the first bad one assign values to variables.  A variable that is
not set gets the first value that is assigned to it, and one that is set keeps its
own, so the root comes from the file only if nothing else gives it.
-/

namespace BuiltinWrappers.EnvironmentFile

/-! ## Assignments -/

def assign (environment : Environment) (key value : String) : Environment :=
  if environment.contains key then environment else environment.insert key value

/--
The assignments that stand before the first bad line, in their order.  Each value is
read in the environment that the assignments before it lead to.
-/
def assignments (environment : Environment) : List (List UInt8) → List (String × String)
  | [] => []
  | bytes :: lines =>
      match String.fromUTF8? ⟨bytes.toArray⟩ with
      | none => []
      | some line =>
          match readLine environment line.toList with
          | .bad => []
          | .nothing => assignments environment lines
          | .assignment key value =>
              (key, value) :: assignments (assign environment key value) lines

variable {environment reached : Environment} {key value name : String}

theorem assign_of_setIfUnset? {next : Environment}
    (h : setIfUnset? environment key value = some next) : next = assign environment key value := by
  unfold setIfUnset? at h
  unfold assign
  split at h
  next hset =>
    rw [if_pos hset]
    exact (Option.some.inj h).symm
  next hunset =>
    rw [if_neg hunset]
    split at h
    · contradiction
    · exact (Option.some.inj h).symm

theorem getElem?_assign (environment : Environment) (key value name : String) :
    (assign environment key value)[name]? =
      environment[name]?.or (if name = key then some value else none) := by
  unfold assign
  by_cases hname : name = key
  · subst hname
    cases hset : environment[name]? with
    | none => simp [Std.ExtTreeMap.contains_eq_isSome_getElem?, hset]
    | some old => simp [Std.ExtTreeMap.contains_eq_isSome_getElem?, hset]
  · rw [if_neg hname, Option.or_none]
    split
    · rfl
    · simp [Std.ExtTreeMap.getElem?_insert, Ne.symm hname]

theorem getElem?_of_readLines? {lines : List (List UInt8)}
    (h : readLines? environment lines = some reached) (name : String) :
    reached[name]? = environment[name]?.or ((assignments environment lines).lookup name) := by
  induction lines generalizing environment with
  | nil =>
      obtain rfl := Option.some.inj h
      simp [assignments]
  | cons bytes lines ih =>
      rw [readLines?] at h
      rw [assignments]
      cases htext : String.fromUTF8? ⟨bytes.toArray⟩ with
      | none =>
          simp only [htext] at h
          obtain rfl := Option.some.inj h
          simp
      | some line =>
          simp only [htext] at h
          cases hline : readLine environment line.toList with
          | bad =>
              simp only [hline] at h
              obtain rfl := Option.some.inj h
              simp [hline]
          | nothing =>
              simp only [hline] at h
              simpa [hline] using ih h
          | assignment key value =>
              simp only [hline] at h
              obtain ⟨next, hset, hrest⟩ := Option.bind_eq_some_iff.mp h
              obtain rfl := assign_of_setIfUnset? hset
              rw [ih hrest, getElem?_assign, Option.or_assoc]
              simp only [hline, List.lookup_cons]
              by_cases hname : name = key
              · subst hname
                simp only [if_true, beq_self_eq_true, Option.some_or]
              · simp only [if_neg hname, beq_false_of_ne hname, Option.none_or]

/-! ## The nearest file -/

def assigned (host : Host) : List (String × String) :=
  match content? host with
  | none => []
  | some content => assignments host.environment (content.toList.splitOn 10)

/-- The nearest environment file cannot be stored. -/
def IsSpoiled (host : Host) : Prop :=
  ∃ content, content? host = some content ∧
    Spoiled host.environment (content.toList.splitOn 10)

theorem getElem?_of_environment? {host : Host} (h : environment? host = some reached)
    (name : String) :
    reached[name]? = host.environment[name]?.or ((assigned host).lookup name) := by
  unfold environment? at h
  unfold assigned
  cases hcontent : content? host with
  | none =>
      simp only [hcontent, Option.some.injEq] at h
      simp [h]
  | some content =>
      simp only [hcontent] at h
      exact getElem?_of_readLines? h name

end BuiltinWrappers.EnvironmentFile
