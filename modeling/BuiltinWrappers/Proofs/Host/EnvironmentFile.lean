import BuiltinWrappers.Host.EnvironmentFile

/-!
# Finding and storing environment files

The nearest environment file is the first regular file behind directories that have
none.  Reading it ends at its first bad line, and then the lines before it count.
There is no environment at all only if a line that is reached gives an unset variable
a value that holds a NUL.
-/

namespace BuiltinWrappers.EnvironmentFile

/-! ## Finding the file -/

variable {tree : FileTree} {directory place : Location} {host : Host}

theorem look_eq_found_iff :
    look tree directory = .found place ↔
      tree.resolve [] (FileTree.pathTo (directory ++ [fileName])) = .ok place ∧
        (tree.node? place).any Node.isFile := by
  unfold look
  split
  next found hresolve =>
    rw [hresolve, Except.ok.injEq]
    split
    next hfile =>
      rw [Sighting.found.injEq]
      refine ⟨?_, And.left⟩
      rintro rfl
      exact ⟨rfl, hfile⟩
    next hfile =>
      refine iff_of_false (by simp) ?_
      rintro ⟨rfl, hother⟩
      exact hfile hother
  next hresolve => simp [hresolve]
  next hresolve => simp [hresolve]

/-- The directories before the one that has the file are all passed. -/
theorem placeIn?_eq_some_iff {directories : List Location} :
    placeIn? tree directories = some place ↔
      ∃ before directory above, directories = before ++ directory :: above ∧
        (∀ earlier ∈ before, look tree earlier = .passed) ∧
        look tree directory = .found place := by
  induction directories with
  | nil => simp [placeIn?]
  | cons first rest ih =>
      rw [placeIn?]
      constructor
      · intro h
        cases hlook : look tree first with
        | stopped => simp [hlook] at h
        | found found =>
            simp only [hlook, Option.some.injEq] at h
            exact ⟨[], first, rest, rfl, by simp, h ▸ hlook⟩
        | passed =>
            simp only [hlook] at h
            obtain ⟨before, directory, above, rfl, hbefore, hfound⟩ := ih.mp h
            exact ⟨first :: before, directory, above, rfl,
              List.forall_mem_cons.mpr ⟨hlook, hbefore⟩, hfound⟩
      · rintro ⟨before, directory, above, hsplit, hbefore, hfound⟩
        cases before with
        | nil =>
            obtain ⟨rfl, rfl⟩ := List.cons.inj hsplit
            simp only [hfound]
        | cons earlier before =>
            obtain ⟨rfl, rfl⟩ := List.cons.inj hsplit
            rw [List.forall_mem_cons] at hbefore
            simp only [hbefore.1]
            exact ih.mpr ⟨before, directory, above, rfl, hbefore.2, hfound⟩

theorem content?_eq_some_iff {content : ByteArray} :
    content? host = some content ↔
      ∃ place mode, place? host = some place ∧
        host.tree.node? place = some (.file content mode) := by
  unfold content?
  cases place? host with
  | none => simp
  | some place =>
      simp only [Option.bind_eq_bind, Option.bind_some, Option.some.injEq]
      split
      next found mode hnode => simp [hnode]
      next hother =>
        refine iff_of_false (by simp) ?_
        rintro ⟨found, mode, rfl, hnode⟩
        exact hother _ _ hnode

/-! ## Storing what it assigns -/

theorem setIfUnset?_eq_none_iff {environment : Environment} {key value : String} :
    setIfUnset? environment key value = none ↔
      environment.contains key = false ∧ '\x00' ∈ value.toList := by
  unfold setIfUnset?
  cases environment.contains key with
  | true => simp
  | false => simp

/-- None of these lines is bad, and read in order they lead from one environment to another. -/
inductive ReadThrough : Environment → List (List UInt8) → Environment → Prop
  | nil {environment : Environment} : ReadThrough environment [] environment
  | nothing {environment reached : Environment} {bytes : List UInt8} {line : String}
      {lines : List (List UInt8)} (htext : String.fromUTF8? ⟨bytes.toArray⟩ = some line)
      (hline : readLine environment line.toList = .nothing)
      (hrest : ReadThrough environment lines reached) :
      ReadThrough environment (bytes :: lines) reached
  | assignment {environment next reached : Environment} {bytes : List UInt8}
      {line key value : String} {lines : List (List UInt8)}
      (htext : String.fromUTF8? ⟨bytes.toArray⟩ = some line)
      (hline : readLine environment line.toList = .assignment key value)
      (hset : setIfUnset? environment key value = some next)
      (hrest : ReadThrough next lines reached) :
      ReadThrough environment (bytes :: lines) reached

/-- A line that is reached gives a variable that is not set a value with a NUL in it. -/
def Spoiled (environment : Environment) (lines : List (List UInt8)) : Prop :=
  ∃ before bytes after reached line key value, lines = before ++ bytes :: after ∧
    ReadThrough environment before reached ∧ String.fromUTF8? ⟨bytes.toArray⟩ = some line ∧
    readLine reached line.toList = .assignment key value ∧
    reached.contains key = false ∧ '\x00' ∈ value.toList

theorem ReadThrough.readLines?_append {environment reached : Environment}
    {before : List (List UInt8)} (h : ReadThrough environment before reached)
    (after : List (List UInt8)) :
    readLines? environment (before ++ after) = readLines? reached after := by
  induction h with
  | nil => rfl
  | nothing htext hline _ ih =>
      rw [List.cons_append, readLines?, htext]
      simp only [hline, ih]
  | assignment htext hline hset _ ih =>
      rw [List.cons_append, readLines?, htext]
      simp only [hline, hset, Option.bind_eq_bind, Option.bind_some, ih]

theorem Spoiled.cons {environment next : Environment} {bytes : List UInt8}
    {lines : List (List UInt8)} (h : Spoiled next lines)
    (hstep : ∀ before reached, ReadThrough next before reached →
      ReadThrough environment (bytes :: before) reached) :
    Spoiled environment (bytes :: lines) := by
  obtain ⟨before, spoiling, after, reached, line, key, value, rfl, hbefore, hline⟩ := h
  exact ⟨bytes :: before, spoiling, after, reached, line, key, value, rfl,
    hstep before reached hbefore, hline⟩

theorem Spoiled.of_readLines? {environment : Environment} {lines : List (List UInt8)}
    (h : readLines? environment lines = none) : Spoiled environment lines := by
  induction lines generalizing environment with
  | nil => simp [readLines?] at h
  | cons bytes lines ih =>
      rw [readLines?] at h
      cases htext : String.fromUTF8? ⟨bytes.toArray⟩ with
      | none => simp [htext] at h
      | some line =>
          simp only [htext] at h
          cases hline : readLine environment line.toList with
          | bad => simp [hline] at h
          | nothing =>
              simp only [hline] at h
              exact (ih h).cons fun _ _ => .nothing htext hline
          | assignment key value =>
              simp only [hline] at h
              cases hset : setIfUnset? environment key value with
              | none =>
                  exact ⟨[], bytes, lines, environment, line, key, value, rfl, .nil, htext,
                    hline, setIfUnset?_eq_none_iff.mp hset⟩
              | some next =>
                  simp only [hset, Option.bind_eq_bind, Option.bind_some] at h
                  exact (ih h).cons fun _ _ => .assignment htext hline hset

theorem readLines?_eq_none_iff {environment : Environment} {lines : List (List UInt8)} :
    readLines? environment lines = none ↔ Spoiled environment lines := by
  refine ⟨Spoiled.of_readLines?, ?_⟩
  rintro ⟨before, bytes, after, reached, line, key, value, rfl, hbefore, htext, hline, hspoils⟩
  rw [hbefore.readLines?_append, readLines?, htext]
  simp only [hline, setIfUnset?_eq_none_iff.mpr hspoils]
  rfl

theorem environment?_eq_none_iff :
    environment? host = none ↔
      ∃ content, content? host = some content ∧
        Spoiled host.environment (content.toList.splitOn 10) := by
  unfold environment?
  cases content? host with
  | none => simp
  | some content => simp [read?, readLines?_eq_none_iff]

end BuiltinWrappers.EnvironmentFile
