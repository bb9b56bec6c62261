import BuiltinWrappers.License
import BuiltinWrappers.Script.Evaluation

/-!
# Starting scripts

A script file starts only if it is executable and its first line names an
interpreter that is there; what comes of it otherwise is nothing at all.  The
working directory of the host stays as it was.
-/

namespace BuiltinWrappers

open Text (Octets)

namespace Script

def startWords? (host : Host) (path : String) : Option (List Octets) :=
  match host.locate path with
  | .ok (_, some (.file content mode)) => do
      if mode &&& 0o111 = 0 then none
      let words ← Launch.interpreter? (Octets.ofBytes content)
      let interpreter ← words.head?
      let isThere := (programAt? interpreter).isSome ||
        ((Launch.standsWith host interpreter).map Prod.snd).getD false
      if isThere then some (words ++ [Octets.ofString path]) else none
  | _ => none

def firstSession (environment : Environment) (host : Host) : Session :=
  let bindings := environment.toList.map fun (name, value) =>
    (Octets.ofString name, { values := [(0, Octets.ofString value)], exported := true : Variable })
  { shell := { dialect := .plain, name := [], bindings }, host }

def runCommand (words : List Octets) (environment : Environment) (host : Host) : Host :=
  let run := Evaluation.runner Evaluation.deepest
  let act : Act Unit := Launch.launch run Launch.deepest words
  let session := (StateT.run (ExceptT.run act) (firstSession environment host)).2
  let shown := Octets.toString session.shown.reverse.flatten
  { (session.host.print shown) with
    workingDirectory := host.workingDirectory
    creationMask := host.creationMask }

end Script

/-! ## The license script -/

def Hook.licenseScript (root : String) (environment : Environment) : Hook :=
  fun path host =>
    match Script.startWords? host (licenseScriptPath root) with
    | some words => Script.runCommand (words ++ [Octets.ofString path]) environment host
    | _ => host

theorem Script.startWords?_of_offersScript {host : Host} {root : String}
    (h : host.offersScript root = false) :
    startWords? host (licenseScriptPath root) = none := by
  unfold startWords?
  unfold Host.offersScript at h
  split
  next location content mode hlocate =>
    have hmode : mode &&& 0o111 = 0 := by
      simpa [hlocate, Node.isFile, Node.isExecutable, Node.mode] using h
    simp [hmode]
  · rfl

def License.scripted : License where
  hook := Hook.licenseScript
  hook_eq_self := by
    intro root environment path host hnone
    unfold Hook.licenseScript
    rw [Script.startWords?_of_offersScript hnone]

end BuiltinWrappers
