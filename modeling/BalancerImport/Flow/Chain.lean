import BalancerImport.Flow.Task

/-!
# Chains of tasks

The tasks of a flow form one or several chains: each depends on an earlier one at most, and no two
depend on the same one.

* `ChainFault`: why tasks form no chains, and its wording;
* `checkChain`: the check, one task after the other.
-/

namespace BalancerImport

/-- Why tasks do not form chains. -/
inductive ChainFault where
  /-- No tasks. -/
  | noTasks
  /-- A retry policy that allows no attempt or has no waiting time. -/
  | badRetry (action : String)
  /-- A task that depends on one that is not before it. -/
  | notBefore (action dependsOn : String)
  /-- A task on which two others depend. -/
  | secondSuccessor (action : String)
  /-- An action id that is used twice. -/
  | repeated (action : String)
  deriving DecidableEq, Repr

/-- The wording of a fault. -/
def ChainFault.message : ChainFault → String
  | noTasks => "flow sin tareas"
  | badRetry action => s!"acción {action}: política de reintentos inválida"
  | notBefore action dependsOn => s!"acción {action} depende de {dependsOn} que no la precede"
  | secondSuccessor action => s!"acción {action} tiene más de un sucesor"
  | repeated action => s!"acción {action} repetida"

/-- The fault in what a task depends on, among the actions before it and those depended on. -/
def dependencyFault? (seen depended : List String) (t : Task) : Option ChainFault :=
  match t.dependsOn with
  | none => none
  | some d =>
    if !seen.contains d then some (.notBefore t.id d)
    else if depended.contains d then some (.secondSuccessor d)
    else none

/-- Checks tasks, given the actions before them and those that are depended on. -/
def checkChainFrom : List String → List String → List Task → Except ChainFault Unit
  | _, _, [] => .ok ()
  | seen, depended, t :: ts =>
    if !t.retry.isValid then .error (.badRetry t.id)
    else
      match dependencyFault? seen depended t with
      | some fault => .error fault
      | none =>
        if seen.contains t.id then .error (.repeated t.id)
        else checkChainFrom (t.id :: seen) (t.dependsOn.toList ++ depended) ts

/-- Checks that tasks form chains. -/
def checkChain (tasks : List Task) : Except ChainFault Unit :=
  if tasks.isEmpty then .error .noTasks else checkChainFrom [] [] tasks

end BalancerImport
