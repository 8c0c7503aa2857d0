import JourneyMigration.Framework.Hook
import JourneyMigration.Syntax.Callee

/-!
# Life-cycle hooks — which of them a file calls.

Every call `x.hook(...)` counts, wherever it stands and whatever `x` is. The structural hooks are left out.
-/

namespace JourneyMigration

namespace Tree

/-- The hook that a call `x.hook(...)` calls. -/
def calledHook? (t : Tree) : Option Hook := t.calledMember?.bind fun m => Hook.ofName? m.1

mutual

/-- The set with the life-cycle hooks that are called in the tree. -/
def addHooks : Tree → HookSet → HookSet
  | node k s cs, hooks =>
    addHooksAmong cs <|
      match (node k s cs).calledHook? with
      | some h => if h.isStructural then hooks else hooks.insert h
      | none => hooks

/-- The set with the life-cycle hooks that are called in the trees. -/
def addHooksAmong : List Tree → HookSet → HookSet
  | [], hooks => hooks
  | t :: ts, hooks => addHooksAmong ts (addHooks t hooks)

end

/-- The life-cycle hooks that are called in the tree. -/
def lifecycleHooks (t : Tree) : HookSet := t.addHooks .empty

end Tree

end JourneyMigration
