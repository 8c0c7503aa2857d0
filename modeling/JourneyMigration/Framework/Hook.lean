/-!
# Hooks — the functions of the test framework that a journey has too.

A test file calls hooks as members (`test.beforeAll(...)`), a journey calls them by their bare names.
The life-cycle hooks have to be imported for that; the structural ones (`step`, `describe`) change the
shape of the file instead and are never collected.
-/

namespace JourneyMigration

/-- A hook with a counterpart in journeys. -/
inductive Hook where
  | beforeAll
  | afterAll
  | step
  | describe
deriving DecidableEq, Repr, Inhabited

namespace Hook

/-- The name under which a hook is called. -/
def name : Hook → String
  | beforeAll => "beforeAll"
  | afterAll => "afterAll"
  | step => "step"
  | describe => "describe"

/-- Every hook, in the order in which sets of hooks are listed. -/
def all : List Hook := [beforeAll, afterAll, step, describe]

/-- The hook of a name, which is spelled exactly. -/
def ofName? (n : String) : Option Hook := all.find? (·.name == n)

/-- Whether a hook shapes the file instead of being imported. -/
def isStructural : Hook → Bool
  | step | describe => true
  | beforeAll | afterAll => false

@[simp]
theorem ofName?_name (h : Hook) : ofName? h.name = some h := by cases h <;> rfl

theorem name_of_ofName? {n : String} {h : Hook} (e : ofName? n = some h) : h.name = n := by
  simpa using List.find?_some e

end Hook

/-- A set of hooks, listed in the order of `Hook.all`. -/
structure HookSet where
  contains : Hook → Bool

namespace HookSet

/-- The set without hooks. -/
def empty : HookSet := ⟨fun _ => false⟩

/-- The set with one more hook. -/
def insert (h : Hook) (s : HookSet) : HookSet := ⟨fun k => k == h || s.contains k⟩

/-- The hooks of the set, in order. -/
def toList (s : HookSet) : List Hook := Hook.all.filter s.contains

instance : Inhabited HookSet := ⟨empty⟩

@[simp]
theorem contains_empty (h : Hook) : empty.contains h = false := rfl

@[simp]
theorem contains_insert (h k : Hook) (s : HookSet) :
    (s.insert h).contains k = (k == h || s.contains k) := rfl

@[simp]
theorem mem_toList (h : Hook) (s : HookSet) : h ∈ s.toList ↔ s.contains h = true := by
  cases h <;> simp [toList, Hook.all]

end HookSet

end JourneyMigration
