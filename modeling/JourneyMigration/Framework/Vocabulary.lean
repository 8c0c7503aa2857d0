import JourneyMigration.Framework.Hook

/-!
# Vocabulary — the words of the test framework and what becomes of them.

A few exported symbols change their name, some hooks have no counterpart and go, and some assertions
have none and give way to a hint. Which packages the words come from and go to can be chosen; the words
themselves are fixed.
-/

namespace JourneyMigration

/-- The package that test files import from and the one that journeys import from. -/
structure Vocabulary where
  sourcePackage : String := "@playwright/test"
  targetPackage : String := "@elastic/synthetics"
deriving DecidableEq, Repr, Inhabited

namespace Vocabulary

/-- Exported symbols whose name changes. -/
def renamings : List (String × String) :=
  [("test", "journey"), ("expect", "expect"), ("step", "step")]

/-- The name of an exported symbol in journeys: its own, unless it is renamed. -/
def rename (name : String) : String := (renamings.lookup name).getD name

/-- Hooks without a counterpart in journeys. -/
def unsupportedHooks : List String :=
  ["configure", "parallel", "beforeEach", "afterEach", "fixme", "skip", "fail", "use", "info", "only",
    "setTimeout", "extend"]

/-- Whether a member call of this name has to go. -/
def isUnsupportedHook (name : String) : Bool := unsupportedHooks.contains name

/-- Assertions without a counterpart, each with what to assert about instead. -/
def matcherSuggestions : List (String × String) :=
  [("toHaveTitle", "await page.title()"),
   ("toHaveURL", "await page.url()"),
   ("toBeChecked", "await locator.isChecked()"),
   ("toBeDisabled", "await locator.isDisabled()"),
   ("toBeEditable", "await locator.isEditable()"),
   ("toBeEnabled", "await locator.isEnabled()"),
   ("toBeFocused", "await locator.isFocused()"),
   ("toBeVisible", "await locator.isVisible()"),
   ("toBeHidden", "await locator.isHidden()"),
   ("toContainText", "await locator.textContent()"),
   ("toHaveAttribute", "await locator.getAttribute()"),
   ("toHaveCount", "await locator.count()"),
   ("toHaveId", "await locator.getAttribute()"),
   ("toHaveText", "await locator.textContent()"),
   ("toHaveValue", "await locator.getAttribute()"),
   ("toHaveValues", "await locator.getAttribute()"),
   ("toBeOK", "await response.status()")]

/-- What to assert about instead of calling an unsupported matcher. -/
def suggestion? (name : String) : Option String := matcherSuggestions.lookup name

end Vocabulary

end JourneyMigration
