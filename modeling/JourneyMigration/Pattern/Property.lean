import JourneyMigration.Pattern.CharSet
import JourneyMigration.Text.BinaryProperty
import JourneyMigration.Text.Script

/-!
# Properties — sets of characters by their names.

Names are compared loosely: case, blanks and joiners in them do not count, and neither does the word "is" in
front. A name alone is that of a binary property, a general category or a script, in this order.
-/

namespace JourneyMigration.CharSet

open GeneralCategory

/-! ## General categories -/

/-- A category or a group of them, under all its names. -/
structure Category where
  names : List String
  parts : List (List Nat)

/-- All categories and groups but that of code points without a character. -/
def categories : List Category :=
  [⟨["l", "letter"], BinaryProperty.letters⟩,
   ⟨["lc", "casedletter"], [uppercaseLetter, lowercaseLetter, titlecaseLetter]⟩,
   ⟨["lu", "uppercaseletter"], [uppercaseLetter]⟩,
   ⟨["ll", "lowercaseletter"], [lowercaseLetter]⟩,
   ⟨["lt", "titlecaseletter"], [titlecaseLetter]⟩,
   ⟨["lm", "modifierletter"], [modifierLetter]⟩,
   ⟨["lo", "otherletter"], [otherLetter]⟩,
   ⟨["m", "mark", "combiningmark"], [nonspacingMark, spacingMark, enclosingMark]⟩,
   ⟨["mn", "nonspacingmark"], [nonspacingMark]⟩,
   ⟨["mc", "spacingmark"], [spacingMark]⟩,
   ⟨["me", "enclosingmark"], [enclosingMark]⟩,
   ⟨["n", "number"], [decimalNumber, letterNumber, otherNumber]⟩,
   ⟨["nd", "decimalnumber", "digit"], [decimalNumber]⟩,
   ⟨["nl", "letternumber"], [letterNumber]⟩,
   ⟨["no", "othernumber"], [otherNumber]⟩,
   ⟨["p", "punctuation", "punct"], [connectorPunctuation, dashPunctuation, openPunctuation, closePunctuation,
     initialPunctuation, finalPunctuation, otherPunctuation]⟩,
   ⟨["pc", "connectorpunctuation"], [connectorPunctuation]⟩,
   ⟨["pd", "dashpunctuation"], [dashPunctuation]⟩,
   ⟨["ps", "openpunctuation"], [openPunctuation]⟩,
   ⟨["pe", "closepunctuation"], [closePunctuation]⟩,
   ⟨["pi", "initialpunctuation"], [initialPunctuation]⟩,
   ⟨["pf", "finalpunctuation"], [finalPunctuation]⟩,
   ⟨["po", "otherpunctuation"], [otherPunctuation]⟩,
   ⟨["s", "symbol"], [mathSymbol, currencySymbol, modifierSymbol, otherSymbol]⟩,
   ⟨["sm", "mathsymbol"], [mathSymbol]⟩,
   ⟨["sc", "currencysymbol"], [currencySymbol]⟩,
   ⟨["sk", "modifiersymbol"], [modifierSymbol]⟩,
   ⟨["so", "othersymbol"], [otherSymbol]⟩,
   ⟨["z", "separator"], [spaceSeparator, lineSeparator, paragraphSeparator]⟩,
   ⟨["zs", "spaceseparator"], [spaceSeparator]⟩,
   ⟨["zl", "lineseparator"], [lineSeparator]⟩,
   ⟨["zp", "paragraphseparator"], [paragraphSeparator]⟩,
   ⟨["cc", "control", "cntrl"], [control]⟩,
   ⟨["cf", "format"], [format]⟩,
   ⟨["co", "privateuse"], [privateUse]⟩]

/-- All characters that some tables list. -/
def ofTables (tables : List (List Nat)) : CharSet := unionAll (tables.map .of)

/-- Code points that are no characters. -/
def unassigned : CharSet :=
  negated (union (range 0xD800 0xDFFF) (ofTables (BinaryProperty.letters ++ [nonspacingMark, spacingMark,
    enclosingMark, decimalNumber, letterNumber, otherNumber, connectorPunctuation, dashPunctuation,
    openPunctuation, closePunctuation, initialPunctuation, finalPunctuation, otherPunctuation, mathSymbol,
    currencySymbol, modifierSymbol, otherSymbol, spaceSeparator, lineSeparator, paragraphSeparator, control,
    format, privateUse])))

/-- The general category of a name. -/
def category? (name : String) : Option CharSet :=
  if name == "any" then some all
  else if name == "ascii" then some (range 0 0x7F)
  else if name == "assigned" then some (negated unassigned)
  else if name == "cn" || name == "unassigned" then some unassigned
  else if name == "c" || name == "other" then some (union (ofTables [control, format, privateUse]) unassigned)
  else (categories.find? (·.names.contains name)).map fun c => ofTables c.parts

/-! ## Binary properties and scripts -/

/-- The characters with a binary property. -/
def ofProperty (p : BinaryProperty) : CharSet := symmetricDifference (ofTables p.categories) (of p.exceptions)

/-- The characters of a script. -/
def ofScript (s : Script) : CharSet := of s.boundaries

/-- The characters that are used in a script. -/
def ofScriptExtension (s : Script) : CharSet := symmetricDifference (of s.boundaries) (of s.differences)

/-! ## Names -/

/-- A name without what does not count in it. -/
def looseName (name : String) : String :=
  let cs := name.toList
  let (hasIs, cs) := match cs with
    | a :: b :: rest => if a.toLower == 'i' && b.toLower == 's' then (true, rest) else (false, cs)
    | _ => (false, cs)
  let kept := (cs.filter fun c => c.toNat < 0x80 && c != ' ' && c != '_' && c != '-').map Char.toLower
  if hasIs && kept == ['c'] then "isc" else String.ofList kept

/-- The set that a name alone stands for. Three short names are those of categories, though properties have them
too. -/
def named? (name : String) : Option CharSet :=
  let name := looseName name
  let property := if ["cf", "sc", "lc"].contains name then Option.none else BinaryProperty.named? name
  ((property.map ofProperty).or (category? name)).or ((Script.named? name).map ofScript)

/-! ## Classes -/

/-- The sets of ASCII characters with a name of their own. -/
def asciiNamed? : String → Option CharSet
  | "alnum" => some (union asciiDigit asciiLetter)
  | "alpha" => some asciiLetter
  | "ascii" => some (range 0 0x7F)
  | "blank" => some (union (range 9 9) (range 32 32))
  | "cntrl" => some (union (range 0 0x1F) (range 0x7F 0x7F))
  | "digit" => some asciiDigit
  | "graph" => some (range 0x21 0x7E)
  | "lower" => some (range 97 122)
  | "print" => some (range 0x20 0x7E)
  | "punct" => some (unionAll [range 0x21 0x2F, range 0x3A 0x40, range 0x5B 0x60, range 0x7B 0x7E])
  | "space" => some asciiSpace
  | "upper" => some (range 65 90)
  | "word" => some asciiWord
  | "xdigit" => some (unionAll [asciiDigit, range 65 70, range 97 102])
  | _ => Option.none

end JourneyMigration.CharSet
