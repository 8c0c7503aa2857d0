import JourneyMigration.Text.Utf8

/-!
# Paths — names of files as bytes.

A path is any sequence of bytes; a slash divides it into components. Looking for the last component skips
slashes at the end and components that are a lone dot, except one at the very beginning. What is left when
the last component goes away keeps its spelling.

The functions that look from the end work on the reversed bytes, where the end is the head of the list.
-/

namespace JourneyMigration

/-- The name of a file, as bytes. -/
structure Path where
  bytes : List UInt8
deriving DecidableEq, Repr, Inhabited

namespace Path

/-- The byte between components. -/
def slash : UInt8 := 47

/-- The byte in front of an extension. -/
def dot : UInt8 := 46

/-- The bytes of a text. -/
def bytesOf (s : String) : List UInt8 := s.toUTF8.toList

/-- The path that a text spells. -/
def ofString (s : String) : Path := ⟨bytesOf s⟩

/-- The text of bytes, if they are one. -/
def textOf? (bs : List UInt8) : Option String := String.fromUTF8? bs.toByteArray

/-- Reversed bytes without slashes and lone dots at their end. A slash that is the whole path stays. -/
def trimReversed : List UInt8 → List UInt8
  | [] => []
  | [b] => [b]
  | a :: b :: rest =>
    if a = slash then trimReversed (b :: rest)
    else if a = dot ∧ b = slash then trimReversed (b :: rest)
    else a :: b :: rest

/-- The last component and what stands in front of it, both reversed. -/
def splitReversed (p : Path) : List UInt8 × List UInt8 :=
  let rev := trimReversed p.bytes.reverse
  (rev.takeWhile (· != slash), rev.dropWhile (· != slash))

/-- The bytes of the file name: the last component, unless it goes up, stays in place or is the root. -/
def fileName? (p : Path) : Option (List UInt8) :=
  let (name, front) := p.splitReversed
  if name.isEmpty || name == [dot, dot] || (name == [dot] && front.isEmpty) then none else some name.reverse

/-- The path without its last component. -/
def parent (p : Path) : Path := ⟨(trimReversed p.splitReversed.2).reverse⟩

/-- Whether a path has a parent: not the empty path and not the root. -/
def hasParent (p : Path) : Bool := !(p.splitReversed.1).isEmpty

/-- One more component behind a path, with a slash between if it needs one. -/
def join (p : Path) (name : List UInt8) : Path :=
  if p.bytes.isEmpty || p.bytes.getLast? == some slash then ⟨p.bytes ++ name⟩
  else ⟨p.bytes ++ slash :: name⟩

/-- The path of another file in the same directory. -/
def withFileName (p : Path) (name : List UInt8) : Path :=
  if p.fileName?.isSome then p.parent.join name else p.join name

/-- A file name in two at its last dot: the stem and the extension. A dot at the very beginning does not
count. -/
def splitExtension (name : List UInt8) : List UInt8 × Option (List UInt8) :=
  let ext := name.reverse.takeWhile (· != dot)
  let front := name.reverse.dropWhile (· != dot)
  match front with
  | _ :: stem => if stem.isEmpty then (name, none) else (stem.reverse, some ext.reverse)
  | [] => (name, none)

/-- The extension of the file name. -/
def extension? (p : Path) : Option (List UInt8) := p.fileName?.bind fun name => (splitExtension name).2

/-- The path with another extension. A path without a file name stays as it is. -/
def withExtension (p : Path) (ext : List UInt8) : Path :=
  match p.fileName? with
  | none => p
  | some name =>
    let front := p.splitReversed.2.reverse
    ⟨front ++ (splitExtension name).1 ++ dot :: ext⟩

/-- A byte of a capital letter as the byte of its small one. -/
def lowerByte (b : UInt8) : UInt8 := if 65 ≤ b ∧ b ≤ 90 then b + 32 else b

/-- The path as it is shown. -/
def display (p : Path) : String := Utf8.decode p.bytes

/-- What stands between the slashes of bytes. -/
def splitSlashes : List UInt8 → List (List UInt8)
  | [] => [[]]
  | b :: bs =>
    if b = slash then [] :: splitSlashes bs
    else
      match splitSlashes bs with
      | part :: parts => (b :: part) :: parts
      | [] => [[b]]

/-- Names with slashes between them. -/
def joinSlashes : List (List UInt8) → List UInt8
  | [] => []
  | [name] => name
  | name :: names => name ++ slash :: joinSlashes names

end Path

end JourneyMigration
