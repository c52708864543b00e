import PhotoGallery.Pattern.Reading

/-!
# What a spelled pattern means

Flags decide what a part means, up to the end of the group in which they are switched.
There are no tables of Unicode properties, so a pattern cannot ask for a property, for
the letters and digits of all scripts, or for letters in both cases, unless it is
confined to ASCII.
-/

namespace PhotoGallery

namespace Pattern

open Reader (complain)

/-- The flags that matter for what a part means. -/
structure Flags where
  caseless : Bool
  multiline : Bool
  dotAll : Bool
  /-- Whether lines may end in a carriage return. -/
  returns : Bool
  /-- Whether patterns are about all characters and not about ASCII alone. -/
  unicode : Bool
deriving DecidableEq

namespace Flags

def initial : Flags :=
  ⟨false, false, false, false, true⟩

/-- The value of a flag under switches. -/
def switched (switches : Switches) (flag : Flag) (before : Bool) : Bool :=
  switches.on.contains flag || (before && !switches.off.contains flag)

def under (flags : Flags) (switches : Switches) : Flags :=
  ⟨switched switches .caseless flags.caseless, switched switches .multiline flags.multiline,
    switched switches .dotAll flags.dotAll, switched switches .returns flags.returns,
    switched switches .unicode flags.unicode⟩

end Flags

/-- A set under the flag for letters in both cases. -/
def foldCases (flags : Flags) (span : Span) (set : CharSet) : Except Complaint CharSet :=
  if !flags.caseless then .ok set
  else if !flags.unicode then .ok set.withCases
  else if set = CharSet.empty then .ok set
  else complain span .casesUnavailable

/-- A set or, if it is negated, the other characters; those are never ASCII alone. -/
def negateSet (flags : Flags) (span : Span) (isNegated : Bool) (set : CharSet) :
    Except Complaint CharSet :=
  if !isNegated then .ok set
  else if flags.unicode then .ok set.complement
  else complain span .noText

/-- A set under the flag for letters in both cases, or the other characters. -/
def finishSet (flags : Flags) (span : Span) (isNegated : Bool) (set : CharSet) :
    Except Complaint CharSet := do
  negateSet flags span isNegated (← foldCases flags span set)

/-- Refuses what is spelled as a byte beyond ASCII, where characters are bytes. -/
def checkByte (flags : Flags) (literal : Literal) : Except Complaint Unit :=
  if !flags.unicode && literal.isByte && 0x80 ≤ literal.character.toNat then
    complain literal.span .noText
  else .ok ()

/-- Refuses characters beyond ASCII in sets, where characters are bytes. -/
def checkSetByte (flags : Flags) (literal : Literal) : Except Complaint Unit := do
  checkByte flags literal
  if !flags.unicode && 0x80 ≤ literal.character.toNat then
    complain literal.span .noUnicodeHere

/-- A name without case, white space, underscores and hyphens, and without `is` at its
start. -/
def looseName (name : String) : String :=
  let lower := name.toList.map Char.toLower
  let body := if ['i', 's'].isPrefixOf lower then lower.drop 2 else lower
  String.ofList (body.filter fun character =>
    character.toNat < 0x80 && character != ' ' && character != '_' && character != '-')

/-- Names of properties that are the names of their values as well. -/
def valueNames : List String := ["cf", "sc", "lc"]

/-- No property is known. -/
def Property.complain {α : Type} (property : Property) (flags : Flags) : Except Complaint α :=
  if !flags.unicode then Reader.complain property.span .noUnicodeHere
  else if property.name.any fun name => valueNames.contains (looseName name) then
    Reader.complain property.span .propertyValueUnknown
  else Reader.complain property.span .propertyUnknown

/-- The set of a letter escape, which is known for ASCII only. -/
def Shorthand.set (shorthand : Shorthand) (flags : Flags) : Except Complaint CharSet :=
  if flags.unicode then complain shorthand.span .wordClassUnavailable
  else negateSet flags shorthand.span shorthand.isNegated shorthand.kind.set

/-- Two sets put together. -/
def SetOperation.apply (operation : SetOperation) (left right : CharSet) : CharSet :=
  match operation with
  | intersection => left.intersection right
  | difference => left.difference right
  | symmetricDifference => left.symmetricDifference right

mutual

/-- The set of what stands between brackets. -/
def SetTree.set (flags : Flags) : SetTree → Except Complaint CharSet
  | .nothing _ => .ok CharSet.empty
  | .literal spelled => do
    checkSetByte flags spelled
    return CharSet.between spelled.character spelled.character
  | .range _ first last => do
    checkSetByte flags first
    checkSetByte flags last
    return CharSet.between first.character last.character
  | .ascii span isNegated kind => finishSet flags span isNegated kind.set
  | .property named => named.complain flags
  | .shorthand letter => letter.set flags
  | .bracket span isNegated inner => do
    finishSet flags span isNegated (← inner.set flags)
  | .union _ items => unionSet flags items
  | .operation _ kind left right => do
    let leftSet ← left.set flags
    let rightSet ← right.set flags
    let rightSet ← foldCases flags right.span rightSet
    let leftSet ← foldCases flags left.span leftSet
    return kind.apply leftSet rightSet

/-- The union of several parts. -/
def unionSet (flags : Flags) : List SetTree → Except Complaint CharSet
  | [] => .ok CharSet.empty
  | item :: later => do
    let first ← item.set flags
    return first.union (← unionSet flags later)

end

/-- A character, or the letter in both cases. -/
def Literal.pattern (literal : Literal) (flags : Flags) : Except Complaint Pattern := do
  checkByte flags literal
  let set := CharSet.between literal.character literal.character
  return .one (← foldCases flags literal.span set)

/-- The pattern of a dot. -/
def dotPattern (flags : Flags) (span : Span) : Except Complaint Pattern :=
  if !flags.unicode then complain span .noText
  else if flags.dotAll then .ok (.one CharSet.empty.complement)
  else if flags.returns then .ok (.one (CharSet.ofRanges [(0x0A, 0x0A), (0x0D, 0x0D)]).complement)
  else .ok (.one (CharSet.between '\n' '\n').complement)

/-- What a place is asked for under some flags. -/
def Assertion.wanted (assertion : Assertion) (flags : Flags) : Look :=
  match assertion with
  | start =>
    if !flags.multiline then .textStart
    else if flags.returns then .returnStart
    else .lineStart
  | stop =>
    if !flags.multiline then .textEnd else if flags.returns then .returnEnd else .lineEnd
  | textStart => .textStart
  | textEnd => .textEnd
  | word wanted => wanted

/-- Whether an assertion is about the words of all scripts. -/
def Assertion.needsScripts (assertion : Assertion) (flags : Flags) : Bool :=
  match assertion with
  | word _ => flags.unicode
  | _ => false

/-- A pattern, and whether it asks for the words of all scripts somewhere. -/
structure Meaning where
  pattern : Pattern
  needsScripts : Bool

/-- The meaning of a repeated part.  What is repeated no times asks for nothing. -/
def Meaning.repeated (meaning : Meaning) (least : Nat) (most : Option Nat) : Meaning :=
  let pattern := meaning.pattern.repeated least most
  ⟨pattern, meaning.needsScripts && pattern != .empty⟩

mutual

/-- The meaning of a part under some flags, and the flags behind it. -/
def Tree.meaning (flags : Flags) : Tree → Except Complaint (Meaning × Flags)
  | .nothing _ => .ok (⟨.empty, false⟩, flags)
  | .switches _ switches => .ok (⟨.empty, false⟩, flags.under switches)
  | .literal spelled => do return (⟨← spelled.pattern flags, false⟩, flags)
  | .dot span => do return (⟨← dotPattern flags span, false⟩, flags)
  | .assertion _ asked =>
    .ok (⟨.here (asked.wanted flags), asked.needsScripts flags⟩, flags)
  | .property named => named.complain flags
  | .shorthand letter => do return (⟨.one (← letter.set flags), false⟩, flags)
  | .bracket span isNegated inner => do
    let set ← finishSet flags span isNegated (← inner.set flags)
    return (⟨.one set, false⟩, flags)
  | .repeated _ inner least most => do
    let (meaning, flags) ← inner.meaning flags
    return (meaning.repeated least most, flags)
  | .group _ switches inner => do
    let inside := (switches.map flags.under).getD flags
    let (meaning, _) ← inner.meaning inside
    return (meaning, flags)
  | .branches _ items => do
    let (meanings, flags) ← treesMeaning flags items
    return (⟨choice (meanings.map Meaning.pattern), meanings.any Meaning.needsScripts⟩, flags)
  | .sequence _ items => do
    let (meanings, flags) ← treesMeaning flags items
    return (⟨sequence (meanings.map Meaning.pattern), meanings.any Meaning.needsScripts⟩, flags)

/-- The meanings of several parts, one after the other. -/
def treesMeaning (flags : Flags) : List Tree → Except Complaint (List Meaning × Flags)
  | [] => .ok ([], flags)
  | item :: later => do
    let (first, flags) ← item.meaning flags
    let (rest, flags) ← treesMeaning flags later
    return (first :: rest, flags)

end

/-- The room that a pattern takes as an automaton, in bytes: a state for every byte of a
character, two for a set, and some that join them. -/
def room : Pattern → Nat
  | .empty => 32
  | .one set =>
    match set.ranges with
    | [(first, last)] =>
      if first = last then 32 * (Char.ofNat first).utf8Size
      else if last < 0x80 then 72 else 400
    | ranges => if ranges.all fun range => range.2 < 0x80 then 64 + 8 * ranges.length else 400
  | .here _ => 32
  | .both first second => first.room + second.room
  | .either first second => first.room + second.room + 36
  | .times repeated least most =>
    match most with
    | some most => least * repeated.room + (most - least) * (repeated.room + 40) + 32
    | none => max 1 least * repeated.room + 72

/-- The most room that a pattern may take. -/
def roomLimit : Nat := 10485760

/-- Why a text is no pattern that can be used. -/
inductive Error
  | malformed (complaint : Complaint)
  /-- The pattern asks for the words of all scripts. -/
  | needsScripts
  | tooLarge
deriving DecidableEq

/-- The text shown to the user, for the given spelling. -/
def Error.message (text : String) : Error → String
  | malformed complaint => complaint.message text
  | needsScripts => "error building NFA"
  | tooLarge => s!"Compiled regex exceeds size limit of {roomLimit} bytes."

def meaningOf (text : String) : Except Complaint Meaning := do
  let tree ← Tree.ofText text
  let (meaning, _) ← tree.meaning Flags.initial
  return meaning

def ofText (text : String) : Except Error Pattern :=
  match meaningOf text with
  | .error complaint => .error (.malformed complaint)
  | .ok meaning =>
    if meaning.needsScripts then .error .needsScripts
    else if roomLimit < meaning.pattern.room then .error .tooLarge
    else .ok meaning.pattern

end Pattern

end PhotoGallery
