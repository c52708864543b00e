/-!
# Terminal control sequences

Texts for a terminal may hold sequences that move the cursor or change colours.  Such
a sequence begins with the escape character and ends by rules of its own.  What is
left of a text without them can be shown anywhere: its visible characters and the
white space among its control characters.
-/

namespace PhotoGallery.Text

/-- How far a control sequence is read. -/
inductive ControlState
  /-- Not inside a control sequence. -/
  | outside
  /-- Behind the escape character. -/
  | escape
  /-- Inside a sequence that one more final character ends. -/
  | designation
  /-- At the start of a sequence with parameters. -/
  | entry
  | parameters
  | intermediate
  /-- Inside a malformed sequence with parameters. -/
  | ignored
  /-- At the start of a device string. -/
  | deviceEntry
  | deviceParameters
  | deviceIntermediate
  /-- Inside a malformed device string. -/
  | deviceIgnored
  | deviceData
  /-- Inside a message to the terminal, which a terminator has to end. -/
  | message
  /-- Inside a command to the operating system, which a bell ends. -/
  | command
deriving DecidableEq

namespace ControlState

/-- Whether the text of a state ends at a string terminator. -/
def endsAtTerminator : ControlState → Bool
  | deviceIgnored | deviceData | message => true
  | _ => false

/-- Whether control characters have their effect in a state. -/
def obeysControls : ControlState → Bool
  | escape | designation | entry | parameters | intermediate | ignored => true
  | _ => false

/-- The state behind a printable character, given by its code point, after the escape
character. -/
def afterEscape (code : Nat) : ControlState :=
  if code < 0x30 then designation
  else if code = 0x5B then entry
  else if code = 0x5D then command
  else if code = 0x50 then deviceEntry
  else if code = 0x58 ∨ code = 0x5E ∨ code = 0x5F then message
  else outside

/-- The state behind a printable character, given by its code point. -/
def next (state : ControlState) (code : Nat) : ControlState :=
  match state with
  | outside => outside
  | escape => afterEscape code
  | designation => if code < 0x30 then designation else outside
  | entry =>
    if code < 0x30 then intermediate else if code < 0x40 then parameters else outside
  | parameters =>
    if code < 0x30 then intermediate
    else if code < 0x3C then parameters
    else if code < 0x40 then ignored
    else outside
  | intermediate =>
    if code < 0x30 then intermediate else if code < 0x40 then ignored else outside
  | ignored => if code < 0x40 then ignored else outside
  | deviceEntry =>
    if code < 0x30 then deviceIntermediate
    else if code < 0x40 then deviceParameters
    else deviceData
  | deviceParameters =>
    if code < 0x30 then deviceIntermediate
    else if code < 0x3C then deviceParameters
    else if code < 0x40 then deviceIgnored
    else deviceData
  | deviceIntermediate =>
    if code < 0x30 then deviceIntermediate else if code < 0x40 then deviceIgnored else deviceData
  | deviceIgnored => deviceIgnored
  | deviceData => deviceData
  | message => message
  | command => command

end ControlState

/-- A control character that is white space. -/
def isSpaceControl (code : Nat) : Bool :=
  code == 0x09 || code == 0x0A || code == 0x0C || code == 0x0D

/-- The byte that terminates strings.  It may be a part of a longer character. -/
def terminator : UInt8 := 0x9C

/-- Reads one character: the state behind it, and whether it is left in the text. -/
def readControl (state : ControlState) (character : Char) : ControlState × Bool :=
  let code := character.toNat
  if 0x80 ≤ code then
    if state.endsAtTerminator && (String.utf8EncodeChar character).contains terminator then
      (.outside, false)
    else (state, state = .outside)
  else if code = 0x1B then (.escape, false)
  else if code = 0x18 ∨ code = 0x1A then (.outside, false)
  else if code = 0x7F then (state, false)
  else if 0x20 ≤ code then (state.next code, state = .outside)
  else if state = .outside then (state, isSpaceControl code)
  else if state.obeysControls && isSpaceControl code then (.outside, true)
  else if state = .command ∧ code = 0x07 then (.outside, false)
  else (state, false)

/-- The characters that are left behind the given state. -/
def uncontrolledFrom (state : ControlState) : List Char → List Char
  | [] => []
  | character :: rest =>
    let (behind, isLeft) := readControl state character
    if isLeft then character :: uncontrolledFrom behind rest else uncontrolledFrom behind rest

/-- A text without control sequences and without control characters other than white
space. -/
def uncontrolled (text : String) : String :=
  String.ofList (uncontrolledFrom .outside text.toList)

end PhotoGallery.Text
