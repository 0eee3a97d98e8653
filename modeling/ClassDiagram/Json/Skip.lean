import ClassDiagram.Json.Number
import ClassDiagram.Json.Text

/-!
# Values that are passed over

A value that nobody asks for is checked for its syntax only.  The brackets that
are open around the place are kept on a stack, so the depth is not limited.
-/

namespace ClassDiagram.Json

/-- An array or object that is open around the place. -/
inductive Frame
  | array
  | object
deriving DecidableEq

/-- The fault of a text that ends inside the frame. -/
def Frame.ended : Frame → Cause
  | array => .endOfList
  | object => .endOfObject

/-- The fault of a text that does not go on after a value in the frame. -/
def Frame.unseparated : Frame → Cause
  | array => .expectedCommaOrBracket
  | object => .expectedCommaOrBrace

/-- The character that ends the frame. -/
def Frame.closer : Frame → Char
  | array => ']'
  | object => '}'

/-- Passes over a key and its colon. -/
def skipKey (left : List Char) : Except Fault (List Char) :=
  match dropSpace left with
  | [] => .error (.at .endOfObject [])
  | '"' :: cs => do
      let rest ← skipText cs
      match dropSpace rest with
      | [] => .error (.at .endOfObject [])
      | ':' :: rest => .ok rest
      | rest => .error (.at .expectedColon rest)
  | cs => .error (.at .keyNotString cs)

/-- Passes to the start of the next value in a frame. -/
def Frame.enter (frame : Frame) (left : List Char) : Except Fault (List Char) :=
  match frame with
  | array => .ok left
  | object => skipKey left

/-- Passes over the remaining letters of a literal word. -/
def skipWord (letters left : List Char) : Except Fault (List Char) :=
  (readWord letters left).map (·.2)

/-- A value that starts here: one without parts, passed over, or the opening of
a frame. -/
inductive Start
  | passed (rest : List Char)
  | opened (frame : Frame) (rest : List Char)

/-- Passes over the start of a value. -/
def skipStart (left : List Char) : Except Fault Start :=
  match dropSpace left with
  | [] => .error (.at .endOfValue [])
  | 'n' :: cs => (skipWord ['u', 'l', 'l'] cs).map .passed
  | 't' :: cs => (skipWord ['r', 'u', 'e'] cs).map .passed
  | 'f' :: cs => (skipWord ['a', 'l', 's', 'e'] cs).map .passed
  | '-' :: cs => (skipUnsigned cs).map .passed
  | '"' :: cs => (skipText cs).map .passed
  | '[' :: cs => .ok (.opened .array cs)
  | '{' :: cs => .ok (.opened .object cs)
  | cs =>
      if startsWithDigit cs then (skipUnsigned cs).map .passed
      else .error (.at .expectedValue cs)

/-- Where passing over a value stands: before a value, or inside the innermost
frame, either behind a value or behind the opening. -/
inductive Stage
  | atValue
  | inFrame (behindValue : Bool)

/-- Passes over the rest of a value, with the open frames, innermost first.
The fuel bounds the number of steps. -/
def skipRest : Nat → Stage → List Frame → List Char → Except Fault (List Char)
  | 0, _, _, left => .error (.at .expectedValue left)
  | fuel + 1, .atValue, frames, left => do
      match ← skipStart left with
      | .passed rest =>
          if frames.isEmpty then return rest
          else skipRest fuel (.inFrame true) frames rest
      | .opened frame rest => skipRest fuel (.inFrame false) (frame :: frames) rest
  | _ + 1, .inFrame _, [], left => .ok left
  | fuel + 1, .inFrame behindValue, frame :: frames, left =>
      match dropSpace left with
      | [] => .error (.at frame.ended [])
      | c :: cs =>
          if c = frame.closer then
            if frames.isEmpty then .ok cs else skipRest fuel (.inFrame true) frames cs
          else if !behindValue then do
            skipRest fuel .atValue (frame :: frames) (← frame.enter (c :: cs))
          else if c = ',' then do
            skipRest fuel .atValue (frame :: frames) (← frame.enter cs)
          else .error (.at frame.unseparated (c :: cs))

/-- Passes over a value.  Every character is passed at most once, and between
two of them at most one more step is made. -/
def skipValue : Reader Unit := fun left =>
  (skipRest (2 * left.length + 2) .atValue [] left).map ((), ·)

end ClassDiagram.Json
