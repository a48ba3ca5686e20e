import TidyCsv.Text.Utf8
import TidyCsv.Text.Utf16

/-!
# Decoding in pieces

A decoder is a machine that takes one byte at a time. It is called with the bytes of a piece of the
input and with room for the text that it makes of them, and stops when it has read the bytes, when
the room is used up, or at a malformed sequence. A piece is read by as many calls as that takes. An
input that ends inside a character is found out by a last call without bytes.
-/

namespace TidyCsv.Transcoding

/-- What a machine does with a byte. -/
inductive Move (State : Type) where
  /-- The byte is taken. It may complete a character. -/
  | take (next : State) (char : Option Char)
  /-- A malformed sequence is noticed. The last bytes up to this one, as many as `back`, are not part
  of it. -/
  | refuse (back : Nat)
deriving DecidableEq, Repr

structure Machine (State : Type) where
  initial : State
  /-- The state at the start of a call. -/
  resume : State → State
  step : State → UInt8 → Move State
  /-- Whether more bytes have to follow. -/
  isPending : State → Bool

/-- Decoded text, and after how many bytes of input decoding failed, if it did. -/
structure Transcript where
  text : List Char
  failedAt : Option Nat
deriving DecidableEq, Repr

/-- Why a call ended. -/
inductive Stop where
  | inputEmpty
  | outputFull
  | malformed
deriving DecidableEq, Repr

/-- What a call did. -/
structure Call (State : Type) where
  stop : Stop
  /-- How many of the bytes were read. -/
  read : Nat
  text : List Char
  state : State

/-- Text, and the state after it, or after how many bytes of input a malformed sequence was
found. -/
structure Progress (State : Type) where
  text : List Char
  reached : Except Nat State

namespace Machine

variable {State : Type} (machine : Machine State)

/-- Takes bytes while there is room. `read` counts those that were taken, and `done` holds the
characters, reversed. -/
def takeFrom : Nat → Nat → List Char → State → Bytes → Call State
  | _, read, done, state, [] => ⟨.inputEmpty, read, done.reverse, state⟩
  | room, read, done, state, b :: rest =>
    match machine.step state b with
    | .refuse back => ⟨.malformed, read + 1 - back, done.reverse, state⟩
    | .take next none => takeFrom room (read + 1) done next rest
    | .take next (some c) =>
      let size := (Utf8.encodeChar c).length
      if room < size then ⟨.outputFull, read, done.reverse, state⟩
      else takeFrom (room - size) (read + 1) (c :: done) next rest

/-- One call. -/
def call (room : Nat) (last : Bool) (state : State) (bytes : Bytes) : Call State :=
  let call := machine.takeFrom room 0 [] (machine.resume state) bytes
  if last && call.stop = .inputEmpty && machine.isPending call.state then
    { call with stop := .malformed }
  else call

/-- Reads a piece that starts `offset` bytes after the start of the input, of which `consumed` bytes
are read. `fuel` bounds the number of calls. -/
def readPiece (room : Nat) (last : Bool) (offset : Nat) (piece : Bytes) (fuel consumed : Nat)
    (text : List Char) (state : State) : Progress State :=
  match fuel with
  | 0 => ⟨text, .ok state⟩
  | fuel + 1 =>
    let call := machine.call room last state (piece.drop consumed)
    let consumed := consumed + call.read
    let text := text ++ call.text
    match call.stop with
    | .inputEmpty => ⟨text, .ok call.state⟩
    | .outputFull => readPiece room last offset piece fuel consumed text call.state
    | .malformed => ⟨text, .error (offset + consumed)⟩

/-- Reads the pieces from a state on, and then the end of the input. -/
def runFrom (room : Nat) : Nat → List Char → State → List Bytes → Transcript
  | offset, text, state, [] =>
    match machine.readPiece room true offset [] 1 0 text state with
    | ⟨text, .ok _⟩ => ⟨text, none⟩
    | ⟨text, .error position⟩ => ⟨text, some position⟩
  | offset, text, state, piece :: rest =>
    match machine.readPiece room false offset piece (piece.length + 1) 0 text state with
    | ⟨text, .ok state⟩ => runFrom room (offset + piece.length) text state rest
    | ⟨text, .error position⟩ => ⟨text, some position⟩

/-- Decodes input that arrives in the given pieces. -/
def run (room : Nat) (pieces : List Bytes) : Transcript :=
  machine.runFrom room 0 [] machine.initial pieces

/-- The machine that leaves out the byte order mark if it is the first character. The state says
whether no character has been read yet. -/
def dropMark : Machine (State × Bool) where
  initial := (machine.initial, true)
  resume := fun (state, opens) => (machine.resume state, opens)
  step := fun (state, opens) b =>
    match machine.step state b with
    | .refuse back => .refuse back
    | .take next none => .take (next, opens) none
    | .take next (some c) => .take (next, false) (if opens && c = '\uFEFF' then none else some c)
  isPending := fun (state, _) => machine.isPending state

end Machine

/-- UTF-8. A byte that cannot go on in a sequence is not part of it. -/
def utf8Machine : Machine Utf8.State where
  initial := .ready
  resume := id
  step := fun state b =>
    match state.step b with
    | (next, []) => .take next none
    | (next, .char c :: _) => .take next (some c)
    | (_, .malformed :: _) => .refuse (if state = .ready then 0 else 1)
  isPending := fun state => state != .ready

/-- UTF-16. The unit after a lone high surrogate counts as part of it if the two were parted. -/
def utf16Machine (order : Utf16.ByteOrder) : Machine Utf16.State where
  initial := .ready
  resume := Utf16.State.resume
  step := fun state b =>
    match state.first with
    | none => .take { state with first := some b } none
    | some a =>
      let unit := order.unit a b
      match state.high with
      | some high =>
        if Utf16.isLow unit then .take .ready (some (Utf16.pairChar high unit))
        else .refuse (if state.parted then 0 else 2)
      | none =>
        if Utf16.isHigh unit then .take { state with first := none, high := some unit } none
        else if Utf16.isLow unit then .refuse 0
        else .take .ready (some (Char.ofNat unit))
  isPending := Utf16.State.isPending

/-- An encoding with one byte for each character. -/
def byteMachine (decodeByte : UInt8 → Char) : Machine Unit where
  initial := ()
  resume := id
  step := fun _ b => .take () (some (decodeByte b))
  isPending := fun _ => false

/-- Refuses every byte. -/
def refusingMachine : Machine Unit where
  initial := ()
  resume := id
  step := fun _ _ => .refuse 0
  isPending := fun _ => false

end TidyCsv.Transcoding
