import TidyCsv.Encoding.Transcoding
import TidyCsv.Proofs.Text.Utf8

/-! # Calls and pieces

A machine takes the bytes of the pieces one after the other, however the calls divide them: as long
as a piece is no longer than the ones that files are read in, its text has room and one call reads
all of it. A machine that does nothing at the start of a call cannot tell one piece from several. -/

namespace TidyCsv.Transcoding

/-! ## Pieces of a file -/

/-- Pieces that reading a content can give: none is empty, and none is too long. -/
structure Splits (pieces : List Bytes) (content : Bytes) : Prop where
  flatten : pieces.flatten = content
  nonempty : ∀ piece ∈ pieces, piece ≠ []
  bounded : ∀ piece ∈ pieces, piece.length ≤ pieceSize

theorem splits_piecesFrom {fuel : Nat} {bytes : Bytes} (h : bytes.length ≤ fuel * pieceSize) :
    Splits (piecesFrom fuel bytes) bytes := by
  induction fuel generalizing bytes with
  | zero =>
      obtain rfl : bytes = [] := by simpa using h
      exact ⟨rfl, by simp [piecesFrom], by simp [piecesFrom]⟩
  | succ fuel ih =>
      unfold piecesFrom
      split
      · next hempty =>
          obtain rfl : bytes = [] := by simpa using hempty
          exact ⟨rfl, by simp, by simp⟩
      · next hne =>
          rw [Nat.succ_mul] at h
          have hrest : Splits (piecesFrom fuel (bytes.drop pieceSize)) (bytes.drop pieceSize) :=
            ih (by rw [List.length_drop]; omega)
          have hfirst : bytes.take pieceSize ≠ [] := by
            simpa [pieceSize] using hne
          refine ⟨?_, ?_, ?_⟩
          · rw [List.flatten_cons, hrest.flatten, List.take_append_drop]
          · simpa [hfirst] using hrest.nonempty
          · simpa [Nat.min_le_left] using hrest.bounded

theorem splits_pieces (bytes : Bytes) : Splits (pieces bytes) bytes :=
  splits_piecesFrom (by simp only [pieceSize]; omega)

/-- The offsets at which the pieces end. -/
def cutsFrom (offset : Nat) : List Bytes → List Nat
  | [] => []
  | piece :: rest => (offset + piece.length) :: cutsFrom (offset + piece.length) rest

namespace Machine

variable {State : Type} (machine : Machine State)

/-! ## Taking bytes -/

/-- The state after some bytes, or how many had been taken at the malformed sequence and how many of
these are given back. `taken` counts the bytes before. -/
def reach (state : State) (taken : Nat) : Bytes → Except (Nat × Nat) State
  | [] => .ok state
  | b :: rest =>
    match machine.step state b with
    | .refuse back => .error (taken + 1, back)
    | .take next _ => reach next (taken + 1) rest

/-- The characters that are completed before anything malformed. -/
def textFrom (state : State) : Bytes → List Char
  | [] => []
  | b :: rest =>
    match machine.step state b with
    | .refuse _ => []
    | .take next char => char.toList ++ textFrom next rest

variable {machine} {state next : State} {taken back n : Nat} {bytes rest : Bytes} {b : UInt8}

theorem reach_of_take {char : Option Char} (h : machine.step state b = .take next char) :
    machine.reach state taken (b :: rest) = machine.reach next (taken + 1) rest := by
  simp [reach, h]

theorem reach_of_refuse (h : machine.step state b = .refuse back) :
    machine.reach state taken (b :: rest) = .error (taken + 1, back) := by
  simp [reach, h]

theorem textFrom_of_take {char : Option Char} (h : machine.step state b = .take next char) :
    machine.textFrom state (b :: rest) = char.toList ++ machine.textFrom next rest := by
  simp [textFrom, h]

theorem textFrom_of_refuse (h : machine.step state b = .refuse back) :
    machine.textFrom state (b :: rest) = [] := by
  simp [textFrom, h]

/-- All bytes are taken if the first one is, and the others are from there. -/
theorem reach_cons_eq_ok (h : machine.reach state taken (b :: rest) = .ok next) :
    ∃ middle char, machine.step state b = .take middle char ∧
      machine.reach middle (taken + 1) rest = .ok next := by
  cases hstep : machine.step state b with
  | refuse back => simp [reach_of_refuse hstep] at h
  | take middle char => exact ⟨middle, char, rfl, by rwa [reach_of_take hstep] at h⟩

theorem reach_cons_eq_error (h : machine.reach state taken (b :: rest) = .error (n, back)) :
    machine.step state b = .refuse back ∧ n = taken + 1 ∨
      ∃ middle char, machine.step state b = .take middle char ∧
        machine.reach middle (taken + 1) rest = .error (n, back) := by
  cases hstep : machine.step state b with
  | refuse found =>
      obtain ⟨rfl, rfl⟩ : taken + 1 = n ∧ found = back := by
        simpa [reach_of_refuse hstep] using h
      exact .inl ⟨rfl, rfl⟩
  | take middle char => exact .inr ⟨middle, char, rfl, by rwa [reach_of_take hstep] at h⟩

theorem reach_append_of_ok (h : machine.reach state taken bytes = .ok next) :
    machine.reach state taken (bytes ++ rest) = machine.reach next (taken + bytes.length) rest := by
  induction bytes generalizing state taken with
  | nil =>
      obtain rfl := Except.ok.inj h
      rfl
  | cons b tail ih =>
      obtain ⟨middle, char, hstep, h⟩ := reach_cons_eq_ok h
      rw [List.cons_append, reach_of_take hstep, ih h, List.length_cons]
      congr 1
      omega

theorem textFrom_append_of_ok (h : machine.reach state taken bytes = .ok next) :
    machine.textFrom state (bytes ++ rest) =
      machine.textFrom state bytes ++ machine.textFrom next rest := by
  induction bytes generalizing state taken with
  | nil =>
      obtain rfl := Except.ok.inj h
      rfl
  | cons b tail ih =>
      obtain ⟨middle, char, hstep, h⟩ := reach_cons_eq_ok h
      rw [List.cons_append, textFrom_of_take hstep, ih h, textFrom_of_take hstep,
        List.append_assoc]

/-- Where something malformed is noticed, the bytes after it do not count. -/
theorem append_of_error (h : machine.reach state taken bytes = .error (n, back)) (rest : Bytes) :
    machine.reach state taken (bytes ++ rest) = .error (n, back) ∧
      machine.textFrom state (bytes ++ rest) = machine.textFrom state bytes := by
  induction bytes generalizing state taken with
  | nil => simp [reach] at h
  | cons b tail ih =>
      rw [List.cons_append]
      rcases reach_cons_eq_error h with ⟨hstep, rfl⟩ | ⟨middle, char, hstep, h⟩
      · exact ⟨reach_of_refuse hstep, by rw [textFrom_of_refuse hstep, textFrom_of_refuse hstep]⟩
      · obtain ⟨hreach, htext⟩ := ih h
        rw [reach_of_take hstep, textFrom_of_take hstep, textFrom_of_take hstep, htext]
        exact ⟨hreach, rfl⟩

/-- What is malformed is noticed at one of the bytes, where a step refuses to take it. -/
theorem step_of_reach (h : machine.reach state taken bytes = .error (n, back)) :
    (∃ middle b, machine.step middle b = .refuse back) ∧
      taken < n ∧ n ≤ taken + bytes.length := by
  induction bytes generalizing state taken with
  | nil => simp [reach] at h
  | cons b tail ih =>
      rw [List.length_cons]
      rcases reach_cons_eq_error h with ⟨hstep, rfl⟩ | ⟨middle, char, hstep, h⟩
      · exact ⟨⟨state, b, hstep⟩, by omega, by omega⟩
      · obtain ⟨hrefuse, hleast, hmost⟩ := ih h
        exact ⟨hrefuse, by omega, by omega⟩

theorem invariant_of_reach {P : State → Prop}
    (hkeep : ∀ state b next char, P state → machine.step state b = .take next char → P next)
    (h : machine.reach state taken bytes = .ok next) (hgood : P state) : P next := by
  induction bytes generalizing state taken with
  | nil =>
      obtain rfl := Except.ok.inj h
      exact hgood
  | cons b tail ih =>
      obtain ⟨middle, char, hstep, h⟩ := reach_cons_eq_ok h
      exact ih h (hkeep state b middle char hgood hstep)

/-! ## One call -/

theorem length_encodeChar_le (c : Char) : (Utf8.encodeChar c).length ≤ 4 := by
  unfold Utf8.encodeChar Utf8.encodePoint
  split_ifs <;> simp

theorem takeFrom_of_ok (room read : Nat) (done : List Char) (hroom : 4 * bytes.length ≤ room)
    (h : machine.reach state read bytes = .ok next) :
    machine.takeFrom room read done state bytes =
      ⟨.inputEmpty, read + bytes.length, done.reverse ++ machine.textFrom state bytes, next⟩ := by
  induction bytes generalizing state room read done with
  | nil =>
      obtain rfl := Except.ok.inj h
      simp [takeFrom, textFrom]
  | cons b tail ih =>
      rw [List.length_cons] at hroom
      obtain ⟨middle, char, hstep, h⟩ := reach_cons_eq_ok h
      rw [takeFrom, hstep, textFrom_of_take hstep, List.length_cons, Nat.add_comm tail.length,
        ← Nat.add_assoc]
      cases char with
      | none => exact ih room (read + 1) done (by omega) h
      | some c =>
          have hsize := length_encodeChar_le c
          dsimp only
          rw [if_neg (by omega), ih _ _ _ (by omega) h]
          simp

theorem takeFrom_of_error (room read : Nat) (done : List Char)
    (hroom : 4 * bytes.length ≤ room) (h : machine.reach state read bytes = .error (n, back)) :
    ∃ last, machine.takeFrom room read done state bytes =
      ⟨.malformed, n - back, done.reverse ++ machine.textFrom state bytes, last⟩ := by
  induction bytes generalizing state room read done with
  | nil => simp [reach] at h
  | cons b tail ih =>
      rw [List.length_cons] at hroom
      rcases reach_cons_eq_error h with ⟨hstep, rfl⟩ | ⟨middle, char, hstep, h⟩
      · exact ⟨state, by simp [takeFrom, textFrom, hstep]⟩
      · rw [takeFrom, hstep, textFrom_of_take hstep]
        cases char with
        | none => exact ih room (read + 1) done (by omega) h
        | some c =>
            have hsize := length_encodeChar_le c
            dsimp only
            rw [if_neg (by omega)]
            obtain ⟨last, htake⟩ :=
              ih (room - (Utf8.encodeChar c).length) (read + 1) (c :: done) (by omega) h
            exact ⟨last, by rw [htake]; simp⟩

/-! ## Pieces -/

variable (machine)

/-- The characters of the pieces from a state on. -/
def textOver (state : State) : List Bytes → List Char
  | [] => []
  | piece :: rest =>
    machine.textFrom (machine.resume state) piece ++
      match machine.reach (machine.resume state) 0 piece with
      | .ok next => textOver next rest
      | .error _ => []

/-- After how many bytes of input decoding the pieces fails, if it does. -/
def faultOver (offset : Nat) (state : State) : List Bytes → Option Nat
  | [] => if machine.isPending (machine.resume state) then some offset else none
  | piece :: rest =>
    match machine.reach (machine.resume state) 0 piece with
    | .ok next => faultOver (offset + piece.length) next rest
    | .error (taken, back) => some (offset + (taken - back))

variable {machine} {piece : Bytes} {pieces : List Bytes} {offset : Nat} {text : List Char}

/-- One call reads a whole piece, unless something is malformed. -/
theorem readPiece_eq {room fuel : Nat} (hroom : 4 * piece.length ≤ room) :
    machine.readPiece room false offset piece (fuel + 1) 0 text state =
      ⟨text ++ machine.textFrom (machine.resume state) piece,
        (machine.reach (machine.resume state) 0 piece).mapError
          fun fault => offset + (fault.1 - fault.2)⟩ := by
  cases hreach : machine.reach (machine.resume state) 0 piece with
  | ok next => simp [readPiece, call, takeFrom_of_ok room 0 [] hroom hreach, Except.mapError]
  | error fault =>
      obtain ⟨last, htake⟩ := takeFrom_of_error room 0 [] hroom hreach
      simp [readPiece, call, htake, Except.mapError]

/-- The last call notices an input that ends inside a character. -/
theorem readPiece_end {room : Nat} :
    machine.readPiece room true offset [] 1 0 text state =
      ⟨text, if machine.isPending (machine.resume state) then .error offset
        else .ok (machine.resume state)⟩ := by
  by_cases hpending : machine.isPending (machine.resume state) = true <;>
    simp [readPiece, call, takeFrom, hpending]

theorem runFrom_eq (h : ∀ piece ∈ pieces, piece.length ≤ pieceSize) :
    machine.runFrom outputSize offset text state pieces =
      ⟨text ++ machine.textOver state pieces, machine.faultOver offset state pieces⟩ := by
  induction pieces generalizing offset text state with
  | nil =>
      rw [runFrom, readPiece_end, textOver, faultOver]
      split_ifs <;> simp
  | cons piece rest ih =>
      have hpiece := h piece (by simp)
      have hroom : 4 * piece.length ≤ outputSize := by unfold outputSize; omega
      rw [runFrom, readPiece_eq hroom, textOver, faultOver]
      cases hreach : machine.reach (machine.resume state) 0 piece with
      | ok next =>
          simp only [Except.mapError]
          rw [ih fun piece hmem => h piece (by simp [hmem]), List.append_assoc]
      | error fault => simp [Except.mapError]

theorem run_eq (h : ∀ piece ∈ pieces, piece.length ≤ pieceSize) :
    machine.run outputSize pieces =
      ⟨machine.textOver machine.initial pieces, machine.faultOver 0 machine.initial pieces⟩ :=
  runFrom_eq h

/-! ## Machines that cannot tell pieces -/

/-- A machine that does not notice where a call starts, and gives at most the byte back at which
something malformed is noticed. -/
structure Steady (machine : Machine State) : Prop where
  resume (state : State) : machine.resume state = state
  back {state : State} {b : UInt8} {back : Nat} : machine.step state b = .refuse back → back ≤ 1

/-- Bytes before the ones that are taken only shift what is counted. -/
theorem reach_offset (taken : Nat) :
    machine.reach state (offset + taken) bytes = (machine.reach state taken bytes).mapError
      fun fault => (offset + fault.1, fault.2) := by
  induction bytes generalizing state taken with
  | nil => rfl
  | cons b rest ih =>
      cases hstep : machine.step state b with
      | refuse back =>
          rw [reach_of_refuse hstep, reach_of_refuse hstep]
          rfl
      | take next char =>
          rw [reach_of_take hstep, reach_of_take hstep]
          exact ih (taken + 1)

theorem Steady.textOver_eq (h : machine.Steady) :
    machine.textOver state pieces = machine.textFrom state pieces.flatten := by
  induction pieces generalizing state with
  | nil => rfl
  | cons piece rest ih =>
      rw [textOver, h.resume, List.flatten_cons]
      cases hreach : machine.reach state 0 piece with
      | ok next => rw [textFrom_append_of_ok hreach, ← ih]
      | error fault => rw [(append_of_error hreach _).2, List.append_nil]

theorem Steady.faultOver_eq (h : machine.Steady) :
    machine.faultOver offset state pieces =
      match machine.reach state offset pieces.flatten with
      | .ok next => if machine.isPending next then some (offset + pieces.flatten.length) else none
      | .error (taken, back) => some (taken - back) := by
  induction pieces generalizing offset state with
  | nil => simp [faultOver, h.resume, reach]
  | cons piece rest ih =>
      rw [faultOver, h.resume, List.flatten_cons]
      have hshift : machine.reach state (offset + 0) piece = _ := reach_offset 0
      cases hreach : machine.reach state 0 piece with
      | ok next =>
          rw [hreach, Nat.add_zero] at hshift
          rw [reach_append_of_ok hshift, List.length_append, ← Nat.add_assoc]
          exact ih
      | error fault =>
          obtain ⟨taken, back⟩ := fault
          rw [hreach, Nat.add_zero] at hshift
          rw [(append_of_error hshift _).1]
          obtain ⟨⟨middle, b, hstep⟩, htaken, -⟩ := step_of_reach hreach
          have hback := h.back hstep
          simp only [Option.some.injEq]
          omega

/-! ## The mark -/

/-- A text without the mark, if it is its first character. -/
def unmarked (text : List Char) : List Char :=
  match text with
  | '\uFEFF' :: rest => rest
  | text => text

theorem unmarked_append (first second : List Char) :
    unmarked (first ++ second) =
      if first.isEmpty then unmarked second else unmarked first ++ second := by
  cases first with
  | nil => rfl
  | cons c rest =>
      rw [List.isEmpty_cons, if_neg (by simp), List.cons_append]
      unfold unmarked
      split <;> split <;> simp_all

theorem unmarked_cons (c : Char) (rest : List Char) :
    unmarked (c :: rest) = if c = '\uFEFF' then rest else c :: rest := by
  unfold unmarked
  split <;> simp_all

/-- A machine that leaves the mark out does with a byte what the machine within does, as long as it
completes no character. -/
theorem step_dropMark_of_refuse (h : machine.step state b = .refuse back) (opens : Bool) :
    machine.dropMark.step (state, opens) b = .refuse back := by
  simp [dropMark, h]

theorem step_dropMark_of_none (h : machine.step state b = .take next none) (opens : Bool) :
    machine.dropMark.step (state, opens) b = .take (next, opens) none := by
  simp [dropMark, h]

theorem step_dropMark_of_some {c : Char} (h : machine.step state b = .take next (some c))
    (opens : Bool) :
    machine.dropMark.step (state, opens) b =
      .take (next, false) (if opens && c = '\uFEFF' then none else some c) := by
  simp [dropMark, h]

theorem textFrom_dropMark (opens : Bool) :
    machine.dropMark.textFrom (state, opens) bytes =
      if opens then unmarked (machine.textFrom state bytes) else machine.textFrom state bytes := by
  induction bytes generalizing state opens with
  | nil => cases opens <;> rfl
  | cons b rest ih =>
      cases hstep : machine.step state b with
      | refuse back =>
          rw [textFrom_of_refuse hstep, textFrom_of_refuse (step_dropMark_of_refuse hstep opens)]
          cases opens <;> rfl
      | take next char =>
          cases char with
          | none =>
              rw [textFrom_of_take hstep, textFrom_of_take (step_dropMark_of_none hstep opens)]
              exact ih opens
          | some c =>
              rw [textFrom_of_take hstep, textFrom_of_take (step_dropMark_of_some hstep opens),
                ih false]
              cases opens with
              | false => rfl
              | true =>
                  rw [Option.toList_some, List.singleton_append, if_pos rfl, unmarked_cons]
                  by_cases hmark : c = '\uFEFF' <;> simp [hmark]

theorem reach_dropMark (opens : Bool) :
    machine.dropMark.reach (state, opens) taken bytes =
      (machine.reach state taken bytes).map
        fun next => (next, opens && (machine.textFrom state bytes).isEmpty) := by
  induction bytes generalizing state taken opens with
  | nil => simp [reach, textFrom, Except.map]
  | cons b rest ih =>
      cases hstep : machine.step state b with
      | refuse back =>
          rw [reach_of_refuse hstep, reach_of_refuse (step_dropMark_of_refuse hstep opens)]
          rfl
      | take next char =>
          rw [reach_of_take hstep, textFrom_of_take hstep]
          cases char with
          | none =>
              rw [reach_of_take (step_dropMark_of_none hstep opens)]
              exact ih opens
          | some c =>
              rw [reach_of_take (step_dropMark_of_some hstep opens), ih false]
              simp

/-- The mark is left out of the text, wherever the pieces cut it. -/
theorem textOver_dropMark (opens : Bool) :
    machine.dropMark.textOver (state, opens) pieces =
      if opens then unmarked (machine.textOver state pieces)
      else machine.textOver state pieces := by
  induction pieces generalizing state opens with
  | nil => cases opens <;> rfl
  | cons piece rest ih =>
      have hresume : machine.dropMark.resume (state, opens) = (machine.resume state, opens) := rfl
      rw [textOver, textOver, hresume, textFrom_dropMark, reach_dropMark]
      cases hreach : machine.reach (machine.resume state) 0 piece with
      | error fault => cases opens <;> simp [Except.map]
      | ok next =>
          simp only [Except.map, ih]
          cases opens with
          | false => simp
          | true =>
              rw [unmarked_append]
              cases hempty : (machine.textFrom (machine.resume state) piece).isEmpty with
              | false => simp
              | true =>
                  rw [List.isEmpty_iff.mp hempty]
                  rfl

theorem faultOver_dropMark (opens : Bool) :
    machine.dropMark.faultOver offset (state, opens) pieces =
      machine.faultOver offset state pieces := by
  induction pieces generalizing offset state opens with
  | nil => rfl
  | cons piece rest ih =>
      have hresume : machine.dropMark.resume (state, opens) = (machine.resume state, opens) := rfl
      rw [faultOver, faultOver, hresume, reach_dropMark]
      cases hreach : machine.reach (machine.resume state) 0 piece with
      | ok next => exact ih _
      | error fault => rfl

theorem run_dropMark (h : ∀ piece ∈ pieces, piece.length ≤ pieceSize) :
    machine.dropMark.run outputSize pieces =
      ⟨unmarked (machine.textOver machine.initial pieces),
        machine.faultOver 0 machine.initial pieces⟩ := by
  have hinitial : machine.dropMark.initial = (machine.initial, true) := rfl
  rw [run_eq h, hinitial, textOver_dropMark, faultOver_dropMark, if_pos rfl]

end Machine

end TidyCsv.Transcoding
